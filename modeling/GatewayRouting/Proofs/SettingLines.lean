import GatewayRouting.Config.Faults
import GatewayRouting.Proofs.FileText
import GatewayRouting.Proofs.ResolvedFunctions

/-!
# What the settings of the server put into the file

Paths and targets are screened before they are written, the settings of the server are not. They stand
on lines of their own, and what these lines say on their own is what they add to the file, which is
otherwise the file without settings (`directives?_render_of_config`). Several words make a single
directive (`directives?_settingText`), but a semicolon starts another one
(`splits_splitNameConfig`).
-/

namespace GatewayRouting

open Nginx

/-- The routes of a gateway compile to its proxy configuration. -/
theorem compile_of_config {config : Config} {g : Gateway} (h : config.compile = .ok g) :
    GatewayRouting.compile g.routes = .ok g.proxy :=
  (Config.compile_eq_ok_iff.1 h).2

/-- The file of a configuration without settings holds the compiled routes, and the settings add the
directives that their lines give on their own. -/
theorem directives?_render_of_config {config : Config} {g : Gateway}
    (h : config.compile = .ok g) :
    directives? (render { config.server with serverName := none, resolver := none } g.proxy) =
        some (fileDirectives config.server.listenPort [] g.proxy) ∧
      ∀ settings, directives? (render config.server g.proxy) =
          some (fileDirectives config.server.listenPort settings g.proxy) ↔
        directives? (String.ofList (settingText config.server)) = some settings := by
  have hwritable := isWritable_of_compile (compile_of_config h)
  constructor
  · rw [directives?_render_iff hwritable]
    rfl
  · intro settings
    exact directives?_render_iff hwritable config.server settings

/-- A configuration with a function behind a route, a server with two names and a resolver. -/
def sampleConfig : Config where
  server := ⟨8080, some "api.example www.example", some "1.1.1.1"⟩
  functions := [⟨"hello", some "/hello", some ["GET"]⟩]
  deployed := NameTable.empty.insert "hello" "hello.example"

theorem directives?_render_sampleConfig :
    sampleConfig.faults = [] ∧ ∃ g, sampleConfig.compile = .ok g ∧
      directives? (render { sampleConfig.server with serverName := none, resolver := none }
          g.proxy) = some (fileDirectives 8080 [] g.proxy) ∧
      directives? (render sampleConfig.server g.proxy) =
        some (fileDirectives 8080
          [.simple "server_name" ["api.example", "www.example"], .simple "resolver" ["1.1.1.1"]]
          g.proxy) := by
  refine ⟨by decide, _, rfl, ?_⟩
  have hcompile : sampleConfig.compile = .ok _ := rfl
  obtain ⟨hbase, hsettings⟩ := directives?_render_of_config hcompile
  exact ⟨hbase, (hsettings _).2 rfl⟩

/-- A configuration with a semicolon in the name of its server. -/
def splitNameConfig : Config where
  server := ⟨8080, some "a; return 444", none⟩

/-- The name of a server can put a second directive into the file. -/
theorem splits_splitNameConfig :
    splitNameConfig.faults = [] ∧ ∃ g, splitNameConfig.compile = .ok g ∧
      directives? (render {} g.proxy) = some (fileDirectives 8080 [] g.proxy) ∧
      directives? (render splitNameConfig.server g.proxy) =
        some (fileDirectives 8080 [.simple "server_name" ["a"], .simple "return" ["444"]]
          g.proxy) ∧
      ∀ arguments, directives? (render splitNameConfig.server g.proxy) ≠
        some (fileDirectives 8080 [.simple "server_name" arguments] g.proxy) := by
  refine ⟨by decide, _, rfl, ?_⟩
  have hcompile : splitNameConfig.compile = .ok _ := rfl
  have hiff := directives?_render_iff (isWritable_of_compile (compile_of_config hcompile))
  have hlines : directives? (String.ofList (settingText splitNameConfig.server)) =
      some [.simple "server_name" ["a"], .simple "return" ["444"]] := rfl
  refine ⟨(hiff {} []).2 rfl, (hiff splitNameConfig.server _).2 hlines, fun arguments hone => ?_⟩
  have hsingle := hlines.symm.trans ((hiff splitNameConfig.server _).1 hone)
  cases hsingle

end GatewayRouting
