import GatewayRouting.Compile
import GatewayRouting.Directory
import GatewayRouting.Json.Render
import GatewayRouting.Nginx.Server

/-!
# From configuration to proxy configuration

The declared functions of a configuration are resolved to routes, the routes are compiled, and the
result is written in one of two formats.

* `Config.compile` resolves and compiles.
* `Gateway.render` writes the result.
* `GatewayError.message` is the wording of a failure.
-/

namespace GatewayRouting

/-- Why a configuration has no proxy configuration. -/
inductive GatewayError where
  | resolve (fault : ResolveError)
  | compile (fault : CompileError)
deriving DecidableEq, Repr

/-- The wording of a failure. -/
def GatewayError.message : GatewayError → String
  | .resolve fault => fault.message
  | .compile fault => fault.message

/-- The routes of a configuration and what they compile to. -/
structure Gateway where
  routes : List Route
  proxy : ProxyConfig
deriving Repr

/-- The directory of the deployed functions of a configuration. -/
def Config.directory (c : Config) : Directory :=
  ⟨c.deployed⟩

/-- Resolves the functions of a configuration with the given directory, and compiles their
routes. -/
def Config.compileWith (c : Config) (d : Directory) : Except GatewayError Gateway :=
  match resolve d c.functions with
  | .error fault => .error (.resolve fault)
  | .ok routes =>
    match GatewayRouting.compile routes with
    | .error fault => .error (.compile fault)
    | .ok proxy => .ok ⟨routes, proxy⟩

/-- Resolves and compiles a configuration with its own directory. -/
def Config.compile (c : Config) : Except GatewayError Gateway :=
  c.compileWith c.directory

/-! ## Output -/

/-- The formats of a proxy configuration. -/
inductive Format where
  | nginx
  | json
deriving DecidableEq, Repr

/-- The name of a format. -/
def Format.name : Format → String
  | .nginx => "nginx"
  | .json => "json"

/-- The format of a name. -/
def Format.ofName? (s : String) : Option Format :=
  [Format.nginx, .json].find? (·.name == s)

/-- The text of a compiled configuration. The settings matter for nginx only. -/
def ProxyConfig.render (c : ProxyConfig) (format : Format) (settings : Settings) : String :=
  match format with
  | .nginx => Nginx.render settings c
  | .json => Json.render c

end GatewayRouting
