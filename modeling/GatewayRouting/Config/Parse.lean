import GatewayRouting.Config.Decode
import GatewayRouting.Config.Faults
import GatewayRouting.Toml.Document

/-!
# Reading configurations

The text of a configuration file is read as TOML, decoded, and checked.

* `Config.parse` gives the configuration, or tells why there is none.
-/

namespace GatewayRouting

/-- Why a text is no configuration: it does not read as one, or it breaks rules. -/
inductive ConfigError where
  | malformed
  | invalid (faults : List ConfigFault)
deriving DecidableEq, Repr

/-- The wording of an error. What is wrong with a malformed text is not told. -/
def ConfigError.message : ConfigError → String
  | .malformed => "Parse error"
  | .invalid faults => "Validation failed: " ++ ", ".intercalate (faults.map ConfigFault.message)

/-- A configuration is valid when it breaks no rule. -/
def Config.validate (c : Config) : Except ConfigError Unit :=
  if c.faults = [] then .ok () else .error (.invalid c.faults)

/-- The configuration that a text describes, checked. -/
def Config.parse (text : String) : Except ConfigError Config :=
  match Toml.parseDocument? text with
  | none => .error .malformed
  | some entries =>
    match Config.ofToml? entries with
    | none => .error .malformed
    | some c =>
      match c.validate with
      | .error e => .error e
      | .ok () => .ok c

end GatewayRouting
