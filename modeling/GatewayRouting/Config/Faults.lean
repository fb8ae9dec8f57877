import GatewayRouting.Config.Basic
import GatewayRouting.Text.Blank
import GatewayRouting.Text.Lowercase

/-!
# Checking configurations

Rules that a well-typed configuration can still break. All of them are checked, and every breach is
reported: the port, the level of logging, the names of the functions in order, and the deployed
addresses in the order of their names.

* `Config.faults` lists every breach.
* `ConfigFault.message` is the wording of each.
-/

namespace GatewayRouting

/-- A breach of a rule about configurations. -/
inductive ConfigFault where
  | invalidPort
  | unknownLogLevel (level : String)
  | unnamedFunction (index : Nat)
  | duplicateFunction (name : String)
  | emptyAddress (name : String)
deriving DecidableEq, Repr

/-- The wording of a breach. -/
def ConfigFault.message : ConfigFault → String
  | .invalidPort => "gateway.listen_port must be greater than 0"
  | .unknownLogLevel level => s!"unknown log level '{level}'"
  | .unnamedFunction index => s!"function #{index} has an empty name"
  | .duplicateFunction name => s!"function '{name}' is declared more than once"
  | .emptyAddress name => s!"deployed address of '{name}' is empty"

/-- The names of the levels of logging. -/
def logLevelNames : List String := ["trace", "debug", "info", "warn", "error"]

/-- Port zero is no port. -/
def portFaults (port : UInt16) : List ConfigFault :=
  if port = 0 then [.invalidPort] else []

/-- The level of logging is known, whatever its letter case. -/
def logLevelFaults (level : String) : List ConfigFault :=
  if Text.lowercase level ∈ logLevelNames then [] else [.unknownLogLevel level]

/-- Function names are not blank and differ from each other. `seen` holds the names before, and
`index` counts them. -/
def nameFaults (seen : List String) (index : Nat) : List FunctionDecl → List ConfigFault
  | [] => []
  | f :: rest =>
    if Text.isBlankText f.name then
      .unnamedFunction index :: nameFaults seen (index + 1) rest
    else if f.name ∈ seen then
      .duplicateFunction f.name :: nameFaults seen (index + 1) rest
    else
      nameFaults (f.name :: seen) (index + 1) rest

/-- Deployed addresses are not blank. -/
def addressFaults (deployed : List (String × String)) : List ConfigFault :=
  (deployed.filter fun d => Text.isBlankText d.2).map fun d => .emptyAddress d.1

/-- Every breach of a rule, in order. -/
def Config.faults (c : Config) : List ConfigFault :=
  portFaults c.server.listenPort ++ logLevelFaults c.logLevel ++ nameFaults [] 0 c.functions ++
    addressFaults c.deployed.entries

end GatewayRouting
