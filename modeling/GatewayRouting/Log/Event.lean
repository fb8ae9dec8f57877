/-!
# Log events

What the program reports about its work: a level, the component that reports, a message, and named
values.
-/

namespace GatewayRouting.Log

/-- How important an event is. -/
inductive Level where
  | error
  | warn
  | info
  | debug
  | trace
deriving DecidableEq, Repr

namespace Level

/-- Every level, the most important one first. -/
def all : List Level := [error, warn, info, debug, trace]

/-- The name of a level. -/
def name : Level → String
  | error => "ERROR"
  | warn => "WARN"
  | info => "INFO"
  | debug => "DEBUG"
  | trace => "TRACE"

/-- The place of a level: one for the most important, five for the least. -/
def rank : Level → Nat
  | error => 1
  | warn => 2
  | info => 3
  | debug => 4
  | trace => 5

end Level

/-- A report of a component. -/
structure Event where
  level : Level
  component : String
  message : String
  fields : List (String × String) := []
deriving DecidableEq, Repr

/-- The names of what an event reports: the message counts as a value too. -/
def Event.fieldNames (e : Event) : List String :=
  "message" :: e.fields.map Prod.fst

/-- The line that shows an event: its level, its message, and its values by name. -/
def Event.line (e : Event) : String :=
  " ".intercalate (e.level.name :: e.message :: e.fields.map fun f => f.1 ++ "=" ++ f.2)

end GatewayRouting.Log
