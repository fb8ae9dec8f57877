import GatewayRouting.Config.Basic
import GatewayRouting.Toml.Value

/-!
# Configurations from TOML

A record is read from a table by the names of its fields, or from an array by their order. Missing
fields have a default, except for the name of a function; keys and elements beyond the fields are
ignored. A value of another type than its field's is refused.

* `Config.ofToml?` reads a whole configuration.
-/

namespace GatewayRouting

open Toml (Value)

/-! ## Values -/

/-- The text of a string. -/
def stringOf? : Value → Option String
  | .string s => some s
  | _ => none

/-- The number of a port. -/
def portOf? : Value → Option UInt16
  | .integer n => if 0 ≤ n ∧ n < 65536 then some (UInt16.ofNat n.toNat) else none
  | _ => none

/-- The elements of an array, each read by `f`. -/
def listOf? {α : Type} (f : Value → Option α) : Value → Option (List α)
  | .array vs => vs.mapM f
  | _ => none

/-- The entries of a table, each value read by `f`. -/
def entriesOf? {α : Type} (f : Value → Option α) : Value → Option (List (String × α))
  | .table es => es.mapM fun e => (f e.2).map (e.1, ·)
  | _ => none

/-! ## Fields -/

/-- The value of a field of a record, which is the `index`-th one and has the given name. -/
def field? (index : Nat) (name : String) : Value → Option Value
  | .table es => es.lookup name
  | .array vs => vs[index]?
  | _ => none

/-- A value that can hold a record. -/
def isRecord : Value → Bool
  | .table _ => true
  | .array _ => true
  | _ => false

/-- The field of a record, or a default where it is missing. -/
def fieldOr? {α : Type} (default : α) (f : Value → Option α) (index : Nat) (name : String)
    (record : Value) : Option α :=
  match field? index name record with
  | none => some default
  | some v => f v

/-- The field of a record that need not be there. -/
def optionalField? {α : Type} (f : Value → Option α) (index : Nat) (name : String)
    (record : Value) : Option (Option α) :=
  fieldOr? none (fun v => (f v).map some) index name record

/-! ## Records -/

/-- The settings of the server. -/
def Settings.ofToml? (v : Value) : Option Settings := do
  guard (isRecord v)
  return {
    listenPort := ← fieldOr? 8080 portOf? 0 "listen_port" v
    serverName := ← optionalField? stringOf? 1 "server_name" v
    resolver := ← optionalField? stringOf? 2 "resolver" v }

/-- The level of logging. -/
def logLevelOfToml? (v : Value) : Option String := do
  guard (isRecord v)
  fieldOr? "info" stringOf? 0 "log_level" v

/-- A declared function. -/
def FunctionDecl.ofToml? (v : Value) : Option FunctionDecl := do
  return {
    name := ← stringOf? (← field? 0 "name" v)
    path := ← optionalField? stringOf? 1 "path" v
    methods := ← optionalField? (listOf? stringOf?) 2 "methods" v }

/-- The configuration that the entries of a document describe. -/
def Config.ofToml? (entries : List (String × Value)) : Option Config := do
  let v := Value.table entries
  return {
    server := ← fieldOr? {} Settings.ofToml? 0 "gateway" v
    logLevel := ← fieldOr? "info" logLevelOfToml? 1 "observability" v
    functions := ← fieldOr? [] (listOf? FunctionDecl.ofToml?) 2 "functions" v
    deployed := .ofList (← fieldOr? [] (entriesOf? stringOf?) 3 "deployed" v) }

end GatewayRouting
