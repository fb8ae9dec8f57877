import GatewayRouting.Text.Blank

/-!
# Request methods

The five request methods that a route can be restricted to, in the order in which guards and method
maps list them.

* `Method.name` is the canonical spelling.
* `Method.ofName?` reads a spelling, ignoring letter case and surrounding blanks.
-/

namespace GatewayRouting

/-- A request method that routes know. -/
inductive Method where
  | get
  | post
  | put
  | delete
  | patch
deriving DecidableEq, Repr

namespace Method

/-- Every method, in canonical order. -/
def all : List Method := [get, post, put, delete, patch]

/-- The canonical spelling of a method. -/
def name : Method → String
  | get => "GET"
  | post => "POST"
  | put => "PUT"
  | delete => "DELETE"
  | patch => "PATCH"

/-- Two spellings agree when they differ at most in the case of ASCII letters. -/
def sameSpelling (a b : List Char) : Bool :=
  a.map Char.toUpper == b.map Char.toUpper

/-- The method that a spelling names; letter case and surrounding blanks do not count. -/
def ofName? (s : String) : Option Method :=
  all.find? fun m => sameSpelling m.name.toList (Text.trimChars s.toList)

theorem mem_all (m : Method) : m ∈ all := by
  cases m <;> simp [all]

theorem name_injective {a b : Method} (h : a.name = b.name) : a = b := by
  revert h
  cases a <;> cases b <;> decide

/-- A canonical spelling is read back. -/
theorem ofName?_name (m : Method) : ofName? m.name = some m := by
  cases m <;> decide

/-- What is refused when a name is none of the five methods. -/
structure Unknown where
  name : String
deriving DecidableEq, Repr

/-- The wording of a refused method name. -/
def Unknown.message (e : Unknown) : String :=
  "unknown HTTP method '" ++ e.name ++ "'"

/-- The method that a spelling names, or the spelling refused. -/
def parse (s : String) : Except Unknown Method :=
  match ofName? s with
  | some m => .ok m
  | none => .error ⟨s⟩

end Method

end GatewayRouting
