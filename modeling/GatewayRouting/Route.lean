import GatewayRouting.Method
import GatewayRouting.Text.CharLiteral

/-!
# Routes

A route binds a path, for some or for all request methods, to the target that serves it. Paths and
targets are written unquoted into the proxy configuration, so a valid route holds no character that
would end or open a directive there.

* `Route.ofNames` reads the names of the methods.
* `Route.validate` checks the rules, and reports the first one broken.
* `InvalidRoute.message` is the wording of each fault.
-/

namespace GatewayRouting

/-- A declared binding of a path to a target. No list of methods, like an empty one, stands for
every method. -/
structure Route where
  path : String
  methods : Option (List Method)
  target : String
deriving DecidableEq, Repr

/-- What can be wrong with a route on its own. -/
inductive InvalidRoute where
  | emptyPath (target : String)
  | relativePath (path : String)
  | unknownMethod (path method : String)
  | forbiddenInPath (path : String) (character : Char)
  | duplicateMethod (path : String) (method : Method)
  | emptyTarget (path : String)
  | forbiddenInTarget (path target : String) (character : Char)
deriving DecidableEq, Repr

/-- The wording of a fault. -/
def InvalidRoute.message : InvalidRoute → String
  | .emptyPath target => s!"route to {target} has an empty path"
  | .relativePath path => s!"route path '{path}' must start with '/'"
  | .unknownMethod path method => s!"route {path} declares unknown method '{method}'"
  | .forbiddenInPath path c =>
    s!"route path '{path}' contains {Text.charLiteral c}, which cannot appear in a proxy location"
  | .duplicateMethod path m => s!"route {path} declares method {m.name} more than once"
  | .emptyTarget path => s!"route {path} has no target"
  | .forbiddenInTarget path target c =>
    s!"route {path} target '{target}' contains {Text.charLiteral c}, which cannot appear in " ++
      "proxy_pass"

/-! ## Characters of a directive argument -/

/-- A character that would break an unquoted argument of a directive: a blank, the end of a
directive, a brace, a quote, the escape or the start of a comment. -/
def isForbidden (c : Char) : Bool :=
  Text.isBlank c || c ∈ [';', '{', '}', '"', '\'', '\\', '#']

/-- The first character of a text that cannot stand in an unquoted argument. -/
def firstForbidden (s : String) : Option Char :=
  s.toList.find? isForbidden

theorem firstForbidden_eq_none_iff {s : String} :
    firstForbidden s = none ↔ ∀ c ∈ s.toList, isForbidden c = false := by
  simp [firstForbidden]

namespace Route

/-- The methods a route is restricted to; empty when it accepts all. -/
def declared (r : Route) : List Method :=
  r.methods.getD []

/-- One line that shows a route: its methods or `*`, its path and its target. -/
def display (r : Route) : String :=
  let methods :=
    if r.declared.isEmpty then "*" else ",".intercalate (r.declared.map Method.name)
  methods ++ " " ++ r.path ++ " -> " ++ r.target

/-- The methods that names spell, in order; the first unknown name is refused. -/
def methodsOfNames (path : String) : List String → Except InvalidRoute (List Method)
  | [] => .ok []
  | name :: rest =>
    match Method.ofName? name with
    | none => .error (.unknownMethod path name)
    | some m => (methodsOfNames path rest).map (m :: ·)

/-- The route whose methods are given by name. -/
def ofNames (path : String) (names : Option (List String)) (target : String) :
    Except InvalidRoute Route :=
  match names with
  | none => .ok ⟨path, none, target⟩
  | some names => (methodsOfNames path names).map fun ms => ⟨path, some ms, target⟩

/-- The first method of a list that occurred before, where `seen` holds those that already did. -/
def firstRepeated (seen : List Method) : List Method → Option Method
  | [] => none
  | m :: ms => if m ∈ seen then some m else firstRepeated (m :: seen) ms

/-- Checks a route on its own: its path starts with a slash, its methods are pairwise distinct, its
target is not empty, and path and target can stand in a directive. The first fault in this order is
reported: path, methods, target. -/
def validate (r : Route) : Except InvalidRoute Unit :=
  if r.path = "" then
    .error (.emptyPath r.target)
  else if r.path.toList.head? ≠ some '/' then
    .error (.relativePath r.path)
  else
    match firstForbidden r.path with
    | some c => .error (.forbiddenInPath r.path c)
    | none =>
      match firstRepeated [] r.declared with
      | some m => .error (.duplicateMethod r.path m)
      | none =>
        if r.target = "" then
          .error (.emptyTarget r.path)
        else
          match firstForbidden r.target with
          | some c => .error (.forbiddenInTarget r.path r.target c)
          | none => .ok ()

end Route

end GatewayRouting
