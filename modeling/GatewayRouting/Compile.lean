import GatewayRouting.Location

/-!
# Compiling routes

A list of routes is compiled in four steps: every route is validated, the routes are gathered in a
trie, the trie is turned into locations and method maps, and the variables of the method maps are
checked. The first fault ends the compilation, so there is never a partial result.

* `compile` does all four.
* `CompileError.message` is the wording of each fault.
-/

namespace GatewayRouting

/-- Why a list of routes has no proxy configuration. -/
inductive CompileError where
  | invalidRoute (fault : InvalidRoute)
  | conflict (fault : Conflict)
  | variableCollision (name firstPath secondPath : String)
  | invalidVariableName (name path : String)
deriving DecidableEq, Repr

/-- The wording of a fault. -/
def CompileError.message : CompileError → String
  | .invalidRoute fault => "invalid route: " ++ fault.message
  | .conflict fault => "route conflict: " ++ fault.message
  | .variableCollision name firstPath secondPath =>
    s!"paths {firstPath} and {secondPath} both derive the method map variable ${name}"
  | .invalidVariableName name path =>
    s!"path {path} derives the method map variable ${name}, which may only contain " ++
      "ASCII letters, digits and '_'"

/-! ## Variables of method maps -/

/-- A variable name is not empty and holds only ASCII letters, digits and underscores. -/
def isVariableName (name : String) : Bool :=
  !name.isEmpty && name.toList.all fun c => c.isAlphanum || c = '_'

/-- The name behind a dollar sign, if it is one of `names`. Targets may start with a dollar sign
too, so only the names of method maps count. -/
def variableOf? (names : List String) (target : String) : Option String :=
  match target.toList with
  | '$' :: cs => if String.ofList cs ∈ names then some (String.ofList cs) else none
  | _ => none

/-- Checks the variable that a location proxies to, if it proxies to one: it is a variable name, and
no location owned it before. The outcome is the table of owners afterwards, the paths of the locations
by variable. A collision names its two paths in ascending order. -/
def checkVariable (names : List String) (owners : List (String × String)) (l : Location) :
    Except CompileError (List (String × String)) :=
  match variableOf? names l.target with
  | none => .ok owners
  | some v =>
    if !isVariableName v then
      .error (.invalidVariableName v l.path)
    else
      match owners.lookup v with
      | none => .ok ((v, l.path) :: owners)
      | some path =>
        if l.path < path then .error (.variableCollision v l.path path)
        else .error (.variableCollision v path l.path)

/-- Checks the variables of pending locations and of all below them. The last of them is taken off, and
its children are pending in its place. There are at most `rounds` locations. -/
def checkPending (names : List String) :
    Nat → List (String × String) → List Location → Except CompileError Unit
  | 0, _, _ => .ok ()
  | rounds + 1, owners, pending =>
    match pending.getLast? with
    | none => .ok ()
    | some l =>
      match checkVariable names owners l with
      | .error fault => .error fault
      | .ok owners => checkPending names rounds owners (pending.dropLast ++ l.children)

/-- Checks the variables of a configuration. -/
def ProxyConfig.checkVariables (c : ProxyConfig) : Except CompileError Unit :=
  checkPending (c.maps.map MethodMap.name) c.locationCount [] c.locations

/-! ## Compilation -/

/-- Validates routes from first to last. -/
def validateAll : List Route → Except InvalidRoute Unit
  | [] => .ok ()
  | r :: rest =>
    match r.validate with
    | .error fault => .error fault
    | .ok () => validateAll rest

/-- The proxy configuration of a list of routes, or the first fault. -/
def compile (routes : List Route) : Except CompileError ProxyConfig :=
  match validateAll routes with
  | .error fault => .error (.invalidRoute fault)
  | .ok () =>
    match Trie.ofRoutes routes with
    | .error fault => .error (.conflict fault)
    | .ok trie =>
      match trie.proxyConfig.checkVariables with
      | .error fault => .error fault
      | .ok () => .ok trie.proxyConfig

end GatewayRouting
