import GatewayRouting.Trie

/-!
# Locations and method maps

The records that the proxy configuration is made of. A node of the routing trie with an endpoint
becomes a *location*; structural nodes leave no trace, and their locations move up to the nearest
location above. An endpoint with two or more methods also yields a *method map*, a variable whose
value depends on the request method, and its location proxies to that variable.

* `Trie.locations` lists the locations of a trie, ordered by segments.
* `Trie.methodMaps` lists its method maps, those of the children before those of the parent.
-/

namespace GatewayRouting

/-- A block of the proxy configuration that serves the requests below a path. -/
structure Location where
  path : String
  /-- A literal target, or the variable of a method map behind a dollar sign. -/
  target : String
  /-- The methods answered with status 405. -/
  unallowed : List Method
  children : List Location
deriving Repr

/-- A variable whose value depends on the request method. -/
structure MethodMap where
  name : String
  table : MethodTable
deriving DecidableEq, Repr

/-- The compiled routes, ready to be written out. -/
structure ProxyConfig where
  locations : List Location
  maps : List MethodMap
deriving Repr

/-! ## One endpoint -/

namespace Endpoint

/-- The method map of an endpoint that has two or more methods. -/
def methodMap? (e : Endpoint) : Option MethodMap :=
  match e.targets with
  | .single _ => none
  | .byMethod table =>
    match table.entries with
    | [_] => none
    | _ => some ⟨Path.mapVariable e.path, table⟩

/-- What the location of an endpoint proxies to. -/
def proxyTarget (e : Endpoint) : String :=
  match e.targets with
  | .single target => target
  | .byMethod table =>
    match table.entries with
    | [(_, target)] => target
    | _ => "$" ++ Path.mapVariable e.path

/-- The methods that an endpoint leaves out; none when it takes every method. -/
def unallowed (e : Endpoint) : List Method :=
  match e.targets with
  | .single _ => []
  | .byMethod table => table.missing

/-- The location of an endpoint around the locations below it. -/
def location (e : Endpoint) (children : List Location) : Location :=
  ⟨e.path, e.proxyTarget, e.unallowed, children⟩

end Endpoint

/-! ## The whole trie -/

namespace Trie

mutual

/-- The locations of a trie: one around those of the children if it has an endpoint, else those of
the children alone. -/
def locations : Trie → List Location
  | .node _ none cs => locationsBelow cs
  | .node path (some targets) cs => [Endpoint.location ⟨path, targets⟩ (locationsBelow cs)]

/-- The locations of all subtries in a list of children. -/
def locationsBelow : List (String × Trie) → List Location
  | [] => []
  | (_, t) :: rest => locations t ++ locationsBelow rest

end

mutual

/-- The method maps of a trie, its own after those of the children. -/
def methodMaps : Trie → List MethodMap
  | .node _ none cs => methodMapsBelow cs
  | .node path (some targets) cs =>
    methodMapsBelow cs ++ (Endpoint.methodMap? ⟨path, targets⟩).toList

/-- The method maps of all subtries in a list of children. -/
def methodMapsBelow : List (String × Trie) → List MethodMap
  | [] => []
  | (_, t) :: rest => methodMaps t ++ methodMapsBelow rest

end

/-- The locations and method maps of a trie. -/
def proxyConfig (t : Trie) : ProxyConfig :=
  ⟨t.locations, t.methodMaps⟩

end Trie

/-! ## Walks through locations -/

namespace Location

mutual

/-- A location and all below it, parents before their children. -/
def preorder : Location → List Location
  | ⟨path, target, unallowed, children⟩ =>
    ⟨path, target, unallowed, children⟩ :: preorderAll children

/-- All locations of a list and all below them, parents first. -/
def preorderAll : List Location → List Location
  | [] => []
  | l :: rest => preorder l ++ preorderAll rest

end

mutual

/-- A location and all below it, parents after their children. -/
def postorder : Location → List Location
  | ⟨path, target, unallowed, children⟩ =>
    postorderAll children ++ [⟨path, target, unallowed, children⟩]

/-- All locations of a list and all below them, parents last. -/
def postorderAll : List Location → List Location
  | [] => []
  | l :: rest => postorder l ++ postorderAll rest

end

mutual

/-- A location and all below it, parents first and siblings from last to first. -/
def lastFirst : Location → List Location
  | ⟨path, target, unallowed, children⟩ =>
    ⟨path, target, unallowed, children⟩ :: lastFirstAll children

/-- All locations of a list and all below them, the last of the list first. -/
def lastFirstAll : List Location → List Location
  | [] => []
  | l :: rest => lastFirstAll rest ++ lastFirst l

end

end Location

/-- The number of locations, nested ones included. -/
def ProxyConfig.locationCount (c : ProxyConfig) : Nat :=
  (Location.preorderAll c.locations).length

end GatewayRouting
