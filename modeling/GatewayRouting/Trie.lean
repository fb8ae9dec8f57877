import GatewayRouting.Entries
import GatewayRouting.MethodTable
import GatewayRouting.Path
import GatewayRouting.Route

/-!
# The routing trie

Routes are gathered in a tree whose edges are path segments. A node at which a route ends has an
*endpoint*: the literal path of the first route that ended there, and the targets bound so far.
Other nodes are structural, and keep an empty path. Routes that end at one node are merged when both
are restricted to methods and share none; everything else is a conflict.

* `Endpoint.bind` attempts to bind a route at a node: it gives the endpoint afterwards, and the conflict
  if there was one, which leaves the endpoint as it was (`endpoint_merge_of_conflict`).
* `Trie.insert` attempts one insertion: it gives the trie afterwards, and the conflict if there was
  one.
* `Trie.ofRoutes` inserts a list of routes and stops at the first conflict.
* `Conflict.message` is the wording of a conflict.
-/

namespace GatewayRouting

/-- The targets of a node: one for every method, or one for each of some methods. -/
inductive Targets where
  | single (target : String)
  | byMethod (table : MethodTable)
deriving DecidableEq, Repr

/-- What is bound at a node where a route ends. -/
structure Endpoint where
  path : String
  targets : Targets
deriving DecidableEq, Repr

/-- Why two routes cannot end at one node. -/
inductive Conflict where
  | methodAgnostic (path existing incoming : String)
  | duplicateMethod (path : String) (method : Method) (existing incoming : String)
deriving DecidableEq, Repr

/-- The wording of a conflict. -/
def Conflict.message : Conflict → String
  | .methodAgnostic path existing incoming =>
    s!"route '{incoming}' conflicts with '{existing}': a route without methods cannot share " ++
      s!"path {path}"
  | .duplicateMethod path m existing incoming =>
    s!"method {m.name} on {path} is bound to both {existing} and {incoming}"

/-! ## Endpoints -/

/-- What a route binds: its target for its methods, or for all when it has none. -/
def Targets.ofRoute (r : Route) : Targets :=
  if r.declared.isEmpty then .single r.target else .byMethod (.const r.declared r.target)

namespace Endpoint

/-- The endpoint that a route makes of a structural node. -/
def ofRoute (r : Route) : Endpoint :=
  ⟨r.path, .ofRoute r⟩

/-- One line that shows the bindings of an endpoint, one for each method. -/
def display (e : Endpoint) : String :=
  match e.targets with
  | .single target => "* " ++ e.path ++ " -> " ++ target
  | .byMethod table =>
    ", ".intercalate (table.entries.map fun b => b.1.name ++ " " ++ e.path ++ " -> " ++ b.2)

/-- The conflict of an endpoint with a route where one of them takes every method. -/
def ambiguity (e : Endpoint) (r : Route) : Conflict :=
  .methodAgnostic e.path e.display r.display

/-- The first of some methods that a table has an entry for, with that entry. -/
def firstBound (table : MethodTable) : List Method → Option (Method × String)
  | [] => none
  | m :: ms =>
    match table.get? m with
    | some target => some (m, target)
    | none => firstBound table ms

/-- The outcome of an attempt to bind a route at a node: what is bound there afterwards. -/
structure Attempt where
  endpoint : Endpoint
  conflict : Option Conflict

/-- Adds the bindings of a route to an endpoint, method by method. Both have to be restricted to
methods, and no method may be bound already. -/
def merge (e : Endpoint) (r : Route) : Attempt :=
  match e.targets with
  | .single _ => ⟨e, some (e.ambiguity r)⟩
  | .byMethod table =>
    if r.declared.isEmpty then
      ⟨e, some (e.ambiguity r)⟩
    else
      match firstBound table r.declared with
      | some (m, existing) => ⟨e, some (.duplicateMethod e.path m existing r.target)⟩
      | none => ⟨⟨e.path, .byMethod (table.insertAll r.declared r.target)⟩, none⟩

/-- Binds a route at a node, which is structural when it has no endpoint yet. -/
def bind (e : Option Endpoint) (r : Route) : Attempt :=
  match e with
  | none => ⟨ofRoute r, none⟩
  | some e => e.merge r

/-- A conflict is found before any method is bound. -/
theorem endpoint_merge_of_conflict {e : Endpoint} {r : Route} {c : Conflict}
    (h : (e.merge r).conflict = some c) : (e.merge r).endpoint = e := by
  unfold merge at h ⊢
  cases htargets : e.targets with
  | single target => rfl
  | byMethod table =>
    by_cases hempty : r.declared.isEmpty = true
    · simp only [hempty, if_true]
    · cases hbound : firstBound table r.declared with
      | none => simp [htargets, hempty, hbound] at h
      | some b => simp only [hempty, hbound, if_false, Bool.false_eq_true]

/-- A conflict arises at endpoints only, and leaves them as they are. -/
theorem some_endpoint_bind_of_conflict {e : Option Endpoint} {r : Route} {c : Conflict}
    (h : (bind e r).conflict = some c) : some (bind e r).endpoint = e := by
  cases e with
  | none => cases h
  | some e => exact congrArg some (endpoint_merge_of_conflict h)

end Endpoint

/-! ## Nodes -/

/-- A node of the trie with everything below it. A structural node has no targets and an empty path.
The children are in ascending order of their segments. -/
inductive Trie where
  | node (path : String) (targets? : Option Targets) (children : List (String × Trie))
deriving Repr

namespace Trie

/-- The trie without routes. -/
def empty : Trie := .node "" none []

instance : Inhabited Trie := ⟨empty⟩

/-- The path that is kept at the top of a trie. -/
def path : Trie → String
  | .node path _ _ => path

/-- The targets at the top of a trie, unless it is structural. -/
def targets? : Trie → Option Targets
  | .node _ targets? _ => targets?

/-- The subtries below the top of a trie, by segment. -/
def children : Trie → List (String × Trie)
  | .node _ _ cs => cs

/-- What is bound at the top of a trie. -/
def endpoint (t : Trie) : Option Endpoint :=
  t.targets?.map fun targets => ⟨t.path, targets⟩

/-- The subtrie at the end of a list of segments. -/
def descend? : List String → Trie → Option Trie
  | [], t => some t
  | s :: rest, t => (t.children.lookup s).bind (descend? rest)

/-! ## Equality -/

mutual

/-- Two tries are equal when their paths, their targets and their children are. -/
def decideEq : (a b : Trie) → Decidable (a = b)
  | .node path targets? cs, .node path' targets?' cs' =>
    if htop : path = path' ∧ targets? = targets?' then
      match decideEqChildren cs cs' with
      | isTrue hcs => isTrue (by rw [htop.1, htop.2, hcs])
      | isFalse hcs => isFalse (by simp [hcs])
    else
      isFalse (by simpa using fun hpath htargets => absurd ⟨hpath, htargets⟩ htop)

/-- Two lists of children are equal when they agree entry by entry. -/
def decideEqChildren : (a b : List (String × Trie)) → Decidable (a = b)
  | [], [] => isTrue rfl
  | [], _ :: _ => isFalse (by simp)
  | _ :: _, [] => isFalse (by simp)
  | (s, t) :: rest, (s', t') :: rest' =>
    if hs : s = s' then
      match decideEq t t', decideEqChildren rest rest' with
      | isTrue ht, isTrue hrest => isTrue (by rw [hs, ht, hrest])
      | isFalse ht, _ => isFalse (by simp [ht])
      | _, isFalse hrest => isFalse (by simp [hrest])
    else
      isFalse (by simp [hs])

end

instance : DecidableEq Trie := decideEq

/-! ## Insertion -/

/-- The outcome of an attempt to insert a route. -/
structure Insertion where
  trie : Trie
  conflict : Option Conflict

/-- Attempts to bind a route at the end of a list of segments. Structural nodes are made on the
way. -/
def insertAt (r : Route) : List String → Trie → Insertion
  | [], t =>
    let attempt := Endpoint.bind t.endpoint r
    ⟨.node attempt.endpoint.path (some attempt.endpoint.targets) t.children, attempt.conflict⟩
  | s :: rest, t =>
    let below := insertAt r rest ((t.children.lookup s).getD empty)
    ⟨.node t.path t.targets? (Entries.put s below.trie t.children), below.conflict⟩

/-- Attempts to bind a route at the node that its path addresses. -/
def insert (t : Trie) (r : Route) : Insertion :=
  insertAt r (Path.segments r.path) t

/-- Inserts routes one after the other; the first conflict ends it. -/
def insertAll (t : Trie) : List Route → Except Conflict Trie
  | [] => .ok t
  | r :: rest =>
    let attempt := t.insert r
    match attempt.conflict with
    | some c => .error c
    | none => insertAll attempt.trie rest

/-- The trie of a list of routes, or the first conflict among them. -/
def ofRoutes (routes : List Route) : Except Conflict Trie :=
  empty.insertAll routes

/-! ## Listing -/

/-- A line of the listing of a trie. -/
structure Row where
  depth : Nat
  segment : String
  path : String
  targets? : Option Targets

mutual

/-- The nodes of a trie that hangs at a segment, parents before their children. -/
def rows (depth : Nat) (segment : String) : Trie → List Row
  | .node path targets? cs => ⟨depth, segment, path, targets?⟩ :: rowsBelow (depth + 1) cs

/-- The nodes of all subtries in a list of children. -/
def rowsBelow (depth : Nat) : List (String × Trie) → List Row
  | [] => []
  | (s, t) :: rest => rows depth s t ++ rowsBelow depth rest

end

end Trie

end GatewayRouting
