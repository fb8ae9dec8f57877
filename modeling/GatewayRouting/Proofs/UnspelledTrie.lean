import GatewayRouting.Proofs.RouteOrder

/-!
# Tries without spellings

Which spelling of its path an endpoint keeps depends on the route that came first, and nothing else of
a trie does. `Trie.unspelled` forgets all spellings, and what it forgets does not depend on the order
in which the routes came, nor on how their paths were spelled (`Respelled.unspelled_eq`).

Spellings are forgotten route by route, endpoint by endpoint and node by node, and the three agree:

* `Endpoint.ofRoutes_map_unspelled` : a group of routes without spellings binds what the group binds,
  without its spelling;
* `Trie.at?_unspelled` : a trie without spellings binds at every address what the trie binds, without
  its spelling.
-/

namespace GatewayRouting

/-- A route without the spelling of its path. -/
def Route.unspelled (r : Route) : Route :=
  { r with path := "" }

/-- An endpoint without the spelling of its path. -/
def Endpoint.unspelled (e : Endpoint) : Endpoint :=
  { e with path := "" }

/-! ## Groups -/

@[simp]
theorem Route.path_unspelled (r : Route) : r.unspelled.path = "" := rfl

@[simp]
theorem Route.declared_unspelled (r : Route) : r.unspelled.declared = r.declared := rfl

@[simp]
theorem Route.target_unspelled (r : Route) : r.unspelled.target = r.target := rfl

theorem MethodTable.ofRoutes_map_unspelled (group : List Route) :
    ofRoutes (group.map Route.unspelled) = ofRoutes group := by
  ext1
  funext m
  simp only [ofRoutes, List.find?_map, Option.map_map]
  rfl

theorem Endpoint.ofRoutes_map_unspelled (group : List Route) :
    ofRoutes (group.map Route.unspelled) = (ofRoutes group).map unspelled := by
  cases group with
  | nil => rfl
  | cons r rest =>
    have htable := MethodTable.ofRoutes_map_unspelled (r :: rest)
    rw [List.map_cons] at htable
    simp only [List.map_cons, ofRoutes, Option.map_some, unspelled, htable, Route.declared_unspelled,
      Route.target_unspelled, Route.path_unspelled]

/-- A group of compatible routes binds the same in any order, apart from the spelling. -/
theorem Endpoint.map_unspelled_ofRoutes_perm {group group' : List Route}
    (hperm : (group.map Route.unspelled).Perm (group'.map Route.unspelled))
    (hgroup : group.Pairwise Route.Compatible) :
    (ofRoutes group).map unspelled = (ofRoutes group').map unspelled := by
  have hcompatible : (group.map Route.unspelled).Pairwise Route.Compatible :=
    List.pairwise_map.2 hgroup
  have hpath : ∀ r ∈ group.map Route.unspelled, r.path = "" := by
    intro r hr
    obtain ⟨r', -, rfl⟩ := List.mem_map.1 hr
    rfl
  rw [← ofRoutes_map_unspelled, ← ofRoutes_map_unspelled]
  exact ofRoutes_perm hperm hcompatible fun r hr r' hr' => (hpath r hr).trans (hpath r' hr').symm

/-! ## Tries -/

namespace Trie

mutual

/-- A trie without the spellings of its endpoints. -/
def unspelled : Trie → Trie
  | .node _ targets? cs => .node "" targets? (unspelledBelow cs)

/-- The subtries in a list of children without the spellings of their endpoints. -/
def unspelledBelow : List (String × Trie) → List (String × Trie)
  | [] => []
  | (k, t) :: rest => (k, unspelled t) :: unspelledBelow rest

end

theorem unspelledBelow_eq_map (cs : List (String × Trie)) :
    unspelledBelow cs = cs.map fun c => (c.1, c.2.unspelled) := by
  induction cs with
  | nil => rfl
  | cons c rest ih => rw [unspelledBelow, ih, List.map_cons]

theorem children_unspelled (t : Trie) :
    t.unspelled.children = t.children.map fun c => (c.1, c.2.unspelled) := by
  cases t with
  | node path targets? cs => exact unspelledBelow_eq_map cs

theorem endpoint_unspelled (t : Trie) :
    t.unspelled.endpoint = t.endpoint.map Endpoint.unspelled := by
  cases t with
  | node path targets? cs => cases targets? <;> rfl

theorem at?_unspelled (t : Trie) (s : List String) :
    t.unspelled.at? s = (t.at? s).map Endpoint.unspelled := by
  induction s generalizing t with
  | nil => exact endpoint_unspelled t
  | cons k s ih =>
    rw [at?_cons, at?_cons, children_unspelled, Entries.lookup_map]
    cases t.children.lookup k with
    | none => rfl
    | some child => exact ih child

theorem Occupied.unspelled {t : Trie} (h : t.Occupied) : t.unspelled.Occupied := by
  obtain ⟨s, e, hs⟩ := h
  exact ⟨s, e.unspelled, by rw [at?_unspelled, hs, Option.map_some]⟩

/-- A trie stays canonical without its spellings. -/
theorem Canonical.unspelled {t : Trie} (ht : t.Canonical) : t.unspelled.Canonical := by
  induction ht with
  | node structural ascending occupied below ih =>
    rw [Trie.unspelled, unspelledBelow_eq_map]
    refine .node (fun _ => rfl) (ascending.map Trie.unspelled) ?_ ?_
    · intro c hc
      obtain ⟨child, hchild, rfl⟩ := List.mem_map.1 hc
      exact (occupied child hchild).unspelled
    · intro c hc
      obtain ⟨child, hchild, rfl⟩ := List.mem_map.1 hc
      exact ih child hchild

end Trie

/-! ## Respelled routes -/

/-- Two routes that differ at most in how they spell the segments of their path. -/
structure Route.Respells (r r' : Route) : Prop where
  segments_eq : Path.segments r.path = Path.segments r'.path
  methods_eq : r.methods = r'.methods
  target_eq : r.target = r'.target

instance : DecidableRel Route.Respells := fun r r' =>
  decidable_of_iff (Path.segments r.path = Path.segments r'.path ∧ r.methods = r'.methods ∧
      r.target = r'.target)
    ⟨fun h => ⟨h.1, h.2.1, h.2.2⟩, fun h => ⟨h.1, h.2, h.3⟩⟩

/-- The second list is, up to a permutation, the first one with its paths spelled anew. -/
def Respelled (routes routes' : List Route) : Prop :=
  ∃ respelled, List.Forall₂ Route.Respells routes respelled ∧ respelled.Perm routes'

/-- What is left of a route when only its spelling is forgotten. -/
def Route.content (r : Route) : List String × Route :=
  (r.address, r.unspelled)

theorem Route.Respells.content_eq {r r' : Route} (h : r.Respells r') : r.content = r'.content := by
  obtain ⟨path, methods, target⟩ := r
  obtain ⟨path', methods', target'⟩ := r'
  obtain ⟨hsegments, hmethods, htarget⟩ := h
  simp only at hsegments hmethods htarget
  simp only [Route.content, Route.address, Route.unspelled, hsegments, hmethods, htarget]

namespace Respelled

variable {routes routes' : List Route} {t t' : Trie}

theorem content_perm (h : Respelled routes routes') :
    (routes.map Route.content).Perm (routes'.map Route.content) := by
  obtain ⟨respelled, hforall, hperm⟩ := h
  have hsame : routes.map Route.content = respelled.map Route.content := by
    clear hperm
    induction hforall with
    | nil => rfl
    | cons hr _ ih => rw [List.map_cons, List.map_cons, hr.content_eq, ih]
  rw [hsame]
  exact hperm.map Route.content

/-- The routes that end at an address are the same in both lists, apart from their order and their
spellings. -/
theorem routesAt_perm (h : Respelled routes routes') (s : List String) :
    ((routesAt routes s).map Route.unspelled).Perm ((routesAt routes' s).map Route.unspelled) := by
  have hgroup : ∀ rs : List Route, (routesAt rs s).map Route.unspelled =
      ((rs.map Route.content).filter (·.1 = s)).map Prod.snd := by
    intro rs
    rw [List.filter_map, List.map_map]
    rfl
  rw [hgroup, hgroup]
  exact (h.content_perm.filter _).map _

/-- Without spellings, lists of routes that differ in order and spelling lead to the same trie. -/
theorem unspelled_eq (h : Respelled routes routes') (hfree : ConflictFree routes)
    (ht : Gathers t routes) (ht' : Gathers t' routes') : t.unspelled = t'.unspelled := by
  refine ht.canonical.unspelled.ext ht'.canonical.unspelled fun s => ?_
  rw [Trie.at?_unspelled, Trie.at?_unspelled, ht.at?_eq, ht'.at?_eq]
  exact Endpoint.map_unspelled_ofRoutes_perm (h.routesAt_perm s) (hfree.routesAt s)

end Respelled

end GatewayRouting
