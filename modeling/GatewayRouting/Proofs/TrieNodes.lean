import GatewayRouting.Proofs.GroupOutput
import GatewayRouting.Proofs.TrieListing

/-!
# The nodes of a trie

`Trie.descend?` leads to the node that hangs at an address. A trie that gathers routes has its nodes at
the prefixes of the addresses of the routes (`Gathers.exists_descend?_iff`), and a node shows what the
routes that end there bind together. Nothing but the list of routes is needed to say so: a trie is a
finite map from segment lists to bindings (`nodes_of_routes`), whatever the paths, targets and methods
of the routes are.
-/

namespace GatewayRouting

/-! ## Nodes of canonical tries -/

namespace Trie

variable {t node : Trie} {s : List String}

theorem at?_of_descend? (h : descend? s t = some node) : t.at? s = node.endpoint := by
  rw [at?, h]
  rfl

/-- What is bound behind a node is bound in the trie, at the longer address. -/
theorem at?_append (s s' : List String) (t : Trie) :
    t.at? (s ++ s') = (descend? s t).bind (at? · s') := by
  simp only [at?, descend?_append, Option.bind_assoc]

/-- What is bound in a child is bound in the trie, at an address that goes through the child. -/
theorem Canonical.at?_of_mem_children (ht : t.Canonical) {c : String × Trie}
    (hc : c ∈ t.children) (s : List String) : t.at? (c.1 :: s) = c.2.at? s := by
  cases ht with
  | node structural ascending occupied below =>
    rw [at?_cons, children_node, Entries.lookup_eq_some_of_mem ascending hc]
    rfl

/-- Every child of a canonical trie holds a binding. -/
theorem Canonical.occupied_of_mem_children (ht : t.Canonical) {c : String × Trie}
    (hc : c ∈ t.children) : c.2.Occupied := by
  cases ht with
  | node structural ascending occupied below => exact occupied c hc

/-- Every node below the top of a canonical trie holds a binding somewhere. -/
theorem Canonical.occupied_of_descend? (ht : t.Canonical) (hs : s ≠ [])
    (h : Trie.descend? s t = some node) : node.Occupied := by
  -- along the address, down to the last step, which leads from a parent to the node
  induction s generalizing t with
  | nil => exact absurd rfl hs
  | cons k s ih =>
    obtain ⟨child, hlookup, hchild⟩ := Option.bind_eq_some_iff.1 h
    have hmem := Entries.mem_of_lookup_eq_some hlookup
    cases ht with
    | node structural ascending occupied below =>
      cases s with
      | nil =>
        cases hchild
        exact occupied _ hmem
      | cons k' s => exact ih (below _ hmem) (List.cons_ne_nil k' s) hchild

/-- A node stands wherever something is bound at the same or at a longer address. -/
theorem Canonical.exists_descend?_iff (ht : t.Canonical) :
    (∃ node, Trie.descend? s t = some node) ↔ s = [] ∨ ∃ s' e, t.at? (s ++ s') = some e := by
  constructor
  · rintro ⟨node, hnode⟩
    by_cases hs : s = []
    · exact .inl hs
    · obtain ⟨s', e, he⟩ := ht.occupied_of_descend? hs hnode
      refine .inr ⟨s', e, ?_⟩
      rw [at?_append, hnode]
      exact he
  · rintro (rfl | ⟨s', e, he⟩)
    · exact ⟨t, rfl⟩
    · rw [at?_append] at he
      obtain ⟨node, hnode, -⟩ := Option.bind_eq_some_iff.1 he
      exact ⟨node, hnode⟩

end Trie

/-! ## Nodes of gathered routes -/

/-- The table of a group of compatible routes leads to the targets of the routes that declare the
method, and to no other. -/
theorem MethodTable.get?_ofRoutes_eq_some_iff {group : List Route} {m : Method} {target : String}
    (hgroup : group.Pairwise Route.Compatible) :
    (ofRoutes group).get? m = some target ↔
      ∃ r ∈ group, m ∈ r.declared ∧ r.target = target := by
  constructor
  · intro h
    obtain ⟨r, hfind, htarget⟩ := Option.map_eq_some_iff.1 h
    have hm : m ∈ r.declared := by simpa using List.find?_some hfind
    exact ⟨r, List.mem_of_find?_eq_some hfind, hm, htarget⟩
  · rintro ⟨r, hr, hm, rfl⟩
    exact get?_ofRoutes_of_mem hgroup hr hm

/-- The first route of a group decides the path, and whether the group has a table. -/
theorem Endpoint.ofRoutes_of_head? {group : List Route} {r : Route} (h : group.head? = some r) :
    ofRoutes group = some ⟨r.path,
      if r.declared = [] then .single r.target else .byMethod (.ofRoutes group)⟩ := by
  cases group with
  | nil => cases h
  | cons r' rest =>
    cases h
    simp only [ofRoutes, List.isEmpty_iff]

namespace Gathers

variable {routes : List Route} {t node : Trie} {s : List String}

/-- Something is bound exactly where a route ends. -/
theorem exists_at?_iff (h : Gathers t routes) :
    (∃ e, t.at? s = some e) ↔ ∃ r ∈ routes, Path.segments r.path = s := by
  rw [← Option.ne_none_iff_exists', h.at?_eq, ne_eq, Endpoint.ofRoutes_eq_none_iff,
    routesAt_eq_nil_iff]
  simp [Route.address]

/-- What is bound at an address bears a path that spells it. -/
theorem segments_path (h : Gathers t routes) {e : Endpoint} (hs : t.at? s = some e) :
    Path.segments e.path = s := by
  rw [h.at?_eq] at hs
  obtain ⟨r, hhead, hpath⟩ := Endpoint.path_of_ofRoutes hs
  rw [hpath]
  exact (mem_routesAt.1 (List.mem_of_mem_head? hhead)).2

/-- The tables that are bound have entries. -/
theorem entries_ne_nil (h : Gathers t routes) {e : Endpoint} (hs : t.at? s = some e) :
    ∀ table, e.targets = .byMethod table → table.entries ≠ [] := by
  intro table htable
  rw [h.at?_eq] at hs
  exact Endpoint.entries_ne_nil_of_ofRoutes hs htable

/-- Besides the top, the nodes of a trie stand at the prefixes of the addresses of its routes. -/
theorem exists_descend?_iff (h : Gathers t routes) :
    (∃ node, Trie.descend? s t = some node) ↔
      s = [] ∨ ∃ r ∈ routes, s <+: Path.segments r.path := by
  rw [h.canonical.exists_descend?_iff]
  refine or_congr_right ?_
  simp only [h.exists_at?_iff]
  constructor
  · rintro ⟨s', r, hr, hs'⟩
    exact ⟨r, hr, s', hs'.symm⟩
  · rintro ⟨r, hr, s', hs'⟩
    exact ⟨s', r, hr, hs'.symm⟩

/-- A node shows what the routes that end there bind together. -/
theorem endpoint_eq (h : Gathers t routes) (hnode : Trie.descend? s t = some node) :
    node.endpoint = Endpoint.ofRoutes (routesAt routes s) := by
  rw [← Trie.at?_of_descend? hnode, h.at?_eq]

/-- A node at which no route ends is structural. -/
theorem endpoint_eq_none (h : Gathers t routes) (hnode : Trie.descend? s t = some node)
    (hs : ∀ r ∈ routes, Path.segments r.path ≠ s) : node.endpoint = none := by
  rw [h.endpoint_eq hnode, Endpoint.ofRoutes_eq_none_iff, routesAt_eq_nil_iff]
  exact hs

/-- A node at which routes end keeps the path of the first of them, and takes every method or has a
table as that route does. -/
theorem endpoint_eq_some (h : Gathers t routes) (hnode : Trie.descend? s t = some node) {r : Route}
    (hfirst : (routes.find? fun r => Path.segments r.path = s) = some r) :
    node.endpoint = some ⟨r.path,
      if r.declared = [] then .single r.target else .byMethod (.ofRoutes (routesAt routes s))⟩ := by
  rw [h.endpoint_eq hnode]
  refine Endpoint.ofRoutes_of_head? ?_
  rw [routesAt, List.head?_filter]
  exact hfirst

end Gathers

/-- A list of routes has a trie exactly when any two of them with the same segments are both restricted
to methods and share none. The trie then has a node at every prefix of the segments of a route, and
nowhere else but at the top. Where no route ends the node is structural, with an empty path. Elsewhere
it keeps the path of the first route that ends there; its target is that of this route if the route
takes every method, and otherwise its table leads from the methods of each route that ends there to the
target of that route, and from no other method. -/
theorem nodes_of_routes (routes : List Route) :
    ((∃ t, Trie.ofRoutes routes = .ok t) ↔
      routes.Pairwise fun r r' => Path.segments r.path = Path.segments r'.path →
        r.declared ≠ [] ∧ r'.declared ≠ [] ∧ ∀ m ∈ r.declared, m ∉ r'.declared) ∧
    ∀ t, Trie.ofRoutes routes = .ok t → ∀ s,
      ((∃ node, Trie.descend? s t = some node) ↔
        s = [] ∨ ∃ r ∈ routes, s <+: Path.segments r.path) ∧
      ∀ node, Trie.descend? s t = some node →
        ((∀ r ∈ routes, Path.segments r.path ≠ s) → node.targets? = none ∧ node.path = "") ∧
        ∀ r, (routes.find? fun r => Path.segments r.path = s) = some r →
          node.path = r.path ∧
          (r.declared = [] → node.targets? = some (.single r.target)) ∧
          (r.declared ≠ [] → ∃ table, node.targets? = some (.byMethod table) ∧
            ∀ m target, table.get? m = some target ↔
              ∃ r' ∈ routes, Path.segments r'.path = s ∧ m ∈ r'.declared ∧ r'.target = target) := by
  refine ⟨ofRoutes_ok_iff, fun t ht s => ?_⟩
  have hgathers := gathers_of_ofRoutes ht
  have hfree : ConflictFree routes := ofRoutes_ok_iff.1 ⟨t, ht⟩
  refine ⟨hgathers.exists_descend?_iff, fun node hnode => ⟨fun hs => ?_, fun r hfirst => ?_⟩⟩
  · have hnone := Trie.endpoint_eq_none_iff.1 (hgathers.endpoint_eq_none hnode hs)
    exact ⟨hnone, (hgathers.canonical.descend? hnode).path_eq_empty hnone⟩
  · obtain ⟨hpath, htargets⟩ := Trie.endpoint_eq_some_iff.1 (hgathers.endpoint_eq_some hnode hfirst)
    refine ⟨hpath, fun hr => ?_, fun hr => ⟨.ofRoutes (routesAt routes s), ?_, fun m target => ?_⟩⟩
    · rw [htargets, if_pos hr]
    · rw [htargets, if_neg hr]
    · rw [MethodTable.get?_ofRoutes_eq_some_iff (hfree.routesAt s)]
      simp only [mem_routesAt, Route.address, and_assoc]

/-- Routes that no validation would let pass: relative and blank paths, blank pieces between slashes, an
empty target and a method that is declared twice. -/
def uncheckedRoutes : List Route :=
  [⟨"a/ /b", some [.get], ""⟩, ⟨"/a//b/", some [.put, .put], ";"⟩, ⟨"  ", none, "R"⟩,
    ⟨"/a/b/c", none, "C"⟩]

theorem nodes_of_uncheckedRoutes :
    ∃ t node table, Trie.ofRoutes uncheckedRoutes = .ok t ∧
      Trie.descend? ["a", "b"] t = some node ∧ node.path = "a/ /b" ∧
      node.targets? = some (.byMethod table) ∧ table.get? .put = some ";" ∧
      table.get? .post = none := by
  obtain ⟨hok, hnodes⟩ := nodes_of_routes uncheckedRoutes
  obtain ⟨t, ht⟩ := hok.2 (by decide)
  obtain ⟨hexists, hshows⟩ := hnodes t ht ["a", "b"]
  obtain ⟨node, hnode⟩ := hexists.2 (by decide)
  obtain ⟨hpath, -, hmethods⟩ := (hshows node hnode).2 _ rfl
  obtain ⟨table, htargets, htable⟩ := hmethods (by decide)
  refine ⟨t, node, table, ht, hnode, hpath, htargets, (htable .put ";").2 (by decide), ?_⟩
  rw [Option.eq_none_iff_forall_ne_some]
  intro target htarget
  obtain ⟨r, hr, -, hm, -⟩ := (htable .post target).1 htarget
  exact absurd hm (by revert r; decide)

end GatewayRouting
