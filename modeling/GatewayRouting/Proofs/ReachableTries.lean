import GatewayRouting.Proofs.TrieNodes

/-!
# Tries that insertions lead to

Routes can be inserted in any order, and an insertion can fail. `Trie.Reachable` are the tries that such a
sequence leads to. Failed insertions change nothing, so a reachable trie gathers the routes whose
insertions succeeded (`Trie.Reachable.exists_gathers`), and with that every node of it is well formed
(`wellFormedAt_of_reachable`).

`Trie.attemptAll` goes on after a failure, and `Trie.accepted` are the routes whose insertions succeed on
the way. These routes alone lead to the same trie (`attempts_of_reachable`).
-/

namespace GatewayRouting

namespace Trie

/-- The tries that insertions of routes lead to from the empty one, whether they succeed or fail. -/
inductive Reachable : Trie → Prop where
  | empty : Reachable empty
  | insert {t : Trie} (ht : Reachable t) (r : Route) : Reachable (t.insert r).trie

/-- What holds of the node that hangs at an address. -/
structure WellFormedAt (node : Trie) (s : List String) : Prop where
  /-- The keys of the children ascend, so none occurs twice. -/
  ascending : Entries.Ascending node.children
  /-- A child hangs at a segment: its key holds no slash and is not blank. -/
  keys : ∀ c ∈ node.children, '/' ∉ c.1.toList ∧ Text.isBlankText c.1 = false
  structural_path : node.targets? = none → node.path = ""
  structural_children : node.targets? = none → s ≠ [] → node.children ≠ []
  /-- Something is bound in the subtrie of every node but the top. -/
  occupied : s ≠ [] → node.Occupied
  path_segments : node.targets? ≠ none → Path.segments node.path = s
  table_entries : ∀ table, node.targets? = some (.byMethod table) → table.entries ≠ []

/-- A structural node without children holds no binding. -/
theorem Occupied.children_ne_nil {t : Trie} (h : t.Occupied) (hnone : t.targets? = none) :
    t.children ≠ [] := by
  obtain ⟨s, e, hs⟩ := h
  intro hchildren
  cases s with
  | nil =>
    rw [at?_nil, endpoint_eq_none_iff.2 hnone] at hs
    cases hs
  | cons k s =>
    rw [at?_cons, hchildren] at hs
    cases hs

end Trie

namespace Gathers

variable {routes : List Route} {t node : Trie} {s : List String}

/-- The children of a node hang at segments of routes. -/
theorem key_mem_segments (h : Gathers t routes) (hnode : Trie.descend? s t = some node)
    {c : String × Trie} (hc : c ∈ node.children) :
    ∃ r ∈ routes, c.1 ∈ Path.segments r.path := by
  have hcanonical := h.canonical.descend? hnode
  -- a route ends in the subtrie of the child, so its address leads through the key
  obtain ⟨s', e, hs'⟩ := hcanonical.occupied_of_mem_children hc
  have hat : t.at? (s ++ c.1 :: s') = some e := by
    rw [Trie.at?_append, hnode, Option.bind_some, hcanonical.at?_of_mem_children hc, hs']
  obtain ⟨r, hr, hsegments⟩ := h.exists_at?_iff.1 ⟨e, hat⟩
  refine ⟨r, hr, ?_⟩
  rw [hsegments]
  simp

/-- Every node of a trie that gathers routes is well formed. -/
theorem wellFormedAt (h : Gathers t routes) (hnode : Trie.descend? s t = some node) :
    node.WellFormedAt s := by
  have hcanonical := h.canonical.descend? hnode
  have hat : t.at? s = node.endpoint := Trie.at?_of_descend? hnode
  constructor
  case ascending =>
    cases hcanonical with
    | node structural ascending occupied below => exact ascending
  case keys =>
    intro c hc
    obtain ⟨r, -, hsegment⟩ := h.key_mem_segments hnode hc
    exact ⟨Path.slash_notMem_of_mem_segments hsegment,
      Path.not_isBlankText_of_mem_segments hsegment⟩
  case structural_path => exact hcanonical.path_eq_empty
  case structural_children =>
    intro hnone hs
    exact (h.canonical.occupied_of_descend? hs hnode).children_ne_nil hnone
  case occupied =>
    intro hs
    exact h.canonical.occupied_of_descend? hs hnode
  case path_segments =>
    intro hsome
    obtain ⟨targets, htargets⟩ := Option.ne_none_iff_exists'.1 hsome
    have hbound : node.endpoint = some ⟨node.path, targets⟩ :=
      Trie.endpoint_eq_some_iff.2 ⟨rfl, htargets⟩
    exact h.segments_path (hat.trans hbound)
  case table_entries =>
    intro table htable
    have hbound : node.endpoint = some ⟨node.path, .byMethod table⟩ :=
      Trie.endpoint_eq_some_iff.2 ⟨rfl, htable⟩
    exact h.entries_ne_nil (hat.trans hbound) table rfl

end Gathers

/-! ## Sequences of insertions -/

variable {t : Trie}

/-- A failed insertion leaves a trie that gathers routes as it was. -/
theorem Gathers.insert_eq_self {routes : List Route} (h : Gathers t routes) {r : Route} {c : Conflict}
    (hconflict : (t.insert r).conflict = some c) : (t.insert r).trie = t :=
  h.canonical.insertAt_eq_self hconflict

/-- A reachable trie gathers some routes without conflicts, those whose insertions succeeded. -/
theorem Trie.Reachable.exists_gathers (ht : t.Reachable) :
    ∃ routes, ConflictFree routes ∧ Gathers t routes := by
  -- a conflict leaves the list of routes as it is, and no conflict adds the route at its end
  induction ht with
  | empty => exact ⟨[], .nil, gathers_empty⟩
  | @insert t' _ r ih =>
    obtain ⟨routes, hfree, h⟩ := ih
    cases hconflict : (t'.insert r).conflict with
    | none =>
      exact ⟨routes ++ [r], (h.conflict_insert_iff hfree r).1 hconflict, h.insert hconflict⟩
    | some c =>
      refine ⟨routes, hfree, ?_⟩
      rw [h.insert_eq_self hconflict]
      exact h

/-- Every node of a reachable trie is well formed, and no two addresses are bound under the same
path. -/
theorem wellFormedAt_of_reachable (ht : t.Reachable) :
    (∀ s node, Trie.descend? s t = some node → node.WellFormedAt s) ∧
    ∀ s s' node node', Trie.descend? s t = some node → Trie.descend? s' t = some node' →
      node.targets? ≠ none → node'.targets? ≠ none → node.path = node'.path → s = s' := by
  obtain ⟨routes, -, h⟩ := ht.exists_gathers
  constructor
  · intro s node hnode
    exact h.wellFormedAt hnode
  · intro s s' node node' hnode hnode' hsome hsome' hpath
    rw [← (h.wellFormedAt hnode).path_segments hsome,
      ← (h.wellFormedAt hnode').path_segments hsome', hpath]

/-- The trie of three insertions, of which the second fails. -/
def refusedTrie : Trie :=
  (((Trie.empty.insert ⟨"a/ /b", some [.get], "X"⟩).trie.insert
    ⟨"/a//b/", some [.put, .get], "Y"⟩).trie.insert ⟨"/a/b/c/", none, ""⟩).trie

theorem wellFormedAt_refusedTrie :
    refusedTrie.Reachable ∧ ∃ node, Trie.descend? ["a"] refusedTrie = some node ∧
      node.targets? = none ∧ node.WellFormedAt ["a"] ∧
      ∃ below, Trie.descend? ["a", "b"] refusedTrie = some below ∧
        below.targets? = some (.byMethod (.const [.get] "X")) ∧
        below.WellFormedAt ["a", "b"] := by
  have ht : refusedTrie.Reachable := .insert (.insert (.insert .empty _) _) _
  have hnodes := (wellFormedAt_of_reachable ht).1
  exact ⟨ht, _, rfl, rfl, hnodes ["a"] _ rfl, _, rfl, rfl, hnodes ["a", "b"] _ rfl⟩

/-! ## Sequences that go on after a failure -/

namespace Trie

/-- The trie after attempts to insert some routes, one after the other. An attempt that fails does not
end the sequence. -/
def attemptAll (t : Trie) : List Route → Trie
  | [] => t
  | r :: rest => (t.insert r).trie.attemptAll rest

/-- The routes of such a sequence whose insertions succeed, in their order. -/
def accepted (t : Trie) : List Route → List Route
  | [] => []
  | r :: rest =>
    match (t.insert r).conflict with
    | none => r :: (t.insert r).trie.accepted rest
    | some _ => (t.insert r).trie.accepted rest

/-- The accepted routes are routes of the sequence, and stand in the same order. -/
theorem accepted_sublist (t : Trie) (routes : List Route) : (t.accepted routes).Sublist routes := by
  induction routes generalizing t with
  | nil => exact .slnil
  | cons r rest ih =>
    unfold accepted
    cases (t.insert r).conflict with
    | none => exact (ih _).cons_cons r
    | some c => exact (ih _).cons r

/-- A failed insertion leaves a reachable trie as it was. -/
theorem Reachable.insert_eq_self (ht : t.Reachable) {r : Route} {c : Conflict}
    (hconflict : (t.insert r).conflict = some c) : (t.insert r).trie = t := by
  rcases ht.exists_gathers with ⟨routes, -, h⟩
  exact h.insert_eq_self hconflict

/-- The accepted routes are inserted without a conflict, and lead to the trie that the whole sequence
leads to. -/
theorem Reachable.insertAll_accepted (ht : t.Reachable) (routes : List Route) :
    t.insertAll (t.accepted routes) = .ok (t.attemptAll routes) := by
  induction routes generalizing t with
  | nil => rfl
  | cons r rest ih =>
    have hrest := ih (ht.insert r)
    unfold accepted attemptAll
    cases hconflict : (t.insert r).conflict with
    | none =>
      simp only [insertAll, hconflict]
      exact hrest
    | some c =>
      -- the failure leaves the trie as it was, so the rest starts where the route was refused
      rw [ht.insert_eq_self hconflict] at hrest ⊢
      exact hrest

end Trie

/-- An insertion that fails leaves a reachable trie as it was. Of a sequence of insertions of which some
fail, those that succeed lead to the same trie when they are done alone and in the same order, and none
of them fails then. -/
theorem attempts_of_reachable (ht : t.Reachable) :
    (∀ r c, (t.insert r).conflict = some c → (t.insert r).trie = t) ∧
    ∀ routes, (t.accepted routes).Sublist routes ∧
      t.insertAll (t.accepted routes) = .ok (t.attemptAll routes) := by
  constructor
  · intro r c hconflict
    exact ht.insert_eq_self hconflict
  · intro routes
    constructor
    · exact t.accepted_sublist routes
    · exact ht.insertAll_accepted routes

/-- Routes of which every other one is refused in `refusedTrie`: one shares the second of its methods
with a binding that is there, and one would take every method where the route before it is bound. -/
def refusedRoutes : List Route :=
  [⟨"/a/b", some [.post, .get], "Z"⟩, ⟨"/x/y", some [.put], "N"⟩, ⟨"/x//y/", none, "M"⟩,
    ⟨"/a/b", some [.post], "W"⟩]

theorem attempts_refusedTrie :
    refusedTrie.Reachable ∧
      (∃ c, (refusedTrie.insert ⟨"/a/b", some [.post, .get], "Z"⟩).conflict = some c) ∧
      (refusedTrie.insert ⟨"/a/b", some [.post, .get], "Z"⟩).trie = refusedTrie ∧
      refusedTrie.accepted refusedRoutes =
        [⟨"/x/y", some [.put], "N"⟩, ⟨"/a/b", some [.post], "W"⟩] ∧
      refusedTrie.insertAll [⟨"/x/y", some [.put], "N"⟩, ⟨"/a/b", some [.post], "W"⟩] =
        .ok (refusedTrie.attemptAll refusedRoutes) := by
  have ht : refusedTrie.Reachable := .insert (.insert (.insert .empty _) _) _
  rcases attempts_of_reachable ht with ⟨hfails, hsequence⟩
  refine ⟨ht, ⟨_, rfl⟩, hfails _ _ rfl, rfl, ?_⟩
  exact (hsequence refusedRoutes).2

end GatewayRouting
