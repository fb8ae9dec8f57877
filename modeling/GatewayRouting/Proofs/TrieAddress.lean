import GatewayRouting.Proofs.NamedEntries
import GatewayRouting.Trie

/-!
# The trie as a map from addresses

The *address* of a node is the list of segments on the way to it. `Trie.at?` is what is bound at an
address; nothing else of a trie matters, as the main statements say:

* `at?_insertAt` : an insertion changes the binding at its address only;
* `conflict_insertAt` : an insertion has the conflict that arises at its address;
* `Canonical.ext` : two tries that bind alike at every address are the same trie, provided that both
  are *canonical*, that is, structural nodes keep no path, children ascend and every subtrie holds a
  binding;
* `Canonical.insertAt`, `Canonical.insertAt_eq_self` : insertions keep tries canonical, and change
  nothing when they fail.
-/

namespace GatewayRouting.Trie

/-! ## Induction over tries -/

section Induction

variable {motive : Trie → Prop}

mutual

theorem forall_of_node
    (node : ∀ path targets? cs, (∀ c ∈ cs, motive c.2) → motive (.node path targets? cs)) :
    ∀ t : Trie, motive t
  | .node path targets? cs => node path targets? cs (forall_below_of_node node cs)

theorem forall_below_of_node
    (node : ∀ path targets? cs, (∀ c ∈ cs, motive c.2) → motive (.node path targets? cs)) :
    ∀ cs : List (String × Trie), ∀ c ∈ cs, motive c.2
  | [] => fun _ hc => absurd hc List.not_mem_nil
  | (_, t) :: rest => fun c hc => by
    rcases List.mem_cons.1 hc with rfl | hc
    · exact forall_of_node node t
    · exact forall_below_of_node node rest c hc

end

/-- What passes from all children of a node to the node holds of every trie. -/
@[elab_as_elim, induction_eliminator]
theorem inductionOn (t : Trie)
    (node : ∀ path targets? cs, (∀ c ∈ cs, motive c.2) → motive (.node path targets? cs)) :
    motive t :=
  forall_of_node node t

end Induction

/-! ## Addresses -/

/-- What is bound at an address. -/
def at? (t : Trie) (s : List String) : Option Endpoint :=
  (descend? s t).bind endpoint

@[simp]
theorem endpoint_node (path : String) (targets? : Option Targets) (cs : List (String × Trie)) :
    (Trie.node path targets? cs).endpoint = targets?.map (Endpoint.mk path) := rfl

@[simp]
theorem children_node (path : String) (targets? : Option Targets) (cs : List (String × Trie)) :
    (Trie.node path targets? cs).children = cs := rfl

/-- Nothing is bound at a structural node. -/
theorem endpoint_eq_none_iff {t : Trie} : t.endpoint = none ↔ t.targets? = none :=
  Option.map_eq_none_iff

/-- What is bound at a node are its path and its targets. -/
theorem endpoint_eq_some_iff {t : Trie} {e : Endpoint} :
    t.endpoint = some e ↔ t.path = e.path ∧ t.targets? = some e.targets := by
  rw [endpoint, Option.map_eq_some_iff]
  constructor
  · rintro ⟨targets, htargets, rfl⟩
    exact ⟨rfl, htargets⟩
  · rintro ⟨hpath, htargets⟩
    exact ⟨e.targets, htargets, by rw [hpath]⟩

@[simp]
theorem at?_nil (t : Trie) : t.at? [] = t.endpoint := rfl

theorem at?_cons (t : Trie) (k : String) (s : List String) :
    t.at? (k :: s) = (t.children.lookup k).bind (at? · s) := by
  simp only [at?, descend?, Option.bind_assoc]

/-- Nothing is bound in the trie without routes. -/
@[simp]
theorem at?_empty (s : List String) : empty.at? s = none := by
  cases s with
  | nil => rfl
  | cons k s => rfl

/-- What is bound below a child, where a child that is missing counts as an empty one. -/
theorem at?_cons_getD (t : Trie) (k : String) (s : List String) :
    t.at? (k :: s) = ((t.children.lookup k).getD empty).at? s := by
  rw [at?_cons]
  cases t.children.lookup k with
  | none => simp
  | some child => rfl

/-- Descending along two lists in a row is descending along their concatenation. -/
theorem descend?_append (s s' : List String) (t : Trie) :
    descend? (s ++ s') t = (descend? s t).bind (descend? s') := by
  induction s generalizing t with
  | nil => rfl
  | cons k s ih =>
    simp only [List.cons_append, descend?, Option.bind_assoc]
    congr 1
    funext child
    exact ih child

/-! ## Insertion -/

/-- An insertion has the conflict that arises at its address. -/
theorem conflict_insertAt (r : Route) (s : List String) (t : Trie) :
    (insertAt r s t).conflict = (Endpoint.bind (t.at? s) r).conflict := by
  induction s generalizing t with
  | nil => rfl
  | cons k s ih =>
    -- the insertion goes on in the child, and the conflict comes back unchanged
    rw [at?_cons_getD]
    exact ih _

/-- An insertion changes what is bound at its address and nowhere else. -/
theorem at?_insertAt (r : Route) (s : List String) (t : Trie) (s' : List String) :
    (insertAt r s t).trie.at? s' =
      if s' = s then some (Endpoint.bind (t.at? s) r).endpoint else t.at? s' := by
  induction s generalizing t s' with
  | nil =>
    cases s' with
    | nil => rfl
    | cons k' s' => simp [insertAt, at?_cons]
  | cons k s ih =>
    cases s' with
    | nil => rfl
    | cons k' s' =>
      simp only [at?_cons_getD, insertAt, children_node, List.cons.injEq, Entries.lookup_put]
      by_cases hk : k' = k
      · rw [if_pos hk, Option.getD_some, ih, hk]
        simp
      · simp [hk]

/-! ## Canonical tries -/

/-- Some route ends in the trie. -/
def Occupied (t : Trie) : Prop :=
  ∃ s e, t.at? s = some e

theorem Occupied.not_forall_eq_none {t : Trie} (h : t.Occupied) : ¬ ∀ s, t.at? s = none := by
  obtain ⟨s, e, hs⟩ := h
  intro hnone
  rw [hnone s] at hs
  cases hs

/-- Structural nodes keep an empty path, children are in ascending order at every node, and a route
ends in every subtrie below the top. -/
inductive Canonical : Trie → Prop where
  | node {path : String} {targets? : Option Targets} {cs : List (String × Trie)}
      (structural : targets? = none → path = "") (ascending : Entries.Ascending cs)
      (occupied : ∀ c ∈ cs, Occupied c.2) (below : ∀ c ∈ cs, Canonical c.2) :
      Canonical (.node path targets? cs)

theorem canonical_empty : Canonical empty :=
  .node (fun _ => rfl) .nil (fun _ hc => absurd hc List.not_mem_nil)
    (fun _ hc => absurd hc List.not_mem_nil)

/-- A structural node at the top of a canonical trie keeps an empty path. -/
theorem Canonical.path_eq_empty {t : Trie} (ht : t.Canonical) (h : t.targets? = none) :
    t.path = "" := by
  cases ht with
  | node structural ascending occupied below => exact structural h

/-- Path and targets of a node are told by what is bound there. -/
theorem Canonical.eq_of_endpoint_eq {t t' : Trie} (ht : t.Canonical) (ht' : t'.Canonical)
    (h : t.endpoint = t'.endpoint) : t.path = t'.path ∧ t.targets? = t'.targets? := by
  cases hendpoint : t.endpoint with
  | none =>
    have hnone := endpoint_eq_none_iff.1 hendpoint
    have hnone' := endpoint_eq_none_iff.1 (h.symm.trans hendpoint)
    rw [ht.path_eq_empty hnone, ht'.path_eq_empty hnone', hnone, hnone']
    exact ⟨rfl, rfl⟩
  | some e =>
    obtain ⟨hpath, htargets⟩ := endpoint_eq_some_iff.1 hendpoint
    obtain ⟨hpath', htargets'⟩ := endpoint_eq_some_iff.1 (h.symm.trans hendpoint)
    exact ⟨hpath.trans hpath'.symm, htargets.trans htargets'.symm⟩

/-- An insertion keeps a trie canonical, whether it succeeds or fails. -/
theorem Canonical.insertAt (r : Route) (s : List String) {t : Trie} (ht : t.Canonical) :
    (Trie.insertAt r s t).trie.Canonical := by
  induction s generalizing t with
  | nil =>
    cases ht with
    | node structural ascending occupied below =>
      exact .node (fun hnone => by cases hnone) ascending occupied below
  | cons k s ih =>
    cases ht with
    | node structural ascending occupied below =>
      rename_i path targets? cs
      have hcanonical : ((cs.lookup k).getD empty).Canonical := by
        cases hlookup : cs.lookup k with
        | none => exact canonical_empty
        | some child => exact below _ (Entries.mem_of_lookup_eq_some hlookup)
      refine .node structural (Entries.ascending_put ascending k _) ?_ ?_
      · intro c hc
        rcases Entries.mem_of_mem_put hc with rfl | hc
        · -- whether or not the route was refused, a route ends at its address now
          exact ⟨s, _, by rw [at?_insertAt, if_pos rfl]⟩
        · exact occupied c hc
      · intro c hc
        rcases Entries.mem_of_mem_put hc with rfl | hc
        · exact ih hcanonical
        · exact below c hc

/-- An insertion that fails leaves a canonical trie as it was. -/
theorem Canonical.insertAt_eq_self {r : Route} {s : List String} {t : Trie} {c : Conflict}
    (ht : t.Canonical) (h : (Trie.insertAt r s t).conflict = some c) :
    (Trie.insertAt r s t).trie = t := by
  induction s generalizing t with
  | nil =>
    -- what the conflict leaves at the node are the path and the targets that were there
    have hleft : some (Endpoint.bind t.endpoint r).endpoint = t.endpoint :=
      Endpoint.some_endpoint_bind_of_conflict h
    obtain ⟨hpath, htargets⟩ := endpoint_eq_some_iff.1 hleft.symm
    simp only [Trie.insertAt, ← hpath, ← htargets]
    cases t
    rfl
  | cons k s ih =>
    cases ht with
    | node structural ascending occupied below =>
      rename_i path targets? cs
      cases hlookup : cs.lookup k with
      | none =>
        -- a node that would have to be made refuses no route
        rw [conflict_insertAt, at?_cons, children_node, hlookup] at h
        cases h
      | some child =>
        simp only [Trie.insertAt, children_node, hlookup, Option.getD_some] at h ⊢
        have hchild := ih (below _ (Entries.mem_of_lookup_eq_some hlookup)) h
        rw [hchild, Entries.put_eq_self ascending hlookup]
        rfl

/-- Canonical tries are determined by what they bind at each address. -/
theorem Canonical.ext {t t' : Trie} (ht : t.Canonical) (ht' : t'.Canonical)
    (h : ∀ s, t.at? s = t'.at? s) : t = t' := by
  induction t generalizing t' with
  | node path targets? cs ih =>
    have htop := ht.eq_of_endpoint_eq ht' (h [])
    cases ht with
    | node structural ascending occupied below =>
      cases ht' with
      | node structural' ascending' occupied' below' =>
        rename_i path' targets?' cs'
        obtain ⟨hpath, htargets⟩ : path = path' ∧ targets? = targets?' := htop
        -- the bindings below each child agree, also where one of the children is missing
        have hbelow : ∀ k s,
            (cs.lookup k).bind (at? · s) = (cs'.lookup k).bind (at? · s) := by
          intro k s
          simpa only [at?_cons, children_node] using h (k :: s)
        have hchildren : cs = cs' := by
          refine Entries.ext_of_lookup ascending ascending' fun k => ?_
          -- a child on one side only would be occupied without a binding on the other side
          cases hlookup : cs.lookup k with
          | none =>
            cases hlookup' : cs'.lookup k with
            | none => rfl
            | some c' =>
              have hc' := Entries.mem_of_lookup_eq_some hlookup'
              refine absurd (fun s => ?_) (occupied' _ hc').not_forall_eq_none
              simpa [hlookup, hlookup'] using (hbelow k s).symm
          | some c =>
            have hc := Entries.mem_of_lookup_eq_some hlookup
            cases hlookup' : cs'.lookup k with
            | none =>
              refine absurd (fun s => ?_) (occupied _ hc).not_forall_eq_none
              simpa [hlookup, hlookup'] using hbelow k s
            | some c' =>
              have hc' := Entries.mem_of_lookup_eq_some hlookup'
              have hsame : ∀ s, c.at? s = c'.at? s := by
                intro s
                simpa [hlookup, hlookup'] using hbelow k s
              exact congrArg some (ih _ hc (below _ hc) (below' _ hc') hsame)
        rw [hpath, htargets, hchildren]

end GatewayRouting.Trie
