import GatewayRouting.Proofs.TrieAddress

/-!
# Routes that end at one node

A list of routes falls into groups, one for each address. `Endpoint.ofRoutes` says what a group binds
together, without running any insertion, and `Gathers` relates a trie to the routes inserted so far.

* `ofRoutes_ok_iff` : the routes of a list can be gathered in a trie exactly when any two that end at
  one node are compatible;
* `gathers_of_ofRoutes` : the trie then binds at every address what the group of that address binds.
-/

namespace GatewayRouting

/-! ## Groups -/

/-- The address of the node at which a route ends. -/
def Route.address (r : Route) : List String :=
  Path.segments r.path

/-- The routes of a list that end at an address, in order. -/
def routesAt (routes : List Route) (s : List String) : List Route :=
  routes.filter fun r => r.address = s

@[simp]
theorem mem_routesAt {routes : List Route} {s : List String} {r : Route} :
    r ∈ routesAt routes s ↔ r ∈ routes ∧ r.address = s := by
  simp [routesAt]

theorem routesAt_append (routes routes' : List Route) (s : List String) :
    routesAt (routes ++ routes') s = routesAt routes s ++ routesAt routes' s :=
  List.filter_append ..

theorem routesAt_eq_nil_iff {routes : List Route} {s : List String} :
    routesAt routes s = [] ↔ ∀ r ∈ routes, r.address ≠ s := by
  simp [routesAt]

/-- Two routes can end at one node when both are restricted to methods and share none. -/
def Route.Compatible (r r' : Route) : Prop :=
  r.declared ≠ [] ∧ r'.declared ≠ [] ∧ ∀ m ∈ r.declared, m ∉ r'.declared

instance : DecidableRel Route.Compatible :=
  fun _ _ => inferInstanceAs (Decidable (_ ∧ _))

theorem Route.Compatible.symm {r r' : Route} (h : r.Compatible r') : r'.Compatible r :=
  ⟨h.2.1, h.1, fun m hm hm' => h.2.2 m hm' hm⟩

/-- When the first route of a group is restricted to methods, all of them are. -/
theorem Route.declared_ne_nil_of_head {r : Route} {rest : List Route}
    (hgroup : (r :: rest).Pairwise Route.Compatible) (hr : r.declared ≠ []) :
    ∀ r' ∈ r :: rest, r'.declared ≠ [] := by
  intro r' hr'
  rcases List.mem_cons.1 hr' with rfl | hr'
  · exact hr
  · exact ((List.pairwise_cons.1 hgroup).1 r' hr').2.1

/-- Any two routes of a list that end at one node are compatible. -/
def ConflictFree (routes : List Route) : Prop :=
  routes.Pairwise fun r r' => r.address = r'.address → r.Compatible r'

instance (routes : List Route) : Decidable (ConflictFree routes) :=
  inferInstanceAs (Decidable (List.Pairwise _ _))

theorem ConflictFree.routesAt {routes : List Route} (h : ConflictFree routes) (s : List String) :
    (routesAt routes s).Pairwise Route.Compatible := by
  refine (List.Pairwise.filter _ h).imp_of_mem ?_
  intro r r' hr hr' hcompatible
  exact hcompatible ((mem_routesAt.1 hr).2.trans (mem_routesAt.1 hr').2.symm)

/-- One more route keeps a list free of conflicts when it is compatible with its group. -/
theorem conflictFree_concat {routes : List Route} {r : Route} :
    ConflictFree (routes ++ [r]) ↔
      ConflictFree routes ∧ ∀ r' ∈ GatewayRouting.routesAt routes r.address, r'.Compatible r := by
  simp only [ConflictFree, List.pairwise_append, List.pairwise_singleton, List.mem_singleton,
    forall_eq, true_and, mem_routesAt, and_imp]

/-! ## What a group binds -/

/-- The table of a group: a method leads to the target of the first route that declares it. -/
def MethodTable.ofRoutes (group : List Route) : MethodTable :=
  ⟨fun m => (group.find? fun r => m ∈ r.declared).map Route.target⟩

/-- What the routes of a group bind together, under the path of the first. -/
def Endpoint.ofRoutes : List Route → Option Endpoint
  | [] => none
  | r :: rest =>
    some ⟨r.path,
      if r.declared.isEmpty then .single r.target else .byMethod (.ofRoutes (r :: rest))⟩

theorem MethodTable.get?_ofRoutes_eq_none_iff {group : List Route} {m : Method} :
    (ofRoutes group).get? m = none ↔ ∀ r ∈ group, m ∉ r.declared := by
  simp [ofRoutes]

/-- In a group of compatible routes no method is declared twice, so the first route that declares a
method is the only one. -/
theorem MethodTable.get?_ofRoutes_of_mem {group : List Route} {r : Route} {m : Method}
    (hgroup : group.Pairwise Route.Compatible) (hr : r ∈ group) (hm : m ∈ r.declared) :
    (ofRoutes group).get? m = some r.target := by
  induction group with
  | nil => exact absurd hr List.not_mem_nil
  | cons r' rest ih =>
    obtain ⟨hhead, hrest⟩ := List.pairwise_cons.1 hgroup
    rcases List.mem_cons.1 hr with rfl | hr
    · simp [ofRoutes, hm]
    · -- the first route does not declare `m` as well, so the search passes it
      have hne : m ∉ r'.declared := fun hm' => (hhead r hr).2.2 m hm' hm
      simpa [ofRoutes, hne] using ih hrest hr

theorem MethodTable.ofRoutes_singleton (r : Route) :
    ofRoutes [r] = const r.declared r.target := by
  ext1
  funext m
  by_cases hm : m ∈ r.declared <;> simp [ofRoutes, const, hm]

/-- The table of two groups together answers as that of the first, where this one has an answer. -/
theorem MethodTable.get?_ofRoutes_append (group group' : List Route) (m : Method) :
    (ofRoutes (group ++ group')).get? m =
      ((ofRoutes group).get? m).or ((ofRoutes group').get? m) := by
  simp only [ofRoutes, List.find?_append, Option.map_or]

/-- One more route, whose methods are free, sets its methods in the table of a group. -/
theorem MethodTable.ofRoutes_concat {group : List Route} {r : Route}
    (hfree : ∀ m ∈ r.declared, (ofRoutes group).get? m = none) :
    ofRoutes (group ++ [r]) = (ofRoutes group).insertAll r.declared r.target := by
  ext1
  funext m
  rw [get?_ofRoutes_append, ofRoutes_singleton, get?_insertAll]
  by_cases hm : m ∈ r.declared
  · simp [const, hm, hfree m hm]
  · simp [const, hm]

namespace Endpoint

@[simp]
theorem ofRoutes_eq_none_iff {group : List Route} : ofRoutes group = none ↔ group = [] := by
  cases group <;> simp [ofRoutes]

theorem ofRoutes_singleton (r : Route) : ofRoutes [r] = some (ofRoute r) := by
  simp only [ofRoutes, ofRoute, Targets.ofRoute, MethodTable.ofRoutes_singleton]

theorem firstBound_eq_none_iff {table : MethodTable} {ms : List Method} :
    firstBound table ms = none ↔ ∀ m ∈ ms, table.get? m = none := by
  induction ms with
  | nil => simp [firstBound]
  | cons m ms ih =>
    unfold firstBound
    split
    · next target hget => simp [hget]
    · next hget => simp [hget, ih]

/-- A group accepts one more route exactly when it is compatible with all of its routes. -/
theorem conflict_bind_ofRoutes_eq_none_iff {group : List Route}
    (hgroup : group.Pairwise Route.Compatible) (r : Route) :
    (bind (ofRoutes group) r).conflict = none ↔ ∀ r' ∈ group, r'.Compatible r := by
  cases group with
  | nil => simp [ofRoutes, bind]
  | cons r₀ rest =>
    simp only [bind, ofRoutes, merge]
    by_cases hr₀ : r₀.declared = []
    · -- the group takes every method, so nothing can join it
      refine iff_of_false ?_ fun h => (h r₀ List.mem_cons_self).1 hr₀
      simp [hr₀]
    by_cases hr : r.declared = []
    · -- the route takes every method, so it cannot join
      refine iff_of_false ?_ fun h => (h r₀ List.mem_cons_self).2.1 hr
      simp [hr₀, hr]
    simp only [List.isEmpty_iff, hr₀, hr, if_false]
    have hdeclared := Route.declared_ne_nil_of_head hgroup hr₀
    have hfree : firstBound (.ofRoutes (r₀ :: rest)) r.declared = none ↔
        ∀ r' ∈ r₀ :: rest, r'.Compatible r := by
      simp only [firstBound_eq_none_iff, MethodTable.get?_ofRoutes_eq_none_iff]
      constructor
      · intro h r' hr'
        exact ⟨hdeclared r' hr', hr, fun m hm' hm => h m hm r' hr' hm'⟩
      · intro h m hm r' hr' hm'
        exact (h r' hr').2.2 m hm' hm
    rw [← hfree]
    split
    · next m existing hbound => simp [hbound]
    · next hbound => simp [hbound]

/-- A group that accepts a route binds afterwards what the longer group binds. -/
theorem ofRoutes_concat {group : List Route} {r : Route}
    (h : (bind (ofRoutes group) r).conflict = none) :
    ofRoutes (group ++ [r]) = some (bind (ofRoutes group) r).endpoint := by
  cases group with
  | nil => exact ofRoutes_singleton r
  | cons r₀ rest =>
    simp only [bind, ofRoutes, merge] at h ⊢
    by_cases hr₀ : r₀.declared = []
    · simp [hr₀] at h
    by_cases hr : r.declared = []
    · simp [hr₀, hr] at h
    simp only [List.isEmpty_iff, hr₀, hr, if_false] at h ⊢
    cases hbound : firstBound (.ofRoutes (r₀ :: rest)) r.declared with
    | some b => simp [hbound] at h
    | none =>
      have hconcat := MethodTable.ofRoutes_concat (firstBound_eq_none_iff.1 hbound)
      rw [List.cons_append] at hconcat
      simp [hr₀, hconcat]

end Endpoint

/-! ## Gathering routes in a trie -/

/-- A canonical trie that binds at every address what the routes ending there bind together. -/
structure Gathers (t : Trie) (routes : List Route) : Prop where
  canonical : t.Canonical
  at?_eq : ∀ s, t.at? s = Endpoint.ofRoutes (routesAt routes s)

theorem gathers_empty : Gathers Trie.empty [] :=
  ⟨Trie.canonical_empty, fun s => Trie.at?_empty s⟩

/-- An insertion is accepted exactly when the route is compatible with its group. -/
theorem Gathers.conflict_insert_iff {t : Trie} {routes : List Route} (h : Gathers t routes)
    (hfree : ConflictFree routes) (r : Route) :
    (t.insert r).conflict = none ↔ ConflictFree (routes ++ [r]) := by
  have hbind := Endpoint.conflict_bind_ofRoutes_eq_none_iff (hfree.routesAt r.address) r
  rw [← h.at?_eq] at hbind
  rw [conflictFree_concat, ← hbind, Trie.insert, Trie.conflict_insertAt]
  exact (and_iff_right hfree).symm

/-- An insertion that is accepted adds the route to its group. -/
theorem Gathers.insert {t : Trie} {routes : List Route} (h : Gathers t routes) {r : Route}
    (hr : (t.insert r).conflict = none) : Gathers (t.insert r).trie (routes ++ [r]) := by
  rw [Trie.insert, Trie.conflict_insertAt] at hr
  refine ⟨h.canonical.insertAt r _, fun s => ?_⟩
  rw [Trie.insert, Trie.at?_insertAt, routesAt_append]
  -- the route joins the group of its own address, and the others stay as they are
  by_cases hs : s = Path.segments r.path
  · have hgroup : routesAt [r] s = [r] := by simp [routesAt, Route.address, hs]
    rw [← hs, h.at?_eq] at hr
    rw [if_pos hs, hgroup, ← hs, h.at?_eq]
    exact (Endpoint.ofRoutes_concat hr).symm
  · have hgroup : routesAt [r] s = [] := by simp [routesAt, Route.address, Ne.symm hs]
    rw [if_neg hs, hgroup, List.append_nil]
    exact h.at?_eq s

/-- Inserting further routes succeeds exactly when all routes together are free of conflicts. -/
theorem Gathers.insertAll_ok_iff {t : Trie} {routes : List Route} (h : Gathers t routes)
    (hfree : ConflictFree routes) (more : List Route) :
    (∃ t', t.insertAll more = .ok t') ↔ ConflictFree (routes ++ more) := by
  induction more generalizing t routes with
  | nil => simp [Trie.insertAll, hfree]
  | cons r more ih =>
    have happend : routes ++ r :: more = routes ++ [r] ++ more := by simp
    have hstep := h.conflict_insert_iff hfree r
    simp only [Trie.insertAll]
    cases hconflict : (t.insert r).conflict with
    | none =>
      rw [happend]
      exact ih (h.insert hconflict) (hstep.1 hconflict)
    | some c =>
      -- a conflict among the routes so far is not resolved by later ones
      have hnot : ¬ ConflictFree (routes ++ [r]) := by
        rw [← hstep, hconflict]
        simp
      rw [happend]
      constructor
      · rintro ⟨t', ht'⟩
        cases ht'
      · intro hall
        exact absurd (List.pairwise_append.1 hall).1 hnot

theorem Gathers.insertAll {t t' : Trie} {routes more : List Route} (h : Gathers t routes)
    (hall : t.insertAll more = .ok t') : Gathers t' (routes ++ more) := by
  induction more generalizing t routes with
  | nil =>
    cases hall
    simpa using h
  | cons r more ih =>
    simp only [Trie.insertAll] at hall
    cases hconflict : (t.insert r).conflict with
    | none =>
      rw [hconflict] at hall
      have happend : routes ++ r :: more = routes ++ [r] ++ more := by simp
      rw [happend]
      exact ih (h.insert hconflict) hall
    | some c =>
      rw [hconflict] at hall
      cases hall

/-- A list of routes has a trie exactly when it is free of conflicts. -/
theorem ofRoutes_ok_iff {routes : List Route} :
    (∃ t, Trie.ofRoutes routes = .ok t) ↔ ConflictFree routes :=
  gathers_empty.insertAll_ok_iff .nil routes

/-- The trie of a list of routes binds at every address what the routes ending there bind. -/
theorem gathers_of_ofRoutes {t : Trie} {routes : List Route} (h : Trie.ofRoutes routes = .ok t) :
    Gathers t routes :=
  gathers_empty.insertAll h

/-- A trie that gathers routes without conflicts is the one that they lead to. -/
theorem Gathers.ofRoutes_eq {t : Trie} {routes : List Route} (h : Gathers t routes)
    (hfree : ConflictFree routes) : Trie.ofRoutes routes = .ok t := by
  obtain ⟨t', ht'⟩ := ofRoutes_ok_iff.2 hfree
  have h' := gathers_of_ofRoutes ht'
  have hsame : ∀ s, t'.at? s = t.at? s := by
    intro s
    rw [h'.at?_eq, h.at?_eq]
  rw [ht', h'.canonical.ext h.canonical hsame]

end GatewayRouting
