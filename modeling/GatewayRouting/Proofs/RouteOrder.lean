import GatewayRouting.Proofs.Compiled

/-!
# The order of the routes does not matter

As long as routes that end at one node spell its path alike, a permutation of the routes leads to the
same trie (`ofRoutes_perm`), and with it to the same configuration or the same fault of its variables
(`compile_perm`). Commuting pairs of insertions are not considered: two canonical tries are compared
address by address, and a group of compatible routes binds the same in any order
(`Endpoint.ofRoutes_perm`).
-/

namespace GatewayRouting

/-- The routes of a list that end at one node spell their path alike. -/
def SpelledAlike (routes : List Route) : Prop :=
  ∀ r ∈ routes, ∀ r' ∈ routes, Path.segments r.path = Path.segments r'.path → r.path = r'.path

instance (routes : List Route) : Decidable (SpelledAlike routes) :=
  inferInstanceAs (Decidable (∀ _ ∈ _, _))

theorem SpelledAlike.perm {routes routes' : List Route} (h : SpelledAlike routes)
    (hperm : routes.Perm routes') : SpelledAlike routes' := by
  intro r hr r' hr'
  exact h r (hperm.mem_iff.2 hr) r' (hperm.mem_iff.2 hr')

theorem ConflictFree.perm {routes routes' : List Route} (h : ConflictFree routes)
    (hperm : routes.Perm routes') : ConflictFree routes' := by
  refine hperm.pairwise h fun {r r'} hcompatible haddress => ?_
  exact (hcompatible haddress.symm).symm

/-! ## Groups -/

/-- The table of a group of compatible routes does not depend on their order, as no two routes of the
group declare the same method. -/
theorem MethodTable.ofRoutes_perm {group group' : List Route} (hperm : group.Perm group')
    (hgroup : group.Pairwise Route.Compatible) : ofRoutes group = ofRoutes group' := by
  have hgroup' : group'.Pairwise Route.Compatible :=
    hperm.pairwise hgroup fun {r r'} hcompatible => hcompatible.symm
  ext1
  funext m
  by_cases hm : ∃ r ∈ group, m ∈ r.declared
  · obtain ⟨r, hr, hmr⟩ := hm
    rw [get?_ofRoutes_of_mem hgroup hr hmr,
      get?_ofRoutes_of_mem hgroup' (hperm.mem_iff.1 hr) hmr]
  · have hnone : (ofRoutes group).get? m = none :=
      get?_ofRoutes_eq_none_iff.2 fun r hr hmr => hm ⟨r, hr, hmr⟩
    have hnone' : (ofRoutes group').get? m = none :=
      get?_ofRoutes_eq_none_iff.2 fun r hr hmr => hm ⟨r, hperm.mem_iff.2 hr, hmr⟩
    rw [hnone, hnone']

/-- A group of compatible routes with one path binds the same in any order. -/
theorem Endpoint.ofRoutes_perm {group group' : List Route} (hperm : group.Perm group')
    (hgroup : group.Pairwise Route.Compatible)
    (hpath : ∀ r ∈ group, ∀ r' ∈ group, r.path = r'.path) : ofRoutes group = ofRoutes group' := by
  by_cases hnil : ∃ r ∈ group, r.declared = []
  · -- the group is a single route
    obtain ⟨r, hr, hdeclared⟩ := hnil
    have hsingle := eq_singleton_of_declared_eq_nil hgroup hr hdeclared
    rw [hsingle] at hperm ⊢
    rw [List.singleton_perm.1 hperm]
  · -- all routes are restricted to methods, so only the first path and the table count
    have htable := MethodTable.ofRoutes_perm hperm hgroup
    cases group with
    | nil => rw [List.nil_perm.1 hperm]
    | cons r rest =>
      cases group' with
      | nil => exact absurd (List.perm_nil.1 hperm) (by simp)
      | cons r' rest' =>
        have hr' : r' ∈ r :: rest := hperm.mem_iff.2 List.mem_cons_self
        have hr : r ∈ r :: rest := List.mem_cons_self
        have hdeclared : r.declared ≠ [] := fun h => hnil ⟨r, hr, h⟩
        have hdeclared' : r'.declared ≠ [] := fun h => hnil ⟨r', hr', h⟩
        simp [ofRoutes, hdeclared, hdeclared', hpath r hr r' hr', htable]

/-! ## Tries -/

/-- Routes without conflicts that spell alike lead to the same trie in any order. -/
theorem ofRoutes_perm {routes routes' : List Route} (hperm : routes.Perm routes')
    (hpaths : SpelledAlike routes) (hfree : ConflictFree routes) :
    Trie.ofRoutes routes = Trie.ofRoutes routes' := by
  obtain ⟨t, ht⟩ := ofRoutes_ok_iff.2 hfree
  have hgathers := gathers_of_ofRoutes ht
  -- the trie gathers the other list as well, as the groups at an address are permutations
  have hgathers' : Gathers t routes' := by
    refine ⟨hgathers.canonical, fun s => ?_⟩
    rw [hgathers.at?_eq]
    refine Endpoint.ofRoutes_perm (hperm.filter _) (hfree.routesAt s) fun r hr r' hr' => ?_
    obtain ⟨hr, haddress⟩ := mem_routesAt.1 hr
    obtain ⟨hr', haddress'⟩ := mem_routesAt.1 hr'
    exact hpaths r hr r' hr' (haddress.trans haddress'.symm)
  rw [ht, hgathers'.ofRoutes_eq (hfree.perm hperm)]

/-! ## Compilation -/

/-- Valid routes compile alike when they have the same trie. -/
theorem compile_eq_of_ofRoutes_eq {routes routes' : List Route} (hvalid : ∀ r ∈ routes, r.Valid)
    (hvalid' : ∀ r ∈ routes', r.Valid) (h : Trie.ofRoutes routes = Trie.ofRoutes routes') :
    compile routes = compile routes' := by
  rw [compile, compile, validateAll_ok_iff.2 hvalid, validateAll_ok_iff.2 hvalid', h]

/-- Valid routes without conflicts that spell alike compile alike in any order. -/
theorem compile_eq_of_perm {routes routes' : List Route} (hperm : routes.Perm routes')
    (hpaths : SpelledAlike routes) (hvalid : ∀ r ∈ routes, r.Valid)
    (hfree : ConflictFree routes) : compile routes = compile routes' := by
  have hvalid' : ∀ r ∈ routes', r.Valid := fun r hr => hvalid r (hperm.mem_iff.2 hr)
  exact compile_eq_of_ofRoutes_eq hvalid hvalid' (ofRoutes_perm hperm hpaths hfree)

/-- Routes that compile do so in any order, with the same configuration. -/
theorem compile_ok_of_perm {routes routes' : List Route} {c : ProxyConfig}
    (hperm : routes.Perm routes') (hpaths : SpelledAlike routes) (h : compile routes = .ok c) :
    compile routes' = .ok c := by
  obtain ⟨t, ht, -⟩ := exists_compiled h
  rw [← compile_eq_of_perm hperm hpaths ht.valid ht.conflictFree]
  exact h

/-- The order of routes that spell alike decides neither whether they compile nor what the
configuration is; and for valid routes without conflicts it does not decide the fault either. -/
theorem compile_perm {routes routes' : List Route} (hperm : routes.Perm routes')
    (hpaths : ∀ r ∈ routes, ∀ r' ∈ routes,
      Path.segments r.path = Path.segments r'.path → r.path = r'.path) :
    ((∃ c, compile routes = .ok c) ↔ ∃ c, compile routes' = .ok c) ∧
    (∀ c c', compile routes = .ok c → compile routes' = .ok c' → c = c') ∧
    ((∀ r ∈ routes, r.validate = .ok ()) → ConflictFree routes →
      compile routes = compile routes') := by
  have hpaths' : SpelledAlike routes' := SpelledAlike.perm hpaths hperm
  refine ⟨⟨?_, ?_⟩, ?_, ?_⟩
  · rintro ⟨c, hc⟩
    exact ⟨c, compile_ok_of_perm hperm hpaths hc⟩
  · rintro ⟨c, hc⟩
    exact ⟨c, compile_ok_of_perm hperm.symm hpaths' hc⟩
  · intro c c' hc hc'
    have hsame := compile_ok_of_perm hperm hpaths hc
    rw [hc'] at hsame
    exact (Except.ok.inj hsame).symm
  · intro hvalid hfree
    exact compile_eq_of_perm hperm hpaths (fun r hr => Route.validate_ok_iff.1 (hvalid r hr)) hfree

/-- Routes in which two nodes derive the same variable. -/
def collidingRoutes : List Route :=
  [⟨"/a/b", some [.get], "1"⟩, ⟨"/a_b", some [.get, .put], "2"⟩, ⟨"/a/b", some [.post], "3"⟩,
    ⟨"/a", none, "4"⟩]

theorem compile_perm_collidingRoutes :
    compile collidingRoutes = .error (.variableCollision "a_b_target" "/a/b" "/a_b") ∧
      compile collidingRoutes = compile collidingRoutes.reverse := by
  have hperm : collidingRoutes.Perm collidingRoutes.reverse := (List.reverse_perm _).symm
  have hpaths : SpelledAlike collidingRoutes := by decide
  exact ⟨rfl, (compile_perm hperm hpaths).2.2 (by decide) (by decide)⟩

end GatewayRouting
