import GatewayRouting.Proofs.Compiled

/-!
# Reports of conflicts

When routes cannot be gathered in a trie, one of them is reported: the first one that clashes with a route
before it. `Reports` says what is told about it, by means of the routes that ended at its node before.

* `Endpoint.conflict_bind_ofRoutes_eq_some_iff` : a node refuses a route with exactly these reports;
* `foldlM_eq_error_iff` : a sequence of steps fails at the first one that fails;
* `report_of_conflict` : both together for a list of routes, and what a compilation reports.
-/

namespace GatewayRouting

/-! ## Clashes -/

/-- Two routes clash when they end at one node and one of them takes every method, or both declare the
same method. -/
def Route.Clashes (r r' : Route) : Prop :=
  r.address = r'.address ∧
    (r.declared = [] ∨ r'.declared = [] ∨ ∃ m ∈ r.declared, m ∈ r'.declared)

instance Route.decidableClashes (r r' : Route) : Decidable (r.Clashes r') := by
  unfold Clashes
  infer_instance

theorem Route.not_clashes_iff {r r' : Route} :
    ¬ r.Clashes r' ↔ (r.address = r'.address → r.Compatible r') := by
  unfold Clashes Compatible
  constructor
  · intro h hsame
    simp only [not_and, not_or, not_exists] at h
    exact h hsame
  · rintro h ⟨hsame, hclash⟩
    rcases h hsame with ⟨hr, hr', hdisjoint⟩
    rcases hclash with hnil | hnil | ⟨m, hm, hm'⟩
    · exact hr hnil
    · exact hr' hnil
    · exact hdisjoint m hm hm'

/-- A list is free of conflicts when no route clashes with one before it. -/
theorem conflictFree_iff {routes : List Route} :
    ConflictFree routes ↔ routes.Pairwise fun r r' => ¬ r.Clashes r' := by
  simp only [Route.not_clashes_iff, ConflictFree]

/-! ## Reports -/

/-- What is reported about a route that the routes that ended at its node before do not let in. -/
inductive Reports (group : List Route) (r : Route) : Conflict → Prop where
  /-- One of them takes every method. The report shows all that they bind, and the route. -/
  | methodAgnostic {first : Route} {e : Endpoint} (hfirst : group.head? = some first)
      (hbound : Endpoint.ofRoutes group = some e)
      (hall : r.declared = [] ∨ ∃ a ∈ group, a.declared = []) :
      Reports group r (.methodAgnostic first.path e.display r.display)
  /-- All are restricted to methods. The report names the first method of the route, in its own order,
  that is declared before, and the one route that declares it. -/
  | duplicateMethod {first owner : Route} {m : Method} (hfirst : group.head? = some first)
      (hsome : r.declared ≠ [] ∧ ∀ a ∈ group, a.declared ≠ [])
      (hmethod : (r.declared.find? fun m => ∃ a ∈ group, m ∈ a.declared) = some m)
      (howner : (group.filter fun a => m ∈ a.declared) = [owner]) :
      Reports group r (.duplicateMethod first.path m owner.target r.target)

/-- In a group of compatible routes one route declares a given method, if any does. -/
theorem MethodTable.get?_ofRoutes_eq_some_iff_filter {group : List Route} {m : Method}
    {target : String} (hgroup : group.Pairwise Route.Compatible) :
    (ofRoutes group).get? m = some target ↔
      ∃ owner, (group.filter fun a => m ∈ a.declared) = [owner] ∧ owner.target = target := by
  have hget : (ofRoutes group).get? m =
      (group.filter fun a => m ∈ a.declared).head?.map Route.target := by
    rw [List.head?_filter, ofRoutes]
  rw [hget]
  -- two routes that declare the method would not be compatible
  have hpairwise := hgroup.filter fun a => decide (m ∈ a.declared)
  have hdeclares : ∀ a ∈ group.filter fun a => m ∈ a.declared, m ∈ a.declared := by
    intro a ha
    simpa using (List.mem_filter.1 ha).2
  cases hfilter : group.filter fun a => m ∈ a.declared with
  | nil => simp
  | cons owner rest =>
    rw [hfilter] at hpairwise hdeclares
    have hrest : rest = [] := by
      apply List.eq_nil_iff_forall_not_mem.2
      intro a ha
      have hcompatible := (List.pairwise_cons.1 hpairwise).1 a ha
      exact hcompatible.2.2 m (hdeclares owner List.mem_cons_self)
        (hdeclares a (List.mem_cons_of_mem _ ha))
    simp [hrest]

theorem MethodTable.isSome_get?_ofRoutes {group : List Route} {m : Method} :
    ((ofRoutes group).get? m).isSome = decide (∃ a ∈ group, m ∈ a.declared) := by
  rw [Bool.eq_iff_iff, ofRoutes, Option.isSome_map, List.find?_isSome]
  simp

namespace Endpoint

/-- The first bound method is the first one that has an entry. -/
theorem firstBound_eq_some_iff {table : MethodTable} {ms : List Method} {m : Method}
    {target : String} :
    firstBound table ms = some (m, target) ↔
      (ms.find? fun m => (table.get? m).isSome) = some m ∧ table.get? m = some target := by
  induction ms with
  | nil => simp [firstBound]
  | cons m' ms ih =>
    unfold firstBound
    cases hget : table.get? m' with
    | none => simp [hget, ih]
    | some target' =>
      simp only [hget, List.find?_cons, Option.isSome_some, Option.some.injEq, Prod.mk.injEq]
      constructor
      · rintro ⟨rfl, rfl⟩
        exact ⟨rfl, hget⟩
      · rintro ⟨rfl, htarget⟩
        rw [hget, Option.some.injEq] at htarget
        exact ⟨rfl, htarget⟩

/-- Where one route takes every method, nothing can be merged. -/
theorem conflict_bind_ofRoutes_of_all {group : List Route}
    (hgroup : group.Pairwise Route.Compatible) {r : Route} {e : Endpoint} (hbound : ofRoutes group = some e)
    (hall : r.declared = [] ∨ ∃ a ∈ group, a.declared = []) :
    (bind (some e) r).conflict = some (e.ambiguity r) := by
  cases group with
  | nil => cases hbound
  | cons first rest =>
    cases hbound
    unfold bind merge
    by_cases hfirst : first.declared = []
    · simp [hfirst]
    · -- the first route is restricted to methods, and with it all that ended there
      have hr : r.declared = [] := by
        rcases hall with hr | ⟨a, ha, hnil⟩
        · exact hr
        · exact absurd hnil (Route.declared_ne_nil_of_head hgroup hfirst a ha)
      simp [hfirst, hr]

/-- Where all routes are restricted to methods, the methods of the route are looked up in the table of
the group. -/
theorem conflict_bind_ofRoutes_of_some {first : Route} {rest : List Route} {r : Route}
    (hsome : r.declared ≠ [] ∧ ∀ a ∈ first :: rest, a.declared ≠ []) (c : Conflict) :
    (bind (ofRoutes (first :: rest)) r).conflict = some c ↔
      ∃ m target, firstBound (.ofRoutes (first :: rest)) r.declared = some (m, target) ∧
        c = .duplicateMethod first.path m target r.target := by
  have hfirst := hsome.2 first List.mem_cons_self
  simp only [bind, ofRoutes, merge, List.isEmpty_iff, hfirst, hsome.1, if_false]
  cases hbound : firstBound (.ofRoutes (first :: rest)) r.declared with
  | none => simp
  | some b => simp [Prod.ext_iff, eq_comm]

/-- A node refuses a route with the report that its group makes about the route. -/
theorem conflict_bind_ofRoutes_eq_some_iff {group : List Route}
    (hgroup : group.Pairwise Route.Compatible) {r : Route} {c : Conflict} :
    (bind (ofRoutes group) r).conflict = some c ↔ Reports group r c := by
  cases group with
  | nil =>
    constructor
    · intro h
      cases h
    · intro h
      cases h with
      | methodAgnostic hfirst => cases hfirst
      | duplicateMethod hfirst => cases hfirst
  | cons first rest =>
    by_cases hall : r.declared = [] ∨ ∃ a ∈ first :: rest, a.declared = []
    · have hbind := conflict_bind_ofRoutes_of_all hgroup rfl hall
      constructor
      · intro h
        cases hbind.symm.trans h
        exact .methodAgnostic rfl rfl hall
      · intro h
        cases h with
        | methodAgnostic hfirst hbound =>
          cases hfirst
          cases hbound
          exact hbind
        | duplicateMethod hfirst hsome =>
          rcases hall with hnil | ⟨a, ha, hnil⟩
          · exact absurd hnil hsome.1
          · exact absurd hnil (hsome.2 a ha)
    · have hsome : r.declared ≠ [] ∧ ∀ a ∈ first :: rest, a.declared ≠ [] := by
        constructor
        · intro hnil
          exact hall (.inl hnil)
        · intro a ha hnil
          exact hall (.inr ⟨a, ha, hnil⟩)
      simp only [conflict_bind_ofRoutes_of_some hsome, firstBound_eq_some_iff,
        MethodTable.get?_ofRoutes_eq_some_iff_filter hgroup, MethodTable.isSome_get?_ofRoutes]
      constructor
      · rintro ⟨m, target, ⟨hmethod, owner, howner, rfl⟩, rfl⟩
        exact .duplicateMethod rfl hsome hmethod howner
      · intro h
        cases h with
        | methodAgnostic hfirst hbound hall' => exact absurd hall' hall
        | duplicateMethod hfirst hsome' hmethod howner =>
          cases hfirst
          exact ⟨_, _, ⟨hmethod, _, howner, rfl⟩, rfl⟩

end Endpoint

/-! ## The first failure -/

/-- A fold that can fail fails at some element, with the error of that step, and all steps before it
succeed. -/
theorem foldlM_eq_error_iff {σ α ε : Type} {step : σ → α → Except ε σ} {s : σ} {xs : List α} {e : ε} :
    xs.foldlM step s = .error e ↔
      ∃ before x after s', xs = before ++ x :: after ∧ before.foldlM step s = .ok s' ∧
        step s' x = .error e := by
  constructor
  · intro h
    induction xs generalizing s with
    | nil => cases h
    | cons x rest ih =>
      rw [List.foldlM_cons] at h
      cases hstep : step s x with
      | error e' =>
        rw [hstep] at h
        cases h
        exact ⟨[], x, rest, s, rfl, rfl, hstep⟩
      | ok s' =>
        rw [hstep] at h
        rcases ih h with ⟨before, y, after, s'', hsplit, hbefore, hy⟩
        refine ⟨x :: before, y, after, s'', congrArg (x :: ·) hsplit, ?_, hy⟩
        rw [List.foldlM_cons, hstep]
        exact hbefore
  · rintro ⟨before, x, after, s', rfl, hbefore, hx⟩
    rw [List.foldlM_append, hbefore]
    show (x :: after).foldlM step s' = .error e
    rw [List.foldlM_cons, hx]
    rfl

/-- An insertion that has to succeed. -/
def Trie.tryInsert (t : Trie) (r : Route) : Except Conflict Trie :=
  match (t.insert r).conflict with
  | some c => .error c
  | none => .ok (t.insert r).trie

/-- A sequence of insertions is a fold of such steps. -/
theorem Trie.insertAll_eq_foldlM (t : Trie) (routes : List Route) :
    t.insertAll routes = routes.foldlM tryInsert t := by
  induction routes generalizing t with
  | nil => rfl
  | cons r rest ih =>
    rw [List.foldlM_cons, insertAll, tryInsert]
    cases (t.insert r).conflict with
    | some c => rfl
    | none => exact ih _

/-- A trie that gathers routes refuses one more with the report of the routes at its address. -/
theorem Gathers.tryInsert_eq_error_iff {t : Trie} {routes : List Route} (h : Gathers t routes)
    (hfree : ConflictFree routes) {r : Route} {c : Conflict} :
    t.tryInsert r = .error c ↔ Reports (routesAt routes r.address) r c := by
  have hconflict : t.tryInsert r = .error c ↔ (t.insert r).conflict = some c := by
    unfold Trie.tryInsert
    cases (t.insert r).conflict <;> simp
  rw [hconflict, Trie.insert, Trie.conflict_insertAt, h.at?_eq]
  exact Endpoint.conflict_bind_ofRoutes_eq_some_iff (hfree.routesAt r.address)

/-- Gathering a list of routes fails at the first route that is refused. -/
theorem ofRoutes_eq_error_iff {routes : List Route} {c : Conflict} :
    Trie.ofRoutes routes = .error c ↔
      ∃ earlier r later, routes = earlier ++ r :: later ∧ ConflictFree earlier ∧
        Reports (routesAt earlier r.address) r c := by
  rw [Trie.ofRoutes, Trie.insertAll_eq_foldlM, foldlM_eq_error_iff]
  simp only [← Trie.insertAll_eq_foldlM]
  constructor
  · rintro ⟨earlier, r, later, t, hsplit, ht, hr⟩
    have hfree : ConflictFree earlier := ofRoutes_ok_iff.1 ⟨t, ht⟩
    exact ⟨earlier, r, later, hsplit, hfree,
      ((gathers_of_ofRoutes ht).tryInsert_eq_error_iff hfree).1 hr⟩
  · rintro ⟨earlier, r, later, hsplit, hfree, hr⟩
    rcases ofRoutes_ok_iff.2 hfree with ⟨t, ht⟩
    exact ⟨earlier, r, later, t, hsplit, ht,
      ((gathers_of_ofRoutes ht).tryInsert_eq_error_iff hfree).2 hr⟩

/-- A validation is a fold that keeps nothing. -/
theorem validateAll_eq_foldlM (routes : List Route) :
    validateAll routes = routes.foldlM (fun _ r => r.validate) () := by
  induction routes with
  | nil => rfl
  | cons r rest ih =>
    rw [List.foldlM_cons, validateAll]
    cases r.validate with
    | error fault => rfl
    | ok u => exact ih

/-- Validating a list of routes fails at the first route that is not valid. -/
theorem validateAll_eq_error_iff {routes : List Route} {fault : InvalidRoute} :
    validateAll routes = .error fault ↔
      ∃ before r after, routes = before ++ r :: after ∧ (∀ a ∈ before, a.Valid) ∧
        r.validate = .error fault := by
  rw [validateAll_eq_foldlM, foldlM_eq_error_iff]
  simp only [← validateAll_eq_foldlM]
  constructor
  · rintro ⟨before, r, after, ⟨⟩, hsplit, hbefore, hr⟩
    exact ⟨before, r, after, hsplit, validateAll_ok_iff.1 hbefore, hr⟩
  · rintro ⟨before, r, after, hsplit, hbefore, hr⟩
    exact ⟨before, r, after, (), hsplit, validateAll_ok_iff.2 hbefore, hr⟩

/-! ## What a compilation reports -/

/-- A compilation fails at one of its steps, with the fault of that step: validating the routes,
gathering them, or checking the variables. -/
theorem compile_eq_error_iff_cases {routes : List Route} {fault : CompileError} :
    compile routes = .error fault ↔
      (∃ f, validateAll routes = .error f ∧ fault = .invalidRoute f) ∨
      (validateAll routes = .ok () ∧ ∃ c, Trie.ofRoutes routes = .error c ∧ fault = .conflict c) ∨
      (validateAll routes = .ok () ∧ ∃ t, Trie.ofRoutes routes = .ok t ∧
        t.proxyConfig.checkVariables = .error fault) := by
  unfold compile
  cases validateAll routes with
  | error f => simp [eq_comm]
  | ok u =>
    cases Trie.ofRoutes routes with
    | error c => simp [eq_comm]
    | ok t => cases hcheck : t.proxyConfig.checkVariables <;> simp [hcheck]

/-- The check of the variables reports neither invalid routes nor conflicts. -/
theorem ProxyConfig.checkVariables_ne_error {p : ProxyConfig} {fault : CompileError}
    (h : p.checkVariables = .error fault) :
    (∀ f, fault ≠ .invalidRoute f) ∧ ∀ c, fault ≠ .conflict c := by
  rcases checkVariables_eq_error h with ⟨l, -, v, -, -, rfl⟩ | ⟨v, path, path', rfl⟩
  · simp
  · simp

/-- A compilation reports an invalid route exactly when the validation does. -/
theorem compile_eq_invalidRoute_iff {routes : List Route} {fault : InvalidRoute} :
    compile routes = .error (.invalidRoute fault) ↔ validateAll routes = .error fault := by
  rw [compile_eq_error_iff_cases]
  constructor
  · rintro (⟨f, hf, heq⟩ | ⟨-, c, -, heq⟩ | ⟨-, t, -, hcheck⟩)
    · cases heq
      exact hf
    · cases heq
    · exact absurd rfl ((ProxyConfig.checkVariables_ne_error hcheck).1 fault)
  · intro h
    exact .inl ⟨fault, h, rfl⟩

/-- A compilation of valid routes reports a conflict exactly when gathering them does. -/
theorem compile_eq_conflict_iff {routes : List Route} {c : Conflict} :
    compile routes = .error (.conflict c) ↔
      (∀ r ∈ routes, r.Valid) ∧ Trie.ofRoutes routes = .error c := by
  rw [compile_eq_error_iff_cases, ← validateAll_ok_iff]
  constructor
  · rintro (⟨f, -, heq⟩ | ⟨hvalid, c', hc', heq⟩ | ⟨-, t, -, hcheck⟩)
    · cases heq
    · cases heq
      exact ⟨hvalid, hc'⟩
    · exact absurd rfl ((ProxyConfig.checkVariables_ne_error hcheck).2 c)
  · rintro ⟨hvalid, hc⟩
    exact .inr (.inl ⟨hvalid, c, hc, rfl⟩)

/-- A route that is reported clashes with a route that ended at its node before. -/
theorem Reports.exists_clashes {routes : List Route} {r : Route} {c : Conflict}
    (h : Reports (routesAt routes r.address) r c) : ∃ a ∈ routes, a.Clashes r := by
  have hof : ∀ a ∈ routesAt routes r.address,
      (a.declared = [] ∨ r.declared = [] ∨ ∃ m ∈ a.declared, m ∈ r.declared) →
        ∃ a ∈ routes, a.Clashes r := by
    intro a ha hclash
    rcases mem_routesAt.1 ha with ⟨hmem, haddress⟩
    exact ⟨a, hmem, haddress, hclash⟩
  cases h with
  | methodAgnostic hfirst hbound hall =>
    rcases hall with hr | ⟨a, ha, hnil⟩
    · exact hof _ (List.mem_of_mem_head? hfirst) (.inr (.inl hr))
    · exact hof a ha (.inl hnil)
  | duplicateMethod hfirst hsome hmethod howner =>
    rename_i first owner m
    have hmem : owner ∈ (routesAt routes r.address).filter fun a => m ∈ a.declared := by
      rw [howner]
      exact List.mem_singleton_self owner
    rcases List.mem_filter.1 hmem with ⟨ha, hdeclares⟩
    exact hof owner ha (.inr (.inr ⟨m, of_decide_eq_true hdeclares, List.mem_of_find?_eq_some hmethod⟩))

/-- Gathering a list of routes fails at the first route that clashes with one before it, with the report
that the earlier routes at its node make about it, and in no other case. A compilation reports the same
conflict if all routes are valid, and the fault of the first invalid route if there is one. -/
theorem report_of_conflict (routes : List Route) :
    (∀ c, Trie.ofRoutes routes = .error c ↔
      ∃ earlier r later, routes = earlier ++ r :: later ∧
        (earlier.Pairwise fun a b => ¬ a.Clashes b) ∧ (∃ a ∈ earlier, a.Clashes r) ∧
        Reports (routesAt earlier r.address) r c) ∧
    (∀ c, compile routes = .error (.conflict c) ↔
      (∀ r ∈ routes, r.Valid) ∧ Trie.ofRoutes routes = .error c) ∧
    ∀ fault, compile routes = .error (.invalidRoute fault) ↔
      ∃ before r after, routes = before ++ r :: after ∧ (∀ a ∈ before, a.Valid) ∧
        r.validate = .error fault := by
  refine ⟨?_, ?_, ?_⟩
  · intro c
    rw [ofRoutes_eq_error_iff]
    simp only [conflictFree_iff]
    constructor
    · rintro ⟨earlier, r, later, hsplit, hfree, hreport⟩
      exact ⟨earlier, r, later, hsplit, hfree, hreport.exists_clashes, hreport⟩
    · rintro ⟨earlier, r, later, hsplit, hfree, -, hreport⟩
      exact ⟨earlier, r, later, hsplit, hfree, hreport⟩
  · intro c
    exact compile_eq_conflict_iff
  · intro fault
    rw [compile_eq_invalidRoute_iff, validateAll_eq_error_iff]

/-- Two spellings of a path. The last route shares methods with both that end there before. -/
def clashingRoutes : List Route :=
  [⟨"/a/b", some [.put], "http://x"⟩, ⟨"/c", none, "http://r"⟩,
    ⟨"/a//b/", some [.post, .get], "http://y"⟩, ⟨"/a/b/", some [.delete, .put, .get], "http://z"⟩]

/-- The method reported is the first one that the last route declares, and the path is the first
spelling. -/
theorem report_of_clashingRoutes :
    Trie.ofRoutes clashingRoutes = .error (.duplicateMethod "/a/b" .put "http://x" "http://z") := by
  apply ((report_of_conflict clashingRoutes).1 _).2
  refine ⟨clashingRoutes.take 3, _, [], rfl, ?_, ?_, ?_⟩
  · decide +kernel
  · decide +kernel
  · have hgroup : routesAt (clashingRoutes.take 3) (Path.segments "/a/b/") =
        [⟨"/a/b", some [.put], "http://x"⟩, ⟨"/a//b/", some [.post, .get], "http://y"⟩] := by
      decide +kernel
    have hfirst : (routesAt (clashingRoutes.take 3) (Path.segments "/a/b/")).head? =
        some ⟨"/a/b", some [.put], "http://x"⟩ := by
      rw [hgroup]
      rfl
    have howner : ((routesAt (clashingRoutes.take 3) (Path.segments "/a/b/")).filter
        fun a => Method.put ∈ a.declared) = [⟨"/a/b", some [.put], "http://x"⟩] := by
      rw [hgroup]
      decide
    refine .duplicateMethod hfirst ?_ ?_ howner
    · decide +kernel
    · decide +kernel

end GatewayRouting
