import GatewayRouting.Proofs.Compiled

/-!
# Which lists of routes compile

`Acceptable` says of a list of routes, without tries, locations or walks, that it compiles
(`compile_succeeds_iff`).
-/

namespace GatewayRouting

/-- The conditions under which a list of routes compiles. -/
structure Acceptable (routes : List Route) : Prop where
  /-- Every route is valid on its own. -/
  valid : ∀ r ∈ routes, r.Valid
  /-- Two routes that end at one node are both restricted to methods and share none. -/
  conflictFree : ConflictFree routes
  /-- The variables hold only ASCII letters, digits and underscores. -/
  variable_chars : ∀ s v, DerivesVariable routes s v →
    ∀ c ∈ v.toList, c.isAlphanum = true ∨ c = '_'
  /-- No two addresses have the same variable. -/
  variables_distinct : ∀ s s' v, DerivesVariable routes s v → DerivesVariable routes s' v → s = s'
  /-- A target that is written out as it stands is none of the variables. -/
  targets_literal : ∀ r ∈ routes, (methodsAt routes r.address).length ≤ 1 →
    ∀ s v, DerivesVariable routes s v → r.target ≠ "$" ++ v

variable {routes : List Route} {t : Trie}

/-- The trie of acceptable routes passes the check of its variables. -/
theorem Gathered.checkVariables_ok_of_acceptable (h : Gathered routes t) (ha : Acceptable routes) :
    t.proxyConfig.checkVariables = .ok () := by
  -- a variable in use is always derived where it is used, as no literal target is one
  have hderives : ∀ s e v, t.at? s = some e → variableOf? t.mapNames e.proxyTarget = some v →
      DerivesVariable routes s v := by
    intro s e v hs hv
    obtain ⟨htarget, hmem⟩ := variableOf?_eq_some_iff.1 hv
    obtain ⟨s', hs'⟩ := h.mem_mapNames_iff.1 hmem
    rcases h.many_or_few hs with ⟨-, hM⟩ | ⟨hfew, -, r, hgroup, hr⟩
    · refine h.derivesVariable_iff.2 ⟨e, _, hs, hM, ?_⟩
      rw [Endpoint.proxyTarget_of_methodMap? hM] at htarget
      exact String.append_right_inj _ |>.1 htarget
    · have hmem : r ∈ routesAt routes s := by
        rw [hgroup]
        exact List.mem_cons_self
      obtain ⟨hr', haddress⟩ := mem_routesAt.1 hmem
      refine absurd (hr.symm.trans htarget) (ha.targets_literal r hr' ?_ s' v hs')
      rw [haddress]
      exact hfew
  rw [h.gathers.canonical.checkVariables_ok_iff]
  constructor
  · intro s e v hs hv
    have hv' := hderives s e v hs hv
    obtain ⟨r, -, rfl⟩ := hv'.name
    exact isVariableName_mapVariable_iff.2 (ha.variable_chars s _ hv')
  · intro s e s' e' v hs hv hs' hv'
    exact ha.variables_distinct s s' v (hderives s e v hs hv) (hderives s' e' v hs' hv')

/-- Routes that compile are acceptable. -/
theorem Compiled.acceptable (h : Compiled routes t) : Acceptable routes := by
  refine ⟨h.valid, h.conflictFree, ?_, fun s s' v => h.derivesVariable_unique, ?_⟩
  · intro s v hv
    obtain ⟨e, M, hs, -, -⟩ := h.derivesVariable_iff.1 hv
    have hvalid := (h.gathers.canonical.checkVariables_ok_iff.1 h.checked).1 s e v hs
      (h.variableOf?_of_derives hs hv)
    obtain ⟨r, -, hname⟩ := hv.name
    rw [hname] at hvalid ⊢
    exact isVariableName_mapVariable_iff.1 hvalid
  · intro r hr hfew s v hv htarget
    -- with at most one method the route is alone in its group, and its target is written out
    have hmem : r ∈ routesAt routes r.address := mem_routesAt.2 ⟨hr, rfl⟩
    obtain ⟨e, hs⟩ := h.exists_at? hmem
    rcases h.many_or_few hs with ⟨hmany, -⟩ | ⟨-, -, r', hgroup, hr'⟩
    · omega
    · -- the literal target would use a variable, which its own address does not derive
      rw [hgroup, List.mem_singleton] at hmem
      have huse : variableOf? t.mapNames e.proxyTarget = some v := by
        rw [variableOf?_eq_some_iff, hr', ← hmem]
        exact ⟨htarget, h.mem_mapNames_iff.2 ⟨s, hv⟩⟩
      have hmany := (h.derivesVariable_of_use hs huse).many
      omega

/-- A list of routes compiles exactly when it is acceptable. -/
theorem compile_succeeds_iff {routes : List Route} :
    (∃ c, compile routes = .ok c) ↔ Acceptable routes := by
  constructor
  · rintro ⟨c, hc⟩
    obtain ⟨t, ht, -⟩ := exists_compiled hc
    exact ht.acceptable
  · intro ha
    obtain ⟨t, ht⟩ := ofRoutes_ok_iff.2 ha.conflictFree
    have hgathered := gathered_of_ofRoutes ha.valid ht
    exact ⟨t.proxyConfig, compile_ok_iff.2
      ⟨ha.valid, t, ht, hgathered.checkVariables_ok_of_acceptable ha, rfl⟩⟩

end GatewayRouting
