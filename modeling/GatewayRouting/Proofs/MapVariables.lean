import GatewayRouting.Compile
import GatewayRouting.Proofs.TrieListing
import Mathlib.Data.List.Nodup
import Mathlib.Data.List.Pairwise

/-!
# The check of map variables

The check walks through the locations with a table of the variables met so far. It passes exactly when
every variable in use is a variable name and none is used twice (`checkVariables_ok_iff`); of the
order of the walk nothing remains. For the output of a canonical trie this is a statement about its
bindings (`Trie.Canonical.checkVariables_ok_iff`). When it does not pass, it reports a variable in use
that is no variable name, or two locations that use one variable (`checkVariables_eq_error`,
`collision_of_nodup`).

The check takes locations off a list of pending ones; `checkPending_eq` says that this is a walk through
all of them.
-/

namespace GatewayRouting

/-! ## Names -/

/-- A target is read as a variable when it is a dollar sign before one of the names. -/
theorem variableOf?_eq_some_iff {names : List String} {target v : String} :
    variableOf? names target = some v ↔ target = "$" ++ v ∧ v ∈ names := by
  have hdollar : ∀ cs, target.toList = '$' :: cs ↔ target = "$" ++ String.ofList cs := by
    intro cs
    rw [← String.toList_inj, String.toList_append, String.toList_ofList]
    simp
  unfold variableOf?
  split
  · next cs hcs =>
    have htarget := (hdollar cs).1 hcs
    constructor
    · intro h
      split at h
      · next hmem =>
        cases h
        exact ⟨htarget, hmem⟩
      · cases h
    · rintro ⟨hv, hmem⟩
      have hcs' : String.ofList cs = v := by
        rw [hv, String.toList_append] at hcs
        have htail : v.toList = cs := List.cons.inj hcs |>.2
        rw [← htail, String.ofList_toList]
      rw [hcs', if_pos hmem]
  · next hnot =>
    constructor
    · intro h
      cases h
    · rintro ⟨hv, -⟩
      refine absurd ?_ (hnot v.toList)
      rw [hdollar, String.ofList_toList]
      exact hv

/-- The variable of a path ends in `_target`, so only its characters can be wrong. -/
theorem isVariableName_mapVariable_iff {path : String} :
    isVariableName (Path.mapVariable path) = true ↔
      ∀ c ∈ (Path.mapVariable path).toList, c.isAlphanum = true ∨ c = '_' := by
  have hne : (Path.mapVariable path).isEmpty = false := by
    rw [Bool.eq_false_iff, ne_eq, String.isEmpty_iff, Path.mapVariable, ← String.toList_inj,
      String.toList_append]
    simp
  simp [isVariableName, hne]

/-! ## The walk -/

/-- Checks the variables of locations one after the other. -/
def checkVariables (names : List String) (owners : List (String × String)) :
    List Location → Except CompileError Unit
  | [] => .ok ()
  | l :: rest =>
    match checkVariable names owners l with
    | .error fault => .error fault
    | .ok owners' => checkVariables names owners' rest

section Walk

variable {names : List String} {owners : List (String × String)} {l : Location}
  {rest : List Location}

/-- What is pending is checked in the order of the walk that starts with the last location, if there are
rounds for all of it. -/
theorem checkPending_eq {rounds : Nat} {pending : List Location}
    (hrounds : (Location.lastFirstAll pending).length ≤ rounds) :
    checkPending names rounds owners pending =
      checkVariables names owners (Location.lastFirstAll pending) := by
  induction rounds generalizing owners pending with
  | zero =>
    have hnil : Location.lastFirstAll pending = [] :=
      List.eq_nil_of_length_eq_zero (Nat.le_zero.1 hrounds)
    rw [hnil]
    rfl
  | succ rounds ih =>
    rcases List.eq_nil_or_concat' pending with rfl | ⟨others, l, rfl⟩
    · rfl
    · rw [Location.lastFirstAll_concat] at hrounds ⊢
      simp only [checkPending, List.getLast?_concat, List.dropLast_concat, checkVariables]
      cases checkVariable names owners l with
      | error fault => rfl
      | ok owners' => exact ih (Nat.le_of_succ_le_succ hrounds)

/-- A literal target is passed over. -/
theorem checkVariables_cons_of_literal (h : variableOf? names l.target = none) :
    checkVariables names owners (l :: rest) = checkVariables names owners rest := by
  rw [checkVariables, checkVariable, h]

/-- A variable has to be well named and new, and is owned for the rest of the walk. -/
theorem checkVariables_cons_of_variable {v : String} (h : variableOf? names l.target = some v) :
    checkVariables names owners (l :: rest) = .ok () ↔
      isVariableName v = true ∧ owners.lookup v = none ∧
        checkVariables names ((v, l.path) :: owners) rest = .ok () := by
  rw [checkVariables, checkVariable, h]
  by_cases hname : isVariableName v = true
  · cases hlookup : owners.lookup v with
    | none => simp [hname, hlookup]
    | some path =>
      -- an owner that is found ends the walk, whichever of the two paths comes first
      by_cases hlt : l.path < path <;> simp [hname, hlookup, hlt]
  · simp [hname]

theorem lookup_cons_eq_none_iff {v v' path : String} :
    ((v, path) :: owners).lookup v' = none ↔ v' ≠ v ∧ owners.lookup v' = none := by
  simp [List.lookup_eq_none_iff]

/-- The walk passes when every variable in use is a variable name, is not owned yet, and is met only
once. -/
theorem checkVariables_ok_iff {ls : List Location} :
    checkVariables names owners ls = .ok () ↔
      (∀ target ∈ ls.map Location.target, ∀ v, variableOf? names target = some v →
        isVariableName v = true ∧ owners.lookup v = none) ∧
      ((ls.map Location.target).filterMap (variableOf? names)).Nodup := by
  -- the table of owners grows along the walk, so the induction is for any table
  induction ls generalizing owners with
  | nil => simp [checkVariables]
  | cons l rest ih =>
    rw [List.map_cons, List.forall_mem_cons]
    cases hl : variableOf? names l.target with
    | none =>
      rw [checkVariables_cons_of_literal hl, ih, List.filterMap_cons_none hl]
      simp
    | some v =>
      rw [checkVariables_cons_of_variable hl, ih, List.filterMap_cons_some hl, List.nodup_cons]
      simp only [lookup_cons_eq_none_iff, Option.some.injEq, forall_eq', List.mem_filterMap,
        not_exists, not_and]
      constructor
      · rintro ⟨hname, hfree, hrest, hnodup⟩
        refine ⟨⟨⟨hname, hfree⟩, fun target ht v' hv' => ?_⟩, fun target ht hv => ?_, hnodup⟩
        · exact ⟨(hrest target ht v' hv').1, (hrest target ht v' hv').2.2⟩
        · exact (hrest target ht v hv).2.1 rfl
      · rintro ⟨⟨⟨hname, hfree⟩, hrest⟩, hfresh, hnodup⟩
        refine ⟨hname, hfree, fun target ht v' hv' => ?_, hnodup⟩
        refine ⟨(hrest target ht v' hv').1, ?_, (hrest target ht v' hv').2⟩
        -- the variable that is owned from here on is met no more
        intro heq
        exact hfresh target ht (heq ▸ hv')

/-- The fault of a location is about its variable, which is no variable name or is owned already. -/
theorem checkVariable_eq_error {fault : CompileError}
    (h : checkVariable names owners l = .error fault) :
    ∃ v, variableOf? names l.target = some v ∧
      (isVariableName v = false ∧ fault = .invalidVariableName v l.path ∨
        ∃ path, owners.lookup v = some path ∧
          fault = if l.path < path then .variableCollision v l.path path
            else .variableCollision v path l.path) := by
  unfold checkVariable at h
  split at h
  · cases h
  · next v hv =>
    refine ⟨v, hv, ?_⟩
    split at h
    · next hname =>
      cases h
      exact .inl ⟨by simpa using hname, rfl⟩
    · split at h
      · cases h
      · next path hpath =>
        refine .inr ⟨path, hpath, ?_⟩
        split at h
        · next hlt =>
          cases h
          rw [if_pos hlt]
        · next hlt =>
          cases h
          rw [if_neg hlt]

/-- A path that is owned after a location was owned before, or is that of the location. -/
theorem lookup_of_checkVariable {owners' : List (String × String)}
    (h : checkVariable names owners l = .ok owners') {v path : String}
    (hpath : owners'.lookup v = some path) :
    owners.lookup v = some path ∨ variableOf? names l.target = some v ∧ l.path = path := by
  cases hl : variableOf? names l.target with
  | none =>
    rw [checkVariable, hl] at h
    cases h
    exact .inl hpath
  | some v' =>
    simp only [checkVariable, hl] at h
    split at h
    · cases h
    · split at h
      · cases h
        rw [List.lookup_cons] at hpath
        split at hpath
        · next heq =>
          cases hpath
          exact .inr ⟨congrArg some (eq_of_beq heq).symm, rfl⟩
        · exact .inl hpath
      · split at h <;> cases h

/-- The first location ends a walk with its fault, or the walk goes on with the owners after it. -/
theorem checkVariables_cons_eq_error {fault : CompileError}
    (h : checkVariables names owners (l :: rest) = .error fault) :
    checkVariable names owners l = .error fault ∨
      ∃ owners', checkVariable names owners l = .ok owners' ∧
        checkVariables names owners' rest = .error fault := by
  rw [checkVariables] at h
  cases hl : checkVariable names owners l with
  | error fault' =>
    rw [hl] at h
    cases h
    exact .inl rfl
  | ok owners' =>
    rw [hl] at h
    exact .inr ⟨owners', rfl, h⟩

/-- The walk fails at a variable that is no variable name, or with a collision. -/
theorem checkVariables_eq_error {ls : List Location} {fault : CompileError}
    (h : checkVariables names owners ls = .error fault) :
    (∃ l ∈ ls, ∃ v, variableOf? names l.target = some v ∧ isVariableName v = false ∧
      fault = .invalidVariableName v l.path) ∨
    ∃ v path path', fault = .variableCollision v path path' := by
  induction ls generalizing owners with
  | nil => cases h
  | cons l rest ih =>
    rcases checkVariables_cons_eq_error h with hl | ⟨owners', -, hrest⟩
    · rcases checkVariable_eq_error hl with ⟨v, hv, ⟨hname, hfault⟩ | ⟨path, -, hfault⟩⟩
      · exact .inl ⟨l, List.mem_cons_self, v, hv, hname, hfault⟩
      · -- whichever of the two paths comes first
        split at hfault
        · exact .inr ⟨_, _, _, hfault⟩
        · exact .inr ⟨_, _, _, hfault⟩
    · rcases ih hrest with ⟨l', hl', hfault⟩ | hcollision
      · exact .inl ⟨l', List.mem_cons_of_mem _ hl', hfault⟩
      · exact .inr hcollision

/-- A collision is one of a location with an owner from the start, or with a location that was met
before. -/
theorem checkVariables_eq_collision {ls : List Location} {v path path' : String}
    (h : checkVariables names owners ls = .error (.variableCollision v path path')) :
    ∃ before l after owner, ls = before ++ l :: after ∧ variableOf? names l.target = some v ∧
      (owners.lookup v = some owner ∨
        ∃ l' ∈ before, variableOf? names l'.target = some v ∧ l'.path = owner) ∧
      CompileError.variableCollision v path path' =
        if l.path < owner then .variableCollision v l.path owner
        else .variableCollision v owner l.path := by
  induction ls generalizing owners with
  | nil => cases h
  | cons l rest ih =>
    rcases checkVariables_cons_eq_error h with hl | ⟨owners', hl, hrest⟩
    · rcases checkVariable_eq_error hl with ⟨v', hv', ⟨-, hfault⟩ | ⟨owner, howner, hfault⟩⟩
      · cases hfault
      · have heq : v = v' := by
          split at hfault
          · cases hfault
            rfl
          · cases hfault
            rfl
        subst heq
        exact ⟨[], l, rest, owner, rfl, hv', .inl howner, hfault⟩
    · rcases ih hrest with ⟨before, l', after, owner, hsplit, hv, howner, hfault⟩
      refine ⟨l :: before, l', after, owner, congrArg (l :: ·) hsplit, hv, ?_, hfault⟩
      rcases howner with howner | ⟨l₀, hl₀, hmet⟩
      · -- an owner of the rest of the walk may be the location that was just passed
        rcases lookup_of_checkVariable hl howner with hold | hnew
        · exact .inl hold
        · exact .inr ⟨l, List.mem_cons_self, hnew⟩
      · exact .inr ⟨l₀, List.mem_cons_of_mem _ hl₀, hmet⟩

/-- Where no two locations have the same path, a collision names the paths of two of them that use the
variable, in ascending order. -/
theorem collision_of_nodup {ls : List Location} {v path path' : String}
    (hpaths : (ls.map Location.path).Nodup)
    (h : checkVariables names [] ls = .error (.variableCollision v path path')) :
    path < path' ∧ ∀ p ∈ [path, path'],
      ∃ l ∈ ls, l.path = p ∧ variableOf? names l.target = some v := by
  rcases checkVariables_eq_collision h with ⟨before, l, after, owner, rfl, hv, howner, hfault⟩
  rcases howner with hnone | ⟨l', hl', hv', rfl⟩
  · cases hnone
  have hmem : l ∈ before ++ l :: after :=
    List.mem_append_right before List.mem_cons_self
  have hmem' : l' ∈ before ++ l :: after :=
    List.mem_append_left (l :: after) hl'
  have hne : l'.path ≠ l.path := by
    rw [List.map_append, List.map_cons, List.nodup_append] at hpaths
    exact hpaths.2.2 _ (List.mem_map_of_mem hl') _ List.mem_cons_self
  split at hfault
  · next hlt =>
    cases hfault
    refine ⟨hlt, ?_⟩
    simp only [List.forall_mem_cons]
    exact ⟨⟨l, hmem, rfl, hv⟩, ⟨l', hmem', rfl, hv'⟩, by simp⟩
  · next hlt =>
    cases hfault
    refine ⟨Std.lt_of_le_of_ne (String.not_lt.1 hlt) hne, ?_⟩
    simp only [List.forall_mem_cons]
    exact ⟨⟨l', hmem', rfl, hv'⟩, ⟨l, hmem, rfl, hv⟩, by simp⟩

end Walk

/-! ## Whole configurations -/

namespace ProxyConfig

variable {c : ProxyConfig}

/-- A configuration is checked from its last location to its first. -/
theorem checkVariables_eq (c : ProxyConfig) :
    c.checkVariables = GatewayRouting.checkVariables (c.maps.map MethodMap.name) []
      (Location.lastFirstAll c.locations) :=
  checkPending_eq (Location.lastFirstAll_perm c.locations).length_eq.le

/-- The order of the walk does not matter. -/
theorem checkVariables_ok_iff :
    c.checkVariables = .ok () ↔
      (∀ target ∈ (Location.preorderAll c.locations).map Location.target, ∀ v,
        variableOf? (c.maps.map MethodMap.name) target = some v → isVariableName v = true) ∧
      (((Location.preorderAll c.locations).map Location.target).filterMap
        (variableOf? (c.maps.map MethodMap.name))).Nodup := by
  have hperm := (Location.lastFirstAll_perm c.locations).map Location.target
  rw [c.checkVariables_eq, GatewayRouting.checkVariables_ok_iff, (hperm.filterMap _).nodup_iff]
  simp only [hperm.mem_iff, List.lookup_nil, and_true]

/-- A configuration fails at a location whose variable is no variable name, or with a collision. -/
theorem checkVariables_eq_error {fault : CompileError} (h : c.checkVariables = .error fault) :
    (∃ l ∈ Location.preorderAll c.locations, ∃ v,
      variableOf? (c.maps.map MethodMap.name) l.target = some v ∧ isVariableName v = false ∧
        fault = .invalidVariableName v l.path) ∨
    ∃ v path path', fault = .variableCollision v path path' := by
  rw [c.checkVariables_eq] at h
  rcases GatewayRouting.checkVariables_eq_error h with ⟨l, hl, hfault⟩ | hcollision
  · exact .inl ⟨l, (Location.lastFirstAll_perm c.locations).mem_iff.1 hl, hfault⟩
  · exact .inr hcollision

/-- Where no two locations have the same path, a collision names the paths of two of them that use the
variable, in ascending order. -/
theorem collision_of_nodup {v path path' : String}
    (hpaths : ((Location.preorderAll c.locations).map Location.path).Nodup)
    (h : c.checkVariables = .error (.variableCollision v path path')) :
    path < path' ∧ ∀ p ∈ [path, path'], ∃ l ∈ Location.preorderAll c.locations,
      l.path = p ∧ variableOf? (c.maps.map MethodMap.name) l.target = some v := by
  have hperm := Location.lastFirstAll_perm c.locations
  rw [c.checkVariables_eq] at h
  rcases GatewayRouting.collision_of_nodup ((hperm.map Location.path).nodup_iff.2 hpaths) h with
    ⟨hlt, huse⟩
  refine ⟨hlt, ?_⟩
  intro p hp
  rcases huse p hp with ⟨l, hl, hlocation⟩
  exact ⟨l, hperm.mem_iff.1 hl, hlocation⟩

end ProxyConfig

/-! ## The variables of a trie -/

/-- Values picked from a list without repeated keys are distinct when no two keys share one. -/
theorem nodup_filterMap_iff {α β γ : Type} {xs : List (α × β)} (hxs : (xs.map Prod.fst).Nodup)
    (f : β → Option γ) :
    (xs.filterMap fun x => f x.2).Nodup ↔
      ∀ x ∈ xs, ∀ y ∈ xs, ∀ c, f x.2 = some c → f y.2 = some c → x.1 = y.1 := by
  simp only [List.Nodup, List.pairwise_filterMap]
  constructor
  · intro h x hx y hy c hc hc'
    have : Std.Symm fun x y : α × β => ∀ c, f x.2 = some c → ∀ c', f y.2 = some c' → c ≠ c' :=
      ⟨fun x y h c hc c' hc' heq => h c' hc' c hc heq.symm⟩
    by_contra hne
    have hxy : x ≠ y := fun heq => hne (congrArg Prod.fst heq)
    exact h.forall hx hy hxy c hc c hc' rfl
  · intro h
    refine hxs.of_map.pairwise_of_forall_ne fun x hx y hy hxy => ?_
    intro c hc c' hc' heq
    rw [← heq] at hc'
    exact hxy (List.inj_on_of_nodup_map hxs hx hy (h x hx y hy c hc hc'))

namespace Trie

/-- The names of the method maps of a trie. -/
def mapNames (t : Trie) : List String :=
  t.methodMaps.map MethodMap.name

theorem Canonical.mem_methodMaps_iff {t : Trie} (ht : t.Canonical) {M : MethodMap} :
    M ∈ t.methodMaps ↔ ∃ s e, t.at? s = some e ∧ e.methodMap? = some M := by
  simp only [t.methodMaps_perm.mem_iff, List.mem_filterMap, Prod.exists, ht.mem_bindings_iff]

/-- What is read off the method maps of a trie is distinct when no two addresses yield the same. -/
theorem Canonical.nodup_map_methodMaps_iff {γ : Type} {t : Trie} (ht : t.Canonical)
    (f : MethodMap → γ) :
    (t.methodMaps.map f).Nodup ↔
      ∀ s e M s' e' M', t.at? s = some e → e.methodMap? = some M → t.at? s' = some e' →
        e'.methodMap? = some M' → f M = f M' → s = s' := by
  have hperm := t.methodMaps_perm.map f
  rw [List.map_filterMap] at hperm
  rw [hperm.nodup_iff, nodup_filterMap_iff ht.addresses_nodup fun e => e.methodMap?.map f]
  constructor
  · intro h s e M s' e' M' hs hM hs' hM' heq
    exact h (s, e) (ht.mem_bindings_iff.2 hs) (s', e') (ht.mem_bindings_iff.2 hs') (f M)
      (Option.map_eq_some_iff.2 ⟨M, hM, rfl⟩) (Option.map_eq_some_iff.2 ⟨M', hM', heq.symm⟩)
  · intro h b hb b' hb' v hv hv'
    obtain ⟨M, hM, hname⟩ := Option.map_eq_some_iff.1 hv
    obtain ⟨M', hM', hname'⟩ := Option.map_eq_some_iff.1 hv'
    exact h b.1 b.2 M b'.1 b'.2 M' (ht.mem_bindings_iff.1 hb) hM (ht.mem_bindings_iff.1 hb') hM'
      (hname.trans hname'.symm)

theorem Canonical.mem_mapNames_iff {t : Trie} (ht : t.Canonical) {v : String} :
    v ∈ t.mapNames ↔ ∃ s e M, t.at? s = some e ∧ e.methodMap? = some M ∧ M.name = v := by
  simp only [mapNames, List.mem_map, ht.mem_methodMaps_iff]
  constructor
  · rintro ⟨M, ⟨s, e, hs, hM⟩, hname⟩
    exact ⟨s, e, M, hs, hM, hname⟩
  · rintro ⟨s, e, M, hs, hM, hname⟩
    exact ⟨M, ⟨s, e, hs, hM⟩, hname⟩

theorem map_target_locations (t : Trie) :
    (Location.preorderAll t.locations).map Location.target =
      t.bindings.map (·.2.proxyTarget) :=
  t.map_locations (·.2.1)

/-- The output of a trie passes the check when the variable at every address is a variable name and
no two addresses have the same. -/
theorem Canonical.checkVariables_ok_iff {t : Trie} (ht : t.Canonical) :
    t.proxyConfig.checkVariables = .ok () ↔
      (∀ s e v, t.at? s = some e → variableOf? t.mapNames e.proxyTarget = some v →
        isVariableName v = true) ∧
      (∀ s e s' e' v, t.at? s = some e → variableOf? t.mapNames e.proxyTarget = some v →
        t.at? s' = some e' → variableOf? t.mapNames e'.proxyTarget = some v → s = s') := by
  rw [ProxyConfig.checkVariables_ok_iff]
  change (∀ target ∈ (Location.preorderAll t.locations).map Location.target, ∀ v,
      variableOf? t.mapNames target = some v → isVariableName v = true) ∧
    (((Location.preorderAll t.locations).map Location.target).filterMap
      (variableOf? t.mapNames)).Nodup ↔ _
  rw [map_target_locations, List.forall_mem_map, List.filterMap_map]
  refine and_congr ?_ ((nodup_filterMap_iff ht.addresses_nodup fun e =>
    variableOf? t.mapNames e.proxyTarget).trans ?_)
  · constructor
    · intro h s e v hs hv
      exact h (s, e) (ht.mem_bindings_iff.2 hs) v hv
    · intro h b hb v hv
      exact h b.1 b.2 v (ht.mem_bindings_iff.1 hb) hv
  · constructor
    · intro h s e s' e' v hs hv hs' hv'
      exact h (s, e) (ht.mem_bindings_iff.2 hs) (s', e') (ht.mem_bindings_iff.2 hs') v hv hv'
    · intro h b hb b' hb' v hv hv'
      exact h b.1 b.2 b'.1 b'.2 v (ht.mem_bindings_iff.1 hb) hv (ht.mem_bindings_iff.1 hb') hv'

end Trie

end GatewayRouting
