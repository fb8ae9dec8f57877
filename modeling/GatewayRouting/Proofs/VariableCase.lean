import GatewayRouting.Proofs.FirstSpelling

/-!
# Variables and letter case

The check of the variables compares them letter by letter, while the proxy does not tell letter case
in the name of a variable. Compiled method maps have different names, but these can agree up to letter
case. They do so exactly where two paths agree up to letter case once their slashes are underscores
(`names_of_compile`).
-/

namespace GatewayRouting

/-- Two paths agree as variables when they differ at most in letter case and in underscores that stand
for slashes. -/
def Path.AlikeAsVariables (path path' : String) : Prop :=
  Method.sameSpelling (path.toList.map variableChar) (path'.toList.map variableChar) = true

/-- The variables of two paths agree up to letter case exactly when the paths do, once their slashes are
underscores. -/
theorem Path.sameSpelling_mapVariable_iff {path path' : String}
    (h : path.toList.head? = some '/') (h' : path'.toList.head? = some '/') :
    Method.sameSpelling (mapVariable path).toList (mapVariable path').toList = true ↔
      AlikeAsVariables path path' := by
  obtain ⟨cs, hcs⟩ := List.head?_eq_some_iff.1 h
  obtain ⟨cs', hcs'⟩ := List.head?_eq_some_iff.1 h'
  have hslash : variableChar '/' = '_' := rfl
  simp only [AlikeAsVariables, Method.sameSpelling, mapVariable, hcs, hcs', hslash,
    String.toList_append, String.toList_ofList, List.map_cons, List.map_append, dropUnderscore,
    beq_iff_eq, List.append_left_inj, List.cons.injEq, true_and]

variable {routes : List Route} {t : Trie}

/-- The names of two method maps agree up to letter case only where two addresses derive such
variables. -/
theorem Gathered.pairwise_names_iff (h : Gathered routes t) :
    (t.methodMaps.Pairwise fun M M' =>
        Method.sameSpelling M.name.toList M'.name.toList = false) ↔
      ∀ s s' v v', DerivesVariable routes s v → DerivesVariable routes s' v' →
        Method.sameSpelling v.toList v'.toList = true → s = s' := by
  have hnodup : (t.methodMaps.Pairwise fun M M' =>
      Method.sameSpelling M.name.toList M'.name.toList = false) ↔
        (t.methodMaps.map fun M => M.name.toList.map Char.toUpper).Nodup := by
    rw [List.Nodup, List.pairwise_map]
    simp only [Method.sameSpelling, beq_eq_false_iff_ne]
  rw [hnodup, h.gathers.canonical.nodup_map_methodMaps_iff]
  simp only [Method.sameSpelling, beq_iff_eq]
  constructor
  · intro hdistinct s s' v v' hv hv' halike
    obtain ⟨e, M, hs, hM, rfl⟩ := h.derivesVariable_iff.1 hv
    obtain ⟨e', M', hs', hM', rfl⟩ := h.derivesVariable_iff.1 hv'
    exact hdistinct s e M s' e' M' hs hM hs' hM' halike
  · intro hdistinct s e M s' e' M' hs hM hs' hM' halike
    exact hdistinct s s' M.name M'.name (h.derivesVariable_iff.2 ⟨e, M, hs, hM, rfl⟩)
      (h.derivesVariable_iff.2 ⟨e', M', hs', hM', rfl⟩) halike

/-- The path that an address of compiled routes keeps begins with a slash. -/
theorem Compiled.path_slash_of_firstPath? (h : Compiled routes t) {s : List String} {path : String}
    (hpath : firstPath? routes s = some path) : path.toList.head? = some '/' := by
  obtain ⟨r, hhead, rfl⟩ := firstPath?_eq_some_iff.1 hpath
  exact (h.valid r (mem_routesAt.1 (List.mem_of_mem_head? hhead)).1).path_slash

/-- The method maps of a compiled configuration have different names, and names that differ in more than
letter case as long as no two paths with two or more methods agree as variables. -/
theorem names_of_compile {c : ProxyConfig} (h : compile routes = .ok c) :
    (c.maps.map MethodMap.name).Nodup ∧
      ((c.maps.Pairwise fun M M' => Method.sameSpelling M.name.toList M'.name.toList = false) ↔
        ∀ s s' path path', 2 ≤ (methodsAt routes s).length → 2 ≤ (methodsAt routes s').length →
          firstPath? routes s = some path → firstPath? routes s' = some path' →
          Path.AlikeAsVariables path path' → s = s') := by
  obtain ⟨t, ht, rfl⟩ := exists_compiled h
  refine ⟨ht.mapNames_nodup, ht.pairwise_names_iff.trans ?_⟩
  constructor
  · intro hdistinct s s' path path' hmany hmany' hpath hpath' halike
    have hv := derivesVariable_iff_firstPath?.2 ⟨hmany, path, hpath, rfl⟩
    have hv' := derivesVariable_iff_firstPath?.2 ⟨hmany', path', hpath', rfl⟩
    have hslash := ht.path_slash_of_firstPath? hpath
    have hslash' := ht.path_slash_of_firstPath? hpath'
    exact hdistinct s s' _ _ hv hv' ((Path.sameSpelling_mapVariable_iff hslash hslash').2 halike)
  · intro hdistinct s s' v v' hv hv' halike
    obtain ⟨hmany, path, hpath, rfl⟩ := derivesVariable_iff_firstPath?.1 hv
    obtain ⟨hmany', path', hpath', rfl⟩ := derivesVariable_iff_firstPath?.1 hv'
    have hslash := ht.path_slash_of_firstPath? hpath
    have hslash' := ht.path_slash_of_firstPath? hpath'
    exact hdistinct s s' path path' hmany hmany' hpath hpath'
      ((Path.sameSpelling_mapVariable_iff hslash hslash').1 halike)

/-- Routes with two or more methods at paths that differ in more than letter case. -/
def separateRoutes : List Route :=
  [⟨"/m", some [.get], "A"⟩, ⟨"/m/", some [.post], "B"⟩, ⟨"/n/M", some [.get, .put], "C"⟩]

theorem names_separateRoutes :
    ∃ c, compile separateRoutes = .ok c ∧ (c.maps.map MethodMap.name).Nodup ∧
      ∀ s s' path path', 2 ≤ (methodsAt separateRoutes s).length →
        2 ≤ (methodsAt separateRoutes s').length → firstPath? separateRoutes s = some path →
        firstPath? separateRoutes s' = some path' → Path.AlikeAsVariables path path' → s = s' := by
  refine ⟨_, rfl, ?_⟩
  have hcompile : compile separateRoutes = .ok _ := rfl
  obtain ⟨hnodup, hiff⟩ := names_of_compile hcompile
  exact ⟨hnodup, hiff.1 (by decide)⟩

/-- Routes that spell one path in two letter cases, with two methods each. -/
def twoCaseRoutes : List Route :=
  [⟨"/m", some [.get], "A"⟩, ⟨"/m", some [.post], "B"⟩, ⟨"/M", some [.get], "C"⟩,
    ⟨"/M", some [.post], "D"⟩]

/-- The names of two compiled method maps can differ in letter case only. -/
theorem sameSpelling_twoCaseRoutes :
    ∃ c M M', compile twoCaseRoutes = .ok c ∧ c.maps = [M, M'] ∧ M.name = "M_target" ∧
      M'.name = "m_target" ∧ Method.sameSpelling M.name.toList M'.name.toList = true := by
  refine ⟨_, _, _, rfl, rfl, rfl, rfl, ?_⟩
  decide

end GatewayRouting
