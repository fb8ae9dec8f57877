import GatewayRouting.Proofs.MapVariables
import GatewayRouting.Proofs.RouteValidity
import GatewayRouting.Proofs.TrieNodes

/-!
# The trie behind a compilation

`Gathered` relates valid routes without conflicts to their trie, and `Compiled` adds that the trie
passed the check of its variables. Every successful compilation has such a trie (`exists_compiled`).

* `Gathered.map_segments_locations` : the segments of the locations are the addresses of the trie;
* `Gathered.find?_locations` : the location with given segments is the one that stands there;
* `Compiled.derivesVariable_of_use` : a target that reads as a variable is the variable of its own
  address, never that of another one;
* `Compiled.find?_methodMaps` : a target leads to the method map of its own endpoint.
-/

namespace GatewayRouting

/-! ## Variables of addresses -/

/-- The methods that the routes ending at an address declare, in total. -/
def methodsAt (routes : List Route) (s : List String) : List Method :=
  (routesAt routes s).flatMap Route.declared

/-- The routes ending at an address declare two or more methods, and the path of the first gives the
variable for them. -/
structure DerivesVariable (routes : List Route) (s : List String) (v : String) : Prop where
  many : 2 ≤ (methodsAt routes s).length
  name : ∃ r, (routesAt routes s).head? = some r ∧ v = Path.mapVariable r.path

/-! ## The trie behind a compilation -/

/-- Valid routes without conflicts, and the trie that gathers them. -/
structure Gathered (routes : List Route) (t : Trie) : Prop where
  valid : ∀ r ∈ routes, r.Valid
  conflictFree : ConflictFree routes
  gathers : Gathers t routes

namespace Gathered

variable {routes : List Route} {t : Trie} {s : List String} {e : Endpoint} {v : String}

theorem compatible (h : Gathered routes t) (s : List String) :
    (routesAt routes s).Pairwise Route.Compatible :=
  h.conflictFree.routesAt s

theorem declared_nodup (h : Gathered routes t) (s : List String) :
    ∀ r ∈ routesAt routes s, r.declared.Nodup := by
  intro r hr
  exact (h.valid r (mem_routesAt.1 hr).1).methods_nodup

theorem ofRoutes_eq (h : Gathered routes t) (hs : t.at? s = some e) :
    Endpoint.ofRoutes (routesAt routes s) = some e := by
  rw [← h.gathers.at?_eq, hs]

/-- Something is bound wherever a route ends. -/
theorem exists_at? (h : Gathered routes t) {r : Route} (hr : r ∈ routesAt routes s) :
    ∃ e, t.at? s = some e :=
  h.gathers.exists_at?_iff.2 ⟨r, mem_routesAt.1 hr⟩

/-- Where two or more methods are declared the endpoint has a method map, and elsewhere it belongs to
a single route. -/
theorem many_or_few (h : Gathered routes t) (hs : t.at? s = some e) :
    (2 ≤ (methodsAt routes s).length ∧
      e.methodMap? = some ⟨Path.mapVariable e.path, .ofRoutes (routesAt routes s)⟩) ∨
    ((methodsAt routes s).length ≤ 1 ∧ e.methodMap? = none ∧
      ∃ r, routesAt routes s = [r] ∧ e.proxyTarget = r.target) := by
  have hgroup := h.ofRoutes_eq hs
  rcases Nat.lt_or_ge 1 (methodsAt routes s).length with hmany | hfew
  · exact .inl ⟨hmany,
      Endpoint.methodMap?_of_many (h.compatible s) (h.declared_nodup s) hgroup hmany⟩
  · exact .inr ⟨hfew,
      Endpoint.proxyTarget_of_few (h.compatible s) (h.declared_nodup s) hgroup hfew⟩

/-- An address derives the name of the method map that is bound there. -/
theorem derivesVariable_iff (h : Gathered routes t) :
    DerivesVariable routes s v ↔
      ∃ e M, t.at? s = some e ∧ e.methodMap? = some M ∧ M.name = v := by
  constructor
  · rintro ⟨hmany, r, hhead, rfl⟩
    obtain ⟨e, hs⟩ := h.exists_at? (List.mem_of_mem_head? hhead)
    have hgroup := h.ofRoutes_eq hs
    have hM := Endpoint.methodMap?_of_many (h.compatible s) (h.declared_nodup s) hgroup hmany
    obtain ⟨r', hhead', hpath⟩ := Endpoint.path_of_ofRoutes hgroup
    rw [hhead] at hhead'
    cases hhead'
    exact ⟨e, _, hs, hM, congrArg Path.mapVariable hpath⟩
  · rintro ⟨e, M, hs, hM, rfl⟩
    rcases h.many_or_few hs with ⟨hmany, -⟩ | ⟨-, hnone, -⟩
    · obtain ⟨r, hhead, hpath⟩ := Endpoint.path_of_ofRoutes (h.ofRoutes_eq hs)
      refine ⟨hmany, r, hhead, ?_⟩
      rw [Endpoint.name_of_methodMap? hM, hpath]
    · rw [hnone] at hM
      cases hM

theorem mem_mapNames_iff (h : Gathered routes t) :
    v ∈ t.mapNames ↔ ∃ s, DerivesVariable routes s v := by
  rw [h.gathers.canonical.mem_mapNames_iff]
  exact exists_congr fun s => h.derivesVariable_iff.symm

/-- The variable in use at an address that derives one is that one. -/
theorem variableOf?_of_derives (h : Gathered routes t) (hs : t.at? s = some e)
    (hv : DerivesVariable routes s v) : variableOf? t.mapNames e.proxyTarget = some v := by
  obtain ⟨e', M, hs', hM, rfl⟩ := h.derivesVariable_iff.1 hv
  rw [hs] at hs'
  cases hs'
  rw [variableOf?_eq_some_iff]
  exact ⟨Endpoint.proxyTarget_of_methodMap? hM, h.mem_mapNames_iff.2 ⟨s, hv⟩⟩

/-! ## Locations by address -/

/-- An endpoint is bound at the address that its path spells. -/
theorem segments_path (h : Gathered routes t) (hs : t.at? s = some e) :
    Path.segments e.path = s :=
  h.gathers.segments_path hs

/-- The segments of the locations, parents first, are the addresses of the trie in order. -/
theorem map_segments_locations (h : Gathered routes t) :
    (Location.preorderAll t.locations).map (fun l => Path.segments l.path) =
      t.bindings.map Prod.fst := by
  refine (t.map_locations fun x => Path.segments x.1).trans (List.map_congr_left fun b hb => ?_)
  exact h.segments_path (h.gathers.canonical.mem_bindings_iff.1 hb)

/-- No two locations have the same segments. -/
theorem segments_nodup (h : Gathered routes t) :
    ((Location.preorderAll t.locations).map fun l => Path.segments l.path).Nodup := by
  rw [h.map_segments_locations]
  exact h.gathers.canonical.addresses_nodup

/-- A location stands at the address that its path spells. -/
theorem segments_of_locationAt? (h : Gathered routes t) {l : Location}
    (hl : t.locationAt? s = some l) : Path.segments l.path = s := by
  obtain ⟨e, hs, he⟩ := Trie.exists_at?_of_locationAt? hl
  have hpath : e.path = l.path := congrArg Prod.fst he
  rw [← hpath]
  exact h.segments_path hs

/-- The location with given segments is the one that stands at this address. -/
theorem find?_locations (h : Gathered routes t) (s : List String) :
    ((Location.preorderAll t.locations).find? fun l => Path.segments l.path = s) =
      t.locationAt? s := by
  have hmem := fun l => h.gathers.canonical.mem_preorderAll_locations_iff (l := l)
  cases hfind : (Location.preorderAll t.locations).find? fun l => Path.segments l.path = s with
  | none =>
    -- a location that stands there would have been found
    cases hl : t.locationAt? s with
    | none => rfl
    | some l =>
      have hnot := List.find?_eq_none.1 hfind l ((hmem l).2 ⟨s, hl⟩)
      simp [h.segments_of_locationAt? hl] at hnot
  | some l =>
    have hsegments : Path.segments l.path = s := by simpa using List.find?_some hfind
    obtain ⟨s', hs'⟩ := (hmem l).1 (List.mem_of_find?_eq_some hfind)
    have heq : s' = s := (h.segments_of_locationAt? hs').symm.trans hsegments
    rw [← heq, hs']

end Gathered

/-! ## Compilation -/

/-- What is known of the trie of routes that compile. -/
structure Compiled (routes : List Route) (t : Trie) : Prop extends Gathered routes t where
  checked : t.proxyConfig.checkVariables = .ok ()

/-- A compilation succeeds when the routes are valid, can be gathered and pass the check; its result
is the output of their trie. -/
theorem compile_ok_iff {routes : List Route} {c : ProxyConfig} :
    compile routes = .ok c ↔
      (∀ r ∈ routes, r.Valid) ∧ ∃ t, Trie.ofRoutes routes = .ok t ∧
        t.proxyConfig.checkVariables = .ok () ∧ t.proxyConfig = c := by
  rw [← validateAll_ok_iff]
  unfold compile
  cases validateAll routes with
  | error fault => simp
  | ok u =>
    cases Trie.ofRoutes routes with
    | error fault => simp
    | ok t => cases hcheck : t.proxyConfig.checkVariables <;> simp [hcheck]

/-- The fault of valid routes that have a trie is that of its variables. -/
theorem compile_eq_error_iff {routes : List Route} {t : Trie} (hvalid : ∀ r ∈ routes, r.Valid)
    (ht : Trie.ofRoutes routes = .ok t) {fault : CompileError} :
    compile routes = .error fault ↔ t.proxyConfig.checkVariables = .error fault := by
  rw [compile, validateAll_ok_iff.2 hvalid, ht]
  cases hcheck : t.proxyConfig.checkVariables <;> simp [hcheck]

theorem gathered_of_ofRoutes {routes : List Route} {t : Trie} (hvalid : ∀ r ∈ routes, r.Valid)
    (ht : Trie.ofRoutes routes = .ok t) : Gathered routes t :=
  ⟨hvalid, ofRoutes_ok_iff.1 ⟨t, ht⟩, gathers_of_ofRoutes ht⟩

/-- A configuration that was compiled is the output of a trie that gathers the routes. -/
theorem exists_compiled {routes : List Route} {c : ProxyConfig} (h : compile routes = .ok c) :
    ∃ t, Compiled routes t ∧ t.proxyConfig = c := by
  obtain ⟨hvalid, t, ht, hcheck, hc⟩ := compile_ok_iff.1 h
  exact ⟨t, ⟨gathered_of_ofRoutes hvalid ht, hcheck⟩, hc⟩

/-- A list of routes compiles to the output of the tries that are behind its compilation. -/
theorem compile_ok_iff_compiled {routes : List Route} {c : ProxyConfig} :
    compile routes = .ok c ↔ ∃ t, Compiled routes t ∧ t.proxyConfig = c := by
  constructor
  · exact exists_compiled
  · rintro ⟨t, ht, hc⟩
    exact compile_ok_iff.2 ⟨ht.valid, t, ht.gathers.ofRoutes_eq ht.conflictFree, ht.checked, hc⟩

/-- Routes in which two spellings of one path share a method map, literal targets start with a dollar
sign, and parents are declared after their children. -/
def sampleRoutes : List Route :=
  [⟨"/a/b", some [.get], "X"⟩, ⟨"/a//b/", some [.post], "$up"⟩, ⟨"/c/d", none, "$a_target"⟩,
    ⟨"/a", some [.put], "P"⟩, ⟨"/", none, "R"⟩]

theorem compile_sampleRoutes : ∃ c, compile sampleRoutes = .ok c :=
  ⟨_, rfl⟩

/-! ## Variables of a compiled trie -/

namespace Compiled

variable {routes : List Route} {t : Trie} {s s' : List String} {e : Endpoint} {v : String}

/-- A variable is in use at one address only. -/
theorem use_unique (h : Compiled routes t) {e' : Endpoint} (hs : t.at? s = some e)
    (hv : variableOf? t.mapNames e.proxyTarget = some v) (hs' : t.at? s' = some e')
    (hv' : variableOf? t.mapNames e'.proxyTarget = some v) : s = s' :=
  (h.gathers.canonical.checkVariables_ok_iff.1 h.checked).2 s e s' e' v hs hv hs' hv'

/-- No two addresses derive the same variable. -/
theorem derivesVariable_unique (h : Compiled routes t) (hv : DerivesVariable routes s v)
    (hv' : DerivesVariable routes s' v) : s = s' := by
  obtain ⟨e, M, hs, -, -⟩ := h.derivesVariable_iff.1 hv
  obtain ⟨e', M', hs', -, -⟩ := h.derivesVariable_iff.1 hv'
  exact h.use_unique hs (h.variableOf?_of_derives hs hv) hs' (h.variableOf?_of_derives hs' hv')

/-- A target that reads as a variable is the variable of its own address. -/
theorem derivesVariable_of_use (h : Compiled routes t) (hs : t.at? s = some e)
    (hv : variableOf? t.mapNames e.proxyTarget = some v) : DerivesVariable routes s v := by
  obtain ⟨s', hs'⟩ := h.mem_mapNames_iff.1 (variableOf?_eq_some_iff.1 hv).2
  obtain ⟨e', M, hat, -, -⟩ := h.derivesVariable_iff.1 hs'
  -- the address that derives the variable uses it as well, so it is this one
  have heq := h.use_unique hs hv hat (h.variableOf?_of_derives hat hs')
  rw [heq]
  exact hs'

/-- The method maps of a compiled trie have different names. -/
theorem mapNames_nodup (h : Compiled routes t) : t.mapNames.Nodup := by
  rw [Trie.mapNames, h.gathers.canonical.nodup_map_methodMaps_iff]
  intro s e M s' e' M' hs hM hs' hM' hname
  exact h.derivesVariable_unique (h.derivesVariable_iff.2 ⟨e, M, hs, hM, hname⟩)
    (h.derivesVariable_iff.2 ⟨e', M', hs', hM', rfl⟩)

/-- The method map that a target names is the one of its own endpoint, if it has one. -/
theorem find?_methodMaps (h : Compiled routes t) (hs : t.at? s = some e) :
    (t.methodMaps.find? fun M => e.proxyTarget = "$" ++ M.name) = e.methodMap? := by
  cases hfind : t.methodMaps.find? fun M => e.proxyTarget = "$" ++ M.name with
  | none =>
    cases hM : e.methodMap? with
    | none => rfl
    | some M =>
      have hmem := h.gathers.canonical.mem_methodMaps_iff.2 ⟨s, e, hs, hM⟩
      have hnot := List.find?_eq_none.1 hfind M hmem
      simp [Endpoint.proxyTarget_of_methodMap? hM] at hnot
  | some M =>
    have htarget : e.proxyTarget = "$" ++ M.name := by simpa using List.find?_some hfind
    obtain ⟨s', e', hs', hM'⟩ :=
      h.gathers.canonical.mem_methodMaps_iff.1 (List.mem_of_find?_eq_some hfind)
    have hv' : DerivesVariable routes s' M.name := h.derivesVariable_iff.2 ⟨e', M, hs', hM', rfl⟩
    -- the map belongs to some address, and only the address of the target may use its name
    have huse : variableOf? t.mapNames e.proxyTarget = some M.name :=
      variableOf?_eq_some_iff.2 ⟨htarget, h.mem_mapNames_iff.2 ⟨s', hv'⟩⟩
    have heq := h.derivesVariable_unique (h.derivesVariable_of_use hs huse) hv'
    rw [heq, hs'] at hs
    cases hs
    exact hM'.symm

/-- An endpoint whose target names a method map has that map. -/
theorem methodMap?_of_target (h : Compiled routes t) {M : MethodMap}
    (hs : t.at? s = some e) (hM : M ∈ t.methodMaps) (htarget : e.proxyTarget = "$" ++ M.name) :
    e.methodMap? = some M := by
  rw [← h.find?_methodMaps hs]
  cases hfind : t.methodMaps.find? fun M => e.proxyTarget = "$" ++ M.name with
  | none =>
    have hnot := List.find?_eq_none.1 hfind M hM
    simp [htarget] at hnot
  | some M' =>
    have htarget' : e.proxyTarget = "$" ++ M'.name := by simpa using List.find?_some hfind
    have hname : M'.name = M.name :=
      String.append_right_inj _ |>.1 (htarget'.symm.trans htarget)
    -- no two maps have the same name
    have hmap := List.inj_on_of_nodup_map h.mapNames_nodup (List.mem_of_find?_eq_some hfind) hM hname
    rw [hmap]

end Compiled

end GatewayRouting
