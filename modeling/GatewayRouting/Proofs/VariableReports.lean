import GatewayRouting.Proofs.ConflictReports
import GatewayRouting.Proofs.MapLocations
import GatewayRouting.Proofs.NestedPaths

/-!
# Reports about variables

The check of the variables sees the targets of locations, not the nodes from which they come. So a path
that it reports either derives the reported variable, or belongs to a route that has the reference to it
written out as its target.

* `Gathered.mapVariable_of_use` : a location that uses a variable derives it, unless a route writes the
  variable out;
* `namesVariable_of_report` : what is reported about variables is true of the paths that do not write them
  out;
* `misreport_literalRoutes` : it need not be true of the others;
* `compile_ne_variableCollision` : without underscores in paths and dollar signs in front of targets, no
  collision is reported.
-/

namespace GatewayRouting

variable {routes : List Route} {t : Trie} {l : Location} {v path path' : String}

/-! ## Uses of a variable -/

/-- A route with this path, alone at its node and with at most one method, has the reference to the
variable as its own target. -/
def WritesOut (routes : List Route) (path v : String) : Prop :=
  ∃ r ∈ routes, r.path = path ∧ (methodsAt routes r.address).length ≤ 1 ∧ r.target = "$" ++ v

instance (routes : List Route) (path v : String) : Decidable (WritesOut routes path v) :=
  inferInstanceAs (Decidable (∃ _ ∈ _, _))

namespace Gathered

/-- A location that uses a variable has it from its path, unless a route writes the variable out. -/
theorem mapVariable_of_use (h : Gathered routes t) (hl : l ∈ Location.preorderAll t.locations)
    (hv : variableOf? t.mapNames l.target = some v) (hout : ¬ WritesOut routes l.path v) :
    Path.mapVariable l.path = v := by
  rcases h.exists_endpoint hl with ⟨e, hs, hrecord⟩
  have hpath : e.path = l.path := congrArg Prod.fst hrecord
  have htarget : e.proxyTarget = l.target := congrArg (·.2.1) hrecord
  have huse : l.target = "$" ++ v := (variableOf?_eq_some_iff.1 hv).1
  rcases h.many_or_few hs with ⟨-, hM⟩ | ⟨hfew, -, r, hgroup, hr⟩
  · have hname := Endpoint.proxyTarget_of_methodMap? hM
    rw [htarget, huse] at hname
    rw [← hpath]
    exact ((String.append_right_inj _).1 hname).symm
  · -- the endpoint belongs to one route, and proxies to the target of that route
    refine absurd ?_ hout
    have hmem : r ∈ routesAt routes (Path.segments l.path) := by
      rw [hgroup]
      exact List.mem_singleton_self r
    rcases mem_routesAt.1 hmem with ⟨hroute, haddress⟩
    rcases Endpoint.path_of_ofRoutes (h.ofRoutes_eq hs) with ⟨first, hfirst, hfirstPath⟩
    rw [hgroup] at hfirst
    cases hfirst
    refine ⟨r, hroute, ?_, ?_, ?_⟩
    · rw [← hfirstPath, hpath]
    · rw [haddress]
      exact hfew
    · rw [← hr, htarget, huse]

/-- No two locations of a trie have the same path. -/
theorem paths_nodup (h : Gathered routes t) :
    ((Location.preorderAll t.locations).map Location.path).Nodup := by
  have hsegments : (((Location.preorderAll t.locations).map Location.path).map
      Path.segments).Nodup := by
    rw [List.map_map]
    exact h.segments_nodup
  exact hsegments.of_map

end Gathered

/-! ## Reports -/

/-- What is true of a path and a variable that are reported together. -/
structure NamesVariable (routes : List Route) (path v : String) : Prop where
  /-- The path is declared. -/
  declared : ∃ r ∈ routes, r.path = path
  /-- The variable belongs to some address. -/
  derived : ∃ s, DerivesVariable routes s v
  /-- The variable is the one of the path, unless a route writes it out. -/
  mapVariable_eq : ¬ WritesOut routes path v → Path.mapVariable path = v

namespace Gathered

theorem namesVariable_of_use (h : Gathered routes t) (hl : l ∈ Location.preorderAll t.locations)
    (hv : variableOf? t.mapNames l.target = some v) : NamesVariable routes l.path v := by
  constructor
  · exact h.exists_route_of_location hl
  · exact h.mem_mapNames_iff.1 (variableOf?_eq_some_iff.1 hv).2
  · exact h.mapVariable_of_use hl hv

/-- A collision is one of two locations, which have different paths. -/
theorem namesVariable_of_collision (h : Gathered routes t)
    (hcheck : t.proxyConfig.checkVariables = .error (.variableCollision v path path')) :
    path < path' ∧ NamesVariable routes path v ∧ NamesVariable routes path' v := by
  rcases ProxyConfig.collision_of_nodup h.paths_nodup hcheck with ⟨hlt, huse⟩
  have hnames : ∀ p ∈ [path, path'], NamesVariable routes p v := by
    intro p hp
    rcases huse p hp with ⟨l, hl, rfl, hv⟩
    exact h.namesVariable_of_use hl hv
  exact ⟨hlt, hnames path List.mem_cons_self, hnames path' (List.mem_cons_of_mem _ List.mem_cons_self)⟩

/-- A variable is derived from some path, so it is not empty, and when it is reported as no variable name
one of its characters is wrong. -/
theorem namesVariable_of_invalidName (h : Gathered routes t)
    (hcheck : t.proxyConfig.checkVariables = .error (.invalidVariableName v path)) :
    NamesVariable routes path v ∧ ∃ c ∈ v.toList, c.isAlphanum = false ∧ c ≠ '_' := by
  rcases ProxyConfig.checkVariables_eq_error hcheck with
    ⟨l, hl, v', hv, hname, hfault⟩ | ⟨v', p, p', hfault⟩
  · cases hfault
    have hnames := h.namesVariable_of_use hl hv
    refine ⟨hnames, ?_⟩
    rcases hnames.derived with ⟨s, hs⟩
    rcases hs.name with ⟨r, -, rfl⟩
    by_contra hnone
    have hchars : ∀ c ∈ (Path.mapVariable r.path).toList, c.isAlphanum = true ∨ c = '_' := by
      intro c hc
      by_contra hwrong
      rw [not_or, Bool.not_eq_true] at hwrong
      exact hnone ⟨c, hc, hwrong⟩
    rw [isVariableName_mapVariable_iff.2 hchars] at hname
    cases hname
  · cases hfault

end Gathered

/-- A fault that is neither an invalid route nor a conflict is found in the trie of the routes. -/
theorem exists_gathered_of_error {fault : CompileError} (h : compile routes = .error fault)
    (hroute : ∀ f, fault ≠ .invalidRoute f) (hconflict : ∀ c, fault ≠ .conflict c) :
    ∃ t, Gathered routes t ∧ t.proxyConfig.checkVariables = .error fault := by
  rcases compile_eq_error_iff_cases.1 h with ⟨f, -, hf⟩ | ⟨-, c, -, hc⟩ | ⟨hvalid, t, ht, hcheck⟩
  · exact absurd hf (hroute f)
  · exact absurd hc (hconflict c)
  · exact ⟨t, gathered_of_ofRoutes (validateAll_ok_iff.1 hvalid) ht, hcheck⟩

/-- Which fault is reported can be decided without comparing configurations. -/
theorem compile_eq_error_of_map {fault : CompileError}
    (h : (compile routes).map (fun _ => ()) = .error fault) : compile routes = .error fault := by
  cases hcompile : compile routes with
  | error fault' =>
    rw [hcompile] at h
    cases h
    rfl
  | ok c =>
    rw [hcompile] at h
    cases h

/-- A collision that is reported names two different paths of routes, in ascending order. A variable that
is reported for its characters has one that is neither an ASCII letter nor a digit nor an underscore. A
path that is named with a variable derives it, unless it is the path of a route that writes the variable
out as its target. -/
theorem namesVariable_of_report (routes : List Route) :
    (∀ v path path', compile routes = .error (.variableCollision v path path') →
      path < path' ∧ NamesVariable routes path v ∧ NamesVariable routes path' v) ∧
    ∀ v path, compile routes = .error (.invalidVariableName v path) →
      NamesVariable routes path v ∧ ∃ c ∈ v.toList, c.isAlphanum = false ∧ c ≠ '_' := by
  constructor
  · intro v path path' h
    rcases exists_gathered_of_error h (by simp) (by simp) with ⟨t, ht, hcheck⟩
    exact ht.namesVariable_of_collision hcheck
  · intro v path h
    rcases exists_gathered_of_error h (by simp) (by simp) with ⟨t, ht, hcheck⟩
    exact ht.namesVariable_of_invalidName hcheck

/-- Routes in which two nodes derive one variable. The literal target with a dollar sign has no part in
it. -/
def spelledApartRoutes : List Route :=
  [⟨"/a/b", some [.get], "1"⟩, ⟨"/x", none, "$up"⟩, ⟨"/a_b", some [.get, .put], "2"⟩,
    ⟨"/a//b", some [.post], "3"⟩]

theorem namesVariable_of_spelledApartRoutes :
    compile spelledApartRoutes = .error (.variableCollision "a_b_target" "/a/b" "/a_b") ∧
      Path.mapVariable "/a/b" = "a_b_target" ∧ Path.mapVariable "/a_b" = "a_b_target" := by
  have hcompile : compile spelledApartRoutes =
      .error (.variableCollision "a_b_target" "/a/b" "/a_b") := by
    apply compile_eq_error_of_map
    decide +kernel
  rcases (namesVariable_of_report spelledApartRoutes).1 _ _ _ hcompile with ⟨-, hnames, hnames'⟩
  refine ⟨hcompile, hnames.mapVariable_eq ?_, hnames'.mapVariable_eq ?_⟩
  · decide +kernel
  · decide +kernel

/-- Routes of which the first two share a node, and the third has the reference to their variable as its
target. -/
def literalRoutes (path : String) : List Route :=
  [⟨path, some [.get], "A"⟩, ⟨path, some [.post], "B"⟩,
    ⟨"/x", none, "$" ++ Path.mapVariable path⟩]

/-- A path that only writes a variable out is reported all the same, though it derives another one. -/
theorem misreport_literalRoutes :
    compile (literalRoutes "/a-b") = .error (.invalidVariableName "a-b_target" "/x") ∧
      compile (literalRoutes "/m") = .error (.variableCollision "m_target" "/m" "/x") ∧
      Path.mapVariable "/x" = "x_target" :=
  ⟨rfl, rfl, rfl⟩

/-! ## Paths without underscores -/

namespace Path

/-- A character of a variable name as it stood in a path without underscores. -/
def pathChar (c : Char) : Char :=
  if c = '_' then '/' else c

/-- The characters of a path without underscores are read back from its variable. -/
theorem map_pathChar_variableChar {cs : List Char} (h : '_' ∉ cs) :
    (cs.map variableChar).map pathChar = cs := by
  rw [List.map_map]
  refine (List.map_congr_left ?_).trans (List.map_id cs)
  intro c hc
  have hne : c ≠ '_' := fun heq => h (heq ▸ hc)
  show pathChar (variableChar c) = c
  by_cases hslash : c = '/'
  · rw [hslash]
    rfl
  · unfold variableChar pathChar
    rw [if_neg hslash, if_neg hne]

/-- The underscore that is dropped from a variable is the slash in front of the path. -/
theorem toList_mapVariable {cs : List Char} (h : path.toList = '/' :: cs) :
    (mapVariable path).toList = cs.map variableChar ++ "_target".toList := by
  rw [mapVariable, h, String.toList_append, String.toList_ofList]
  rfl

/-- Paths without underscores are told apart by their variables, however many slashes they have. -/
theorem eq_of_mapVariable_eq (hslash : path.toList.head? = some '/')
    (hslash' : path'.toList.head? = some '/') (hfree : '_' ∉ path.toList)
    (hfree' : '_' ∉ path'.toList) (h : mapVariable path = mapVariable path') : path = path' := by
  rcases List.head?_eq_some_iff.1 hslash with ⟨cs, hcs⟩
  rcases List.head?_eq_some_iff.1 hslash' with ⟨cs', hcs'⟩
  have htext := congrArg String.toList h
  rw [toList_mapVariable hcs, toList_mapVariable hcs', List.append_left_inj] at htext
  rw [hcs, List.mem_cons, not_or] at hfree
  rw [hcs', List.mem_cons, not_or] at hfree'
  have hsame : cs = cs' := by
    rw [← map_pathChar_variableChar hfree.2, htext, map_pathChar_variableChar hfree'.2]
  rw [← String.toList_inj, hcs, hcs', hsame]

end Path

/-- A target that does not begin with a dollar sign writes no variable out. -/
theorem not_writesOut_of_targets (h : ∀ r ∈ routes, r.target.toList.head? ≠ some '$') :
    ¬ WritesOut routes path v := by
  rintro ⟨r, hr, -, -, htarget⟩
  apply h r hr
  rw [htarget, String.toList_append]
  rfl

/-- Where no path holds an underscore and no target begins with a dollar sign, no collision of variables
is reported, however the paths are spelled. -/
theorem compile_ne_variableCollision (hpaths : ∀ r ∈ routes, '_' ∉ r.path.toList)
    (htargets : ∀ r ∈ routes, r.target.toList.head? ≠ some '$') (v path path' : String) :
    compile routes ≠ .error (.variableCollision v path path') := by
  intro h
  rcases exists_gathered_of_error h (by simp) (by simp) with ⟨t, ht, hcheck⟩
  rcases ht.namesVariable_of_collision hcheck with ⟨hlt, hnames, hnames'⟩
  rcases hnames.declared with ⟨r, hr, rfl⟩
  rcases hnames'.declared with ⟨r', hr', rfl⟩
  have hname : Path.mapVariable r.path = Path.mapVariable r'.path := by
    rw [hnames.mapVariable_eq (not_writesOut_of_targets htargets),
      hnames'.mapVariable_eq (not_writesOut_of_targets htargets)]
  have hsame : r.path = r'.path :=
    Path.eq_of_mapVariable_eq (ht.valid r hr).path_slash (ht.valid r' hr').path_slash
      (hpaths r hr) (hpaths r' hr') hname
  rw [hsame] at hlt
  exact String.lt_irrefl _ hlt

/-- Routes that spell nodes with doubled slashes and with slashes at the end, so that their variables
differ in underscores only. -/
def doubledSlashRoutes : List Route :=
  [⟨"/a//b", some [.get], "1"⟩, ⟨"/a/b/", some [.post], "2"⟩, ⟨"/a/b//c", some [.get, .put], "3"⟩,
    ⟨"//a", some [.get], "4"⟩, ⟨"/a/", some [.put], "5"⟩]

theorem compile_doubledSlashRoutes_ne_variableCollision :
    (∀ r ∈ doubledSlashRoutes, '_' ∉ r.path.toList) ∧
      (∀ r ∈ doubledSlashRoutes, r.target.toList.head? ≠ some '$') ∧
      compile doubledSlashRoutes ≠ .error (.variableCollision "a_b_target" "/a//b" "/a/b/") :=
  ⟨by decide, by decide, compile_ne_variableCollision (by decide) (by decide) _ _ _⟩

end GatewayRouting
