import GatewayRouting.Proofs.Compiled

/-!
# Method maps and the locations that use them

The method maps of a configuration stand in a list of their own, and nothing but a name ties a map to a
location: the location whose target is the variable of the map uses it. In a compiled configuration this
leads from every map to one location and back (`maps_of_compile`): no map is left without a location or
shared by two, and a literal target that starts with a dollar sign names no map.

The order of the maps is that of the locations, parents last
(`Compiled.filterMap_mapOf?_postorderAll`).
-/

namespace GatewayRouting

/-- The method map that the target of a location names, if it names one. -/
def ProxyConfig.mapOf? (c : ProxyConfig) (l : Location) : Option MethodMap :=
  c.maps.find? fun M => l.target = "$" ++ M.name

/-- The locations whose target names a method map, parents first. -/
def ProxyConfig.usersOf (c : ProxyConfig) (M : MethodMap) : List Location :=
  (Location.preorderAll c.locations).filter fun l => l.target = "$" ++ M.name

theorem ProxyConfig.mem_usersOf {c : ProxyConfig} {M : MethodMap} {l : Location} :
    l ∈ c.usersOf M ↔ l ∈ Location.preorderAll c.locations ∧ l.target = "$" ++ M.name := by
  simp [usersOf]

/-! ## Locations and endpoints -/

namespace Gathered

variable {routes : List Route} {t : Trie} {s : List String} {e : Endpoint} {l l' : Location}

/-- A location shows the endpoint that is bound at its segments. -/
theorem exists_endpoint (h : Gathered routes t) (hl : l ∈ Location.preorderAll t.locations) :
    ∃ e, t.at? (Path.segments l.path) = some e ∧ e.record = l.record := by
  obtain ⟨s, hs⟩ := h.gathers.canonical.mem_preorderAll_locations_iff.1 hl
  rw [h.segments_of_locationAt? hs]
  exact Trie.exists_at?_of_locationAt? hs

/-- Every endpoint is shown by a location. -/
theorem exists_location (h : Gathered routes t) (hs : t.at? s = some e) :
    ∃ l ∈ Location.preorderAll t.locations, l.record = e.record := by
  have hrecord := t.map_record_locationAt? s
  rw [hs, Option.map_some, Option.map_eq_some_iff] at hrecord
  obtain ⟨l, hl, hle⟩ := hrecord
  exact ⟨l, h.gathers.canonical.mem_preorderAll_locations_iff.2 ⟨s, hl⟩, hle⟩

/-- The tables of method maps have two or more entries. -/
theorem two_le_length_entries (h : Gathered routes t) {M : MethodMap} (hs : t.at? s = some e)
    (hM : e.methodMap? = some M) : 2 ≤ M.table.entries.length := by
  obtain ⟨htargets, hone⟩ := Endpoint.targets_of_methodMap? hM
  have hne := h.gathers.entries_ne_nil hs M.table htargets
  have hpos := List.length_pos_of_ne_nil hne
  omega

end Gathered

/-! ## Maps and their users -/

namespace Compiled

variable {routes : List Route} {t : Trie} {M : MethodMap} {l l' : Location}

/-- Two locations that name one method map are the same location. -/
theorem user_unique (h : Compiled routes t) (hM : M ∈ t.methodMaps)
    (hl : l ∈ t.proxyConfig.usersOf M) (hl' : l' ∈ t.proxyConfig.usersOf M) : l = l' := by
  obtain ⟨hmem, htarget⟩ := ProxyConfig.mem_usersOf.1 hl
  obtain ⟨hmem', htarget'⟩ := ProxyConfig.mem_usersOf.1 hl'
  -- a location that names the map makes use of its variable at the address of its segments
  have huse : ∀ l ∈ Location.preorderAll t.locations, l.target = "$" ++ M.name →
      ∃ e, t.at? (Path.segments l.path) = some e ∧
        variableOf? t.mapNames e.proxyTarget = some M.name := by
    intro l hl htarget
    obtain ⟨e, hs, hrecord⟩ := h.exists_endpoint hl
    have hproxy : e.proxyTarget = l.target := congrArg (·.2.1) hrecord
    exact ⟨e, hs, variableOf?_eq_some_iff.2
      ⟨hproxy.trans htarget, List.mem_map_of_mem hM⟩⟩
  obtain ⟨e, hs, hv⟩ := huse l hmem htarget
  obtain ⟨e', hs', hv'⟩ := huse l' hmem' htarget'
  exact List.inj_on_of_nodup_map h.segments_nodup hmem hmem' (h.use_unique hs hv hs' hv')

/-- Every method map is named by the target of exactly one location, from whose path it has its name and
which leaves out the methods without an entry. -/
theorem usersOf_eq (h : Compiled routes t) (hM : M ∈ t.methodMaps) :
    2 ≤ M.table.entries.length ∧ ∃ l, t.proxyConfig.usersOf M = [l] ∧
      Path.mapVariable l.path = M.name ∧ l.unallowed = M.table.missing := by
  obtain ⟨s, e, hs, he⟩ := h.gathers.canonical.mem_methodMaps_iff.1 hM
  obtain ⟨l, hmem, hrecord⟩ := h.exists_location hs
  have hpath : l.path = e.path := congrArg Prod.fst hrecord
  have htarget : l.target = e.proxyTarget := congrArg (·.2.1) hrecord
  have hunallowed : l.unallowed = e.unallowed := congrArg (·.2.2) hrecord
  have hl : l ∈ t.proxyConfig.usersOf M := by
    rw [ProxyConfig.mem_usersOf, htarget]
    exact ⟨hmem, Endpoint.proxyTarget_of_methodMap? he⟩
  have hsingle : t.proxyConfig.usersOf M = [l] := by
    refine filter_eq_singleton h.segments_nodup.of_map fun l' => ?_
    rw [decide_eq_true_eq, ← ProxyConfig.mem_usersOf]
    constructor
    · intro hl'
      exact h.user_unique hM hl' hl
    · rintro rfl
      exact hl
  refine ⟨h.two_le_length_entries hs he, l, hsingle, ?_, ?_⟩
  · rw [hpath]
    exact (Endpoint.name_of_methodMap? he).symm
  · rw [hunallowed]
    exact Endpoint.unallowed_of_methodMap? he

/-- A location that names no method map has the target of a route with its segments. -/
theorem exists_route_of_literal (h : Compiled routes t)
    (hl : l ∈ Location.preorderAll t.locations)
    (hliteral : ∀ M ∈ t.methodMaps, l.target ≠ "$" ++ M.name) :
    ∃ r ∈ routes, Path.segments r.path = Path.segments l.path ∧ l.target = r.target := by
  obtain ⟨e, hs, hrecord⟩ := h.exists_endpoint hl
  have htarget : e.proxyTarget = l.target := congrArg (·.2.1) hrecord
  rcases h.many_or_few hs with ⟨-, hM⟩ | ⟨-, -, r, hgroup, hr⟩
  · -- an endpoint with a method map would be shown by a location that names the map
    have hmem := h.gathers.canonical.mem_methodMaps_iff.2 ⟨_, e, hs, hM⟩
    exact absurd (htarget.symm.trans (Endpoint.proxyTarget_of_methodMap? hM)) (hliteral _ hmem)
  · have hmem : r ∈ routesAt routes (Path.segments l.path) := by
      rw [hgroup]
      exact List.mem_cons_self
    obtain ⟨hroute, haddress⟩ := mem_routesAt.1 hmem
    exact ⟨r, hroute, haddress, htarget.symm.trans hr⟩

/-- The method maps that the locations name, parents last, are all method maps in order. -/
theorem filterMap_mapOf?_postorderAll (h : Compiled routes t) :
    (Location.postorderAll t.locations).filterMap t.proxyConfig.mapOf? = t.methodMaps := by
  let named (target : String) := t.methodMaps.find? fun M => target = "$" ++ M.name
  calc (Location.postorderAll t.locations).filterMap t.proxyConfig.mapOf?
      = ((Location.postorderAll t.locations).map Location.record).filterMap
          fun x => named x.2.1 := by
        rw [List.filterMap_map]
        rfl
    _ = (t.endpoints.map Endpoint.record).filterMap fun x => named x.2.1 := by
        rw [t.map_record_postorderAll]
    _ = t.endpoints.filterMap fun e => named e.proxyTarget := by
        rw [List.filterMap_map]
        rfl
    _ = t.endpoints.filterMap Endpoint.methodMap? := by
        refine List.filterMap_congr fun e he => ?_
        obtain ⟨s, hs⟩ := h.gathers.canonical.mem_endpoints_iff.1 he
        exact h.find?_methodMaps hs
    _ = t.methodMaps := t.methodMaps_eq_filterMap.symm

end Compiled

/-- Every method map of a compiled configuration has two or more entries and is named by the target of
exactly one location. The path of that location gives the map its name, and its unallowed methods are
those without an entry, in canonical order. Every other location has the target of a route with its
segments, which names no map. The maps stand in the order of the locations that use them, parents
last. -/
theorem maps_of_compile {routes : List Route} {c : ProxyConfig} (h : compile routes = .ok c) :
    (∀ M ∈ c.maps, 2 ≤ M.table.entries.length ∧ ∃ l, c.usersOf M = [l] ∧
      Path.mapVariable l.path = M.name ∧
      l.unallowed = Method.all.filter fun m => (M.table.get? m).isNone) ∧
    (∀ l ∈ Location.preorderAll c.locations, (∀ M ∈ c.maps, c.usersOf M ≠ [l]) →
      (∃ r ∈ routes, Path.segments r.path = Path.segments l.path ∧ l.target = r.target) ∧
        ∀ M ∈ c.maps, l.target ≠ "$" ++ M.name) ∧
    (Location.postorderAll c.locations).filterMap c.mapOf? = c.maps := by
  obtain ⟨t, ht, rfl⟩ := exists_compiled h
  refine ⟨fun M hM => ht.usersOf_eq hM, fun l hl hother => ?_, ht.filterMap_mapOf?_postorderAll⟩
  -- a location that named a map would be the one location that uses it
  have hliteral : ∀ M ∈ t.methodMaps, l.target ≠ "$" ++ M.name := by
    intro M hM htarget
    obtain ⟨-, l', husers, -⟩ := ht.usersOf_eq hM
    have hmem : l ∈ t.proxyConfig.usersOf M := ProxyConfig.mem_usersOf.2 ⟨hl, htarget⟩
    rw [husers, List.mem_singleton] at hmem
    rw [← hmem] at husers
    exact hother M hM husers
  exact ⟨ht.exists_route_of_literal hl hliteral, hliteral⟩

theorem maps_of_compile_sampleRoutes :
    ∃ c M, compile sampleRoutes = .ok c ∧ M ∈ c.maps ∧ (∃ l, c.usersOf M = [l] ∧
      Path.mapVariable l.path = "a_b_target" ∧ l.unallowed = [.put, .delete, .patch]) ∧
      (Location.postorderAll c.locations).filterMap c.mapOf? = c.maps := by
  have hcompile : compile sampleRoutes = .ok _ := rfl
  obtain ⟨hmaps, -, horder⟩ := maps_of_compile hcompile
  obtain ⟨-, l, husers, hname, hunallowed⟩ := hmaps _ (.head _)
  exact ⟨_, _, hcompile, .head _, ⟨l, husers, hname, hunallowed⟩, horder⟩

end GatewayRouting
