import GatewayRouting.Proofs.MapLocations
import GatewayRouting.Proofs.RouteOrder

/-!
# Reading routes off a configuration

`ProxyConfig.decompile` reads routes off the locations and method maps of a configuration. Of a compiled
configuration nothing is lost that way: its routes, in whatever order, compile to the same configuration
again (`compile_decompile`).

The same is done for a single endpoint (`Endpoint.routes`) and for a trie (`Trie.routes`), and undone by
gathering:

* `Endpoint.ofRoutes_routes` : the routes of an endpoint bind that endpoint;
* `Gathers.ofRoutes_routes` : the routes of a trie lead to that trie;
* `Compiled.decompile_eq` : the routes of a compiled configuration are those of its trie.
-/

namespace GatewayRouting

/-- The routes that a location stands for, given the method map that it names. With a map there is one
for each entry. Without one there is a single route for the methods that are not left out, and it has no
list of methods when none is. -/
def Location.routes (l : Location) : Option MethodMap → List Route
  | some M => M.table.entries.map fun b => ⟨l.path, some [b.1], b.2⟩
  | none =>
    if l.unallowed = [] then [⟨l.path, none, l.target⟩]
    else [⟨l.path, some (Method.all.filter fun m => m ∉ l.unallowed), l.target⟩]

/-- The routes of a location have its path, and declare no method twice. -/
theorem Location.path_and_methods_of_mem_routes {l : Location} {M : Option MethodMap} {r : Route}
    (hr : r ∈ l.routes M) : r.path = l.path ∧ r.declared.Nodup := by
  have hall : Method.all.Nodup := by decide
  cases M with
  | some M =>
    obtain ⟨b, -, rfl⟩ := List.mem_map.1 hr
    exact ⟨rfl, List.nodup_singleton b.1⟩
  | none =>
    by_cases hunallowed : l.unallowed = []
    · rw [routes, if_pos hunallowed, List.mem_singleton] at hr
      rw [hr]
      exact ⟨rfl, List.nodup_nil⟩
    · rw [routes, if_neg hunallowed, List.mem_singleton] at hr
      rw [hr]
      exact ⟨rfl, hall.filter fun m => m ∉ l.unallowed⟩

/-- The routes that a configuration stands for, those of a location before those of the locations
inside. -/
def ProxyConfig.decompile (c : ProxyConfig) : List Route :=
  (Location.preorderAll c.locations).flatMap fun l => l.routes (c.mapOf? l)

/-! ## One endpoint -/

namespace MethodTable

/-- The methods that are not missing are those of the entries. -/
theorem filter_notMem_missing (t : MethodTable) :
    (Method.all.filter fun m => m ∉ t.missing) = t.entries.map Prod.fst := by
  rw [map_fst_entries]
  refine List.filter_congr fun m _ => ?_
  cases hget : t.get? m <;> simp [mem_missing_iff, hget]

/-- A table with a single entry leaves methods out. -/
theorem missing_ne_nil {t : MethodTable} {b : Method × String} (h : t.entries = [b]) :
    t.missing ≠ [] := by
  intro hmissing
  have hfst : Method.all = [b.1] := by
    rw [← List.map_singleton, ← h, ← filter_notMem_missing, hmissing]
    rfl
  have hlength : Method.all.length = 1 := congrArg List.length hfst
  exact absurd hlength (by decide)

end MethodTable

namespace Endpoint

/-- The routes that an endpoint stands for. -/
def routes (e : Endpoint) : List Route :=
  (e.location []).routes e.methodMap?

variable {e : Endpoint} {table : MethodTable}

theorem routes_of_single {target : String} (h : e.targets = .single target) :
    e.routes = [⟨e.path, none, target⟩] := by
  simp only [routes, location, Location.routes, methodMap?, proxyTarget, unallowed, h, if_true]

/-- The routes of an endpoint with a table are those of the entries, also where there is only one entry
and no method map for it. -/
theorem routes_of_byMethod (h : e.targets = .byMethod table) (hne : table.entries ≠ []) :
    e.routes = table.entries.map fun b => ⟨e.path, some [b.1], b.2⟩ := by
  cases hentries : table.entries with
  | nil => exact absurd hentries hne
  | cons b rest =>
    cases rest with
    | nil =>
      -- there is no map, so the method is the one that the location does not leave out
      have hmethods := table.filter_notMem_missing
      rw [hentries] at hmethods
      simp only [routes, location, Location.routes, methodMap?, proxyTarget, unallowed, h, hentries,
        if_neg (MethodTable.missing_ne_nil hentries), hmethods, List.map_cons, List.map_nil]
    | cons b' rest =>
      simp only [routes, location, Location.routes, methodMap?, h, hentries]

theorem path_of_mem_routes {r : Route} (hr : r ∈ e.routes) : r.path = e.path :=
  (Location.path_and_methods_of_mem_routes hr).1

/-- The routes of an endpoint with a table are compatible, as no method has two entries. -/
theorem compatible_entries (path : String) (table : MethodTable) :
    (table.entries.map fun b => (⟨path, some [b.1], b.2⟩ : Route)).Pairwise Route.Compatible := by
  have hall : Method.all.Nodup := by decide
  have hnodup : (table.entries.map Prod.fst).Nodup := by
    rw [MethodTable.map_fst_entries]
    exact hall.filter _
  rw [List.pairwise_map]
  refine (List.pairwise_map.1 hnodup).imp fun {b b'} hne => ?_
  simpa [Route.Compatible, Route.declared] using hne

theorem compatible_routes (hne : ∀ table, e.targets = .byMethod table → table.entries ≠ []) :
    e.routes.Pairwise Route.Compatible := by
  cases htargets : e.targets with
  | single target =>
    rw [routes_of_single htargets]
    exact List.pairwise_singleton _ _
  | byMethod table =>
    rw [routes_of_byMethod htargets (hne table htargets)]
    exact compatible_entries e.path table

/-- The routes of the entries of a table bind the table. -/
theorem ofRoutes_entries (path : String) (table : MethodTable) :
    MethodTable.ofRoutes (table.entries.map fun b => ⟨path, some [b.1], b.2⟩) = table := by
  ext m target
  rw [MethodTable.get?_ofRoutes_eq_some_iff (compatible_entries path table),
    ← MethodTable.mem_entries_iff]
  simp only [List.mem_map]
  constructor
  · rintro ⟨_, ⟨b, hb, rfl⟩, hm, rfl⟩
    rw [List.mem_singleton.1 hm]
    exact hb
  · intro hentry
    exact ⟨_, ⟨_, hentry, rfl⟩, List.mem_singleton_self m, rfl⟩

/-- The routes of an endpoint bind that endpoint. -/
theorem ofRoutes_routes (hne : ∀ table, e.targets = .byMethod table → table.entries ≠ []) :
    ofRoutes e.routes = some e := by
  obtain ⟨path, targets⟩ := e
  cases targets with
  | single target =>
    rw [routes_of_single rfl]
    rfl
  | byMethod table =>
    rw [routes_of_byMethod rfl (hne table rfl)]
    have htable := ofRoutes_entries path table
    cases hentries : table.entries with
    | nil => exact absurd hentries (hne table rfl)
    | cons b rest =>
      rw [hentries] at htable
      -- the route of the first entry gives the path, and all of them together the table
      have hhead : ((b :: rest).map fun b => (⟨path, some [b.1], b.2⟩ : Route)).head? =
          some ⟨path, some [b.1], b.2⟩ := rfl
      rw [ofRoutes_of_head? hhead, htable]
      rfl

/-- Every route of an endpoint leads to the target of a route that was bound there. -/
theorem exists_target_of_mem_routes {group : List Route} {r : Route} (h : ofRoutes group = some e)
    (hr : r ∈ e.routes) : ∃ r' ∈ group, r'.target = r.target := by
  cases group with
  | nil => cases h
  | cons r₀ rest =>
    -- the first route decides whether there is one target or a table
    by_cases hr₀ : r₀.declared = []
    · have htargets : e.targets = .single r₀.target := by
        cases h
        simp [hr₀]
      rw [routes_of_single htargets] at hr
      rw [List.mem_singleton.1 hr]
      exact ⟨r₀, List.mem_cons_self, rfl⟩
    · have htargets : e.targets = .byMethod (.ofRoutes (r₀ :: rest)) := by
        cases h
        simp [hr₀]
      rw [routes_of_byMethod htargets (entries_ne_nil_of_ofRoutes h htargets)] at hr
      obtain ⟨⟨m, target⟩, hentry, rfl⟩ := List.mem_map.1 hr
      obtain ⟨r', hfind, htarget⟩ := Option.map_eq_some_iff.1 (MethodTable.mem_entries_iff.1 hentry)
      exact ⟨r', List.mem_of_find?_eq_some hfind, htarget⟩

/-- The routes of an endpoint declare no method twice. -/
theorem declared_nodup_of_mem_routes {r : Route} (hr : r ∈ e.routes) : r.declared.Nodup :=
  (Location.path_and_methods_of_mem_routes hr).2

end Endpoint

/-! ## The whole trie -/

/-- Lists gathered from what a filter leaves are empty for the rest. -/
theorem flatMap_filter {α β : Type} (xs : List α) (p : α → Prop) [DecidablePred p]
    (f : α → List β) :
    (xs.filter fun x => p x).flatMap f = xs.flatMap fun x => if p x then f x else [] := by
  induction xs with
  | nil => rfl
  | cons x xs ih => by_cases hx : p x <;> simp [hx, ih]

/-- The routes that a trie stands for. -/
def Trie.routes (t : Trie) : List Route :=
  t.bindings.flatMap fun b => b.2.routes

namespace Gathers

variable {routes : List Route} {t : Trie} {s : List String} {e : Endpoint} {r r' : Route}

theorem mem_routes_iff (h : Gathers t routes) :
    r ∈ t.routes ↔ ∃ s e, t.at? s = some e ∧ r ∈ e.routes := by
  simp only [Trie.routes, List.mem_flatMap, Prod.exists, h.canonical.mem_bindings_iff]

/-- The routes of an endpoint end at its address. -/
theorem address_of_mem_routes (h : Gathers t routes) (hs : t.at? s = some e) (hr : r ∈ e.routes) :
    r.address = s := by
  rw [Route.address, Endpoint.path_of_mem_routes hr]
  exact h.segments_path hs

/-- The routes of a trie that end at one node have one path. -/
theorem spelledAlike_routes (h : Gathers t routes) : SpelledAlike t.routes := by
  intro r hr r' hr' haddress
  obtain ⟨s, e, hs, hre⟩ := h.mem_routes_iff.1 hr
  obtain ⟨s', e', hs', hre'⟩ := h.mem_routes_iff.1 hr'
  have heq : s = s' := by
    rw [← h.address_of_mem_routes hs hre, ← h.address_of_mem_routes hs' hre']
    exact haddress
  rw [heq, hs', Option.some.injEq] at hs
  rw [Endpoint.path_of_mem_routes hre, Endpoint.path_of_mem_routes hre', hs]

theorem conflictFree_routes (h : Gathers t routes) : ConflictFree t.routes := by
  rw [ConflictFree, Trie.routes, List.pairwise_flatMap]
  constructor
  · intro b hb
    have hs := h.canonical.mem_bindings_iff.1 hb
    refine (Endpoint.compatible_routes (h.entries_ne_nil hs)).imp ?_
    intro r r' hcompatible _
    exact hcompatible
  · -- routes of different endpoints do not end at one node
    refine (List.pairwise_map.1 h.canonical.addresses_nodup).imp_of_mem ?_
    intro b b' hb hb' hne r hr r' hr' haddress
    have hs := h.canonical.mem_bindings_iff.1 hb
    have hs' := h.canonical.mem_bindings_iff.1 hb'
    rw [h.address_of_mem_routes hs hr, h.address_of_mem_routes hs' hr'] at haddress
    exact absurd haddress hne

/-- The routes of a trie that end at an address are those of the endpoint there, if there is one. -/
theorem routesAt_routes (h : Gathers t routes) (s : List String) :
    routesAt t.routes s = (t.at? s).toList.flatMap Endpoint.routes := by
  have hfilter : ∀ b ∈ t.bindings, (b.2.routes.filter fun r => r.address = s) =
      if b.1 = s then b.2.routes else [] := by
    intro b hb
    -- all routes of a binding end at its address, so the filter keeps all of them or none
    have haddress := fun r => h.address_of_mem_routes (r := r) (h.canonical.mem_bindings_iff.1 hb)
    split
    · next hb => exact List.filter_eq_self.2 fun r hr => by simp [haddress r hr, hb]
    · next hb => exact List.filter_eq_nil_iff.2 fun r hr => by simp [haddress r hr, hb]
  rw [routesAt, Trie.routes, List.filter_flatMap, List.flatMap_congr hfilter, ← flatMap_filter,
    h.canonical.filter_bindings, List.flatMap_map]

/-- A trie gathers its own routes. -/
theorem gathers_routes (h : Gathers t routes) : Gathers t t.routes := by
  refine ⟨h.canonical, fun s => ?_⟩
  rw [h.routesAt_routes]
  cases hs : t.at? s with
  | none => rfl
  | some e =>
    rw [Option.toList_some, List.flatMap_singleton]
    exact (Endpoint.ofRoutes_routes (h.entries_ne_nil hs)).symm

/-- The routes of a trie lead to that trie. -/
theorem ofRoutes_routes (h : Gathers t routes) : Trie.ofRoutes t.routes = .ok t :=
  h.gathers_routes.ofRoutes_eq h.conflictFree_routes

end Gathers

/-! ## A compiled configuration -/

/-- The routes of the trie of valid routes are valid. -/
theorem Gathered.valid_of_mem_routes {routes : List Route} {t : Trie} (h : Gathered routes t)
    {r : Route} (hr : r ∈ t.routes) : r.Valid := by
  obtain ⟨s, e, hs, hre⟩ := h.gathers.mem_routes_iff.1 hr
  have hgroup := h.ofRoutes_eq hs
  have hmem : ∀ r ∈ routesAt routes s, r.Valid := fun r hr => h.valid r (mem_routesAt.1 hr).1
  -- the path is that of the first route of the group, and the target that of some route
  obtain ⟨r₁, hhead, hpath⟩ := Endpoint.path_of_ofRoutes hgroup
  obtain ⟨r₂, hr₂, htarget⟩ := Endpoint.exists_target_of_mem_routes hgroup hre
  have hvalid₁ := hmem r₁ (List.mem_of_mem_head? hhead)
  have hvalid₂ := hmem r₂ hr₂
  have hrpath : r.path = r₁.path := (Endpoint.path_of_mem_routes hre).trans hpath
  exact {
    path_slash := by rw [hrpath]; exact hvalid₁.path_slash
    path_plain := by rw [hrpath]; exact hvalid₁.path_plain
    methods_nodup := Endpoint.declared_nodup_of_mem_routes hre
    target_ne := by rw [← htarget]; exact hvalid₂.target_ne
    target_plain := by rw [← htarget]; exact hvalid₂.target_plain }

/-- The routes of a compiled configuration are those of its trie. -/
theorem Compiled.decompile_eq {routes : List Route} {t : Trie} (h : Compiled routes t) :
    t.proxyConfig.decompile = t.routes := by
  let read (x : String × String × List Method) : List Route :=
    (⟨x.1, x.2.1, x.2.2, []⟩ : Location).routes
      (t.methodMaps.find? fun M => x.2.1 = "$" ++ M.name)
  calc t.proxyConfig.decompile
      = ((Location.preorderAll t.locations).map fun l => read l.record).flatten := rfl
    _ = (t.bindings.map fun b => read b.2.record).flatten := by rw [t.map_locations read]
    _ = t.bindings.flatMap fun b => b.2.routes := by
      rw [← List.flatMap_def]
      refine List.flatMap_congr fun b hb => ?_
      -- a literal target names no map, although it may start with a dollar sign
      have hmap := h.find?_methodMaps (h.gathers.canonical.mem_bindings_iff.1 hb)
      exact congrArg (b.2.location []).routes hmap

/-- A compiled configuration is what the routes read off it compile to, in whatever order they are
declared. -/
theorem compile_decompile {routes : List Route} {c : ProxyConfig} (h : compile routes = .ok c) :
    compile c.decompile = .ok c ∧ ∀ rs, c.decompile.Perm rs → compile rs = .ok c := by
  obtain ⟨t, ht, rfl⟩ := exists_compiled h
  -- the routes lead to the trie that was checked before, so the check passes again
  have hsame : compile t.proxyConfig.decompile = .ok t.proxyConfig := by
    rw [ht.decompile_eq, compile_ok_iff]
    exact ⟨fun r hr => ht.valid_of_mem_routes hr, t, ht.gathers.ofRoutes_routes, ht.checked, rfl⟩
  have halike : SpelledAlike t.proxyConfig.decompile := by
    rw [ht.decompile_eq]
    exact ht.gathers.spelledAlike_routes
  exact ⟨hsame, fun rs hperm => compile_ok_of_perm hperm halike hsame⟩

/-- Routes that give every method of one path a target, and leave no trace of its second spelling. -/
def everyMethodRoutes : List Route :=
  [⟨"/c/d", none, "$a_target"⟩, ⟨"/a/b", some [.delete, .put], "$up"⟩, ⟨"/", some [.post], "R"⟩,
    ⟨"/a//b", some [.get, .patch, .post], "X"⟩]

theorem compile_decompile_everyMethodRoutes :
    ∃ c, compile everyMethodRoutes = .ok c ∧
      c.decompile = [⟨"/", some [.post], "R"⟩, ⟨"/a/b", some [.get], "X"⟩,
        ⟨"/a/b", some [.post], "X"⟩, ⟨"/a/b", some [.put], "$up"⟩,
        ⟨"/a/b", some [.delete], "$up"⟩, ⟨"/a/b", some [.patch], "X"⟩,
        ⟨"/c/d", none, "$a_target"⟩] ∧
      compile c.decompile = .ok c ∧ compile c.decompile.reverse = .ok c := by
  have hcompile : compile everyMethodRoutes = .ok _ := rfl
  obtain ⟨hsame, hperm⟩ := compile_decompile hcompile
  exact ⟨_, hcompile, rfl, hsame, hperm _ (List.reverse_perm _).symm⟩

end GatewayRouting
