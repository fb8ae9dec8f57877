import GatewayRouting.Proofs.UnspelledTrie

/-!
# The outline of a configuration

The outline of a location tree shows segments in place of paths, and in place of the variable of a
method map the table of that map. Two lists of routes that differ in their order and in the spelling
of their paths have the same outline whenever both compile (`outline_of_compile_respelled`).

`Trie.outlines` reads an outline off a trie without looking at any spelling (`outlines_unspelled`).
That it is the outline of the compiled configuration (`Compiled.outline_proxyConfig`) needs what the
check of the variables ensures: a target names the method map of its own endpoint or none.
-/

namespace GatewayRouting

/-- A location without the spelling of its path and the name of its method map. -/
structure Outline where
  segments : List String
  targets : Targets
  unallowed : List Method
  children : List Outline
deriving Repr

/-- What a target stands for among some method maps: the table of the map that it names, or itself if
it names none. -/
def targetsOf (maps : List MethodMap) (target : String) : Targets :=
  match maps.find? fun M => target = "$" ++ M.name with
  | none => .single target
  | some M => .byMethod M.table

namespace Location

mutual

/-- A location and all below it, without spellings and names. -/
def outline (maps : List MethodMap) : Location → Outline
  | ⟨path, target, unallowed, children⟩ =>
    ⟨Path.segments path, targetsOf maps target, unallowed, outlineAll maps children⟩

/-- The locations of a list and all below them, without spellings and names. -/
def outlineAll (maps : List MethodMap) : List Location → List Outline
  | [] => []
  | l :: rest => outline maps l :: outlineAll maps rest

end

theorem outlineAll_eq_map (maps : List MethodMap) (ls : List Location) :
    outlineAll maps ls = ls.map (outline maps) := by
  induction ls with
  | nil => rfl
  | cons l rest ih => rw [outlineAll, ih, List.map_cons]

end Location

/-- The location tree of a configuration without spellings and names. -/
def ProxyConfig.outline (c : ProxyConfig) : List Outline :=
  Location.outlineAll c.maps c.locations

/-! ## One endpoint -/

namespace Endpoint

/-- What the location of an endpoint proxies to: the targets bound, where a table with a single entry
counts as a single target. -/
def outlineTargets (e : Endpoint) : Targets :=
  match e.methodMap? with
  | none => .single e.proxyTarget
  | some M => .byMethod M.table

theorem map_table_methodMap?_unspelled (e : Endpoint) :
    e.unspelled.methodMap?.map MethodMap.table = e.methodMap?.map MethodMap.table := by
  obtain ⟨path, targets⟩ := e
  cases targets with
  | single target => rfl
  | byMethod table =>
    simp only [methodMap?, unspelled]
    split <;> rfl

/-- The name of a method map is all that the targets of an endpoint owe to its spelling. -/
theorem outlineTargets_unspelled (e : Endpoint) :
    e.unspelled.outlineTargets = e.outlineTargets := by
  obtain ⟨path, targets⟩ := e
  cases targets with
  | single target => rfl
  | byMethod table =>
    simp only [outlineTargets, methodMap?, proxyTarget, unspelled]
    -- a table with one entry stands for the target of that entry, any other table for itself
    rcases table.entries with - | ⟨b, - | ⟨b', rest⟩⟩ <;> rfl

end Endpoint

/-! ## The outline of a trie -/

namespace Trie

mutual

/-- The outline of a trie that hangs at an address. -/
def outlines (s : List String) : Trie → List Outline
  | .node _ none cs => outlinesBelow s cs
  | .node path (some targets) cs =>
    [⟨s, Endpoint.outlineTargets ⟨path, targets⟩, Endpoint.unallowed ⟨path, targets⟩,
      outlinesBelow s cs⟩]

/-- The outline of all subtries in a list of children. -/
def outlinesBelow (s : List String) : List (String × Trie) → List Outline
  | [] => []
  | (k, t) :: rest => outlines (s ++ [k]) t ++ outlinesBelow s rest

end

theorem outlinesBelow_eq_flatMap (s : List String) (cs : List (String × Trie)) :
    outlinesBelow s cs = cs.flatMap fun c => c.2.outlines (s ++ [c.1]) := by
  induction cs with
  | nil => rfl
  | cons c rest ih => rw [outlinesBelow, ih, List.flatMap_cons]

/-- The outline of a trie does not depend on spellings. -/
theorem outlines_unspelled (t : Trie) (s : List String) :
    t.unspelled.outlines s = t.outlines s := by
  induction t generalizing s with
  | node path targets? cs ih =>
    have hbelow : outlinesBelow s (unspelledBelow cs) = outlinesBelow s cs := by
      rw [unspelledBelow_eq_map, outlinesBelow_eq_flatMap, outlinesBelow_eq_flatMap,
        List.flatMap_map]
      exact List.flatMap_congr fun c hc => ih c hc (s ++ [c.1])
    cases targets? with
    | none => exact hbelow
    | some targets =>
      have htargets := Endpoint.outlineTargets_unspelled ⟨path, targets⟩
      rw [Endpoint.unspelled] at htargets
      simp only [unspelled, outlines, hbelow, htargets]
      rfl

/-- The tables of the method maps do not depend on spellings. -/
theorem map_table_methodMaps_unspelled (t : Trie) :
    t.unspelled.methodMaps.map MethodMap.table = t.methodMaps.map MethodMap.table := by
  induction t with
  | node path targets? cs ih =>
    have hbelow : (methodMapsBelow (unspelledBelow cs)).map MethodMap.table =
        (methodMapsBelow cs).map MethodMap.table := by
      rw [unspelledBelow_eq_map, methodMapsBelow_eq_flatMap, methodMapsBelow_eq_flatMap,
        List.flatMap_map, List.map_flatMap, List.map_flatMap]
      exact List.flatMap_congr fun c hc => ih c hc
    cases targets? with
    | none => exact hbelow
    | some targets =>
      have hmap := Endpoint.map_table_methodMap?_unspelled ⟨path, targets⟩
      rw [Endpoint.unspelled] at hmap
      simp only [unspelled, methodMaps, List.map_append, hbelow, ← Option.toList_map, hmap]

/-- The locations of a trie have its outline, provided that every endpoint is spelled as its address
and its target stands for what it binds. -/
theorem Canonical.outlineAll_locations {maps : List MethodMap} {t : Trie} (ht : t.Canonical)
    (s : List String)
    (hbound : ∀ s' e, t.at? s' = some e →
      Path.segments e.path = s ++ s' ∧ targetsOf maps e.proxyTarget = e.outlineTargets) :
    Location.outlineAll maps t.locations = t.outlines s := by
  induction t generalizing s with
  | node path targets? cs ih =>
    cases ht with
    | node structural ascending occupied below =>
      have hbelow : Location.outlineAll maps (locationsBelow cs) = outlinesBelow s cs := by
        rw [Location.outlineAll_eq_map, locationsBelow_eq_flatMap, outlinesBelow_eq_flatMap,
          List.map_flatMap]
        refine List.flatMap_congr fun c hc => ?_
        rw [← Location.outlineAll_eq_map]
        refine ih c hc (below c hc) (s ++ [c.1]) fun s' e' hs' => ?_
        have hnode : (Trie.node path targets? cs).Canonical :=
          .node structural ascending occupied below
        have hat : (Trie.node path targets? cs).at? (c.1 :: s') = some e' := by
          rw [hnode.at?_of_mem_children hc]
          exact hs'
        rw [List.append_assoc]
        exact hbound (c.1 :: s') e' hat
      cases targets? with
      | none => exact hbelow
      | some targets =>
        obtain ⟨hsegments, htargets⟩ := hbound [] ⟨path, targets⟩ rfl
        rw [List.append_nil] at hsegments
        simp only [locations, outlines, Location.outlineAll, Endpoint.location, Location.outline,
          hsegments, htargets, hbelow]

end Trie

/-! ## Compiled configurations -/

variable {routes routes' : List Route} {t : Trie}

/-- The outline of a compiled configuration is that of its trie. -/
theorem Compiled.outline_proxyConfig (h : Compiled routes t) :
    t.proxyConfig.outline = t.outlines [] := by
  refine h.gathers.canonical.outlineAll_locations [] fun s e hs => ⟨h.segments_path hs, ?_⟩
  rw [targetsOf, Endpoint.outlineTargets, ← h.find?_methodMaps hs]
  rfl

/-- Lists of routes that differ in their order and in the spelling of their paths compile to
configurations with the same outline, and with the same tables in the same order. -/
theorem outline_of_compile_respelled {c c' : ProxyConfig} (hrespelled : Respelled routes routes')
    (h : compile routes = .ok c) (h' : compile routes' = .ok c') :
    c.outline = c'.outline ∧ c.maps.map MethodMap.table = c'.maps.map MethodMap.table := by
  obtain ⟨t, ht, rfl⟩ := exists_compiled h
  obtain ⟨t', ht', rfl⟩ := exists_compiled h'
  have hsame : t.unspelled = t'.unspelled :=
    hrespelled.unspelled_eq ht.conflictFree ht.gathers ht'.gathers
  constructor
  · rw [ht.outline_proxyConfig, ht'.outline_proxyConfig, ← t.outlines_unspelled, hsame,
      t'.outlines_unspelled]
  · change t.methodMaps.map MethodMap.table = t'.methodMaps.map MethodMap.table
    rw [← t.map_table_methodMaps_unspelled, hsame, t'.map_table_methodMaps_unspelled]

/-- The sample routes in reverse order, with every path spelled differently. -/
def respelledRoutes : List Route :=
  [⟨"//", none, "R"⟩, ⟨"/a/", some [.put], "P"⟩, ⟨"/c//d", none, "$a_target"⟩,
    ⟨"/a//b", some [.post], "$up"⟩, ⟨"/a/b/", some [.get], "X"⟩]

theorem respelled_respelledRoutes : Respelled sampleRoutes respelledRoutes := by
  have hforall : List.Forall₂ Route.Respells sampleRoutes respelledRoutes.reverse := by decide
  exact ⟨respelledRoutes.reverse, hforall, List.reverse_perm _⟩

theorem outline_of_compile_respelledRoutes :
    ∃ c c', compile sampleRoutes = .ok c ∧ compile respelledRoutes = .ok c' ∧
      c.maps.map MethodMap.name = ["a_b_target"] ∧
      c'.maps.map MethodMap.name = ["a__b_target"] ∧
      c.outline = c'.outline ∧ c.maps.map MethodMap.table = c'.maps.map MethodMap.table :=
  ⟨_, _, rfl, rfl, rfl, rfl, outline_of_compile_respelled respelled_respelledRoutes rfl rfl⟩

end GatewayRouting
