import GatewayRouting.Proofs.Compiled
import Mathlib.Data.List.Dedup

/-!
# The shape of the compiled location tree

Parents before children and siblings in order, the locations of a compiled configuration are listed
in strictly ascending order of their segments. There is one for every segment list that a route
spells, under the spelling of the first such route, and nesting is proper extension of segment lists
(`locationTree_of_compile`). Structural nodes do not show in any of this.
-/

namespace GatewayRouting

namespace Gathered

variable {routes : List Route} {t : Trie} {l parent : Location}

/-- The segments of the locations ascend. -/
theorem segments_sorted (h : Gathered routes t) :
    ((Location.preorderAll t.locations).map fun l => Path.segments l.path).Pairwise (· < ·) := by
  rw [h.map_segments_locations]
  exact h.gathers.canonical.bindings_sorted

/-- The locations spell the same segment lists as the routes. -/
theorem mem_segments_iff (h : Gathered routes t) {s : List String} :
    s ∈ (Location.preorderAll t.locations).map (fun l => Path.segments l.path) ↔
      s ∈ routes.map fun r => Path.segments r.path := by
  rw [h.map_segments_locations]
  constructor
  · intro hs
    obtain ⟨⟨s', e⟩, hb, rfl⟩ := List.mem_map.1 hs
    have hat := h.gathers.canonical.mem_bindings_iff.1 hb
    obtain ⟨r, hhead, -⟩ := Endpoint.path_of_ofRoutes (h.ofRoutes_eq hat)
    obtain ⟨hr, haddress⟩ := mem_routesAt.1 (List.mem_of_mem_head? hhead)
    exact List.mem_map.2 ⟨r, hr, haddress⟩
  · intro hs
    obtain ⟨r, hr, haddress⟩ := List.mem_map.1 hs
    obtain ⟨e, hat⟩ := h.exists_at? (mem_routesAt.2 ⟨hr, haddress⟩)
    exact List.mem_map.2 ⟨(s, e), h.gathers.canonical.mem_bindings_iff.2 hat, rfl⟩

/-- There are as many locations as different segment lists. -/
theorem locationCount_eq (h : Gathered routes t) :
    t.proxyConfig.locationCount = (routes.map fun r => Path.segments r.path).dedup.length := by
  have hperm := (List.perm_ext_iff_of_nodup h.segments_nodup (List.nodup_dedup _)).2 fun s =>
    h.mem_segments_iff.trans List.mem_dedup.symm
  rw [← hperm.length_eq, List.length_map]
  rfl

/-- A location bears the path of the first route with its segments. -/
theorem path_eq_first (h : Gathered routes t) (hl : l ∈ Location.preorderAll t.locations) :
    (routes.find? fun r => Path.segments r.path = Path.segments l.path).map Route.path =
      some l.path := by
  obtain ⟨s, hs⟩ := h.gathers.canonical.mem_preorderAll_locations_iff.1 hl
  obtain ⟨e, hat, he⟩ := Trie.exists_at?_of_locationAt? hs
  have hpath : e.path = l.path := congrArg Prod.fst he
  obtain ⟨r, hhead, hr⟩ := Endpoint.path_of_ofRoutes (h.ofRoutes_eq hat)
  rw [routesAt, List.head?_filter] at hhead
  rw [h.segments_of_locationAt? hs, ← hpath, hr, ← Option.map_some, ← hhead]
  rfl

/-- A location is nested in another one exactly when its segments properly extend those of the
other. -/
theorem mem_preorderAll_children_iff (h : Gathered routes t)
    (hparent : parent ∈ Location.preorderAll t.locations)
    (hl : l ∈ Location.preorderAll t.locations) :
    l ∈ Location.preorderAll parent.children ↔
      Path.segments parent.path <+: Path.segments l.path ∧
        Path.segments parent.path ≠ Path.segments l.path := by
  have hcanonical := h.gathers.canonical
  obtain ⟨s, hs⟩ := hcanonical.mem_preorderAll_locations_iff.1 hparent
  obtain ⟨s', hs'⟩ := hcanonical.mem_preorderAll_locations_iff.1 hl
  rw [hcanonical.mem_preorderAll_children_iff hs, h.segments_of_locationAt? hs,
    h.segments_of_locationAt? hs']
  constructor
  · rintro ⟨k, rest, hrest⟩
    -- a location stands at one address only
    have heq : s' = s ++ k :: rest :=
      (h.segments_of_locationAt? hs').symm.trans (h.segments_of_locationAt? hrest)
    rw [heq]
    exact ⟨List.prefix_append _ _, by simp⟩
  · rintro ⟨⟨rest, rfl⟩, hne⟩
    cases rest with
    | nil => exact absurd (List.append_nil s).symm hne
    | cons k rest => exact ⟨k, rest, hs'⟩

end Gathered

/-- The locations of a compiled configuration, parents first, have strictly ascending segments, those
of the routes and no others, so that there are as many of them as different segment lists. Each bears
the path of the first route with its segments, and is nested in exactly the locations whose segments
it properly extends. -/
theorem locationTree_of_compile {routes : List Route} {c : ProxyConfig}
    (h : compile routes = .ok c) :
    ((Location.preorderAll c.locations).map fun l => Path.segments l.path).Pairwise (· < ·) ∧
    (∀ s, s ∈ (Location.preorderAll c.locations).map (fun l => Path.segments l.path) ↔
      s ∈ routes.map fun r => Path.segments r.path) ∧
    c.locationCount = (routes.map fun r => Path.segments r.path).dedup.length ∧
    (∀ l ∈ Location.preorderAll c.locations,
      (routes.find? fun r => Path.segments r.path = Path.segments l.path).map Route.path =
        some l.path) ∧
    (∀ parent ∈ Location.preorderAll c.locations, ∀ l ∈ Location.preorderAll c.locations,
      l ∈ Location.preorderAll parent.children ↔
        Path.segments parent.path <+: Path.segments l.path ∧
          Path.segments parent.path ≠ Path.segments l.path) := by
  obtain ⟨t, ht, rfl⟩ := exists_compiled h
  have hgathered := ht.toGathered
  exact ⟨hgathered.segments_sorted, fun s => hgathered.mem_segments_iff,
    hgathered.locationCount_eq, fun l hl => hgathered.path_eq_first hl,
    fun parent hparent l hl => hgathered.mem_preorderAll_children_iff hparent hl⟩

theorem locationTree_of_compile_sampleRoutes :
    ∃ c, compile sampleRoutes = .ok c ∧ c.locationCount = 4 ∧
      (∃ l ∈ Location.preorderAll c.locations, Path.segments l.path = ["a", "b"]) ∧
      ∀ l ∈ Location.preorderAll c.locations, Path.segments l.path = ["a", "b"] →
        l.path = "/a/b" := by
  obtain ⟨c, h⟩ := compile_sampleRoutes
  obtain ⟨-, hmem, hcount, hfirst, -⟩ := locationTree_of_compile h
  refine ⟨c, h, hcount.trans (by decide), ?_, fun l hl hsegments => ?_⟩
  · obtain ⟨l, hl, hsegments⟩ := List.mem_map.1 ((hmem ["a", "b"]).2 (by decide))
    exact ⟨l, hl, hsegments⟩
  · have hpath := hfirst l hl
    rw [hsegments] at hpath
    exact (Option.some.inj hpath).symm

end GatewayRouting
