import GatewayRouting.Proofs.LocationTree
import GatewayRouting.Proofs.PathText

/-!
# Nested paths

Locations are nested by their segments, while the proxy compares the characters of their paths. The two
agree on paths that double no slash: such a location is nested in locations whose paths begin its own
path, and in others only where these double a slash (`prefix_iff_of_nested`).
-/

namespace GatewayRouting

variable {routes : List Route} {t : Trie} {l parent : Location}

/-- What is nested in a location of a trie is a location of the trie. -/
theorem Trie.Canonical.mem_preorderAll_of_nested (ht : t.Canonical)
    (hparent : parent ∈ Location.preorderAll t.locations)
    (hl : l ∈ Location.preorderAll parent.children) : l ∈ Location.preorderAll t.locations := by
  obtain ⟨s, hs⟩ := ht.mem_preorderAll_locations_iff.1 hparent
  obtain ⟨k, s', hs'⟩ := (ht.mem_preorderAll_children_iff hs).1 hl
  exact ht.mem_preorderAll_locations_iff.2 ⟨s ++ k :: s', hs'⟩

/-- Every location bears the path of a route. -/
theorem Gathered.exists_route_of_location (h : Gathered routes t)
    (hl : l ∈ Location.preorderAll t.locations) : ∃ r ∈ routes, r.path = l.path := by
  obtain ⟨r, hfind, hpath⟩ := Option.map_eq_some_iff.1 (h.path_eq_first hl)
  exact ⟨r, List.mem_of_find?_eq_some hfind, hpath⟩

/-- A location whose path doubles no slash is nested in a location whose path begins its own, unless
that path doubles a slash. -/
theorem prefix_iff_of_nested {c : ProxyConfig} (h : compile routes = .ok c)
    (hparent : parent ∈ Location.preorderAll c.locations)
    (hl : l ∈ Location.preorderAll parent.children) (hdouble : ¬ ['/', '/'] <:+: l.path.toList) :
    parent.path.toList <+: l.path.toList ↔ ¬ ['/', '/'] <:+: parent.path.toList := by
  obtain ⟨t, ht, rfl⟩ := exists_compiled h
  have hgathered := ht.toGathered
  have hmem := ht.gathers.canonical.mem_preorderAll_of_nested hparent hl
  obtain ⟨hbegins, hne⟩ := (hgathered.mem_preorderAll_children_iff hparent hmem).1 hl
  obtain ⟨r, hr, hpath⟩ := hgathered.exists_route_of_location hparent
  obtain ⟨r', hr', hpath'⟩ := hgathered.exists_route_of_location hmem
  have hvalid := ht.valid r hr
  have hvalid' := ht.valid r' hr'
  rw [← hpath'] at hdouble
  rw [← hpath, ← hpath'] at hbegins hne ⊢
  exact Path.prefix_iff hvalid.path_slash hvalid.path_plain hvalid'.path_slash
    hvalid'.path_plain hdouble hbegins hne

theorem prefix_iff_of_nested_sampleRoutes :
    ∃ c parent l, compile sampleRoutes = .ok c ∧ parent ∈ Location.preorderAll c.locations ∧
      l ∈ Location.preorderAll parent.children ∧ parent.path = "/a" ∧ l.path = "/a/b" ∧
      parent.path.toList <+: l.path.toList := by
  refine ⟨_, _, _, rfl, .tail _ (.head _), .head _, rfl, rfl, ?_⟩
  have hcompile : compile sampleRoutes = .ok _ := rfl
  have hiff := prefix_iff_of_nested hcompile (.tail _ (.head _)) (.head _) (by decide)
  exact hiff.2 (by decide)

/-- Routes of which the first doubles a slash in front of the segments of the second. -/
def doubledParentRoutes : List Route :=
  [⟨"/a//b", none, "A"⟩, ⟨"/a/b/c", none, "B"⟩]

/-- The path of a location need not begin the paths of the locations inside. -/
theorem not_prefix_doubledParentRoutes :
    ∃ c parent l, compile doubledParentRoutes = .ok c ∧ parent ∈ c.locations ∧
      l ∈ parent.children ∧ ¬ parent.path.toList <+: l.path.toList := by
  refine ⟨_, _, _, rfl, .head _, .head _, ?_⟩
  decide

end GatewayRouting
