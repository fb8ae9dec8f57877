import GatewayRouting.Proofs.NestedPaths
import Mathlib.Data.List.MinMax

/-!
# Nested search

The proxy looks for the location of a request level by level: of the locations side by side it takes
the one with the longest path that begins the request, and goes on inside (`Location.search`). It
never comes back to a location that it passed by, and does not need to, as long as no path doubles a
slash: the location found is the longest match of the whole tree (`search_of_compile`).

The reason is `Path.segments_prefix_of_between`. Let the longest match of the tree be nested in
`outer`, and let `path` be a longer match beside `outer`. As texts `path` stands between the two, so
its segments extend those of `outer`, and it would be nested in `outer` instead of beside it.
-/

namespace GatewayRouting

/-! ## Paths between nested paths -/

namespace Path

/-- A path without blanks that starts with a slash and doubles none. -/
structure Tidy (path : String) : Prop where
  slash : path.toList.head? = some '/'
  plain : IsPlain path
  single : ¬ ['/', '/'] <:+: path.toList

/-- A path whose text stands between those of two nested paths extends the outer one by segments, and
does not stop in the middle of a segment of the inner one. -/
theorem segments_prefix_of_between {outer path inner : String} (houter : Tidy outer)
    (hinner : Tidy inner) (hbegins : segments outer <+: segments inner)
    (hne : segments outer ≠ segments inner) (h : outer.toList <+: path.toList)
    (h' : path.toList <+: inner.toList) : segments outer <+: segments path := by
  obtain ⟨rest, hrest⟩ := h
  rcases toList_eq_or houter.slash houter.plain houter.single with heq | heq
  · cases rest with
    | nil =>
      have hsame : outer = path := String.toList_inj.1 (by simpa using hrest)
      rw [hsame]
    | cons c rest =>
      -- both texts go on after the segments of `outer`, the inner one with a slash
      have hslash := spell_slash_prefix hinner.slash hinner.plain hinner.single hbegins hne
      have hnext : spell (segments outer) ++ [c] <+: inner.toList := by
        refine List.IsPrefix.trans ⟨rest, ?_⟩ h'
        rw [← hrest, heq, List.append_assoc]
        rfl
      have hsame := (List.prefix_of_prefix_length_le hnext hslash (by simp)).eq_of_length (by simp)
      have hc : c = '/' := by simpa using hsame
      rw [hc] at hrest
      exact segments_prefix_of_slash (.inl rfl) hrest.symm
  · have hpath : path.toList = spell (segments outer) ++ '/' :: rest := by
      rw [← hrest, heq, List.append_assoc]
      rfl
    exact segments_prefix_of_slash (.inr heq) hpath

end Path

namespace Location

/-! ## The search -/

/-- The path of a location begins a request. -/
def Begins (l : Location) (u : String) : Prop :=
  l.path.toList <+: u.toList

instance (l : Location) (u : String) : Decidable (l.Begins u) :=
  inferInstanceAs (Decidable (_ <+: _))

/-- Of the locations of a list that begin a request, one with the longest path. -/
def nearest? (u : String) (ls : List Location) : Option Location :=
  (ls.filter (·.Begins u)).argmax (·.path.length)

theorem mem_of_nearest? {u : String} {ls : List Location} {l : Location}
    (h : nearest? u ls = some l) : l ∈ ls ∧ l.Begins u := by
  simpa using List.mem_filter.1 (List.argmax_mem h)

theorem length_le_of_nearest? {u : String} {ls : List Location} {l l' : Location}
    (h : nearest? u ls = some l) (hl' : l' ∈ ls) (hu : l'.Begins u) :
    l'.path.length ≤ l.path.length :=
  List.le_of_mem_argmax (f := fun l => l.path.length)
    (List.mem_filter.2 ⟨hl', by simpa using hu⟩) h

theorem nearest?_eq_none_iff {u : String} {ls : List Location} :
    nearest? u ls = none ↔ ∀ l ∈ ls, ¬ l.Begins u := by
  simp [nearest?, List.argmax_eq_none, List.filter_eq_nil_iff]

theorem sizeOf_children_lt {ls : List Location} {l : Location} (h : l ∈ ls) :
    sizeOf l.children < sizeOf ls := by
  have hmem := List.sizeOf_lt_of_mem h
  have hchildren : sizeOf l.children < sizeOf l := by
    cases l with
    | mk path target unallowed children =>
      rw [Location.mk.sizeOf_spec]
      show sizeOf children < _
      omega
  omega

/-- What the search finds inside the nearest location of a list, and otherwise that location. -/
def search (u : String) (ls : List Location) : Option Location :=
  match h : nearest? u ls with
  | none => none
  | some l =>
    have := sizeOf_children_lt (mem_of_nearest? h).1
    (search u l.children).or (some l)
termination_by sizeOf ls

theorem search_of_none {u : String} {ls : List Location} (h : nearest? u ls = none) :
    search u ls = none := by
  rw [search]
  split
  · rfl
  · next heq => simp [h] at heq

theorem search_of_nearest {u : String} {ls : List Location} {l : Location}
    (h : nearest? u ls = some l) : search u ls = (search u l.children).or (some l) := by
  rw [search]
  split
  · next heq => simp [h] at heq
  · next heq =>
    rw [h] at heq
    cases heq
    rfl

/-! ## The longest match -/

/-- A location of a list begins a request, and all others that do have shorter paths. -/
structure IsLongest (u : String) (ls : List Location) (l : Location) : Prop where
  mem : l ∈ ls
  begins : l.Begins u
  longest : ∀ l' ∈ ls, l'.Begins u → l' = l ∨ l'.path.length < l.path.length

theorem IsLongest.unique {u : String} {ls : List Location} {l l' : Location}
    (h : IsLongest u ls l) (h' : IsLongest u ls l') : l = l' := by
  rcases h'.longest l h.mem h.begins with heq | hlt
  · exact heq
  · rcases h.longest l' h'.mem h'.begins with heq | hlt'
    · exact heq.symm
    · omega

/-! ## Trees that are nested by segments -/

/-- Locations with tidy paths, no two for the same segments, that are nested exactly where their
segments are. -/
structure WellNested (ls : List Location) : Prop where
  tidy : ∀ l ∈ preorderAll ls, Path.Tidy l.path
  nodup : ((preorderAll ls).map fun l => Path.segments l.path).Nodup
  nested : ∀ parent ∈ preorderAll ls, ∀ l ∈ preorderAll ls,
    (l ∈ preorderAll parent.children ↔
      Path.segments parent.path <+: Path.segments l.path ∧
        Path.segments parent.path ≠ Path.segments l.path)

theorem preorder_sublist_of_mem {ls : List Location} {l : Location} (h : l ∈ ls) :
    (preorder l).Sublist (preorderAll ls) := by
  rw [preorderAll_eq_flatMap]
  exact List.sublist_flatten_of_mem (List.mem_map_of_mem h)

theorem preorderAll_children_sublist {ls : List Location} {l : Location} (h : l ∈ ls) :
    (preorderAll l.children).Sublist (preorderAll ls) := by
  refine List.Sublist.trans ?_ (preorder_sublist_of_mem h)
  rw [preorder_eq]
  exact List.sublist_cons_self _ _

theorem mem_preorderAll_of_mem {ls : List Location} {l : Location} (h : l ∈ ls) :
    l ∈ preorderAll ls := by
  refine (preorder_sublist_of_mem h).subset ?_
  rw [preorder_eq]
  exact List.mem_cons_self

/-- A location of a tree stands at the top, or is nested in one that does. -/
theorem exists_top_of_mem {ls : List Location} {l : Location} (h : l ∈ preorderAll ls) :
    ∃ top ∈ ls, l = top ∨ l ∈ preorderAll top.children := by
  rw [preorderAll_eq_flatMap] at h
  obtain ⟨top, htop, hl⟩ := List.mem_flatMap.1 h
  rw [preorder_eq] at hl
  exact ⟨top, htop, List.mem_cons.1 hl⟩

namespace WellNested

variable {u : String} {ls : List Location} {l parent top : Location}

theorem children (h : WellNested ls) (hl : l ∈ ls) : WellNested l.children := by
  have hsub := preorderAll_children_sublist hl
  refine ⟨fun l' hl' => h.tidy l' (hsub.subset hl'), h.nodup.sublist (hsub.map _), ?_⟩
  intro parent hparent l' hl'
  exact h.nested parent (hsub.subset hparent) l' (hsub.subset hl')

/-- The path of a location begins those of the locations inside. -/
theorem path_prefix (h : WellNested ls) (hparent : parent ∈ preorderAll ls)
    (hmem : l ∈ preorderAll ls) (hl : l ∈ preorderAll parent.children) :
    parent.path.toList <+: l.path.toList := by
  obtain ⟨hbegins, hne⟩ := (h.nested parent hparent l hmem).1 hl
  have houter := h.tidy parent hparent
  have hinner := h.tidy l hmem
  exact (Path.prefix_iff houter.slash houter.plain hinner.slash hinner.plain hinner.single hbegins
    hne).2 houter.single

theorem length_lt (h : WellNested ls) (hparent : parent ∈ preorderAll ls)
    (hmem : l ∈ preorderAll ls) (hl : l ∈ preorderAll parent.children) :
    parent.path.length < l.path.length := by
  have hpath := h.path_prefix hparent hmem hl
  have hne := ((h.nested parent hparent l hmem).1 hl).2
  rw [← String.length_toList, ← String.length_toList]
  rcases Nat.lt_or_ge parent.path.toList.length l.path.toList.length with hlt | hge
  · exact hlt
  · -- texts of one length would be the same path
    have heq := String.toList_inj.1 (hpath.eq_of_length_le hge)
    exact absurd (congrArg Path.segments heq) hne

/-- Nothing at the top is nested in another location at the top. -/
theorem notMem_children (h : WellNested ls) (htop : top ∈ ls) (hl : l ∈ ls) :
    l ∉ preorderAll top.children := by
  intro hnested
  by_cases hsame : l = top
  · have hmem := mem_preorderAll_of_mem htop
    rw [hsame] at hnested
    exact ((h.nested top hmem top hmem).1 hnested).2 rfl
  · -- the walk would come to `l` twice, at the top and inside of `top`
    have hnodup := h.nodup.of_map
    rw [preorderAll_eq_flatMap] at hnodup
    have : Std.Symm (Function.onFun List.Disjoint preorder) := ⟨fun _ _ h => h.symm⟩
    have hdisjoint := (List.nodup_flatMap.1 hnodup).2.forall htop hl (Ne.symm hsame)
    refine hdisjoint (a := l) ?_ ?_
    · rw [preorder_eq]
      exact List.mem_cons_of_mem _ hnested
    · rw [preorder_eq]
      exact List.mem_cons_self

/-- A match that is no shorter than the nearest location at the top stands there or inside. -/
theorem eq_or_mem_of_nearest (h : WellNested ls) (htop : nearest? u ls = some top)
    (hl : l ∈ preorderAll ls) (hu : l.Begins u) (hlength : top.path.length ≤ l.path.length) :
    l = top ∨ l ∈ preorderAll top.children := by
  obtain ⟨htopmem, htopu⟩ := mem_of_nearest? htop
  obtain ⟨outer, houter, hinside⟩ := exists_top_of_mem hl
  by_cases hsame : outer = top
  · rw [hsame] at hinside
    exact hinside
  · exfalso
    have houtermem := mem_preorderAll_of_mem houter
    have hpath : outer.path.toList <+: l.path.toList := by
      rcases hinside with rfl | hnested
      · exact List.prefix_rfl
      · exact h.path_prefix houtermem hl hnested
    have hshort := length_le_of_nearest? htop houter (hpath.trans hu)
    rw [← String.length_toList, ← String.length_toList] at hshort hlength
    -- all three begin the request, so the nearest location stands between the other two
    have hlow : outer.path.toList <+: top.path.toList :=
      List.prefix_of_prefix_length_le (hpath.trans hu) htopu hshort
    have hhigh : top.path.toList <+: l.path.toList :=
      List.prefix_of_prefix_length_le htopu hu hlength
    have hbegins : Path.segments outer.path <+: Path.segments top.path := by
      rcases hinside with rfl | hnested
      · rw [String.toList_inj.1 (hlow.eq_of_length_le hhigh.length_le)]
      · obtain ⟨hsegments, hne⟩ := (h.nested outer houtermem l hl).1 hnested
        exact Path.segments_prefix_of_between (h.tidy outer houtermem) (h.tidy l hl) hsegments hne
          hlow hhigh
    have hne : Path.segments outer.path ≠ Path.segments top.path := by
      intro heq
      exact hsame (List.inj_on_of_nodup_map h.nodup houtermem (mem_preorderAll_of_mem htopmem) heq)
    have hnested := (h.nested outer houtermem top (mem_preorderAll_of_mem htopmem)).2 ⟨hbegins, hne⟩
    exact h.notMem_children houter htopmem hnested

/-- Nothing in a tree begins a request when nothing at its top does. -/
theorem forall_not_begins (h : WellNested ls) (hnone : nearest? u ls = none) :
    ∀ l ∈ preorderAll ls, ¬ l.Begins u := by
  intro l hl hu
  obtain ⟨top, htop, hinside⟩ := exists_top_of_mem hl
  rcases hinside with rfl | hnested
  · exact nearest?_eq_none_iff.1 hnone l htop hu
  · have hpath := h.path_prefix (mem_preorderAll_of_mem htop) hl hnested
    exact nearest?_eq_none_iff.1 hnone top htop (hpath.trans hu)

/-- The longest match inside the nearest location at the top is the longest match of the tree. -/
theorem isLongest_of_children (h : WellNested ls) (htop : nearest? u ls = some top)
    (hl : IsLongest u (preorderAll top.children) l) : IsLongest u (preorderAll ls) l := by
  have htopmem := (mem_of_nearest? htop).1
  have hmem := (preorderAll_children_sublist htopmem).subset hl.mem
  have hlt := h.length_lt (mem_preorderAll_of_mem htopmem) hmem hl.mem
  refine ⟨hmem, hl.begins, fun l' hl' hu' => ?_⟩
  rcases Nat.lt_or_ge l'.path.length top.path.length with hshort | hlong
  · right
    omega
  · rcases h.eq_or_mem_of_nearest htop hl' hu' hlong with rfl | hinside
    · exact .inr hlt
    · exact hl.longest l' hinside hu'

/-- Where nothing inside begins the request, the nearest location at the top is the longest match. -/
theorem isLongest_of_nearest (h : WellNested ls) (htop : nearest? u ls = some top)
    (hnone : ∀ l ∈ preorderAll top.children, ¬ l.Begins u) : IsLongest u (preorderAll ls) top := by
  obtain ⟨htopmem, htopu⟩ := mem_of_nearest? htop
  refine ⟨mem_preorderAll_of_mem htopmem, htopu, fun l hl hu => ?_⟩
  rcases Nat.lt_or_ge l.path.length top.path.length with hshort | hlong
  · exact .inr hshort
  · rcases h.eq_or_mem_of_nearest htop hl hu hlong with heq | hinside
    · exact .inl heq
    · exact absurd hu (hnone l hinside)

/-- The search finds the longest match of a tree, and finds nothing only where nothing matches. -/
theorem search_spec (h : WellNested ls) :
    (∀ l, search u ls = some l → IsLongest u (preorderAll ls) l) ∧
      (search u ls = none → ∀ l ∈ preorderAll ls, ¬ l.Begins u) := by
  -- the search goes down into smaller trees
  induction hn : sizeOf ls using Nat.strongRecOn generalizing ls with
  | ind n ih =>
    cases htop : nearest? u ls with
    | none =>
      rw [search_of_none htop]
      refine ⟨?_, fun _ => h.forall_not_begins htop⟩
      intro l hl
      cases hl
    | some top =>
      have htopmem := (mem_of_nearest? htop).1
      have hsmall : sizeOf top.children < n := hn ▸ sizeOf_children_lt htopmem
      obtain ⟨hsome, hnone⟩ := ih _ hsmall (h.children htopmem) rfl
      rw [search_of_nearest htop]
      cases hinside : search u top.children with
      | none =>
        refine ⟨?_, by simp⟩
        intro l hl
        cases hl
        exact h.isLongest_of_nearest htop (hnone hinside)
      | some l =>
        refine ⟨?_, by simp⟩
        intro l' hl'
        cases hl'
        exact h.isLongest_of_children htop (hsome l hinside)

end WellNested

end Location

/-! ## Compiled locations -/

variable {routes : List Route} {t : Trie}

/-- The locations of routes that double no slash are nested by their segments. -/
theorem Gathered.wellNested (h : Gathered routes t)
    (hdouble : ∀ r ∈ routes, ¬ ['/', '/'] <:+: r.path.toList) :
    Location.WellNested t.locations := by
  refine ⟨?_, h.segments_nodup, fun parent hparent l hl => h.mem_preorderAll_children_iff hparent hl⟩
  intro l hl
  obtain ⟨r, hr, hpath⟩ := h.exists_route_of_location hl
  have hvalid := h.valid r hr
  rw [← hpath]
  exact ⟨hvalid.path_slash, hvalid.path_plain, hdouble r hr⟩

/-- In the compiled locations of routes that double no slash, the nested search finds the location
whose path is the longest to begin the request, among all locations at any depth, and it finds none
exactly when there is none. -/
theorem search_of_compile {c : ProxyConfig} (h : compile routes = .ok c)
    (hdouble : ∀ r ∈ routes, ¬ ['/', '/'] <:+: r.path.toList) (u : String) :
    (∀ l, Location.search u c.locations = some l ↔
      Location.IsLongest u (Location.preorderAll c.locations) l) ∧
    (Location.search u c.locations = none ↔
      ∀ l ∈ Location.preorderAll c.locations, ¬ l.Begins u) := by
  obtain ⟨t, ht, rfl⟩ := exists_compiled h
  have hspec := (ht.toGathered.wellNested hdouble).search_spec (u := u)
  obtain ⟨hsome, hnone⟩ := hspec
  refine ⟨fun l => ⟨hsome l, fun hl => ?_⟩, ⟨hnone, fun hno => ?_⟩⟩
  · cases hsearch : Location.search u t.proxyConfig.locations with
    | none => exact absurd hl.begins (hnone hsearch l hl.mem)
    | some l' => rw [(hsome l' hsearch).unique hl]
  · cases hsearch : Location.search u t.proxyConfig.locations with
    | none => rfl
    | some l =>
      have hlongest := hsome l hsearch
      exact absurd hlongest.begins (hno l hlongest.mem)

/-- Routes of which one path begins another one without its segments being those of the other. -/
def neighbourRoutes : List Route :=
  [⟨"/a/b", none, "1"⟩, ⟨"/ab", none, "2"⟩, ⟨"/a", some [.get], "3"⟩, ⟨"/ab/c/", none, "4"⟩]

theorem search_of_compile_neighbourRoutes :
    ∃ c l, compile neighbourRoutes = .ok c ∧ Location.search "/ab/c/d" c.locations = some l ∧
      l.path = "/ab/c/" ∧ Location.search "/b" c.locations = none := by
  have hcompile : compile neighbourRoutes = .ok _ := rfl
  have hsearch := (search_of_compile hcompile (by decide) "/ab/c/d").1
  have hnone := (search_of_compile hcompile (by decide) "/b").2
  refine ⟨_, _, hcompile, (hsearch _).2 ⟨.tail _ (.tail _ (.tail _ (.head _))), by decide, ?_⟩, rfl,
    hnone.2 (by decide)⟩
  -- `/a` and `/ab` begin the request as well, but `/a/b` does not
  intro l hl hu
  rcases hl with _ | ⟨_, _ | ⟨_, _ | ⟨_, _ | ⟨_, hl⟩⟩⟩⟩
  · exact .inr (by decide)
  · exact absurd hu (by decide)
  · exact .inr (by decide)
  · exact .inl rfl
  · cases hl

end GatewayRouting
