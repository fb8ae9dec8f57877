import GatewayRouting.Proofs.Compiled
import GatewayRouting.Proofs.RenderedBlocks

/-!
# Guards and method maps

A location that proxies to the variable of a method map guards the methods for which the map has no
entry. `Item.guardedInside` reads the guards of a block off the written file, where a method is any
text, and `guarded_iff_of_compile` says which methods they list: all the known methods that the map
leaves out, and no other text. A method that is not known, such as `HEAD`, is therefore neither in the
map nor guarded (`head_unguarded_twoMethodRoutes`).
-/

namespace GatewayRouting

/-! ## Reading guards -/

namespace Nginx

/-- The texts that a pattern `^(A|B)$` lists, where a bracket follows that closes the condition. -/
def alternatives : List Char → List String
  | '^' :: '(' :: cs =>
    if cs.drop (cs.length - 3) = [')', '$', ')'] then
      ((cs.take (cs.length - 3)).splitOn '|').map String.ofList
    else []
  | _ => []

/-- The request methods that an item answers with status 405. -/
def Item.guarded : Item → List String
  | .block [.bare "if", .bare "($request_method", .bare "~", .bare pattern]
      [.simple [.bare "return", .bare "405"]] => alternatives pattern.toList
  | _ => []

/-- The items of a block. -/
def Item.body : Item → List Item
  | .block _ items => items
  | _ => []

/-- The request methods that the guards of a block answer with status 405; the guards of blocks inside
do not count. -/
def Item.guardedInside (block : Item) : List String :=
  block.body.flatMap Item.guarded

theorem bar_notMem_name (m : Method) : '|' ∉ m.name.toList := by
  cases m <;> decide

theorem alternatives_pattern (inside : List Char) :
    alternatives ('^' :: '(' :: (inside ++ [')', '$', ')'])) =
      (inside.splitOn '|').map String.ofList := by
  simp [alternatives]

/-- A pattern lists the names that it was made of. -/
theorem alternatives_of_names {methods : List Method} (h : methods ≠ []) :
    alternatives ("^(" ++ "|".intercalate (methods.map Method.name) ++ ")$)").toList =
      methods.map Method.name := by
  have htext : ("^(" ++ "|".intercalate (methods.map Method.name) ++ ")$)").toList =
      '^' :: '(' :: (['|'].intercalate ((methods.map Method.name).map String.toList) ++
        [')', '$', ')']) := by
    simp [String.toList_append, String.toList_intercalate]
  have hbar : ∀ cs ∈ (methods.map Method.name).map String.toList, '|' ∉ cs := by
    intro cs hcs
    obtain ⟨name, hname, rfl⟩ := List.mem_map.1 hcs
    obtain ⟨m, -, rfl⟩ := List.mem_map.1 hname
    exact bar_notMem_name m
  have hsplit := List.splitOn_intercalate '|' hbar (by simpa using h)
  have hid : String.ofList ∘ String.toList = id := funext fun _ => String.ofList_toList
  rw [htext, alternatives_pattern, hsplit, List.map_map, hid, List.map_id]

theorem guarded_guardBlock {methods : List Method} (h : methods ≠ []) :
    (guardBlock methods).guarded = methods.map Method.name :=
  alternatives_of_names h

/-- The blocks of locations are no guards. -/
theorem flatMap_guarded_locationItems (ls : List Location) :
    (locationItems ls).flatMap Item.guarded = [] := by
  induction ls with
  | nil => rfl
  | cons l rest ih =>
    rw [locationItems, List.flatMap_cons, List.flatMap_cons, ih]
    cases l
    rfl

/-- The guards of a location list the methods that it leaves out. -/
theorem guardedInside_locationBlock (l : Location) :
    (locationBlock l).guardedInside = l.unallowed.map Method.name := by
  obtain ⟨path, target, unallowed, children⟩ := l
  rw [locationBlock, Item.guardedInside, Item.body, List.flatMap_append, List.flatMap_cons,
    flatMap_guarded_locationItems]
  cases unallowed with
  | nil => rfl
  | cons m rest =>
    have hguard := guarded_guardBlock (List.cons_ne_nil m rest)
    simp only [guardItems, List.isEmpty_cons, Bool.false_eq_true, if_false, List.flatMap_singleton,
      hguard]
    simp [Item.guarded]

end Nginx

/-! ## Guards of compiled locations -/

variable {routes : List Route} {t : Trie} {M : MethodMap}

/-- A location that proxies to a method map leaves out the methods that have no entry there. -/
theorem Compiled.unallowed_of_target (h : Compiled routes t) {l : Location}
    (hl : l ∈ Location.preorderAll t.locations) (hM : M ∈ t.methodMaps)
    (htarget : l.target = "$" ++ M.name) : l.unallowed = M.table.missing := by
  obtain ⟨s, hs⟩ := h.gathers.canonical.mem_preorderAll_locations_iff.1 hl
  obtain ⟨e, hat, hrecord⟩ := Trie.exists_at?_of_locationAt? hs
  have htarget' : e.proxyTarget = l.target := congrArg (·.2.1) hrecord
  have hunallowed : e.unallowed = l.unallowed := congrArg (·.2.2) hrecord
  rw [← hunallowed]
  exact Endpoint.unallowed_of_methodMap? (h.methodMap?_of_target hat hM (htarget'.trans htarget))

/-- The names of the methods without an entry are the known names that no entry has. -/
theorem MethodTable.mem_map_name_missing_iff {table : MethodTable} {s : String} :
    s ∈ table.missing.map Method.name ↔
      s ∈ Method.all.map Method.name ∧ s ∉ table.entries.map fun e => e.1.name := by
  simp only [List.mem_map, mem_missing_iff]
  constructor
  · rintro ⟨m, hm, rfl⟩
    refine ⟨⟨m, m.mem_all, rfl⟩, ?_⟩
    rintro ⟨⟨m', target⟩, hentry, hname⟩
    have hm' : m' = m := Method.name_injective hname
    rw [hm', mem_entries_iff, hm] at hentry
    cases hentry
  · rintro ⟨⟨m, -, rfl⟩, hnot⟩
    refine ⟨m, ?_, rfl⟩
    by_contra hsome
    obtain ⟨target, htarget⟩ := Option.ne_none_iff_exists'.1 hsome
    exact hnot ⟨(m, target), mem_entries_iff.2 htarget, rfl⟩

/-- In the file of a compiled configuration, the block of a location that proxies to a method map
guards a text as a request method exactly when it is the name of a known method without an entry in
the map. -/
theorem guarded_iff_of_compile {c : ProxyConfig} {l : Location} (h : compile routes = .ok c)
    (hl : l ∈ Location.preorderAll c.locations) (hM : M ∈ c.maps)
    (htarget : l.target = "$" ++ M.name) (settings : Settings) :
    (∃ depth, Nginx.Item.chars depth (Nginx.locationBlock l) <:+: (Nginx.render settings c).toList) ∧
    ∀ s, s ∈ (Nginx.locationBlock l).guardedInside ↔
      s ∈ Method.all.map Method.name ∧ s ∉ M.table.entries.map fun e => e.1.name := by
  refine ⟨Nginx.exists_infix_render settings hl, fun s => ?_⟩
  obtain ⟨t, ht, rfl⟩ := exists_compiled h
  rw [Nginx.guardedInside_locationBlock, ht.unallowed_of_target hl hM htarget]
  exact MethodTable.mem_map_name_missing_iff

theorem guarded_iff_of_compile_sampleRoutes :
    ∃ c l M, compile sampleRoutes = .ok c ∧ l ∈ Location.preorderAll c.locations ∧ M ∈ c.maps ∧
      l.target = "$" ++ M.name ∧ "PUT" ∈ (Nginx.locationBlock l).guardedInside ∧
      "GET" ∉ (Nginx.locationBlock l).guardedInside := by
  have hcompile : compile sampleRoutes = .ok _ := rfl
  refine ⟨_, _, _, hcompile, .tail _ (.tail _ (.head _)), .head _, rfl, ?_⟩
  have hiff := (guarded_iff_of_compile hcompile (.tail _ (.tail _ (.head _))) (.head _) rfl {}).2
  rw [hiff, hiff]
  decide

/-- Routes with a method map that leaves methods out, known ones and others. -/
def twoMethodRoutes : List Route :=
  [⟨"/m", some [.get], "A"⟩, ⟨"/m", some [.post], "B"⟩]

/-- A method that is not known is neither in a method map nor guarded. -/
theorem head_unguarded_twoMethodRoutes :
    ∃ c l M, compile twoMethodRoutes = .ok c ∧ l ∈ c.locations ∧ M ∈ c.maps ∧
      l.target = "$" ++ M.name ∧ "HEAD" ∉ M.table.entries.map (fun e => e.1.name) ∧
      "HEAD" ∉ (Nginx.locationBlock l).guardedInside := by
  refine ⟨_, _, _, rfl, .head _, .head _, rfl, ?_, ?_⟩
  · decide
  · decide

end GatewayRouting
