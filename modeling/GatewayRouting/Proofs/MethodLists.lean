import GatewayRouting.Proofs.RouteOrder

/-!
# Lists of methods

How methods are grouped in routes is of no consequence. A route with several methods can be declared as
several routes with one method each, and a route without a list of methods as one with an empty list.

* `gathered_singles_iff` : a trie gathers the methods of a route one by one as it gathers them together,
  since a group binds the same (`Endpoint.ofRoutes_singles`);
* `compile_map_explicit` : nothing but the methods that a route declares is read of its list;
* `compile_method_lists` : what both mean for a compilation.
-/

namespace GatewayRouting

variable {a r r' : Route} {before after : List Route} {t : Trie}

/-! ## One route for each method -/

namespace Route

/-- The routes that declare the methods of a route one by one. -/
def singles (r : Route) : List Route :=
  r.declared.map fun m => ⟨r.path, some [m], r.target⟩

theorem mem_singles : r' ∈ r.singles ↔ ∃ m ∈ r.declared, r' = ⟨r.path, some [m], r.target⟩ := by
  simp only [singles, List.mem_map, eq_comm]

theorem address_of_mem_singles (h : r' ∈ r.singles) : r'.address = r.address := by
  rcases mem_singles.1 h with ⟨m, -, rfl⟩
  rfl

/-- A route is valid when its methods are distinct and it is valid with each of them. -/
theorem valid_iff_singles (hne : r.declared ≠ []) :
    r.Valid ↔ r.declared.Nodup ∧ ∀ r' ∈ r.singles, r'.Valid := by
  constructor
  · intro h
    refine ⟨h.methods_nodup, ?_⟩
    intro r' hr'
    rcases mem_singles.1 hr' with ⟨m, -, rfl⟩
    exact ⟨h.path_slash, h.path_plain, List.nodup_singleton m, h.target_ne, h.target_plain⟩
  · rintro ⟨hnodup, hvalid⟩
    rcases List.exists_mem_of_ne_nil _ hne with ⟨m, hm⟩
    have h := hvalid _ (mem_singles.2 ⟨m, hm, rfl⟩)
    exact ⟨h.path_slash, h.path_plain, hnodup, h.target_ne, h.target_plain⟩

/-- The single methods of a route are compatible with one another when they are distinct. -/
theorem pairwise_singles_iff : r.singles.Pairwise Compatible ↔ r.declared.Nodup := by
  rw [singles, List.pairwise_map, List.Nodup]
  simp [Compatible, declared]

/-- A route is compatible with another one when each of its methods is. -/
theorem forall_singles_compatible_iff (hne : r.declared ≠ []) :
    (∀ r' ∈ r.singles, r'.Compatible a) ↔ r.Compatible a := by
  constructor
  · intro h
    have hall : ∀ m ∈ r.declared, a.declared ≠ [] ∧ m ∉ a.declared := by
      intro m hm
      have hm' := h _ (mem_singles.2 ⟨m, hm, rfl⟩)
      exact ⟨hm'.2.1, hm'.2.2 m (List.mem_singleton_self m)⟩
    rcases List.exists_mem_of_ne_nil _ hne with ⟨m, hm⟩
    exact ⟨hne, (hall m hm).1, fun m' hm' => (hall m' hm').2⟩
  · intro h r' hr'
    rcases mem_singles.1 hr' with ⟨m, hm, rfl⟩
    refine ⟨List.cons_ne_nil m [], h.2.1, ?_⟩
    intro m' hm'
    rw [List.mem_singleton.1 hm']
    exact h.2.2 m hm

end Route

theorem conflictFree_perm_iff {routes routes' : List Route} (hperm : routes.Perm routes') :
    ConflictFree routes ↔ ConflictFree routes' :=
  ⟨fun h => h.perm hperm, fun h => h.perm hperm.symm⟩

/-- The routes for the single methods of a route are free of conflicts with each other when the methods
are distinct. -/
theorem conflictFree_singles_iff : ConflictFree r.singles ↔ r.declared.Nodup := by
  rw [← Route.pairwise_singles_iff]
  constructor
  · intro h
    refine h.imp_of_mem ?_
    intro b b' hb hb' hcompatible
    exact hcompatible ((Route.address_of_mem_singles hb).trans
      (Route.address_of_mem_singles hb').symm)
  · intro h
    refine h.imp ?_
    intro b b' hcompatible _
    exact hcompatible

/-- Routes are free of conflicts with the single methods of a route when they are with the route, as long
as it repeats no method. -/
theorem conflictFree_append_singles_iff (hne : r.declared ≠ []) :
    ConflictFree (before ++ (r.singles ++ after)) ↔
      r.declared.Nodup ∧ ConflictFree (before ++ r :: after) := by
  have hfront : (before ++ (r.singles ++ after)).Perm (r.singles ++ (before ++ after)) :=
    List.perm_append_comm_assoc before r.singles after
  have hacross : (∀ b ∈ r.singles, ∀ c ∈ before ++ after,
      b.address = c.address → b.Compatible c) ↔
        ∀ c ∈ before ++ after, r.address = c.address → r.Compatible c := by
    constructor
    · intro h c hc haddress
      rw [← Route.forall_singles_compatible_iff hne]
      intro b hb
      exact h b hb c hc ((Route.address_of_mem_singles hb).trans haddress)
    · intro h b hb c hc haddress
      have hc' := h c hc ((Route.address_of_mem_singles hb).symm.trans haddress)
      exact (Route.forall_singles_compatible_iff hne).2 hc' b hb
  -- the place of the routes in the list does not matter, so they can be taken to the front
  rw [conflictFree_perm_iff hfront, conflictFree_perm_iff List.perm_middle]
  unfold ConflictFree
  rw [List.pairwise_append, List.pairwise_cons, hacross]
  change ConflictFree r.singles ∧ _ ↔ _
  rw [conflictFree_singles_iff]
  exact and_congr_right fun _ => and_comm

/-! ## What the groups bind -/

/-- One by one, methods are bound as they are together. -/
theorem MethodTable.ofRoutes_singles (r : Route) : ofRoutes r.singles = ofRoutes [r] := by
  rw [ofRoutes_singleton]
  ext1
  funext m
  cases hfind : r.singles.find? fun b => m ∈ b.declared with
  | none =>
    have hm : m ∉ r.declared := by
      intro hm
      have hnot := List.find?_eq_none.1 hfind _ (Route.mem_singles.2 ⟨m, hm, rfl⟩)
      exact hnot (decide_eq_true (List.mem_singleton_self m))
    simp only [ofRoutes, const, hfind, if_neg hm, Option.map_none]
  | some b =>
    rcases Route.mem_singles.1 (List.mem_of_find?_eq_some hfind) with ⟨m', hm', rfl⟩
    have hdeclares : m ∈ Route.declared ⟨r.path, some [m'], r.target⟩ := by
      simpa using List.find?_some hfind
    have hm : m ∈ r.declared := by
      rw [List.mem_singleton.1 hdeclares]
      exact hm'
    simp only [ofRoutes, const, hfind, if_pos hm, Option.map_some]

/-- A group in which a route declares its methods one by one binds the same. -/
theorem Endpoint.ofRoutes_append_singles (hne : r.declared ≠ []) (group group' : List Route) :
    ofRoutes (group ++ (r.singles ++ group')) = ofRoutes (group ++ r :: group') := by
  have htable : MethodTable.ofRoutes (group ++ (r.singles ++ group')) =
      MethodTable.ofRoutes (group ++ r :: group') := by
    rw [← List.singleton_append (x := r)]
    ext1
    funext m
    simp only [MethodTable.get?_ofRoutes_append, MethodTable.ofRoutes_singles]
  -- the first route of the group decides the path and whether methods are told apart
  cases group with
  | nil =>
    rcases List.exists_cons_of_ne_nil hne with ⟨m, ms, hdeclared⟩
    have hhead : ([] ++ (r.singles ++ group')).head? = some ⟨r.path, some [m], r.target⟩ := by
      rw [Route.singles, hdeclared]
      rfl
    rw [ofRoutes_of_head? hhead, ofRoutes_of_head? (r := r) rfl, htable, if_neg hne]
    rfl
  | cons first rest =>
    rw [ofRoutes_of_head? (r := first) rfl, ofRoutes_of_head? (r := first) rfl, htable]

/-- Of the single methods of a route, all end at an address or none. -/
theorem routesAt_singles (r : Route) (s : List String) :
    routesAt r.singles s = if r.address = s then r.singles else [] := by
  split
  · next haddress =>
    refine List.filter_eq_self.2 ?_
    intro b hb
    exact decide_eq_true ((Route.address_of_mem_singles hb).trans haddress)
  · next haddress =>
    refine routesAt_eq_nil_iff.2 ?_
    intro b hb heq
    exact haddress ((Route.address_of_mem_singles hb).symm.trans heq)

theorem ofRoutes_routesAt_singles (hne : r.declared ≠ []) (s : List String) :
    Endpoint.ofRoutes (routesAt (before ++ (r.singles ++ after)) s) =
      Endpoint.ofRoutes (routesAt (before ++ r :: after) s) := by
  rw [← List.singleton_append (x := r), routesAt_append, routesAt_append, routesAt_append,
    routesAt_append, routesAt_singles]
  by_cases haddress : r.address = s
  · have hsingle : routesAt [r] s = [r] := by simp [routesAt, haddress]
    rw [if_pos haddress, hsingle]
    exact Endpoint.ofRoutes_append_singles hne _ _
  · have hnone : routesAt [r] s = [] := by simp [routesAt, haddress]
    rw [if_neg haddress, hnone]

/-! ## Tries -/

/-- A trie gathers the methods of a route one by one exactly when it gathers them together. -/
theorem gathered_singles_iff (hne : r.declared ≠ []) :
    Gathered (before ++ (r.singles ++ after)) t ↔ Gathered (before ++ r :: after) t := by
  have hgathers : Gathers t (before ++ (r.singles ++ after)) ↔ Gathers t (before ++ r :: after) := by
    constructor
    · intro h
      exact ⟨h.canonical, fun s => (h.at?_eq s).trans (ofRoutes_routesAt_singles hne s)⟩
    · intro h
      exact ⟨h.canonical, fun s => (h.at?_eq s).trans (ofRoutes_routesAt_singles hne s).symm⟩
  have hvalid : (∀ b ∈ before ++ (r.singles ++ after), b.Valid) ∧ r.declared.Nodup ↔
      ∀ b ∈ before ++ r :: after, b.Valid := by
    simp only [List.forall_mem_append, List.forall_mem_cons, Route.valid_iff_singles hne]
    tauto
  constructor
  · rintro ⟨h, hfree, ht⟩
    rcases (conflictFree_append_singles_iff hne).1 hfree with ⟨hnodup, hfree⟩
    exact ⟨hvalid.1 ⟨h, hnodup⟩, hfree, hgathers.1 ht⟩
  · rintro ⟨h, hfree, ht⟩
    rcases hvalid.2 h with ⟨h, hnodup⟩
    exact ⟨h, (conflictFree_append_singles_iff hne).2 ⟨hnodup, hfree⟩, hgathers.2 ht⟩

/-- A trie passes a compilation of the single methods exactly when it passes one of the route. -/
theorem compiled_singles_iff (hne : r.declared ≠ []) :
    Compiled (before ++ (r.singles ++ after)) t ↔ Compiled (before ++ r :: after) t := by
  constructor
  · intro h
    exact ⟨(gathered_singles_iff hne).1 h.toGathered, h.checked⟩
  · intro h
    exact ⟨(gathered_singles_iff hne).2 h.toGathered, h.checked⟩

/-! ## Absent and empty lists -/

namespace Route

/-- The route with its methods in a list, which is empty if it had none. -/
def explicit (r : Route) : Route :=
  ⟨r.path, some r.declared, r.target⟩

theorem path_explicit (r : Route) : r.explicit.path = r.path := rfl

theorem validate_explicit (r : Route) : r.explicit.validate = r.validate := rfl

end Route

theorem Endpoint.bind_explicit (e : Option Endpoint) (r : Route) :
    bind e r.explicit = bind e r := rfl

theorem validateAll_map_explicit (routes : List Route) :
    validateAll (routes.map Route.explicit) = validateAll routes := by
  induction routes with
  | nil => rfl
  | cons r rest ih => rw [List.map_cons, validateAll, validateAll, Route.validate_explicit, ih]

namespace Trie

theorem insertAt_explicit (r : Route) (s : List String) (t : Trie) :
    insertAt r.explicit s t = insertAt r s t := by
  induction s generalizing t with
  | nil => rw [insertAt, insertAt, Endpoint.bind_explicit]
  | cons k s ih => rw [insertAt, insertAt, ih]

theorem insert_explicit (t : Trie) (r : Route) : t.insert r.explicit = t.insert r := by
  unfold insert
  rw [Route.path_explicit, insertAt_explicit]

theorem insertAll_map_explicit (t : Trie) (routes : List Route) :
    t.insertAll (routes.map Route.explicit) = t.insertAll routes := by
  induction routes generalizing t with
  | nil => rfl
  | cons r rest ih => simp only [List.map_cons, insertAll, insert_explicit, ih]

end Trie

/-- A compilation does not tell an absent list of methods from an empty one. -/
theorem compile_map_explicit (routes : List Route) :
    compile (routes.map Route.explicit) = compile routes := by
  unfold compile Trie.ofRoutes
  rw [validateAll_map_explicit, Trie.insertAll_map_explicit]

/-! ## Compilation -/

/-- A route with methods can be replaced, in its place, by routes for the single methods: both lists of
routes compile to the same configuration, or neither compiles. An absent list of methods can be replaced
by an empty one, and then the faults are the same as well. -/
theorem compile_method_lists (before after : List Route) :
    (∀ path ms target, ms ≠ [] → ∀ c,
      compile (before ++ (ms.map fun m => ⟨path, some [m], target⟩) ++ after) = .ok c ↔
        compile (before ++ ⟨path, some ms, target⟩ :: after) = .ok c) ∧
    ∀ path target, compile (before ++ ⟨path, none, target⟩ :: after) =
      compile (before ++ ⟨path, some [], target⟩ :: after) := by
  constructor
  · intro path ms target hne c
    rw [List.append_assoc, compile_ok_iff_compiled, compile_ok_iff_compiled]
    refine exists_congr fun t => and_congr_left ?_
    intro _
    exact compiled_singles_iff (r := ⟨path, some ms, target⟩) hne
  · intro path target
    rw [← compile_map_explicit, ← compile_map_explicit (before ++ ⟨path, some [], target⟩ :: after)]
    simp only [List.map_append, List.map_cons]
    rfl

/-- The methods of a route that shares a node with another one are taken apart, and the route without
methods gets an empty list. -/
theorem compile_method_lists_sharedNode :
    ∃ c, compile [⟨"/a", some [.get], "A"⟩, ⟨"/a/", some [.put, .delete], "B"⟩,
        ⟨"/", none, "R"⟩] = .ok c ∧
      compile [⟨"/a", some [.get], "A"⟩, ⟨"/a/", some [.put], "B"⟩, ⟨"/a/", some [.delete], "B"⟩,
        ⟨"/", none, "R"⟩] = .ok c ∧
      compile [⟨"/a", some [.get], "A"⟩, ⟨"/a/", some [.put], "B"⟩, ⟨"/a/", some [.delete], "B"⟩,
        ⟨"/", some [], "R"⟩] = .ok c := by
  have hcompile : compile [⟨"/a", some [.get], "A"⟩, ⟨"/a/", some [.put, .delete], "B"⟩,
      ⟨"/", none, "R"⟩] = .ok _ := rfl
  have hsingles := ((compile_method_lists [⟨"/a", some [.get], "A"⟩] [⟨"/", none, "R"⟩]).1
    "/a/" [.put, .delete] "B" (by decide) _).2 hcompile
  have hempty := (compile_method_lists
    [⟨"/a", some [.get], "A"⟩, ⟨"/a/", some [.put], "B"⟩, ⟨"/a/", some [.delete], "B"⟩] []).2 "/" "R"
  exact ⟨_, hcompile, hsingles, hempty.symm.trans hsingles⟩

end GatewayRouting
