import GatewayRouting.Location
import GatewayRouting.Proofs.RouteGroups

/-!
# What a group of routes yields

The endpoint of a group of compatible routes has a method map exactly when the routes declare two or
more methods in total (`methodMap?_of_many`). Otherwise the group is a single route, and the target
of that route is what the location proxies to (`proxyTarget_of_few`).
-/

namespace GatewayRouting

namespace MethodTable

/-- The methods of a table's entries are those with an entry, in canonical order. -/
theorem map_fst_entries (t : MethodTable) :
    t.entries.map Prod.fst = Method.all.filter fun m => (t.get? m).isSome := by
  rw [entries, List.map_filterMap, ← List.filterMap_eq_filter]
  refine List.filterMap_congr fun m _ => ?_
  cases h : t.get? m <;> simp [Option.guard, h]

/-- Every method that a group declares has exactly one entry in the table of the group. -/
theorem map_fst_entries_ofRoutes_perm {group : List Route}
    (hgroup : group.Pairwise Route.Compatible) (hnodup : ∀ r ∈ group, r.declared.Nodup) :
    ((ofRoutes group).entries.map Prod.fst).Perm (group.flatMap Route.declared) := by
  have hall : Method.all.Nodup := by decide
  rw [map_fst_entries, List.perm_ext_iff_of_nodup (hall.filter _)]
  · intro m
    simp [Method.mem_all, ofRoutes]
  · -- a method is declared once within a route, and not again by another one
    refine List.pairwise_flatMap.2 ⟨hnodup, hgroup.imp fun h => ?_⟩
    intro m hm m' hm' heq
    exact h.2.2 m hm (heq ▸ hm')

theorem length_entries_ofRoutes {group : List Route} (hgroup : group.Pairwise Route.Compatible)
    (hnodup : ∀ r ∈ group, r.declared.Nodup) :
    (ofRoutes group).entries.length = (group.flatMap Route.declared).length := by
  rw [← (map_fst_entries_ofRoutes_perm hgroup hnodup).length_eq, List.length_map]

end MethodTable

namespace Endpoint

/-! ## Method maps -/

theorem name_of_methodMap? {e : Endpoint} {M : MethodMap} (h : e.methodMap? = some M) :
    M.name = Path.mapVariable e.path := by
  unfold methodMap? at h
  split at h
  · cases h
  · split at h
    · cases h
    · cases h
      rfl

/-- An endpoint with a method map proxies to the variable of that map. -/
theorem proxyTarget_of_methodMap? {e : Endpoint} {M : MethodMap} (h : e.methodMap? = some M) :
    e.proxyTarget = "$" ++ M.name := by
  rw [name_of_methodMap? h]
  unfold methodMap? at h
  unfold proxyTarget
  split at h
  · cases h
  · split at h
    · cases h
    · next hentries =>
      split
      · next heq => exact absurd heq (hentries _)
      · rfl

/-- An endpoint with a method map binds the table of that map, which has more than one entry unless it
has none. -/
theorem targets_of_methodMap? {e : Endpoint} {M : MethodMap} (h : e.methodMap? = some M) :
    e.targets = .byMethod M.table ∧ M.table.entries.length ≠ 1 := by
  unfold methodMap? at h
  split at h
  · cases h
  · next table htargets =>
    split at h
    · cases h
    · next hentries =>
      cases h
      refine ⟨htargets, ?_⟩
      intro hlength
      obtain ⟨b, hb⟩ := List.length_eq_one_iff.1 hlength
      exact hentries b hb

/-- An endpoint with a method map leaves out the methods that have no entry there. -/
theorem unallowed_of_methodMap? {e : Endpoint} {M : MethodMap} (h : e.methodMap? = some M) :
    e.unallowed = M.table.missing := by
  rw [unallowed, (targets_of_methodMap? h).1]

/-! ## Groups -/

variable {group : List Route} {e : Endpoint}

/-- The head of a group gives the endpoint its path. -/
theorem path_of_ofRoutes (h : ofRoutes group = some e) :
    ∃ r, group.head? = some r ∧ e.path = r.path := by
  cases group with
  | nil => cases h
  | cons r rest =>
    cases h
    exact ⟨r, rfl, rfl⟩

/-- A group that binds a table binds some method there. -/
theorem entries_ne_nil_of_ofRoutes {table : MethodTable} (h : ofRoutes group = some e)
    (htable : e.targets = .byMethod table) : table.entries ≠ [] := by
  cases group with
  | nil => cases h
  | cons r rest =>
    cases h
    by_cases hr : r.declared = []
    · simp [hr] at htable
    · simp only [List.isEmpty_iff, hr, if_false, Targets.byMethod.injEq] at htable
      obtain ⟨m, hm⟩ := List.exists_mem_of_ne_nil _ hr
      -- the first route has an entry for each of its methods
      have hsome : table.get? m ≠ none := by
        rw [← htable, ne_eq, MethodTable.get?_ofRoutes_eq_none_iff]
        intro hnone
        exact hnone r List.mem_cons_self hm
      obtain ⟨target, htarget⟩ := Option.ne_none_iff_exists'.1 hsome
      exact List.ne_nil_of_mem (MethodTable.mem_entries_iff.2 htarget)

/-- A route without methods is alone in its group. -/
theorem eq_singleton_of_declared_eq_nil {r : Route} (hgroup : group.Pairwise Route.Compatible)
    (hr : r ∈ group) (hnil : r.declared = []) : group = [r] := by
  cases group with
  | nil => exact absurd hr List.not_mem_nil
  | cons r₀ rest =>
    have hr₀ : r₀.declared = [] := by
      by_contra hr₀
      exact Route.declared_ne_nil_of_head hgroup hr₀ r hr hnil
    cases rest with
    | nil => rw [List.mem_singleton.1 hr]
    | cons r' rest =>
      have hcompatible := (List.pairwise_cons.1 hgroup).1 r' List.mem_cons_self
      exact absurd hr₀ hcompatible.1

/-- A group with two or more methods has a method map, named for the path of the first route. -/
theorem methodMap?_of_many (hgroup : group.Pairwise Route.Compatible)
    (hnodup : ∀ r ∈ group, r.declared.Nodup) (h : ofRoutes group = some e)
    (hmany : 2 ≤ (group.flatMap Route.declared).length) :
    e.methodMap? = some ⟨Path.mapVariable e.path, .ofRoutes group⟩ := by
  cases group with
  | nil => cases h
  | cons r rest =>
    have hr : r.declared ≠ [] := by
      intro hr
      rw [eq_singleton_of_declared_eq_nil hgroup List.mem_cons_self hr] at hmany
      simp [hr] at hmany
    have hlength := MethodTable.length_entries_ofRoutes hgroup hnodup
    cases h
    simp only [methodMap?, List.isEmpty_iff, hr, if_false]
    split
    · next heq =>
      -- a single entry would stand for a single method
      rw [heq] at hlength
      simp only [List.length_singleton] at hlength
      omega
    · rfl

/-- A group with at most one method is a single route. -/
theorem eq_singleton_of_few {r : Route} {rest : List Route}
    (hgroup : (r :: rest).Pairwise Route.Compatible)
    (hfew : ((r :: rest).flatMap Route.declared).length ≤ 1) : rest = [] := by
  cases rest with
  | nil => rfl
  | cons r' rest =>
    have hcompatible := (List.pairwise_cons.1 hgroup).1 r' List.mem_cons_self
    have hr := List.length_pos_of_ne_nil hcompatible.1
    have hr' := List.length_pos_of_ne_nil hcompatible.2.1
    simp only [List.flatMap_cons, List.length_append] at hfew
    omega

/-- A group with at most one method has no method map, and its location proxies to the target of its
only route. -/
theorem proxyTarget_of_few (hgroup : group.Pairwise Route.Compatible)
    (hnodup : ∀ r ∈ group, r.declared.Nodup) (h : ofRoutes group = some e)
    (hfew : (group.flatMap Route.declared).length ≤ 1) :
    e.methodMap? = none ∧ ∃ r, group = [r] ∧ e.proxyTarget = r.target := by
  cases group with
  | nil => cases h
  | cons r rest =>
    have hrest := eq_singleton_of_few hgroup hfew
    subst hrest
    cases h
    by_cases hr : r.declared = []
    · simp [methodMap?, proxyTarget, hr]
    · have hlength := MethodTable.length_entries_ofRoutes hgroup hnodup
      have hpos := List.length_pos_of_ne_nil hr
      simp only [List.flatMap_singleton] at hlength hfew
      -- the table has a single entry, and it comes from the route
      obtain ⟨⟨m, target⟩, hentries⟩ := List.length_eq_one_iff.1 (by omega :
        (MethodTable.ofRoutes [r]).entries.length = 1)
      have hentry : (MethodTable.ofRoutes [r]).get? m = some target := by
        rw [← MethodTable.mem_entries_iff, hentries]
        exact List.mem_cons_self
      have htarget : target = r.target := by
        rw [MethodTable.ofRoutes_singleton] at hentry
        simp only [MethodTable.const, Option.ite_none_right_eq_some, Option.some.injEq] at hentry
        exact hentry.2.symm
      simp [methodMap?, proxyTarget, hr, hentries, htarget]

/-- The methods that a group leaves out are those that none of its routes takes. -/
theorem mem_unallowed_ofRoutes_iff (hgroup : group.Pairwise Route.Compatible)
    (h : ofRoutes group = some e) {m : Method} :
    m ∈ e.unallowed ↔ ∀ r ∈ group, r.declared ≠ [] ∧ m ∉ r.declared := by
  cases group with
  | nil => cases h
  | cons r rest =>
    cases h
    by_cases hr : r.declared = []
    · simp [unallowed, hr]
    · have hdeclared := Route.declared_ne_nil_of_head hgroup hr
      simp only [unallowed, List.isEmpty_iff, hr, if_false, MethodTable.mem_missing_iff,
        MethodTable.get?_ofRoutes_eq_none_iff]
      exact forall₂_congr fun r' hr' => (and_iff_right (hdeclared r' hr')).symm

end Endpoint

end GatewayRouting
