import GatewayRouting.Proofs.LocationWalks
import GatewayRouting.Proofs.TrieAddress

/-!
# What a trie yields

`Trie.bindings` lists what a trie binds, each binding with its address. The list is in strictly
ascending order of the addresses (`bindings_sorted`), and the compiled output repeats it:

* `map_record_locations` : the locations, parents first, are the bindings in order;
* `map_record_postorderAll`, `methodMaps_eq_filterMap` : parents last, the locations and the method maps
  are the endpoints in order;
* `mem_preorderAll_children_iff` : a location is nested in another one exactly when its address
  extends the address of the other.
-/

namespace GatewayRouting

/-- What a location holds apart from its children: path, target and unallowed methods. -/
def Location.record (l : Location) : String × String × List Method :=
  (l.path, l.target, l.unallowed)

/-- What the location of an endpoint holds apart from its children. -/
def Endpoint.record (e : Endpoint) : String × String × List Method :=
  (e.path, e.proxyTarget, e.unallowed)

@[simp]
theorem Endpoint.record_location (e : Endpoint) (children : List Location) :
    (e.location children).record = e.record := rfl

@[simp]
theorem Endpoint.children_location (e : Endpoint) (children : List Location) :
    (e.location children).children = children := rfl

/-- What fits once in a list without repetitions is all that a filter finds. -/
theorem filter_eq_singleton {α : Type} {xs : List α} {p : α → Bool} {x : α} (hxs : xs.Nodup)
    (h : ∀ y, y ∈ xs ∧ p y = true ↔ y = x) : xs.filter p = [x] := by
  have hperm : (xs.filter p).Perm [x] := by
    rw [List.perm_ext_iff_of_nodup (hxs.filter p) (List.nodup_singleton x)]
    intro y
    rw [List.mem_filter, List.mem_singleton]
    exact h y
  exact List.perm_singleton.1 hperm

namespace Trie

/-! ## Bindings in order -/

mutual

/-- The bindings of a trie with their addresses, those of a parent before those of its children. -/
def bindings : Trie → List (List String × Endpoint)
  | .node path targets? cs =>
    (Trie.node path targets? cs).endpoint.toList.map ([], ·) ++ bindingsBelow cs

/-- The bindings of all subtries in a list of children. -/
def bindingsBelow : List (String × Trie) → List (List String × Endpoint)
  | [] => []
  | (k, t) :: rest => (bindings t).map (fun b => (k :: b.1, b.2)) ++ bindingsBelow rest

end

theorem bindingsBelow_eq_flatMap (cs : List (String × Trie)) :
    bindingsBelow cs = cs.flatMap fun c => c.2.bindings.map fun b => (c.1 :: b.1, b.2) := by
  induction cs with
  | nil => rfl
  | cons c rest ih => rw [bindingsBelow, ih, List.flatMap_cons]

theorem mem_bindingsBelow {cs : List (String × Trie)} {s : List String} {e : Endpoint} :
    (s, e) ∈ bindingsBelow cs ↔ ∃ c ∈ cs, ∃ s', (s', e) ∈ c.2.bindings ∧ s = c.1 :: s' := by
  simp only [bindingsBelow_eq_flatMap, List.mem_flatMap, List.mem_map, Prod.mk.injEq, Prod.exists]
  constructor
  · rintro ⟨k, t, hc, s', e', hb, rfl, rfl⟩
    exact ⟨k, t, hc, s', hb, rfl⟩
  · rintro ⟨k, t, hc, s', hb, rfl⟩
    exact ⟨k, t, hc, s', e, hb, rfl, rfl⟩

/-- A canonical trie lists exactly what it binds. -/
theorem Canonical.mem_bindings_iff {t : Trie} (ht : t.Canonical) {s : List String} {e : Endpoint} :
    (s, e) ∈ t.bindings ↔ t.at? s = some e := by
  induction t generalizing s with
  | node path targets? cs ih =>
    cases ht with
    | node structural ascending occupied below =>
      rw [bindings, List.mem_append, mem_bindingsBelow]
      cases s with
      | nil => simp
      | cons k s =>
        simp only [List.mem_map, Prod.mk.injEq, List.nil_eq, reduceCtorEq, false_and, and_false,
          exists_false, false_or, List.cons.injEq, at?_cons, children_node,
          Option.bind_eq_some_iff]
        constructor
        · rintro ⟨c, hc, s', hb, hk, rfl⟩
          refine ⟨c.2, ?_, (ih c hc (below c hc)).1 hb⟩
          rw [hk]
          exact Entries.lookup_eq_some_of_mem ascending hc
        · rintro ⟨t, hlookup, hat⟩
          have hc := Entries.mem_of_lookup_eq_some hlookup
          exact ⟨(k, t), hc, s, (ih _ hc (below _ hc)).2 hat, rfl, rfl⟩

/-- Addresses ascend along the list of bindings. -/
theorem Canonical.bindings_sorted {t : Trie} (ht : t.Canonical) :
    (t.bindings.map Prod.fst).Pairwise (· < ·) := by
  rw [List.pairwise_map]
  induction t with
  | node path targets? cs ih =>
    cases ht with
    | node structural ascending occupied below =>
      rw [bindings, List.pairwise_append]
      refine ⟨?_, ?_, ?_⟩
      · cases targets? <;> simp
      · rw [bindingsBelow_eq_flatMap, List.pairwise_flatMap]
        constructor
        · intro c hc
          rw [List.pairwise_map]
          refine (ih c hc (below c hc)).imp fun hlt => ?_
          exact List.cons_lt_cons_iff.2 (.inr ⟨rfl, hlt⟩)
        · -- the addresses in two different children differ in their first segment
          refine (List.pairwise_map.1 ascending).imp fun hlt => ?_
          intro b hb b' hb'
          obtain ⟨x, -, rfl⟩ := List.mem_map.1 hb
          obtain ⟨y, -, rfl⟩ := List.mem_map.1 hb'
          exact List.cons_lt_cons_iff.2 (.inl hlt)
      · intro b hb b' hb'
        obtain ⟨x, -, rfl⟩ := List.mem_map.1 hb
        obtain ⟨c, -, s', -, hs'⟩ := mem_bindingsBelow.1 (show (b'.1, b'.2) ∈ _ from hb')
        rw [hs']
        exact List.nil_lt_cons _ _

/-- No address is listed twice. -/
theorem Canonical.addresses_nodup {t : Trie} (ht : t.Canonical) :
    (t.bindings.map Prod.fst).Nodup := by
  refine ht.bindings_sorted.imp ?_
  intro s s' hlt heq
  rw [heq] at hlt
  exact List.lt_irrefl s' hlt

/-- The only binding at an address is the one that is found there. -/
theorem Canonical.filter_bindings {t : Trie} (ht : t.Canonical) (s : List String) :
    (t.bindings.filter fun b => b.1 = s) = (t.at? s).toList.map (s, ·) := by
  cases hs : t.at? s with
  | none =>
    refine List.filter_eq_nil_iff.2 fun b hb => ?_
    have hb := ht.mem_bindings_iff.1 hb
    intro heq
    rw [of_decide_eq_true heq, hs] at hb
    cases hb
  | some e =>
    refine filter_eq_singleton ht.addresses_nodup.of_map fun b => ?_
    rw [decide_eq_true_eq]
    constructor
    · rintro ⟨hb, rfl⟩
      have hat := ht.mem_bindings_iff.1 hb
      rw [hs, Option.some.injEq] at hat
      exact Prod.ext rfl hat.symm
    · rintro rfl
      exact ⟨ht.mem_bindings_iff.2 hs, rfl⟩

/-! ## The output repeats the bindings -/

/-- The locations of a trie, parents first, are its bindings in order. -/
theorem map_record_locations (t : Trie) :
    (Location.preorderAll t.locations).map Location.record = t.bindings.map (·.2.record) := by
  induction t with
  | node path targets? cs ih =>
    have hbelow : (Location.preorderAll (locationsBelow cs)).map Location.record =
        (bindingsBelow cs).map (·.2.record) := by
      rw [locationsBelow_eq_flatMap, Location.preorderAll_flatMap, bindingsBelow_eq_flatMap,
        List.map_flatMap, List.map_flatMap]
      refine List.flatMap_congr fun c hc => ?_
      rw [ih c hc, List.map_map]
      rfl
    cases targets? with
    | none =>
      -- a structural node hands up the locations below it
      simpa [locations, bindings] using hbelow
    | some targets => simp [locations, bindings, Location.preorderAll_singleton, hbelow]

/-- What the locations hold, parents first, is read off the bindings in order. -/
theorem map_locations {α : Type} (f : String × String × List Method → α) (t : Trie) :
    (Location.preorderAll t.locations).map (fun l => f l.record) =
      t.bindings.map fun b => f b.2.record := by
  have h := congrArg (List.map f) t.map_record_locations
  rw [List.map_map, List.map_map] at h
  exact h

/-! ## Children before their parents -/

mutual

/-- What is bound in a trie, the endpoint of a node after those below it. -/
def endpoints : Trie → List Endpoint
  | .node path targets? cs => endpointsBelow cs ++ (Trie.node path targets? cs).endpoint.toList

/-- What is bound in all subtries in a list of children. -/
def endpointsBelow : List (String × Trie) → List Endpoint
  | [] => []
  | (_, t) :: rest => endpoints t ++ endpointsBelow rest

end

theorem endpointsBelow_eq_flatMap (cs : List (String × Trie)) :
    endpointsBelow cs = cs.flatMap fun c => c.2.endpoints := by
  induction cs with
  | nil => rfl
  | cons c rest ih => rw [endpointsBelow, ih, List.flatMap_cons]

/-- The endpoints are those of the bindings, in another order. -/
theorem endpoints_perm (t : Trie) : t.endpoints.Perm (t.bindings.map Prod.snd) := by
  induction t with
  | node path targets? cs ih =>
    have hbelow : (endpointsBelow cs).Perm ((bindingsBelow cs).map Prod.snd) := by
      rw [endpointsBelow_eq_flatMap, bindingsBelow_eq_flatMap, List.map_flatMap]
      refine List.Perm.flatMap_left cs fun c hc => ?_
      rw [List.map_map]
      exact ih c hc
    have htop (e? : Option Endpoint) :
        (e?.toList.map fun e => (([], e) : List String × Endpoint)).map Prod.snd = e?.toList := by
      rw [List.map_map]
      exact List.map_id _
    rw [endpoints, bindings, List.map_append, htop]
    -- the endpoint of a node comes last in one list and first in the other
    exact List.perm_append_comm.trans (hbelow.append_left _)

theorem Canonical.mem_endpoints_iff {t : Trie} (ht : t.Canonical) {e : Endpoint} :
    e ∈ t.endpoints ↔ ∃ s, t.at? s = some e := by
  simp only [t.endpoints_perm.mem_iff, List.mem_map, Prod.exists, exists_eq_right,
    ht.mem_bindings_iff]

/-- The locations of a trie, parents last, are its endpoints in order. -/
theorem map_record_postorderAll (t : Trie) :
    (Location.postorderAll t.locations).map Location.record =
      t.endpoints.map Endpoint.record := by
  induction t with
  | node path targets? cs ih =>
    have hbelow : (Location.postorderAll (locationsBelow cs)).map Location.record =
        (endpointsBelow cs).map Endpoint.record := by
      rw [locationsBelow_eq_flatMap, Location.postorderAll_flatMap, endpointsBelow_eq_flatMap,
        List.map_flatMap, List.map_flatMap]
      exact List.flatMap_congr fun c hc => ih c hc
    cases targets? with
    | none => simpa [locations, endpoints] using hbelow
    | some targets => simp [locations, endpoints, Location.postorderAll_singleton, hbelow]

/-- The method maps of a trie are those of its endpoints in order. -/
theorem methodMaps_eq_filterMap (t : Trie) :
    t.methodMaps = t.endpoints.filterMap Endpoint.methodMap? := by
  induction t with
  | node path targets? cs ih =>
    have hbelow : methodMapsBelow cs = (endpointsBelow cs).filterMap Endpoint.methodMap? := by
      rw [methodMapsBelow_eq_flatMap, endpointsBelow_eq_flatMap, List.filterMap_flatMap]
      exact List.flatMap_congr fun c hc => ih c hc
    cases targets? with
    | none => simp [methodMaps, endpoints, hbelow]
    | some targets =>
      rw [methodMaps, endpoints, hbelow, List.filterMap_append, endpoint_node, Option.map_some,
        Option.toList_some]
      cases hM : Endpoint.methodMap? ⟨path, targets⟩ <;> simp [hM]

/-- The method maps of a trie are those of its bindings. -/
theorem methodMaps_perm (t : Trie) :
    t.methodMaps.Perm (t.bindings.filterMap (·.2.methodMap?)) := by
  have hperm := t.endpoints_perm.filterMap Endpoint.methodMap?
  rw [List.filterMap_map, ← methodMaps_eq_filterMap] at hperm
  exact hperm

/-! ## Locations by address -/

/-- The location that a trie yields at an address. -/
def locationAt? (t : Trie) (s : List String) : Option Location :=
  match descend? s t with
  | some (.node path (some targets) cs) =>
    some (Endpoint.location ⟨path, targets⟩ (locationsBelow cs))
  | _ => none

theorem locationAt?_cons (t : Trie) (k : String) (s : List String) :
    t.locationAt? (k :: s) = (t.children.lookup k).bind (locationAt? · s) := by
  cases hlookup : t.children.lookup k <;> simp [locationAt?, descend?, hlookup]

/-- A location stands where something is bound, and shows what is bound. -/
theorem map_record_locationAt? (t : Trie) (s : List String) :
    (t.locationAt? s).map Location.record = (t.at? s).map Endpoint.record := by
  rw [locationAt?, at?]
  cases descend? s t with
  | none => rfl
  | some t' =>
    obtain ⟨path, targets?, cs⟩ := t'
    cases targets? <;> rfl

/-- Where a location stands, an endpoint with the same record is bound. -/
theorem exists_at?_of_locationAt? {t : Trie} {s : List String} {l : Location}
    (hl : t.locationAt? s = some l) : ∃ e, t.at? s = some e ∧ e.record = l.record := by
  have hrecord := t.map_record_locationAt? s
  rw [hl] at hrecord
  exact Option.map_eq_some_iff.1 hrecord.symm

/-- The locations below a node stand at the addresses that lead through one of its children. -/
theorem mem_preorderAll_locationsBelow_iff {cs : List (String × Trie)}
    (ascending : Entries.Ascending cs)
    (below : ∀ c ∈ cs, ∀ l, l ∈ Location.preorderAll c.2.locations ↔
      ∃ s, c.2.locationAt? s = some l)
    (path : String) (targets? : Option Targets) {l : Location} :
    l ∈ Location.preorderAll (locationsBelow cs) ↔
      ∃ k s, (Trie.node path targets? cs).locationAt? (k :: s) = some l := by
  rw [locationsBelow_eq_flatMap, Location.preorderAll_flatMap, List.mem_flatMap]
  simp only [locationAt?_cons, children_node, Option.bind_eq_some_iff]
  constructor
  · rintro ⟨⟨k, t⟩, hc, hl⟩
    obtain ⟨s, hs⟩ := (below _ hc l).1 hl
    exact ⟨k, s, t, Entries.lookup_eq_some_of_mem ascending hc, hs⟩
  · rintro ⟨k, s, t, hlookup, hs⟩
    have hc := Entries.mem_of_lookup_eq_some hlookup
    exact ⟨(k, t), hc, (below _ hc l).2 ⟨s, hs⟩⟩

/-- The locations of a canonical trie are those that it yields at some address. -/
theorem Canonical.mem_preorderAll_locations_iff {t : Trie} (ht : t.Canonical) {l : Location} :
    l ∈ Location.preorderAll t.locations ↔ ∃ s, t.locationAt? s = some l := by
  induction t generalizing l with
  | node path targets? cs ih =>
    cases ht with
    | node structural ascending occupied below =>
      have hbelow := mem_preorderAll_locationsBelow_iff ascending
        (fun c hc l => ih c hc (below c hc)) path targets? (l := l)
      constructor
      · intro hl
        cases targets? with
        | none =>
          obtain ⟨k, s, hs⟩ := hbelow.1 hl
          exact ⟨k :: s, hs⟩
        | some targets =>
          rw [locations, Location.preorderAll_singleton] at hl
          rcases List.mem_cons.1 hl with rfl | hl
          · exact ⟨[], rfl⟩
          · obtain ⟨k, s, hs⟩ := hbelow.1 hl
            exact ⟨k :: s, hs⟩
      · rintro ⟨s, hs⟩
        cases targets? with
        | none =>
          cases s with
          | nil => cases hs
          | cons k s => exact hbelow.2 ⟨k, s, hs⟩
        | some targets =>
          rw [locations, Location.preorderAll_singleton]
          cases s with
          | nil =>
            cases hs
            exact List.mem_cons_self
          | cons k s => exact List.mem_cons_of_mem _ (hbelow.2 ⟨k, s, hs⟩)

/-! ## Nesting -/

theorem Canonical.descend? {t t' : Trie} {s : List String} (ht : t.Canonical)
    (h : descend? s t = some t') : t'.Canonical := by
  induction s generalizing t with
  | nil =>
    cases h
    exact ht
  | cons k s ih =>
    obtain ⟨child, hlookup, hchild⟩ := Option.bind_eq_some_iff.1 h
    cases ht with
    | node structural ascending occupied below =>
      exact ih (below _ (Entries.mem_of_lookup_eq_some hlookup)) hchild

/-- What is nested in a location are the locations at the longer addresses that start with its
own. -/
theorem Canonical.mem_preorderAll_children_iff {t : Trie} (ht : t.Canonical) {s : List String}
    {parent l : Location} (hparent : t.locationAt? s = some parent) :
    l ∈ Location.preorderAll parent.children ↔
      ∃ k s', t.locationAt? (s ++ k :: s') = some l := by
  rw [locationAt?] at hparent
  split at hparent
  · next path targets cs hdescend =>
    cases hparent
    have hcanonical := ht.descend? hdescend
    have happend : ∀ k s', t.locationAt? (s ++ k :: s') =
        (Trie.node path (some targets) cs).locationAt? (k :: s') := by
      intro k s'
      simp only [locationAt?, descend?_append, hdescend, Option.bind_some]
    simp only [Endpoint.children_location, happend]
    cases hcanonical with
    | node structural ascending occupied below =>
      exact mem_preorderAll_locationsBelow_iff ascending
        (fun c hc l => (below c hc).mem_preorderAll_locations_iff) path (some targets)
  · cases hparent

end Trie

end GatewayRouting
