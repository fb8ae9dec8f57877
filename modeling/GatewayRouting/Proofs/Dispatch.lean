import GatewayRouting.Proofs.Compiled

/-!
# Compilation preserves the declared routing

`ProxyConfig.dispatch` reads off a configuration what becomes of a request: the location of the
request's segments, its unallowed methods, its target or the method map that the target names. For a
compiled configuration this is what the routes declare (`dispatch_of_compile`).

The argument goes through the trie: a configuration answers as the endpoint bound at the address does
(`Compiled.dispatch_eq`), and an endpoint answers as its group of routes declares
(`Endpoint.answer_of_serves`, `Endpoint.answer_of_refuses`).
-/

namespace GatewayRouting

/-- What becomes of a request. -/
inductive Answer where
  | noRoute
  | reject
  | proxy (target : String)
  /-- The method map that the target names has no entry for the method. -/
  | unmapped
deriving DecidableEq, Repr

/-- What a configuration does with a request for some segments and a method. -/
def ProxyConfig.dispatch (c : ProxyConfig) (s : List String) (m : Method) : Answer :=
  match (Location.preorderAll c.locations).find? fun l => Path.segments l.path = s with
  | none => .noRoute
  | some l =>
    if m ∈ l.unallowed then .reject
    else
      match c.maps.find? fun M => l.target = "$" ++ M.name with
      | none => .proxy l.target
      | some M =>
        match M.table.get? m with
        | none => .unmapped
        | some target => .proxy target

/-! ## One endpoint -/

namespace Endpoint

/-- What the location and the method map of an endpoint do with a request. -/
def answer (e : Endpoint) (m : Method) : Answer :=
  if m ∈ e.unallowed then .reject
  else
    match e.methodMap? with
    | none => .proxy e.proxyTarget
    | some M =>
      match M.table.get? m with
      | none => .unmapped
      | some target => .proxy target

variable {group : List Route} {e : Endpoint} {m : Method}

/-- A method that no route of the group takes is rejected. -/
theorem answer_of_refuses (hgroup : group.Pairwise Route.Compatible)
    (h : ofRoutes group = some e) (hm : ∀ r ∈ group, r.declared ≠ [] ∧ m ∉ r.declared) :
    e.answer m = .reject := by
  have hunallowed := (mem_unallowed_ofRoutes_iff hgroup h).2 hm
  rw [answer, if_pos hunallowed]

/-- A method that some route of the group takes leads to the target of that route. -/
theorem answer_of_serves (hgroup : group.Pairwise Route.Compatible)
    (hnodup : ∀ r ∈ group, r.declared.Nodup) (h : ofRoutes group = some e) {r : Route}
    (hr : r ∈ group) (hm : m ∈ r.declared ∨ r.declared = []) : e.answer m = .proxy r.target := by
  have hallowed : m ∉ e.unallowed := by
    intro hmem
    obtain ⟨hne, hnot⟩ := (mem_unallowed_ofRoutes_iff hgroup h).1 hmem r hr
    rcases hm with hm | hnil
    · exact hnot hm
    · exact hne hnil
  rw [answer, if_neg hallowed]
  rcases Nat.lt_or_ge 1 (group.flatMap Route.declared).length with hmany | hfew
  · -- the routes share a method map, and `r` is the route that fills its entry for `m`
    have hdeclared : m ∈ r.declared := by
      rcases hm with hm | hnil
      · exact hm
      · rw [eq_singleton_of_declared_eq_nil hgroup hr hnil] at hmany
        simp [hnil] at hmany
    rw [methodMap?_of_many hgroup hnodup h hmany]
    simp only [MethodTable.get?_ofRoutes_of_mem hgroup hr hdeclared]
  · obtain ⟨hnone, r', hsingle, htarget⟩ := proxyTarget_of_few hgroup hnodup h hfew
    rw [hsingle, List.mem_singleton] at hr
    rw [hnone, hr]
    exact congrArg Answer.proxy htarget

end Endpoint

/-! ## The whole configuration -/

variable {routes : List Route} {t : Trie} {s : List String} {m : Method}

/-- A compiled configuration answers as the endpoint at the address does. -/
theorem Compiled.dispatch_eq (h : Compiled routes t) (s : List String) (m : Method) :
    t.proxyConfig.dispatch s m =
      match t.at? s with
      | none => .noRoute
      | some e => e.answer m := by
  have hrecord := t.map_record_locationAt? s
  simp only [ProxyConfig.dispatch, Trie.proxyConfig, h.find?_locations]
  cases hs : t.at? s with
  | none =>
    rw [hs, Option.map_none, Option.map_eq_none_iff] at hrecord
    rw [hrecord]
  | some e =>
    rw [hs, Option.map_some, Option.map_eq_some_iff] at hrecord
    obtain ⟨l, hl, hle⟩ := hrecord
    have htarget : l.target = e.proxyTarget := congrArg (·.2.1) hle
    have hunallowed : l.unallowed = e.unallowed := congrArg (·.2.2) hle
    simp only [hl, hunallowed, htarget, h.find?_methodMaps hs]
    rfl

/-- Requests to which no route leads find no location. -/
theorem Compiled.dispatch_eq_noRoute (h : Compiled routes t)
    (hs : ∀ r ∈ routes, Path.segments r.path ≠ s) : t.proxyConfig.dispatch s m = .noRoute := by
  have hgroup : routesAt routes s = [] := routesAt_eq_nil_iff.2 hs
  have hat : t.at? s = none := by
    rw [h.gathers.at?_eq, hgroup]
    rfl
  rw [h.dispatch_eq, hat]

/-- Requests that a route takes are proxied to its target. -/
theorem Compiled.dispatch_eq_proxy (h : Compiled routes t) {r : Route} (hr : r ∈ routes)
    (hs : Path.segments r.path = s) (hm : m ∈ r.declared ∨ r.declared = []) :
    t.proxyConfig.dispatch s m = .proxy r.target := by
  have hmem : r ∈ routesAt routes s := mem_routesAt.2 ⟨hr, hs⟩
  obtain ⟨e, hat⟩ := h.exists_at? hmem
  rw [h.dispatch_eq, hat]
  exact Endpoint.answer_of_serves (h.compatible s) (h.declared_nodup s) (h.ofRoutes_eq hat)
    hmem hm

/-- Requests to which routes lead that do not take them are rejected. -/
theorem Compiled.dispatch_eq_reject (h : Compiled routes t)
    (hs : ∃ r ∈ routes, Path.segments r.path = s)
    (hm : ∀ r ∈ routes, Path.segments r.path = s → m ∉ r.declared ∧ r.declared ≠ []) :
    t.proxyConfig.dispatch s m = .reject := by
  obtain ⟨r, hr, haddress⟩ := hs
  obtain ⟨e, hat⟩ := h.exists_at? (mem_routesAt.2 ⟨hr, haddress⟩)
  rw [h.dispatch_eq, hat]
  refine Endpoint.answer_of_refuses (h.compatible s) (h.ofRoutes_eq hat) fun r' hr' => ?_
  obtain ⟨hr', haddress'⟩ := mem_routesAt.1 hr'
  exact (hm r' hr' haddress').symm

/-- No look-up in a method map fails, as one of the three cases always applies. -/
theorem Compiled.dispatch_ne_unmapped (h : Compiled routes t) :
    t.proxyConfig.dispatch s m ≠ .unmapped := by
  by_cases hserved : ∃ r ∈ routes, Path.segments r.path = s ∧ (m ∈ r.declared ∨ r.declared = [])
  · obtain ⟨r, hr, haddress, hm⟩ := hserved
    rw [h.dispatch_eq_proxy hr haddress hm]
    simp
  · by_cases hroute : ∃ r ∈ routes, Path.segments r.path = s
    · rw [h.dispatch_eq_reject hroute fun r hr haddress =>
        not_or.1 fun hm => hserved ⟨r, hr, haddress, hm⟩]
      simp
    · rw [h.dispatch_eq_noRoute fun r hr haddress => hroute ⟨r, hr, haddress⟩]
      simp

/-- In a compiled configuration no two locations have the same segments and no two method maps the
same name. Requests are answered as declared: those to which no route leads find none, those that a
route takes are proxied to its target, and the others are rejected; no look-up in a method map
fails. -/
theorem dispatch_of_compile {routes : List Route} {c : ProxyConfig} (h : compile routes = .ok c)
    (s : List String) (m : Method) :
    ((Location.preorderAll c.locations).map fun l => Path.segments l.path).Nodup ∧
    (c.maps.map MethodMap.name).Nodup ∧
    ((∀ r ∈ routes, Path.segments r.path ≠ s) → c.dispatch s m = .noRoute) ∧
    (∀ r ∈ routes, Path.segments r.path = s → m ∈ r.declared ∨ r.declared = [] →
      c.dispatch s m = .proxy r.target) ∧
    ((∃ r ∈ routes, Path.segments r.path = s) →
      (∀ r ∈ routes, Path.segments r.path = s → m ∉ r.declared ∧ r.declared ≠ []) →
        c.dispatch s m = .reject) ∧
    c.dispatch s m ≠ .unmapped := by
  obtain ⟨t, ht, rfl⟩ := exists_compiled h
  refine ⟨ht.segments_nodup, ht.mapNames_nodup, ?_, ?_, ?_, ht.dispatch_ne_unmapped⟩
  · intro hs
    exact ht.dispatch_eq_noRoute hs
  · intro r hr hs hm
    exact ht.dispatch_eq_proxy hr hs hm
  · intro hs hm
    exact ht.dispatch_eq_reject hs hm

theorem dispatch_of_compile_sampleRoutes :
    ∃ c, compile sampleRoutes = .ok c ∧
      c.dispatch ["a", "b"] .post = .proxy "$up" ∧ c.dispatch ["a", "b"] .put = .reject ∧
      c.dispatch ["c", "d"] .get = .proxy "$a_target" ∧ c.dispatch ["c"] .get = .noRoute := by
  obtain ⟨c, h⟩ := compile_sampleRoutes
  have hpost := (dispatch_of_compile h ["a", "b"] .post).2.2.2.1
  have hput := (dispatch_of_compile h ["a", "b"] .put).2.2.2.2.1
  have hget := (dispatch_of_compile h ["c", "d"] .get).2.2.2.1
  have hnone := (dispatch_of_compile h ["c"] .get).2.2.1
  refine ⟨c, h, ?_, hput (by decide) (by decide), ?_, hnone (by decide)⟩
  · exact hpost ⟨"/a//b/", some [.post], "$up"⟩ (by decide) (by decide) (by decide)
  · exact hget ⟨"/c/d", none, "$a_target"⟩ (by decide) (by decide) (by decide)

end GatewayRouting
