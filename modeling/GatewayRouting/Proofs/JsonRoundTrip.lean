import GatewayRouting.Json.Render
import GatewayRouting.Proofs.JsonReader

/-!
# Nothing is lost in the JSON form

From the JSON form of a compiled configuration the configuration is rebuilt field by field. Members are
looked up by name; what else an object may hold is passed over.

* `proxyConfig?` rebuilds a configuration from a JSON value, `location?` and `methodMap?` its parts.
* `location?_ofLocation`, `methodMap?_ofMethodMap` : each part is rebuilt from its form.
* `lossless_render` : a rendered document is read back, so that different configurations have different
  documents.
-/

namespace GatewayRouting

/-! ## Tables from their entries -/

/-- Entries that agree with a table overwrite with its values. -/
theorem MethodTable.get?_foldl_insert {t : MethodTable} {es : List (Method × String)}
    (h : ∀ e ∈ es, t.get? e.1 = some e.2) (t' : MethodTable) (m : Method) :
    (es.foldl (fun t e => t.insert e.1 e.2) t').get? m =
      if m ∈ es.map Prod.fst then t.get? m else t'.get? m := by
  induction es generalizing t' with
  | nil => simp
  | cons e rest ih =>
    have he := h e List.mem_cons_self
    rw [List.foldl_cons, ih fun e' he' => h e' (List.mem_cons_of_mem e he')]
    by_cases hm : m = e.1
    · simp [hm, insert, he]
    · by_cases hrest : m ∈ rest.map Prod.fst
      · simp [hrest]
      · simp [hrest, hm, insert]

/-- A table is determined by its entries. -/
theorem MethodTable.ofEntries_entries (t : MethodTable) : ofEntries t.entries = t := by
  have hentries : ∀ e ∈ t.entries, t.get? e.1 = some e.2 := by
    rintro ⟨m, target⟩ he
    exact mem_entries_iff.1 he
  ext1
  funext m
  rw [ofEntries, get?_foldl_insert hentries]
  split
  · rfl
  · next hm =>
    cases hget : t.get? m with
    | none => rfl
    | some target => exact absurd (List.mem_map_of_mem (mem_entries_iff.2 hget)) hm

namespace Json

/-! ## Parts of values -/

/-- The text of a string. -/
def Value.text? : Value → Option String
  | .str text => some text
  | _ => none

/-- The items of an array. -/
def Value.items? : Value → Option (List Value)
  | .arr vs => some vs
  | _ => none

/-- The members of an object. -/
def Value.members? : Value → Option (List (String × Value))
  | .obj ms => some ms
  | _ => none

/-- The value of a member of an object. -/
def Value.field? (v : Value) (name : String) : Option Value :=
  v.members?.bind (·.lookup name)

/-- An array in an object is smaller than the object. -/
theorem Value.sizeOf_lt_of_field? {v : Value} {name : String} {vs : List Value}
    (h : v.field? name = some (.arr vs)) : sizeOf vs < sizeOf v := by
  cases v with
  | str text => cases h
  | arr items => cases h
  | obj ms =>
    rcases List.lookup_eq_some_iff.1 h with ⟨before, after, hms, -⟩
    have hmem : (name, Value.arr vs) ∈ ms := by
      rw [hms]
      exact List.mem_append_right before List.mem_cons_self
    have hlt := List.sizeOf_lt_of_mem hmem
    simp only [Prod.mk.sizeOf_spec, Value.arr.sizeOf_spec, Value.obj.sizeOf_spec] at hlt ⊢
    omega

/-! ## Rebuilding a configuration -/

/-- A method from its name. -/
def method? (v : Value) : Option Method :=
  v.text?.bind Method.ofName?

/-- Methods from an array of names. -/
def methods? (v : Value) : Option (List Method) :=
  v.items?.bind (·.mapM method?)

mutual

/-- A location from an object with its fields. -/
def location? (v : Value) : Option Location :=
  match _h : v.field? "children" with
  | some (.arr vs) => do
    let path ← (v.field? "path").bind Value.text?
    let target ← (v.field? "target").bind Value.text?
    let unallowed ← (v.field? "unallowed_methods").bind methods?
    let children ← locations? vs
    return ⟨path, target, unallowed, children⟩
  | _ => none
termination_by sizeOf v
decreasing_by exact Value.sizeOf_lt_of_field? ‹_›

/-- Locations from the items of an array. -/
def locations? (vs : List Value) : Option (List Location) :=
  match vs with
  | [] => some []
  | v :: rest => do
    let l ← location? v
    let ls ← locations? rest
    return l :: ls
termination_by sizeOf vs

end

/-- A method and its target from a member of an object. -/
def binding? (m : String × Value) : Option (Method × String) := do
  let method ← Method.ofName? m.1
  let target ← m.2.text?
  return (method, target)

/-- A table from an object. -/
def table? (v : Value) : Option MethodTable :=
  v.members?.bind fun ms => (ms.mapM binding?).map .ofEntries

/-- A method map from an object with its fields. -/
def methodMap? (v : Value) : Option MethodMap := do
  let name ← (v.field? "var_name").bind Value.text?
  let table ← (v.field? "method_to_target").bind table?
  return ⟨name, table⟩

/-- A configuration from an object with its fields. -/
def proxyConfig? (v : Value) : Option ProxyConfig := do
  let locations ← ((v.field? "locations").bind Value.items?).bind locations?
  let maps ← ((v.field? "method_maps").bind Value.items?).bind (·.mapM methodMap?)
  return ⟨locations, maps⟩

/-! ## Each part is rebuilt -/

/-- Items are rebuilt from their forms if each one is. -/
theorem mapM_map_eq_some {α β : Type} {form : α → β} {rebuild? : β → Option α} {as : List α}
    (h : ∀ a ∈ as, rebuild? (form a) = some a) : (as.map form).mapM rebuild? = some as := by
  induction as with
  | nil => rfl
  | cons a as ih =>
    have has := ih fun a' ha' => h a' (List.mem_cons_of_mem a ha')
    simp [h a List.mem_cons_self, has]

theorem methods?_ofMethods (ms : List Method) : methods? (ofMethods ms) = some ms := by
  apply mapM_map_eq_some
  intro m _
  exact Method.ofName?_name m

mutual

/-- A location is rebuilt from its form, with all that is below it. -/
theorem location?_ofLocation : ∀ l : Location, location? (ofLocation l) = some l
  | ⟨path, target, unallowed, children⟩ => by
    have hpath : (ofLocation ⟨path, target, unallowed, children⟩).field? "path" =
        some (.str path) := rfl
    have htarget : (ofLocation ⟨path, target, unallowed, children⟩).field? "target" =
        some (.str target) := rfl
    have hunallowed : (ofLocation ⟨path, target, unallowed, children⟩).field? "unallowed_methods" =
        some (ofMethods unallowed) := rfl
    have hchildren : (ofLocation ⟨path, target, unallowed, children⟩).field? "children" =
        some (.arr (ofLocations children)) := rfl
    rw [location?]
    split
    · next vs hvs =>
      rw [hchildren, Option.some.injEq, Value.arr.injEq] at hvs
      rw [← hvs, locations?_ofLocations children, hpath, htarget, hunallowed, Option.bind_some,
        Option.bind_some, Option.bind_some, methods?_ofMethods]
      rfl
    · next hno => exact absurd hchildren (hno _)

theorem locations?_ofLocations : ∀ ls : List Location, locations? (ofLocations ls) = some ls
  | [] => by rw [ofLocations, locations?]
  | l :: rest => by
    rw [ofLocations, locations?, location?_ofLocation l, locations?_ofLocations rest]
    rfl

end

theorem table?_ofTable (t : MethodTable) : table? (ofTable t) = some t := by
  have hentries : (t.entries.map fun e => (e.1.name, Value.str e.2)).mapM binding? = some t.entries := by
    apply mapM_map_eq_some
    rintro ⟨m, target⟩ _
    simp [binding?, Method.ofName?_name, Value.text?]
  show ((t.entries.map fun e => (e.1.name, Value.str e.2)).mapM binding?).map MethodTable.ofEntries =
    some t
  rw [hentries, Option.map_some, MethodTable.ofEntries_entries]

theorem methodMap?_ofMethodMap (m : MethodMap) : methodMap? (ofMethodMap m) = some m := by
  have hname : (ofMethodMap m).field? "var_name" = some (.str m.name) := rfl
  have htable : (ofMethodMap m).field? "method_to_target" = some (ofTable m.table) := rfl
  rw [methodMap?, hname, htable, Option.bind_some, Option.bind_some, table?_ofTable]
  rfl

theorem proxyConfig?_ofProxyConfig (c : ProxyConfig) :
    proxyConfig? (ofProxyConfig c) = some c := by
  have hlocations : (ofProxyConfig c).field? "locations" = some (.arr (ofLocations c.locations)) := rfl
  have hmaps : (ofProxyConfig c).field? "method_maps" = some (.arr (c.maps.map ofMethodMap)) := rfl
  have hrebuild : (c.maps.map ofMethodMap).mapM methodMap? = some c.maps :=
    mapM_map_eq_some fun m _ => methodMap?_ofMethodMap m
  rw [proxyConfig?, hlocations, hmaps]
  simp only [Value.items?, Option.bind_some, locations?_ofLocations, hrebuild]
  rfl

/-- A rendered configuration is one JSON object and a line feed, and the configuration is rebuilt from this
object. So configurations that are rendered alike are equal. -/
theorem lossless_render (c : ProxyConfig) :
    (∃ body members, (render c).toList = body ++ ['\n'] ∧ read? body = some (.obj members) ∧
      proxyConfig? (.obj members) = some c) ∧
    ∀ c', render c' = render c ↔ c' = c := by
  have hrender (c : ProxyConfig) : (render c).toList = (ofProxyConfig c).chars 0 ++ ['\n'] :=
    String.toList_ofList
  refine ⟨⟨_, _, hrender c, read?_chars (ofProxyConfig c) 0, proxyConfig?_ofProxyConfig c⟩, ?_⟩
  intro c'
  constructor
  · intro heq
    have hchars : (ofProxyConfig c').chars 0 = (ofProxyConfig c).chars 0 := by
      apply (List.append_left_inj ['\n']).1
      rw [← hrender, ← hrender, heq]
    have hread := read?_chars (ofProxyConfig c') 0
    rw [hchars, read?_chars, Option.some.injEq] at hread
    have hrebuild := proxyConfig?_ofProxyConfig c'
    rw [← hread, proxyConfig?_ofProxyConfig, Option.some.injEq] at hrebuild
    exact hrebuild.symm
  · intro heq
    rw [heq]

end Json

end GatewayRouting
