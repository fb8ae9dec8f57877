import GatewayRouting.Entries
import Mathlib.Data.List.Sort

/-!
# Lists of named entries as finite maps

In a list whose names ascend, looking a name up and being an entry are the same thing
(`lookup_eq_some_iff`), and two such lists that answer every look-up alike are equal (`ext_of_lookup`).
-/

namespace GatewayRouting.Entries

variable {α : Type}

theorem Ascending.tail {e : String × α} {es : List (String × α)} (h : Ascending (e :: es)) :
    Ascending es :=
  (List.pairwise_cons.1 h).2

/-- The first name of ascending entries precedes all others. -/
theorem Ascending.head_lt {key : String} {value : α} {e : String × α} {es : List (String × α)}
    (h : Ascending ((key, value) :: es)) (he : e ∈ es) : key < e.1 :=
  (List.pairwise_cons.1 h).1 e.1 (List.mem_map_of_mem he)

/-- A value that is found belongs to an entry; the order of the names is not needed for this. -/
theorem mem_of_lookup_eq_some {key : String} {value : α} {es : List (String × α)}
    (h : es.lookup key = some value) : (key, value) ∈ es := by
  obtain ⟨before, after, rfl, -⟩ := List.lookup_eq_some_iff.1 h
  exact List.mem_append_right before List.mem_cons_self

/-- In ascending entries every entry is found under its name. -/
theorem lookup_eq_some_of_mem {key : String} {value : α} {es : List (String × α)}
    (h : Ascending es) (hmem : (key, value) ∈ es) : es.lookup key = some value := by
  obtain ⟨before, after, rfl⟩ := List.append_of_mem hmem
  refine List.lookup_eq_some_iff.2 ⟨before, after, rfl, ?_⟩
  intro e he
  -- an earlier entry has an earlier name, so the look-up passes it
  rw [Ascending, List.map_append, List.pairwise_append] at h
  have hlt : e.1 < key := h.2.2 e.1 (List.mem_map_of_mem he) key List.mem_cons_self
  exact bne_iff_ne.2 (fun heq => String.lt_irrefl key (heq ▸ hlt))

theorem lookup_eq_some_iff {key : String} {value : α} {es : List (String × α)}
    (h : Ascending es) : es.lookup key = some value ↔ (key, value) ∈ es :=
  ⟨mem_of_lookup_eq_some, lookup_eq_some_of_mem h⟩

/-- An entry after an insertion is the one inserted or was there before. -/
theorem mem_of_mem_put {key : String} {value : α} {e : String × α} {es : List (String × α)}
    (h : e ∈ put key value es) : e = (key, value) ∨ e ∈ es := by
  induction es with
  | nil => simpa [put] using h
  | cons e' rest ih =>
    obtain ⟨k, v⟩ := e'
    unfold put at h
    split at h
    · exact (List.mem_cons.1 h).imp_right (List.mem_cons_of_mem _)
    · split at h
      · exact List.mem_cons.1 h
      · rcases List.mem_cons.1 h with rfl | h
        · exact .inr List.mem_cons_self
        · exact (ih h).imp_right (List.mem_cons_of_mem _)

/-- Setting a value loses no name. -/
theorem mem_names_put_iff {key name : String} {value : α} {es : List (String × α)} :
    name ∈ (put key value es).map Prod.fst ↔ name = key ∨ name ∈ es.map Prod.fst := by
  constructor
  · exact mem_names_put
  · intro h
    induction es with
    | nil => simpa [put] using h
    | cons e rest ih =>
      obtain ⟨k, v⟩ := e
      unfold put
      split
      · next heq => simpa [heq] using h
      · split
        · simpa using h
        · simp only [List.map_cons, List.mem_cons] at h ⊢
          rcases h with hkey | hk | hrest
          · exact .inr (ih (.inl hkey))
          · exact .inl hk
          · exact .inr (ih (.inr hrest))

/-- Setting a name to the value that it has changes nothing. -/
theorem put_eq_self {key : String} {value : α} {es : List (String × α)} (h : Ascending es)
    (hlookup : es.lookup key = some value) : put key value es = es := by
  induction es with
  | nil => cases hlookup
  | cons e rest ih =>
    obtain ⟨k, v⟩ := e
    rw [lookup_cons_eq_if] at hlookup
    by_cases hk : key = k
    · rw [if_pos hk, Option.some.injEq] at hlookup
      rw [put, if_pos hk.symm, hk, hlookup]
    · -- the entry comes later, so its name does not precede the first one
      rw [if_neg hk] at hlookup
      have hlt : k < key := h.head_lt (mem_of_lookup_eq_some hlookup)
      simp only [put, if_neg (Ne.symm hk), if_neg (String.lt_asymm hlt), ih h.tail hlookup]

/-- Ascending entries are determined by what is found under each name. -/
theorem ext_of_lookup {a b : List (String × α)} (ha : Ascending a) (hb : Ascending b)
    (h : ∀ key, a.lookup key = b.lookup key) : a = b := by
  have hmem : ∀ e, e ∈ a ↔ e ∈ b := by
    intro ⟨key, value⟩
    rw [← lookup_eq_some_iff ha, ← lookup_eq_some_iff hb, h key]
  -- a list that is sorted by a strict order is fixed by its members
  have : Std.Irrefl (fun e e' : String × α => e.1 < e'.1) :=
    ⟨fun e => String.lt_irrefl e.1⟩
  have : Std.Antisymm (fun e e' : String × α => e.1 < e'.1) :=
    ⟨fun _ _ hlt hgt => absurd hgt (String.lt_asymm hlt)⟩
  exact List.Pairwise.eq_of_mem_iff (List.pairwise_map.1 ha) (List.pairwise_map.1 hb) hmem

/-! ## Changing the values -/

variable {β : Type}

/-- A name is found among changed values as the changed value that it had. -/
theorem lookup_map (f : α → β) (key : String) (es : List (String × α)) :
    (es.map fun e => (e.1, f e.2)).lookup key = (es.lookup key).map f := by
  induction es with
  | nil => rfl
  | cons e rest ih =>
    obtain ⟨k, v⟩ := e
    rw [List.map_cons, List.lookup_cons, List.lookup_cons]
    cases key == k with
    | true => rfl
    | false => exact ih

/-- The names stay as they are when the values change. -/
theorem Ascending.map (f : α → β) {es : List (String × α)} (h : Ascending es) :
    Ascending (es.map fun e => (e.1, f e.2)) := by
  have hnames : (es.map fun e => (e.1, f e.2)).map Prod.fst = es.map Prod.fst := by
    rw [List.map_map]
    rfl
  rw [Ascending, hnames]
  exact h

end GatewayRouting.Entries
