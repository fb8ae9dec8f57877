/-!
# Lists of named entries

Lists of pairs that are kept in ascending order of their names. Names are compared character by
character.

* `Entries.put` sets the value of a name and keeps the order (`ascending_put`); a later look-up sees
  the new value, and no other name is touched (`lookup_put`).
* `NameTable` is a map from names that is listed in order.
-/

namespace GatewayRouting.Entries

variable {α : Type}

/-- The entries with the value of a name set, in place if the name is there. -/
def put (key : String) (value : α) : List (String × α) → List (String × α)
  | [] => [(key, value)]
  | (k, v) :: rest =>
    if k = key then (key, value) :: rest
    else if key < k then (key, value) :: (k, v) :: rest
    else (k, v) :: put key value rest

theorem lookup_cons_eq_if (key name : String) (value : α) (es : List (String × α)) :
    ((key, value) :: es).lookup name = if name = key then some value else es.lookup name := by
  by_cases h : name = key
  · simp [h]
  · rw [List.lookup_cons, beq_false_of_ne h, if_neg h]

/-- Setting a value changes what is found under its name, and nothing else. -/
theorem lookup_put (key name : String) (value : α) (es : List (String × α)) :
    (put key value es).lookup name = if name = key then some value else es.lookup name := by
  induction es with
  | nil => exact lookup_cons_eq_if key name value []
  | cons e rest ih =>
    obtain ⟨k, v⟩ := e
    by_cases h : k = key
    · subst h
      by_cases hname : name = k <;> simp [put, lookup_cons_eq_if, hname]
    · by_cases hlt : key < k
      · simp [put, h, hlt, lookup_cons_eq_if key name]
      · simp only [put, if_neg h, if_neg hlt, lookup_cons_eq_if k name, ih]
        -- the entry in front belongs to another name than the one that is set
        by_cases hname : name = k
        · simp [hname, h]
        · simp [hname]

/-! ## Order -/

/-- The names ascend from entry to entry, so none occurs twice. -/
def Ascending (es : List (String × α)) : Prop :=
  (es.map Prod.fst).Pairwise (· < ·)

instance (es : List (String × α)) : Decidable (Ascending es) :=
  inferInstanceAs (Decidable ((es.map Prod.fst).Pairwise (· < ·)))

/-- A name of the entries after an insertion is the one inserted or was there before. -/
theorem mem_names_put {key name : String} {value : α} {es : List (String × α)}
    (h : name ∈ (put key value es).map Prod.fst) : name = key ∨ name ∈ es.map Prod.fst := by
  induction es with
  | nil => simpa [put] using h
  | cons e rest ih =>
    obtain ⟨k, v⟩ := e
    unfold put at h
    split at h
    · simp only [List.map_cons, List.mem_cons] at h ⊢
      exact h.imp_right .inr
    · split at h
      · simpa using h
      · simp only [List.map_cons, List.mem_cons] at h ⊢
        rcases h with h | h
        · exact .inr (.inl h)
        · exact (ih h).imp_right .inr

/-- Setting a value keeps the order. -/
theorem ascending_put {es : List (String × α)} (h : Ascending es) (key : String) (value : α) :
    Ascending (put key value es) := by
  induction es with
  | nil => simp [Ascending, put]
  | cons e rest ih =>
    obtain ⟨k, v⟩ := e
    obtain ⟨hk, hrest⟩ := List.pairwise_cons.1 h
    unfold put
    split
    · next heq => exact List.pairwise_cons.2 ⟨fun name hn => heq ▸ hk name hn, hrest⟩
    · next hne =>
      split
      · next hlt =>
        refine List.pairwise_cons.2 ⟨fun name hn => ?_, h⟩
        rcases List.mem_cons.1 hn with rfl | hn
        · exact hlt
        · exact String.lt_trans hlt (hk name hn)
      · next hnlt =>
        refine List.pairwise_cons.2 ⟨fun name hn => ?_, ih hrest⟩
        rcases mem_names_put hn with rfl | hn
        · exact Std.lt_of_le_of_ne (String.not_lt.1 hnlt) hne
        · exact hk name hn

end GatewayRouting.Entries

namespace GatewayRouting

/-! ## Tables by name -/

/-- A finite map from names, whose entries are listed in ascending order of the names. -/
structure NameTable (α : Type) where
  entries : List (String × α)
  ascending : Entries.Ascending entries
deriving DecidableEq, Repr

namespace NameTable

variable {α : Type}

/-- The map without entries. -/
def empty : NameTable α := ⟨[], .nil⟩

/-- The value of a name. -/
def get? (t : NameTable α) (name : String) : Option α :=
  t.entries.lookup name

/-- The map with the value of a name set. -/
def insert (t : NameTable α) (name : String) (value : α) : NameTable α :=
  ⟨Entries.put name value t.entries, Entries.ascending_put t.ascending name value⟩

/-- The map with the given entries, of which the last one for a name counts. -/
def ofList (pairs : List (String × α)) : NameTable α :=
  pairs.foldl (fun t p => t.insert p.1 p.2) empty

theorem get?_insert (t : NameTable α) (name other : String) (value : α) :
    (t.insert name value).get? other = if other = name then some value else t.get? other :=
  Entries.lookup_put name other value t.entries

end NameTable

end GatewayRouting
