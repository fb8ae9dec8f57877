import GatewayRouting.Method

/-!
# Tables by method

A finite map from request methods to targets. A table is its look-up function, so two tables that
answer alike are equal; `entries` lists it in canonical order.
-/

namespace GatewayRouting

/-- A map from request methods to targets. -/
@[ext]
structure MethodTable where
  get? : Method → Option String

namespace MethodTable

/-- The table that sends each of `methods` to `target`. -/
def const (methods : List Method) (target : String) : MethodTable :=
  ⟨fun m => if m ∈ methods then some target else none⟩

/-- The table with a single method set to `target`. -/
def insert (t : MethodTable) (m : Method) (target : String) : MethodTable :=
  ⟨fun m' => if m' = m then some target else t.get? m'⟩

/-- The table with each of `methods` set to `target`, one after the other. -/
def insertAll (t : MethodTable) (methods : List Method) (target : String) : MethodTable :=
  methods.foldl (fun t m => t.insert m target) t

/-- The table without entries. -/
def empty : MethodTable := ⟨fun _ => none⟩

/-- The entries of a table, in canonical order of their methods. -/
def entries (t : MethodTable) : List (Method × String) :=
  Method.all.filterMap fun m => (t.get? m).map (m, ·)

/-- The table with the given entries, of which the last one for a method counts. -/
def ofEntries (es : List (Method × String)) : MethodTable :=
  es.foldl (fun t e => t.insert e.1 e.2) empty

/-- The methods without an entry, in canonical order. -/
def missing (t : MethodTable) : List Method :=
  Method.all.filter fun m => (t.get? m).isNone

theorem get?_insertAll (t : MethodTable) (methods : List Method) (target : String) (m : Method) :
    (t.insertAll methods target).get? m = if m ∈ methods then some target else t.get? m := by
  unfold insertAll
  induction methods generalizing t with
  | nil => rfl
  | cons m' methods ih =>
    rw [List.foldl_cons, ih]
    by_cases hm : m ∈ methods
    · simp [hm]
    · simp [hm, insert]

theorem mem_entries_iff {t : MethodTable} {m : Method} {target : String} :
    (m, target) ∈ t.entries ↔ t.get? m = some target := by
  simp [entries, Method.mem_all]

theorem mem_missing_iff {t : MethodTable} {m : Method} :
    m ∈ t.missing ↔ t.get? m = none := by
  simp [missing, Method.mem_all]

/-- Two tables are equal when they have the same entries. -/
theorem entries_injective {a b : MethodTable} (h : a.entries = b.entries) : a = b := by
  ext m target
  rw [← Option.mem_def, ← Option.mem_def, Option.mem_def, Option.mem_def,
    ← mem_entries_iff, ← mem_entries_iff, h]

instance : DecidableEq MethodTable := fun a b =>
  decidable_of_iff (a.entries = b.entries) ⟨entries_injective, fun h => h ▸ rfl⟩

instance : Repr MethodTable := ⟨fun t prec => reprPrec t.entries prec⟩

end MethodTable

end GatewayRouting
