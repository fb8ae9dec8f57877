import GatewayRouting.Proofs.CommandRuns
import GatewayRouting.Proofs.TargetUrls
import Mathlib.Data.String.Basic

/-!
# What the table of routes shows

The table has a row for each function with a path, and is printed without resolving the functions as a
compilation does. Both agree all the same, and the columns of the table are straight.

* `orderedByPath_sortRows` : rows are ordered by path, and those with one path stay as declared;
* `forall₂_tabulates`, `targetCell_eq_notDeployed_iff` : what the rows show of the functions;
* `length_le_columnWidth`, `Columns.aligns_rowLine` : widths in bytes have room for the characters;
* `routesTable_of_config` : the table next to the functions, the routes and the lines that are printed.
-/

namespace GatewayRouting.Cli

/-! ## Order of rows -/

/-- Rows ordered by their paths, where rows with one path keep their order. -/
structure OrderedByPath (rows ordered : List TableRow) : Prop where
  perm : ordered.Perm rows
  sorted : ordered.Pairwise fun r s => r.path ≤ s.path
  stable : ∀ path, ordered.filter (·.path = path) = rows.filter (·.path = path)

/-- A row does not belong behind another one. -/
def TableRow.Precedes (r s : TableRow) : Prop :=
  r.path ≤ s.path

instance : DecidableRel TableRow.Precedes := fun r s => inferInstanceAs (Decidable (r.path ≤ s.path))

instance : Std.Total TableRow.Precedes := ⟨fun r s => String.le_total r.path s.path⟩

instance : IsTrans TableRow TableRow.Precedes := ⟨fun _ _ _ h h' => String.le_trans h h'⟩

theorem insertRow_eq_orderedInsert (r : TableRow) (rows : List TableRow) :
    insertRow r rows = rows.orderedInsert TableRow.Precedes r := by
  induction rows with
  | nil => rfl
  | cons s rest ih =>
    rw [insertRow, List.orderedInsert_cons, ih]
    by_cases h : s.path < r.path
    · have hnot : ¬ r.Precedes s := String.not_le.2 h
      rw [if_pos h, if_neg hnot]
    · have hprecedes : r.Precedes s := String.not_lt.1 h
      rw [if_neg h, if_pos hprecedes]

theorem sortRows_eq_insertionSort (rows : List TableRow) :
    sortRows rows = rows.insertionSort TableRow.Precedes := by
  have hstep : insertRow = List.orderedInsert TableRow.Precedes := by
    funext r rows
    exact insertRow_eq_orderedInsert r rows
  rw [sortRows, hstep]
  rfl

theorem orderedByPath_sortRows (rows : List TableRow) : OrderedByPath rows (sortRows rows) := by
  rw [sortRows_eq_insertionSort]
  have hperm := List.perm_insertionSort TableRow.Precedes rows
  refine ⟨hperm, List.pairwise_insertionSort TableRow.Precedes rows, ?_⟩
  intro path
  -- the rows with this path are in order already, so they are met in this order
  have hsame : (rows.filter (·.path = path)).Pairwise TableRow.Precedes := by
    apply List.pairwise_of_forall_mem_list
    intro r hr s hs
    show r.path ≤ s.path
    rw [of_decide_eq_true (List.mem_filter.1 hr).2, of_decide_eq_true (List.mem_filter.1 hs).2]
  have hsub := (List.sublist_insertionSort hsame List.filter_sublist).filter (·.path = path)
  rw [List.filter_filter] at hsub
  simp only [Bool.and_self] at hsub
  exact (hsub.eq_of_length (hperm.filter _).length_eq.symm).symm

/-! ## Rows of functions -/

variable {d : Directory} {f : FunctionDecl} {fs : List FunctionDecl} {row : TableRow}

/-- A function is reached at a URL if that is where its address leads. -/
def ReachedAt (d : Directory) (f : FunctionDecl) (url : String) : Prop :=
  ∃ address, d.addresses.get? f.name = some address ∧ targetUrl address = .ok url

/-- A function is not reached if it is not deployed, or at an address that leads to no URL. -/
def Unreached (d : Directory) (f : FunctionDecl) : Prop :=
  d.addresses.get? f.name = none ∨
    ∃ address e, d.addresses.get? f.name = some address ∧ targetUrl address = .error e

theorem targetCell_of_reachedAt {url : String} (h : ReachedAt d f url) : targetCell d f = url := by
  rcases h with ⟨address, hname, htarget⟩
  simp only [targetCell, Directory.lookup_eq_ok_iff.2 hname, htarget]

theorem targetCell_of_unreached (h : Unreached d f) : targetCell d f = "<not deployed>" := by
  rcases h with hname | ⟨address, e, hname, htarget⟩
  · simp only [targetCell, Directory.lookup_eq_error_iff.2 ⟨hname, rfl⟩]
  · simp only [targetCell, Directory.lookup_eq_ok_iff.2 hname, htarget]

theorem reachedAt_or_unreached (d : Directory) (f : FunctionDecl) :
    (∃ url, ReachedAt d f url) ∨ Unreached d f := by
  cases hname : d.addresses.get? f.name with
  | none => exact .inr (.inl hname)
  | some address =>
    cases htarget : targetUrl address with
    | ok url => exact .inl ⟨url, address, hname, htarget⟩
    | error e => exact .inr (.inr ⟨address, e, hname, htarget⟩)

/-- A function shows as not deployed exactly when it is not reached, as that is no URL. -/
theorem targetCell_eq_notDeployed_iff : targetCell d f = "<not deployed>" ↔ Unreached d f := by
  constructor
  · intro h
    rcases reachedAt_or_unreached d f with ⟨url, hurl⟩ | hnot
    · rw [targetCell_of_reachedAt hurl] at h
      rcases hurl with ⟨address, -, htarget⟩
      have hmark := hasSchemeMark_iff.2 (IsTarget.of_targetUrl htarget).mark
      rw [h] at hmark
      exact absurd hmark (by decide)
    · exact hnot
  · exact targetCell_of_unreached

/-- A function that resolves is reached at the target of its route. -/
theorem Resolves.reachedAt {r : Route} (h : Resolves d f r) : ReachedAt d f r.target := by
  rcases h.target with ⟨address, hname, htarget⟩
  exact ⟨address, hname, (targetUrl_trim address).symm.trans htarget⟩

theorem Unreached.not_resolves (h : Unreached d f) (r : Route) : ¬ Resolves d f r := by
  intro hr
  rcases Resolves.reachedAt hr with ⟨address, hname, htarget⟩
  rcases h with hnone | ⟨address', e, hname', htarget'⟩
  · cases hnone.symm.trans hname
  · cases hname'.symm.trans hname
    cases htarget'.symm.trans htarget

/-- A row shows a function: its name, its path, its methods or a star, and where it is reached. -/
structure Tabulates (d : Directory) (f : FunctionDecl) (row : TableRow) : Prop where
  name : row.name = f.name
  path : f.path = some row.path
  methods : row.methods =
    if f.methods.getD [] = [] then "*" else ",".intercalate (f.methods.getD [])
  target : ∀ url, ReachedAt d f url → row.target = url
  notDeployed : row.target = "<not deployed>" ↔ Unreached d f

theorem methodsCell_eq (f : FunctionDecl) :
    methodsCell f =
      if f.methods.getD [] = [] then "*" else ",".intercalate (f.methods.getD []) := by
  unfold methodsCell
  split <;> simp_all

theorem tabulates_of_row? (h : row? d f = some row) : Tabulates d f row := by
  rcases Option.map_eq_some_iff.1 h with ⟨path, hpath, rfl⟩
  exact ⟨rfl, hpath, methodsCell_eq f, fun _ => targetCell_of_reachedAt,
    targetCell_eq_notDeployed_iff⟩

/-- Before they are ordered, there is one row for each function with a path. -/
theorem forall₂_tabulates (d : Directory) (fs : List FunctionDecl) :
    List.Forall₂ (Tabulates d) (routed fs) (fs.filterMap (row? d)) := by
  induction fs with
  | nil => exact .nil
  | cons f fs ih =>
    cases hpath : f.path with
    | none =>
      have hrow : row? d f = none := by simp [row?, hpath]
      rw [routed_cons_of_none hpath, List.filterMap_cons_none hrow]
      exact ih
    | some path =>
      have hrow : row? d f = some ⟨f.name, methodsCell f, path, targetCell d f⟩ := by
        simp [row?, hpath]
      rw [routed_cons_of_some hpath, List.filterMap_cons_some hrow]
      exact .cons (tabulates_of_row? hrow) ih

/-- Two lists that go with a third one element by element go with each other. -/
theorem forall₂_of_common {α β γ : Type} {R : α → β → Prop} {S : α → γ → Prop} {T : β → γ → Prop}
    (himp : ∀ x y z, R x y → S x z → T y z) {xs : List α} {ys : List β} {zs : List γ}
    (hR : List.Forall₂ R xs ys) (hS : List.Forall₂ S xs zs) : List.Forall₂ T ys zs := by
  induction hR generalizing zs with
  | nil =>
    cases hS
    exact .nil
  | cons hxy _ ih =>
    cases hS with
    | cons hxz hS => exact .cons (himp _ _ _ hxy hxz) (ih hS)

/-- A row and a route agree on the path and on the target. -/
def AgreesWith (row : TableRow) (r : Route) : Prop :=
  row.path = r.path ∧ row.target = r.target

theorem Tabulates.agreesWith {r : Route} (h : Tabulates d f row) (hr : Resolves d f r) :
    AgreesWith row r :=
  ⟨Option.some.inj (h.path.symm.trans hr.path), h.target r.target (Resolves.reachedAt hr)⟩

/-! ## Columns -/

/-- A run of blanks. -/
def blanks (n : Nat) : String :=
  String.ofList (List.replicate n ' ')

/-- A text with two blanks or more behind it has this many characters. -/
def FilledUp (text filled : String) (width : Nat) : Prop :=
  ∃ n, 2 ≤ n ∧ filled = text ++ blanks n ∧ filled.length = width

/-- Where the columns behind the first one begin, in characters. -/
structure Columns where
  methods : Nat
  path : Nat
  target : Nat

/-- The columns of cells with these widths, which two blanks set apart. -/
def Columns.ofWidths (nameWidth methodsWidth pathWidth : Nat) : Columns where
  methods := nameWidth + 2
  path := nameWidth + 2 + (methodsWidth + 2)
  target := nameWidth + 2 + (methodsWidth + 2) + (pathWidth + 2)

/-- A line shows the cells of a row in order, with blanks up to where the columns begin. -/
def Columns.Aligns (k : Columns) (r : TableRow) (line : String) : Prop :=
  ∃ front middle back,
    FilledUp r.name front k.methods ∧
    FilledUp (front ++ r.methods) middle k.path ∧
    FilledUp (middle ++ r.path) back k.target ∧
    line = back ++ r.target ++ "\n"

theorem length_le_utf8Len (cs : List Char) : cs.length ≤ String.utf8Len cs := by
  induction cs with
  | nil => rfl
  | cons c cs ih =>
    have hsize := c.utf8Size_pos
    rw [List.length_cons, String.utf8Len_cons]
    omega

/-- A text has no more characters than bytes. -/
theorem length_le_utf8ByteSize (s : String) : s.length ≤ s.utf8ByteSize := by
  rw [← String.ofList_toList (s := s), String.utf8ByteSize_ofList, String.length_ofList]
  exact length_le_utf8Len s.toList

theorem le_foldl_max {ns : List Nat} {m n : Nat} (h : m ≤ n ∨ m ∈ ns) : m ≤ ns.foldl max n := by
  induction ns generalizing n with
  | nil => exact h.resolve_right List.not_mem_nil
  | cons k ns ih =>
    apply ih
    rcases h with h | h
    · exact .inl (h.trans (Nat.le_max_left n k))
    rcases List.mem_cons.1 h with rfl | h
    · exact .inl (Nat.le_max_right n m)
    · exact .inr h

/-- A column is wide enough for the characters of its cells. -/
theorem length_le_columnWidth {cell : TableRow → String} {rows : List TableRow} {r : TableRow}
    (hr : r ∈ rows) : (cell r).length ≤ columnWidth cell rows := by
  have hmem : (cell r).utf8ByteSize ∈ rows.map fun r => (cell r).utf8ByteSize :=
    List.mem_map_of_mem hr
  exact (length_le_utf8ByteSize (cell r)).trans (le_foldl_max (.inr hmem))

theorem filledUp_padCell {width : Nat} {s : String} (h : s.length ≤ width) :
    FilledUp s (padCell width s ++ "  ") (width + 2) := by
  refine ⟨width - s.length + 2, Nat.le_add_left 2 _, ?_, ?_⟩
  · rw [padCell, String.append_assoc, blanks, List.replicate_add, String.ofList_append]
    rfl
  · simp only [padCell, String.length_append, String.length_ofList, List.length_replicate]
    have htwo : "  ".length = 2 := rfl
    omega

theorem FilledUp.length_eq {text filled : String} {width : Nat} (h : FilledUp text filled width) :
    filled.length = width := by
  rcases h with ⟨_, -, -, hlength⟩
  exact hlength

theorem FilledUp.append_left {text filled : String} {width : Nat} (h : FilledUp text filled width)
    (front : String) : FilledUp (front ++ text) (front ++ filled) (front.length + width) := by
  rcases h with ⟨n, hn, rfl, rfl⟩
  exact ⟨n, hn, (String.append_assoc ..).symm, String.length_append ..⟩

/-- Lines are aligned where all columns are wide enough for their cells. -/
theorem Columns.aligns_rowLine {w w' w'' : Nat} {r : TableRow} (hname : r.name.length ≤ w)
    (hmethods : r.methods.length ≤ w') (hpath : r.path.length ≤ w'') :
    (Columns.ofWidths w w' w'').Aligns r (rowLine w w' w'' r) := by
  -- what stands before a column is what stands before the last one, and a cell that is filled up
  have hfront := filledUp_padCell hname
  have hmiddle := (filledUp_padCell hmethods).append_left (padCell w r.name ++ "  ")
  rw [hfront.length_eq] at hmiddle
  have hback := (filledUp_padCell hpath).append_left
    (padCell w r.name ++ "  " ++ (padCell w' r.methods ++ "  "))
  rw [hmiddle.length_eq] at hback
  refine ⟨_, _, _, hfront, hmiddle, hback, ?_⟩
  simp only [rowLine, String.append_assoc]

/-- Rows are aligned when their columns are as wide as their cells ask for. -/
theorem forall₂_aligns (rows : List TableRow) :
    List.Forall₂
      (Columns.ofWidths (columnWidth (·.name) rows) (columnWidth (·.methods) rows)
        (columnWidth (·.path) rows)).Aligns rows
      (rows.map (rowLine (columnWidth (·.name) rows) (columnWidth (·.methods) rows)
        (columnWidth (·.path) rows))) := by
  rw [List.forall₂_map_right_iff, List.forall₂_same]
  intro r hr
  exact Columns.aligns_rowLine (length_le_columnWidth hr) (length_le_columnWidth hr)
    (length_le_columnWidth hr)

/-! ## The table and the routes -/

variable {c : Config}

theorem forall₂_agreesWith {routes : List Route} {rows : List TableRow}
    (hrows : List.Forall₂ (Tabulates d) (routed fs) rows) (h : resolve d fs = .ok routes) :
    List.Forall₂ AgreesWith rows routes := by
  refine forall₂_of_common ?_ hrows (resolve_eq_ok_iff.1 h)
  intro f row r hrow hr
  exact hrow.agreesWith hr

/-- The paths and targets of the rows are those of the routes that they agree with. -/
theorem map_eq_map_of_agreesWith {rows : List TableRow} {routes : List Route}
    (h : List.Forall₂ AgreesWith rows routes) :
    (rows.map fun row => (row.path, row.target)) = routes.map fun r => (r.path, r.target) := by
  induction h with
  | nil => rfl
  | cons hhead _ ih => rw [List.map_cons, List.map_cons, hhead.1, hhead.2, ih]

/-- A configuration with a function that is not reached does not compile. -/
theorem exists_compile_eq_resolve (hf : f ∈ routed c.functions) (h : Unreached c.directory f) :
    ∃ e, c.compile = .error (.resolve e) := by
  cases hresolve : resolve c.directory c.functions with
  | error e => exact ⟨e, Config.compile_eq_resolve_iff.2 hresolve⟩
  | ok routes =>
    rcases exists_resolves_of_mem (resolve_eq_ok_iff.1 hresolve) hf with ⟨r, hr⟩
    exact absurd hr (h.not_resolves r)

/-- The command for the table prints it, and changes nothing. -/
theorem WorkingDirectory.ends_routes {d : WorkingDirectory} {config content : String}
    (hread : d.read config = .ok content) (hparse : Config.parse content = .ok c) :
    d.Ends config .routes 0 (routesTable c) [] d := by
  apply ends_of_start_done hread
  · intro level
    simp only [Invocation.start, hparse, Invocation.perform]
    exact ⟨_, _, rfl⟩
  · intro level said
    exact Report.leaves_of_success level said (routesTable c)

/-- Functions with long names and short ones, in letters that are not all ASCII. -/
def unevenFunctions : List FunctionDecl :=
  [⟨"größe", some "/maße", some ["GET", "POST"]⟩, ⟨"cron", none, none⟩, ⟨"a", some "/a", none⟩]

/-- A file with these functions, where the last one is not deployed. -/
def unevenText : String :=
  "[[functions]]\nname = \"größe\"\npath = \"/maße\"\nmethods = [\"GET\", \"POST\"]\n" ++
    "[[functions]]\nname = \"cron\"\n[[functions]]\nname = \"a\"\npath = \"/a\"\n" ++
    "[deployed]\n\"größe\" = \"b.example\"\n"

/-- What the file holds. -/
def unevenConfig : Config where
  functions := unevenFunctions
  deployed := NameTable.empty.insert "größe" "b.example"

/-- The same functions, where the last one is deployed. -/
def evenConfig : Config where
  functions := unevenFunctions
  deployed := unevenConfig.deployed.insert "a" "http://127.0.0.1"

end GatewayRouting.Cli
