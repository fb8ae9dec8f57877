import GatewayRouting.Proofs.RouteValidity
import Mathlib.Data.List.Infix
import Mathlib.Data.List.Flatten

/-!
# The text of a path

What the segments of a path tell about its characters, for paths that hold no blank, as those of valid
routes.

* `Path.flatten_segments` : all characters but the slashes are those of the segments, in order;
* `Path.toList_eq_or` : without doubled slashes a path is its segments, each after a slash, with or
  without a slash at the end;
* `Path.prefix_iff` : where segments are nested, the texts are as well exactly as long as the shorter
  path doubles no slash.
-/

namespace GatewayRouting

/-! ## Pieces between separators -/

/-- Where no separator is doubled, only the last piece can be empty. -/
theorem Text.flatMap_cons_eq_or {α : Type} [DecidableEq α] {sep : α} {ps : List (List α)}
    (h : ¬ [sep, sep] <:+: ps.flatMap (sep :: ·)) :
    ps.flatMap (sep :: ·) = (ps.filter (· ≠ [])).flatMap (sep :: ·) ∨
      ps.flatMap (sep :: ·) = (ps.filter (· ≠ [])).flatMap (sep :: ·) ++ [sep] := by
  induction ps with
  | nil => exact .inl rfl
  | cons piece rest ih =>
    rw [List.flatMap_cons] at h ⊢
    have hrest : ¬ [sep, sep] <:+: rest.flatMap (sep :: ·) := by
      intro hstands
      exact h (hstands.trans (List.suffix_append _ _).isInfix)
    by_cases hpiece : piece = []
    · subst hpiece
      cases rest with
      | nil => exact .inr rfl
      | cons piece' rest =>
        -- the next piece starts with a separator as well
        refine absurd ⟨[], piece' ++ rest.flatMap (sep :: ·), ?_⟩ h
        simp
    · have hfilter : (piece :: rest).filter (· ≠ []) = piece :: rest.filter (· ≠ []) := by
        simp [hpiece]
      rw [hfilter, List.flatMap_cons, List.append_assoc]
      rcases ih hrest with heq | heq
      · exact .inl (by rw [heq])
      · exact .inr (by rw [heq])

/-! ## Segments of plain paths -/

namespace Path

/-- In a path without blanks the segments are the pieces that are not empty. -/
theorem map_toList_segments {path : String} (h : IsPlain path) :
    (segments path).map String.toList = (path.toList.splitOn '/').filter (· ≠ []) := by
  rw [segments, List.filter_map, List.map_map]
  have hid : String.toList ∘ String.ofList = id := funext fun cs => String.toList_ofList
  rw [hid, List.map_id]
  refine List.filter_congr fun piece hpiece => ?_
  have hmem : ∀ c ∈ piece, c ∈ path.toList := by
    intro c hc
    have hflatten : c ∈ (path.toList.splitOn '/').flatten :=
      List.mem_flatten.2 ⟨piece, hpiece, hc⟩
    rw [Text.flatten_splitOn] at hflatten
    exact (List.mem_filter.1 hflatten).1
  cases piece with
  | nil => rfl
  | cons c cs =>
    have hblank : Text.isBlank c = false := (h c (hmem c List.mem_cons_self)).1
    simp [Text.isBlankText, hblank]

/-- The characters of a path without blanks, apart from the slashes, are those of its segments. -/
theorem flatten_segments {path : String} (h : IsPlain path) :
    ((segments path).map String.toList).flatten = path.toList.filter (· ≠ '/') := by
  rw [map_toList_segments h, ← Text.flatten_splitOn '/' path.toList]
  exact List.flatten_filter_ne_nil

/-- A path that goes on after a slash has the segments of what stands in front of it first. -/
theorem segments_prefix_of_slash {path outer : String} {before rest : List Char}
    (houter : outer.toList = before ∨ outer.toList = before ++ ['/'])
    (hpath : path.toList = before ++ '/' :: rest) : segments outer <+: segments path := by
  have hbefore : segments outer =
      ((before.splitOn '/').map String.ofList).filter (!Text.isBlankText ·) := by
    rcases houter with houter | houter
    · rw [segments, houter]
    · -- the piece behind the last slash is empty
      rw [segments, houter, List.splitOn_append_cons_self, List.map_append, List.filter_append]
      simp [Text.isBlankText]
  rw [hbefore, segments, hpath, List.splitOn_append_cons_self, List.map_append, List.filter_append]
  exact List.prefix_append _ _

/-! ## Characters of variables -/

theorem forall_mem_dropUnderscore_iff {p : Char → Prop} (hp : p '_') {cs : List Char} :
    (∀ c ∈ dropUnderscore cs, p c) ↔ ∀ c ∈ cs, p c := by
  unfold dropUnderscore
  split
  · simp [hp]
  · rfl

/-- Whether a variable is well named does not depend on how its path spells the segments. -/
theorem forall_mem_mapVariable_iff {path : String} (h : IsPlain path) :
    (∀ c ∈ (mapVariable path).toList, c.isAlphanum = true ∨ c = '_') ↔
      ∀ s ∈ segments path, ∀ c ∈ s.toList, c.isAlphanum = true ∨ c = '_' := by
  have hsegments : ∀ c, c ∈ path.toList ∧ c ≠ '/' ↔ ∃ s ∈ segments path, c ∈ s.toList := by
    intro c
    have hmem : c ∈ path.toList.filter (· ≠ '/') ↔
        c ∈ ((segments path).map String.toList).flatten := by
      rw [flatten_segments h]
    simpa using hmem
  have htarget : ∀ c ∈ "_target".toList, c.isAlphanum = true ∨ c = '_' := by
    intro c hc
    have hall : "_target".toList.all (fun c => c.isAlphanum || c = '_') = true := rfl
    simpa using List.all_eq_true.1 hall c hc
  have hslash : ∀ c, (variableChar c).isAlphanum = true ∨ variableChar c = '_' ↔
      (c ≠ '/' → c.isAlphanum = true ∨ c = '_') := by
    intro c
    by_cases hc : c = '/' <;> simp [variableChar, hc]
  rw [mapVariable, String.toList_append, String.toList_ofList, List.forall_mem_append,
    and_iff_left htarget, forall_mem_dropUnderscore_iff (.inr rfl), List.forall_mem_map]
  simp only [hslash]
  constructor
  · intro hall s hs c hc
    obtain ⟨hpath, hne⟩ := (hsegments c).2 ⟨s, hs, hc⟩
    exact hall c hpath hne
  · intro hall c hc hne
    obtain ⟨s, hs, hcs⟩ := (hsegments c).1 ⟨hc, hne⟩
    exact hall s hs c hcs

/-! ## Paths without doubled slashes -/

/-- Some segments, each after a slash. -/
def spell (s : List String) : List Char :=
  s.flatMap fun k => '/' :: k.toList

theorem spell_append (s s' : List String) : spell (s ++ s') = spell s ++ spell s' :=
  List.flatMap_append

theorem toList_eq_or {path : String} (hslash : path.toList.head? = some '/') (h : IsPlain path)
    (hdouble : ¬ ['/', '/'] <:+: path.toList) :
    path.toList = spell (segments path) ∨ path.toList = spell (segments path) ++ ['/'] := by
  obtain ⟨cs, hcs⟩ : ∃ cs, path.toList = '/' :: cs := List.head?_eq_some_iff.1 hslash
  have hspell : spell (segments path) =
      ((cs.splitOn '/').filter (· ≠ [])).flatMap ('/' :: ·) := by
    have hsegments := map_toList_segments h
    rw [hcs, List.splitOn_cons_eq_if_modifyHead, if_pos BEq.rfl] at hsegments
    rw [spell, ← List.flatMap_map String.toList ('/' :: ·), hsegments]
    rfl
  have htext : path.toList = (cs.splitOn '/').flatMap ('/' :: ·) := by
    rw [hcs, Text.flatMap_cons_splitOn]
  rw [htext] at hdouble ⊢
  rw [hspell]
  exact Text.flatMap_cons_eq_or hdouble

/-- A longer path goes on with a slash after the segments of a path that it nests in. -/
theorem spell_slash_prefix {path : String} {s : List String} (hslash : path.toList.head? = some '/')
    (h : IsPlain path) (hdouble : ¬ ['/', '/'] <:+: path.toList) (hbegins : s <+: segments path)
    (hne : s ≠ segments path) : spell s ++ ['/'] <+: path.toList := by
  obtain ⟨rest, hrest⟩ := hbegins
  cases rest with
  | nil => exact absurd (by simpa using hrest) hne
  | cons k rest =>
    have hspell : spell (segments path) = spell s ++ ['/'] ++ (k.toList ++ spell rest) := by
      rw [← hrest, spell_append]
      simp [spell]
    have hsegments : spell s ++ ['/'] <+: spell (segments path) := by
      rw [hspell]
      exact List.prefix_append _ _
    rcases toList_eq_or hslash h hdouble with heq | heq
    · rw [heq]
      exact hsegments
    · rw [heq]
      exact hsegments.trans (List.prefix_append _ _)

/-- Nested segments are nested texts, unless the shorter path doubles a slash and the longer one does
not. -/
theorem prefix_iff {path path' : String} (hslash : path.toList.head? = some '/')
    (h : IsPlain path) (hslash' : path'.toList.head? = some '/') (h' : IsPlain path')
    (hdouble' : ¬ ['/', '/'] <:+: path'.toList) (hbegins : segments path <+: segments path')
    (hne : segments path ≠ segments path') :
    path.toList <+: path'.toList ↔ ¬ ['/', '/'] <:+: path.toList := by
  constructor
  · intro htext hdouble
    exact hdouble' (hdouble.trans htext.isInfix)
  · intro hdouble
    have hlong := spell_slash_prefix hslash' h' hdouble' hbegins hne
    rcases toList_eq_or hslash h hdouble with heq | heq
    · rw [heq]
      exact (List.prefix_append _ _).trans hlong
    · rw [heq]
      exact hlong

end Path

end GatewayRouting
