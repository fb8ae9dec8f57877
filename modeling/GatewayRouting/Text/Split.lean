/-!
# Pieces between separators

What `List.splitOn` makes of a list: the pieces hold all elements but the separators
(`flatten_splitOn`), no piece holds a separator (`not_mem_of_mem_splitOn`), and with the separators in
front of them the pieces give the list back (`flatMap_cons_splitOn`).
-/

namespace GatewayRouting.Text

variable {α : Type} [DecidableEq α]

/-- One more element starts a new piece or goes to the front of the first one. -/
theorem exists_splitOn_cons (sep c : α) (cs : List α) :
    ∃ piece rest, cs.splitOn sep = piece :: rest ∧
      (c :: cs).splitOn sep = if c = sep then [] :: piece :: rest else (c :: piece) :: rest := by
  obtain ⟨piece, rest, hpieces⟩ := List.exists_cons_of_ne_nil (List.splitOn_ne_nil sep cs)
  refine ⟨piece, rest, hpieces, ?_⟩
  simp [List.splitOn_cons_eq_if_modifyHead, hpieces]

/-- No piece holds the separator. -/
theorem not_mem_of_mem_splitOn {sep : α} {cs piece : List α} (h : piece ∈ cs.splitOn sep) :
    sep ∉ piece := by
  induction cs generalizing piece with
  | nil =>
    have hnil : piece = [] := by simpa using h
    rw [hnil]
    exact List.not_mem_nil
  | cons c cs ih =>
    obtain ⟨first, rest, htail, hpieces⟩ := exists_splitOn_cons sep c cs
    rw [htail] at ih
    rw [hpieces] at h
    by_cases hc : c = sep
    · rw [if_pos hc] at h
      rcases List.mem_cons.1 h with rfl | h
      · exact List.not_mem_nil
      · exact ih h
    · rw [if_neg hc] at h
      rcases List.mem_cons.1 h with rfl | h
      · rw [List.mem_cons, not_or]
        exact ⟨Ne.symm hc, ih List.mem_cons_self⟩
      · exact ih (List.mem_cons_of_mem _ h)

/-- Splitting loses nothing but the separators. -/
theorem flatten_splitOn (sep : α) (cs : List α) :
    (cs.splitOn sep).flatten = cs.filter (· ≠ sep) := by
  induction cs with
  | nil => rfl
  | cons c cs ih =>
    obtain ⟨piece, rest, htail, hpieces⟩ := exists_splitOn_cons sep c cs
    rw [htail] at ih
    rw [hpieces]
    by_cases hc : c = sep
    · simpa [hc] using ih
    · simpa [hc] using ih

/-- Every piece after a separator gives the list back, after one more separator. -/
theorem flatMap_cons_splitOn (sep : α) (cs : List α) :
    (cs.splitOn sep).flatMap (sep :: ·) = sep :: cs := by
  induction cs with
  | nil => rfl
  | cons c cs ih =>
    obtain ⟨piece, rest, htail, hpieces⟩ := exists_splitOn_cons sep c cs
    rw [htail, List.flatMap_cons, List.cons_append, List.cons.injEq] at ih
    rw [hpieces]
    by_cases hc : c = sep
    · simp [hc, ih.2]
    · simp [hc, ih.2]

end GatewayRouting.Text
