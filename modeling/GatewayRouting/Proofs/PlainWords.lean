import GatewayRouting.Proofs.RouteValidity

/-!
# Plain words

Texts that can stand as a word of a directive without quotes: the names of methods, numbers, whatever
consists of letters, digits and underscores, and what is put together from such texts.
-/

namespace GatewayRouting

/-- A text that can stand as a word of its own. -/
def IsWord (s : String) : Prop :=
  s ≠ "" ∧ IsPlain s

instance (s : String) : Decidable (IsWord s) :=
  inferInstanceAs (Decidable (_ ∧ _))

theorem IsWord.append {s s' : String} (h : IsWord s) (h' : IsPlain s') : IsWord (s ++ s') := by
  refine ⟨fun heq => h.1 ?_, h.2.append h'⟩
  exact (String.append_eq_empty_iff.1 heq).1

/-- An ASCII letter or digit. -/
theorem toNat_of_isAlphanum {c : Char} (h : c.isAlphanum = true) :
    48 ≤ c.toNat ∧ c.toNat ≤ 57 ∨ 65 ≤ c.toNat ∧ c.toNat ≤ 90 ∨ 97 ≤ c.toNat ∧ c.toNat ≤ 122 := by
  have hupper : c.isUpper = true → 65 ≤ c.toNat ∧ c.toNat ≤ 90 := by
    intro h
    have hrange : 'A'.val ≤ c.val ∧ c.val ≤ 'Z'.val := of_decide_eq_true h
    exact hrange
  have hlower : c.isLower = true → 97 ≤ c.toNat ∧ c.toNat ≤ 122 := by
    intro h
    obtain ⟨hlow, hhigh⟩ := Bool.and_eq_true_iff.1 h
    exact ⟨of_decide_eq_true hlow, of_decide_eq_true hhigh⟩
  have hdigit : c.isDigit = true → 48 ≤ c.toNat ∧ c.toNat ≤ 57 := by
    intro h
    obtain ⟨hlow, hhigh⟩ := Bool.and_eq_true_iff.1 h
    exact ⟨of_decide_eq_true hlow, of_decide_eq_true hhigh⟩
  rcases Bool.or_eq_true_iff.1 h with halpha | h
  · rcases Bool.or_eq_true_iff.1 halpha with h | h
    · exact .inr (.inl (hupper h))
    · exact .inr (.inr (hlower h))
  · exact .inl (hdigit h)

/-- A text of letters, digits and underscores is plain. -/
theorem isPlain_of_isAlphanum {s : String} (h : ∀ c ∈ s.toList, c.isAlphanum = true ∨ c = '_') :
    IsPlain s := by
  intro c hc
  rcases h c hc with hc | rfl
  · constructor
    · have hrange := toNat_of_isAlphanum hc
      rw [Bool.eq_false_iff]
      simp only [Text.isBlank, Text.blankRanges, List.any_cons, List.any_nil, ne_eq,
        Bool.or_eq_true, Bool.and_eq_true, decide_eq_true_eq, Bool.or_false]
      omega
    · intro hmem
      simp only [List.mem_cons, List.not_mem_nil, or_false] at hmem
      rcases hmem with rfl | rfl | rfl | rfl | rfl | rfl | rfl <;> exact absurd hc (by decide)
  · decide

theorem isWord_toString (n : Nat) : IsWord (toString n) := by
  have htext : (toString n).toList = Nat.toDigits 10 n := by
    rw [Nat.toString_eq_repr, Nat.toList_repr]
  constructor
  · intro heq
    rw [heq] at htext
    exact Nat.toDigits_ne_nil htext.symm
  · refine isPlain_of_isAlphanum fun c hc => .inl ?_
    rw [htext] at hc
    have hdigit := Nat.isDigit_of_mem_toDigits (by decide) (by decide) hc
    exact Bool.or_eq_true_iff.2 (.inr hdigit)

theorem isWord_name (m : Method) : IsWord m.name := by
  cases m <;> decide

theorem mem_intercalate {α : Type} {sep : List α} {x : α} {ls : List (List α)}
    (h : x ∈ sep.intercalate ls) : x ∈ sep ∨ ∃ l ∈ ls, x ∈ l := by
  induction ls with
  | nil => simp [List.intercalate] at h
  | cons l rest ih =>
    cases rest with
    | nil => exact .inr ⟨l, List.mem_cons_self, by simpa [List.intercalate] using h⟩
    | cons l' rest =>
      have hcons : sep.intercalate (l :: l' :: rest) =
          l ++ (sep ++ sep.intercalate (l' :: rest)) := by
        simp [List.intercalate]
      rw [hcons, List.mem_append, List.mem_append] at h
      rcases h with h | h | h
      · exact .inr ⟨l, List.mem_cons_self, h⟩
      · exact .inl h
      · rcases ih h with h | ⟨l₀, hl₀, hx⟩
        · exact .inl h
        · exact .inr ⟨l₀, List.mem_cons_of_mem _ hl₀, hx⟩

theorem isPlain_intercalate {sep : String} {texts : List String} (hsep : IsPlain sep)
    (h : ∀ s ∈ texts, IsPlain s) : IsPlain (sep.intercalate texts) := by
  intro c hc
  rw [String.toList_intercalate] at hc
  rcases mem_intercalate hc with hc | ⟨cs, hcs, hc⟩
  · exact hsep c hc
  · obtain ⟨s, hs, rfl⟩ := List.mem_map.1 hcs
    exact h s hs c hc

/-- The words of the pattern that a guard compares the method with. -/
theorem isWord_pattern (methods : List Method) :
    IsWord ("^(" ++ "|".intercalate (methods.map Method.name) ++ ")$)") := by
  have hnames : IsPlain ("|".intercalate (methods.map Method.name)) := by
    refine isPlain_intercalate (by decide) fun s hs => ?_
    obtain ⟨m, -, rfl⟩ := List.mem_map.1 hs
    exact (isWord_name m).2
  have hopen : IsWord "^(" := by decide
  exact (hopen.append hnames).append (by decide)

end GatewayRouting
