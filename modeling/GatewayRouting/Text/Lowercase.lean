import GatewayRouting.Unicode.LetterCase

/-!
# Lower case

Lower-casing of whole texts over all of Unicode. Each character is replaced by its lower-case form;
only capital sigma looks at its neighbours, for it has a form of its own at the end of a word.
-/

namespace GatewayRouting.Text

open Unicode

/-- The lower-case form of one character away from any context. -/
def lowerChar (c : Char) : List Char :=
  if c.toNat < 0x80 then [c.toLower] else (lowercaseMap.get? c).getD [c]

/-- The nearest character that is not case-ignorable is a cased one. -/
def meetsLetter (cs : List Char) : Bool :=
  match cs.dropWhile caseIgnorable.contains with
  | [] => false
  | c :: _ => cased.contains c

/-- The lower-case form of `cs`, where `before` holds the characters in front of it, last first.
A sigma ends a word when a letter stands before it and none after it. -/
def lowerAfter (before : List Char) : List Char → List Char
  | [] => []
  | c :: after =>
    let image :=
      if c = 'Σ' then
        if meetsLetter before && !meetsLetter after then ['ς'] else ['σ']
      else lowerChar c
    image ++ lowerAfter (c :: before) after

/-- The lower-case form of a text. -/
def lowercase (s : String) : String :=
  String.ofList (lowerAfter [] s.toList)

/-- Among ASCII characters each is lower-cased by itself, whatever stands around it. -/
theorem lowerAfter_of_ascii {before cs : List Char} (h : ∀ c ∈ cs, c.toNat < 0x80) :
    lowerAfter before cs = cs.map Char.toLower := by
  induction cs generalizing before with
  | nil => rfl
  | cons c after ih =>
    have hc : c.toNat < 0x80 := h c List.mem_cons_self
    have hsigma : c ≠ 'Σ' := by
      rintro rfl
      exact absurd hc (by decide)
    have hafter : ∀ c ∈ after, c.toNat < 0x80 := fun c hmem => h c (List.mem_cons_of_mem _ hmem)
    simp only [lowerAfter, if_neg hsigma, lowerChar, if_pos hc, ih hafter, List.map_cons,
      List.singleton_append]

theorem toList_lowercase_of_ascii {s : String} (h : ∀ c ∈ s.toList, c.toNat < 0x80) :
    (lowercase s).toList = s.toList.map Char.toLower := by
  rw [lowercase, String.toList_ofList, lowerAfter_of_ascii h]

example : lowercase "WaRN [1]" = "warn [1]" := by decide +kernel

/-- A sigma without a letter in front of it ends no word. -/
example : lowercase "Σ" = "σ" := by decide +kernel

end GatewayRouting.Text
