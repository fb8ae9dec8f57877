import GatewayRouting.Nginx.Directive
import GatewayRouting.Proofs.DirectiveReader

/-!
# Quoted words

A quoted word may hold anything, for a backslash stands in front of each quote and each backslash in it.
Its reader takes a backslash for the character behind it, whichever that is, and stops at the first quote
that no backslash protects.

* `Quoted.close?_eq_some_iff` : what the reader takes, and where it stops;
* `Quoted.encode_eq_protect` : all backslashes are protected first, and then all quotes;
* `Quoted.read?_append` : a quoted word is read back, whatever follows it;
* `Quoted.append_inj` : so quoted words are a code in which no word begins another one.
-/

namespace GatewayRouting.Nginx

namespace Quoted

/-! ## Reading -/

/-- What stands in front of the first quote that is not protected, with the backslashes taken off, and
the text behind that quote. -/
def close? : List Char → Option (List Char × List Char)
  | [] => none
  | '\\' :: c :: cs => (close? cs).map fun (text, rest) => (c :: text, rest)
  | c :: cs =>
    if c = '"' then some ([], cs) else (close? cs).map fun (text, rest) => (c :: text, rest)

/-- The quoted word at the beginning of a text, and the text behind it. -/
def read? : List Char → Option (String × List Char)
  | '"' :: cs => (close? cs).map fun (text, rest) => (String.ofList text, rest)
  | _ => none

/-! ## Spellings -/

/-- Between quotes, some characters spell a text: each stands for itself, or for the one behind it if it
is a backslash. -/
inductive Spells : List Char → List Char → Prop
  | nil : Spells [] []
  | plain {c : Char} {cs text : List Char} (hquote : c ≠ '"') (hbackslash : c ≠ '\\')
      (h : Spells cs text) : Spells (c :: cs) (c :: text)
  | escaped (c : Char) {cs text : List Char} (h : Spells cs text) :
      Spells ('\\' :: c :: cs) (c :: text)

theorem Spells.close?_append {cs text : List Char} (h : Spells cs text) (rest : List Char) :
    close? (cs ++ '"' :: rest) = some (text, rest) := by
  induction h with
  | nil => rfl
  | plain hquote hbackslash _ ih => simp [close?, hquote, hbackslash, ih]
  | escaped c _ ih => simp [close?, ih]

theorem exists_spells_of_close? {cs text rest : List Char} (h : close? cs = some (text, rest)) :
    ∃ body, Spells body text ∧ cs = body ++ '"' :: rest := by
  fun_induction close? cs generalizing text with
  | case1 => cases h
  | case2 c cs ih =>
    obtain ⟨⟨text', rest'⟩, hclose, heq⟩ := Option.map_eq_some_iff.1 h
    cases heq
    obtain ⟨body, hbody, rfl⟩ := ih hclose
    exact ⟨'\\' :: c :: body, .escaped c hbody, rfl⟩
  | case3 cs =>
    cases h
    exact ⟨[], .nil, rfl⟩
  | case4 c cs hno hquote ih =>
    obtain ⟨⟨text', rest'⟩, hclose, heq⟩ := Option.map_eq_some_iff.1 h
    cases heq
    obtain ⟨body, hbody, rfl⟩ := ih hclose
    -- a backslash would have something behind it, if only the quote that closes the word
    have hbackslash : c ≠ '\\' := by
      rintro rfl
      cases body with
      | nil => exact hno '"' rest rfl rfl
      | cons d body => exact hno d (body ++ '"' :: rest) rfl rfl
    exact ⟨c :: body, .plain hquote hbackslash hbody, rfl⟩

/-- A reader takes a spelling up to a quote, and nothing else. -/
theorem close?_eq_some_iff {cs text rest : List Char} :
    close? cs = some (text, rest) ↔ ∃ body, Spells body text ∧ cs = body ++ '"' :: rest := by
  constructor
  · exact exists_spells_of_close?
  · rintro ⟨body, hbody, rfl⟩
    exact hbody.close?_append rest

/-- A spelling is read up to its end in a file too. -/
theorem Spells.scan {cs text : List Char} (h : Spells cs text) (read : List Char) :
    scan (.quoted read) cs = ([], .quoted (read ++ text)) := by
  induction h generalizing read with
  | nil => simp [Nginx.scan]
  | plain hquote hbackslash _ ih => simp [Nginx.scan, Place.step, hquote, hbackslash, ih]
  | escaped c _ ih => simp [Nginx.scan, Place.step, ih]

/-- A quoted word that stands between two tokens of a file is read as on its own. -/
theorem scan_of_read? {cs : List Char} {text : String} {rest : List Char}
    (h : read? cs = some (text, rest)) :
    scan .between cs = (.word text :: (scan .between rest).1, (scan .between rest).2) := by
  unfold read? at h
  split at h
  · next cs' =>
    obtain ⟨⟨text', rest'⟩, hclose, heq⟩ := Option.map_eq_some_iff.1 h
    cases heq
    obtain ⟨body, hbody, rfl⟩ := close?_eq_some_iff.1 hclose
    have hopen : Place.step .between '"' = ([], .quoted []) := rfl
    rw [scan_cons, hopen, scan_append, hbody.scan, scan_cons]
    rfl
  · cases h

/-! ## Protection -/

/-- What is written between quotes spells the text. -/
theorem spells_encode (cs : List Char) : Spells (encode cs) cs := by
  induction cs with
  | nil => exact .nil
  | cons c cs ih =>
    by_cases hc : c = '"' ∨ c = '\\'
    · rw [encode, if_pos hc]
      exact .escaped c ih
    · rw [encode, if_neg hc]
      obtain ⟨hquote, hbackslash⟩ := not_or.1 hc
      exact .plain hquote hbackslash ih

/-- A text with a backslash in front of every `c`. -/
def protect (c : Char) (cs : List Char) : List Char :=
  cs.flatMap fun d => if d = c then ['\\', d] else [d]

/-- Protecting the quotes leaves the backslashes alone that protect something already. -/
theorem encode_eq_protect (cs : List Char) : encode cs = protect '"' (protect '\\' cs) := by
  induction cs with
  | nil => rfl
  | cons c cs ih =>
    have hcons : protect '"' (protect '\\' (c :: cs)) =
        protect '"' (if c = '\\' then ['\\', c] else [c]) ++ encode cs := by
      rw [ih]
      simp [protect, List.flatMap_append]
    rw [hcons, encode]
    by_cases hbackslash : c = '\\'
    · simp [hbackslash, protect]
    · by_cases hquote : c = '"'
      · simp [hquote, protect]
      · simp [hbackslash, hquote, protect]

-- quotes first would not do: the backslash of a quote would be protected itself, and the quote not
example : close? (protect '\\' (protect '"' ['a', '"', 'b']) ++ ['"']) =
    some (['a', '\\'], ['b', '"']) := rfl

/-! ## Words -/

/-- A quoted word is read back, and nothing behind it is touched. -/
theorem read?_append (text : String) (rest : List Char) :
    read? ((Word.quoted text).chars ++ rest) = some (text, rest) := by
  have hclose : close? (encode text.toList ++ '"' :: rest) = some (text.toList, rest) :=
    close?_eq_some_iff.2 ⟨encode text.toList, spells_encode text.toList, rfl⟩
  simp [Word.chars, read?, hclose]

/-- Where a quoted word ends does not depend on what follows. -/
theorem append_inj {text text' : String} {rest rest' : List Char}
    (h : (Word.quoted text).chars ++ rest = (Word.quoted text').chars ++ rest') :
    text = text' ∧ rest = rest' := by
  have hread := congrArg read? h
  rw [read?_append, read?_append] at hread
  exact Prod.mk.inj (Option.some.inj hread)

theorem chars_injective : Function.Injective fun text => (Word.quoted text).chars := by
  intro text text' h
  have happend := congrArg (· ++ ([] : List Char)) h
  exact (append_inj happend).1

end Quoted

end GatewayRouting.Nginx
