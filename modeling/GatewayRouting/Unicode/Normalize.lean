import GatewayRouting.Unicode.CombiningClass
import GatewayRouting.Unicode.Decomposition

/-!
# Canonical composition

The composed normal form of a text: every character is decomposed, marks are brought into canonical
order, and letters are composed with the marks behind them where a composed character exists.

* `normalize` is all three.
-/

namespace GatewayRouting.Unicode

/-! ## Hangul -/

/-- The code points of the first Hangul syllable and of the first of its three kinds of parts. The
last kind starts one early, so that its first number stands for a missing part. -/
def hangulBase : Nat := 0xac00

/-- The first leading part. -/
def leadBase : Nat := 0x1100

/-- The first vowel. -/
def vowelBase : Nat := 0x1161

/-- The code point before the first trailing part. -/
def tailBase : Nat := 0x11a7

/-- The number of leading parts, vowels and trailing parts, counting none as a trailing part. -/
def leadCount : Nat := 19

/-- The number of vowels. -/
def vowelCount : Nat := 21

/-- The number of trailing parts, counting none as one. -/
def tailCount : Nat := 28

/-- A code point is a Hangul syllable. -/
def isHangul (n : Nat) : Bool :=
  hangulBase ≤ n && n < hangulBase + leadCount * vowelCount * tailCount

/-- The parts of a Hangul syllable. -/
def hangulParts (n : Nat) : List Char :=
  let s := n - hangulBase
  let tail := s % tailCount
  let parts :=
    [leadBase + s / (vowelCount * tailCount), vowelBase + s % (vowelCount * tailCount) / tailCount]
  (if tail = 0 then parts else parts ++ [tailBase + tail]).map Char.ofNat

/-- The Hangul syllable of a leading part and a vowel, or of a syllable and a trailing part. -/
def composeHangul? (a b : Nat) : Option Char :=
  if leadBase ≤ a ∧ a < leadBase + leadCount ∧ vowelBase ≤ b ∧ b < vowelBase + vowelCount then
    some (Char.ofNat
      (hangulBase + ((a - leadBase) * vowelCount + (b - vowelBase)) * tailCount))
  else if isHangul a ∧ (a - hangulBase) % tailCount = 0 ∧ tailBase < b ∧ b < tailBase + tailCount then
    some (Char.ofNat (a + (b - tailBase)))
  else none

/-! ## Decomposition -/

/-- The full decomposition of a character, in at most `steps` steps. No character needs more than
four. -/
def decomposeIn : (steps : Nat) → Char → List Char
  | 0, c => [c]
  | steps + 1, c =>
    if c.toNat < 0xc0 then [c]
    else if isHangul c.toNat then hangulParts c.toNat
    else
      match decompositions.get? c with
      | none => [c]
      | some cs => cs.flatMap (decomposeIn steps)

/-- The full decomposition of a text. -/
def decompose (cs : List Char) : List Char :=
  cs.flatMap (decomposeIn 4)

/-! ## Canonical order -/

/-- Puts a mark in front of a text, behind the marks of a lower class. -/
def insertMark (c : Char) : List Char → List Char
  | [] => [c]
  | d :: ds =>
    if combiningClass d ≠ 0 ∧ combiningClass d < combiningClass c then d :: insertMark c ds
    else c :: d :: ds

/-- A text with every run of marks sorted by their classes, marks of one class in their order. -/
def canonicalOrder : List Char → List Char
  | [] => []
  | c :: cs =>
    if combiningClass c = 0 then c :: canonicalOrder cs
    else insertMark c (canonicalOrder cs)

/-! ## Composition -/

/-- The decompositions that composition undoes, each with its character. -/
def compositions : List (List Nat × Char) :=
  (decompositions.entries.filterMap fun e =>
    match e.image with
    | [_, _] => some (e.image, Char.ofNat e.first)
    | _ => none).filter fun p => !neverComposed.contains p.2

/-- The character composed of two. -/
def composePair? (a b : Char) : Option Char :=
  match composeHangul? a.toNat b.toNat with
  | some c => some c
  | none => compositions.lookup [a.toNat, b.toNat]

/-- Where composition stands: the last character that marks may compose with, if there is one, the
marks kept behind it, last first, and the class of the last one kept. -/
structure Composition where
  starter : Option Char
  kept : List Char
  lastClass : Nat

/-- The characters of the current starter and of the marks behind it. -/
def Composition.finish (s : Composition) : List Char :=
  s.starter.toList ++ s.kept.reverse

/-- Composes a text from left to right. A mark is blocked from the starter by a kept mark of its own
class or of a higher one, and any other character by any kept mark. -/
def composeFrom (s : Composition) : List Char → List Char
  | [] => s.finish
  | c :: cs =>
    let k := combiningClass c
    let composed :=
      match s.starter with
      | some a => if s.kept.isEmpty || s.lastClass < k then composePair? a c else none
      | none => none
    match composed with
    | some p => composeFrom { s with starter := some p } cs
    | none =>
      if k = 0 then s.finish ++ composeFrom ⟨some c, [], 0⟩ cs
      else composeFrom { s with kept := c :: s.kept, lastClass := k } cs

/-- The composed normal form of a text. ASCII text is in normal form. -/
def normalize (cs : List Char) : List Char :=
  if cs.all (·.toNat < 0x80) then cs
  else composeFrom ⟨none, [], 0⟩ (canonicalOrder (decompose cs))

end GatewayRouting.Unicode
