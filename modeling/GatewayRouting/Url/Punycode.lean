/-!
# Punycode

Reading the ASCII form of an international label. The text before the last hyphen is taken as it is,
and the text behind it writes, as numbers of variable length in base 36, where further characters
are to be inserted.

* `decode?` reads the text behind the mark `xn--`.
-/

namespace GatewayRouting.Url.Punycode

/-- The value of a digit of base 36. -/
def digit? (c : Char) : Option Nat :=
  if 'a' ≤ c ∧ c ≤ 'z' then some (c.toNat - 'a'.toNat)
  else if '0' ≤ c ∧ c ≤ '9' then some (c.toNat - '0'.toNat + 26)
  else none

/-- The smallest digit that another digit follows, at a position counted in steps of 36. -/
def threshold (position bias : Nat) : Nat :=
  if position ≤ bias then 1 else if bias + 26 ≤ position then 26 else position - bias

/-- Divides by 35 until at most 455 is left, in at most `rounds` rounds, and counts 36 for each. -/
def shrink : (rounds delta count : Nat) → Nat × Nat
  | 0, delta, count => (delta, count)
  | rounds + 1, delta, count =>
    if delta ≤ 455 then (delta, count) else shrink rounds (delta / 35) (count + 36)

/-- The bias for the next number, after an insertion that gave a text of `length` characters. -/
def adapt (delta length : Nat) (first : Bool) : Nat :=
  let delta := if first then delta / 700 else delta / 2
  let (delta, count) := shrink 32 (delta + delta / length) 0
  count + 36 * delta / (delta + 38)

/-- Numbers are below this bound. -/
def numberBound : Nat := 0x100000000

/-- Reads a number of variable length: its value and the characters behind it. -/
def number? (bias : Nat) (weight position value : Nat) : List Char → Option (Nat × List Char)
  | [] => none
  | c :: cs => do
    let d ← digit? c
    let value := value + d * weight
    if value ≥ numberBound then none
    else
      let t := threshold position bias
      if d < t then some (value, cs)
      else if weight * (36 - t) ≥ numberBound then none
      else number? bias (weight * (36 - t)) (position + 36) value cs

/-- Inserts the characters that numbers write into `text`, one for each round. `index` is where the
search for the next place starts, and `codePoint` the character last inserted. -/
def insertAll : (rounds : Nat) → (text : List Char) → (codePoint index bias : Nat) → List Char →
    Option (List Char)
  | _, text, _, _, _, [] => some text
  | 0, _, _, _, _, _ :: _ => none
  | rounds + 1, text, codePoint, index, bias, cs => do
    let (value, rest) ← number? bias 1 36 index cs
    let length := text.length + 1
    let codePoint := codePoint + value / length
    let place := value % length
    if codePoint.isValidChar then
      insertAll rounds (text.take place ++ Char.ofNat codePoint :: text.drop place) codePoint
        (place + 1) (adapt (value - index) length (index == 0)) rest
    else none

/-- The text before the last hyphen and the text behind it. Without a hyphen, or with one only in
front, the whole text is behind it. -/
def splitAtLastHyphen (cs : List Char) : List Char × List Char :=
  let behind := (cs.reverse.takeWhile (· != '-')).reverse
  let before := cs.take (cs.length - behind.length - 1)
  if before.isEmpty then ([], cs) else (before, behind)

/-- The label that a text in this form writes. -/
def decode? (cs : List Char) : Option (List Char) :=
  let (before, behind) := splitAtLastHyphen cs
  insertAll behind.length before 128 0 72 behind

end GatewayRouting.Url.Punycode
