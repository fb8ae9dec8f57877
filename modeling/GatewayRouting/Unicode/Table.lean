import GatewayRouting.Text.Digits

/-!
# Tables of code points

The data of the character classes and mappings that host names and case folding need is written as
text, which keeps the large tables small, and read by the total functions of this file.

* A class is a list of inclusive ranges, written `lo-hi` or `lo` in hexadecimal.
* A mapping is a list of entries. `lo-hi>t` sends the code points from `lo` to `hi` to those from
  `t` on, `lo/hi>t` does so for every second code point, and `c>t,u` sends `c` to the sequence `t u`.

Ranges and entries are parted by blanks and line ends.
-/

namespace GatewayRouting.Unicode

/-! ## Reading -/

/-- The number that hexadecimal digits write; the tables hold nothing else in its place. -/
def hexNumber (cs : List Char) : Nat :=
  (Text.numberIn? 16 cs).getD 0

/-- The words of a text between blanks and line ends. -/
def tableWords (text : String) : List (List Char) :=
  ((text.toList.splitOn '\n').flatMap (·.splitOn ' ')).filter (!·.isEmpty)

/-! ## Classes -/

/-- The code points from `first` to `last`. -/
structure CodeRange where
  first : Nat
  last : Nat
deriving DecidableEq, Repr

/-- A range holds the code points between its ends, the ends included. -/
def CodeRange.holds (r : CodeRange) (n : Nat) : Bool :=
  r.first ≤ n && n ≤ r.last

/-- The range that `lo-hi` or `lo` writes. -/
def CodeRange.read (cs : List Char) : CodeRange :=
  match cs.splitOn '-' with
  | [lo, hi] => ⟨hexNumber lo, hexNumber hi⟩
  | _ => ⟨hexNumber cs, hexNumber cs⟩

/-- A set of characters, given by ranges of code points. -/
structure CharClass where
  ranges : List CodeRange

/-- The class that a text of ranges writes. -/
def CharClass.read (text : String) : CharClass :=
  ⟨(tableWords text).map CodeRange.read⟩

/-- A character is in a class when one of its ranges holds its code point. -/
def CharClass.contains (k : CharClass) (c : Char) : Bool :=
  k.ranges.any (·.holds c.toNat)

/-! ## Mappings -/

/-- What happens to every `step`-th code point from `first` to `last`: the code point at distance
`d` from `first` becomes the first code point of `image` plus `d`, followed by the rest of it. -/
structure MapEntry where
  first : Nat
  last : Nat
  step : Nat
  image : List Nat

/-- The image of a code point under an entry that covers it. -/
def MapEntry.send? (e : MapEntry) (n : Nat) : Option (List Nat) :=
  if e.first ≤ n && n ≤ e.last && (n - e.first) % e.step == 0 then
    match e.image with
    | [] => some []
    | t :: rest => some ((t + (n - e.first)) :: rest)
  else
    none

/-- The entry that `lo-hi>t`, `lo/hi>t` or `c>t,u` writes. -/
def MapEntry.read (cs : List Char) : MapEntry :=
  let image := match cs.splitOn '>' with
    | [_, image] => (image.splitOn ',').map hexNumber
    | _ => []
  let source := cs.takeWhile (· != '>')
  match source.splitOn '-', source.splitOn '/' with
  | [lo, hi], _ => ⟨hexNumber lo, hexNumber hi, 1, image⟩
  | _, [lo, hi] => ⟨hexNumber lo, hexNumber hi, 2, image⟩
  | _, _ => ⟨hexNumber source, hexNumber source, 1, image⟩

/-- A partial map from characters to sequences of characters. -/
structure CharMap where
  entries : List MapEntry

/-- The mapping that a text of entries writes. -/
def CharMap.read (text : String) : CharMap :=
  ⟨(tableWords text).map MapEntry.read⟩

/-- The image of a character, if the mapping has an entry for it. -/
def CharMap.get? (m : CharMap) (c : Char) : Option (List Char) :=
  (m.entries.findSome? (·.send? c.toNat)).map (·.map Char.ofNat)

/-- The three forms of an entry: a range, every second code point, and a sequence as image. -/
example : (['É', 'Ĕ', 'ĕ', 'İ'].map (CharMap.read "c0-d6>e0 100/12e>101\n130>69,307").get?) =
    [some ['é'], some ['ĕ'], none, some ['i', '\u0307']] := by
  decide +kernel

end GatewayRouting.Unicode
