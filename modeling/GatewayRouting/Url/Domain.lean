import GatewayRouting.Unicode.Direction
import GatewayRouting.Unicode.HostMapping
import GatewayRouting.Unicode.Joining
import GatewayRouting.Unicode.Normalize
import GatewayRouting.Url.Punycode

/-!
# International host names

Which texts are host names. The characters of a name are mapped (capital letters become small, some
characters are left out, others refused), the result is normalized and cut into labels, and every
label is checked: the ASCII form of an international label has to decode, no label starts with a
mark, joiners stand only where the script has a use for them, and where letters run from right to
left, no label mixes directions.

* `hostLabels?` gives the labels of a host name.
-/

namespace GatewayRouting.Url

open Unicode

/-! ## Characters -/

/-- An ASCII character that no host name may hold. -/
def isForbiddenInDomain (c : Char) : Bool :=
  c.toNat ≤ 0x20 || c.toNat = 0x7f ||
    c ∈ ['%', '#', '/', ':', '<', '>', '?', '@', '[', '\\', ']', '^', '|']

/-- What a character of a host name is replaced by; nothing if it is refused. -/
def mapChar? (c : Char) : Option (List Char) :=
  if c.toNat < 0x80 then some [c.toLower]
  else if ignoredInHosts.contains c then some []
  else if refusedInHosts.contains c then none
  else some ((hostMapping.get? c).getD [c])

/-- The mapped and normalized characters of a host name. -/
def mapHost? (cs : List Char) : Option (List Char) :=
  (cs.mapM mapChar?).map fun images => normalize images.flatten

/-- A text is all ASCII. -/
def isAscii (cs : List Char) : Bool :=
  cs.all (·.toNat < 0x80)

/-! ## Joiners -/

/-- The first character that joining does not look through satisfies `p`. -/
def joinsTo (p : Char → Bool) (cs : List Char) : Bool :=
  match cs.dropWhile transparent.contains with
  | [] => false
  | c :: _ => p c

/-- A mark that kills a vowel stands right in front. `before` is read from right to left. -/
def followsVirama (before : List Char) : Bool :=
  match before with
  | [] => false
  | c :: _ => viramas.contains c

/-- Every joiner stands behind a mark that kills a vowel, or, if it is a non-joiner, between two
letters that would join. `before` holds the characters in front, last first. -/
def joinersFit (before : List Char) : List Char → Bool
  | [] => true
  | c :: after =>
    let fits :=
      if c = '\u200d' then followsVirama before
      else if c = '\u200c' then
        followsVirama before ||
          (joinsTo joinsForward.contains before && joinsTo joinsBackward.contains after)
      else true
    fits && joinersFit (c :: before) after

/-! ## Direction -/

/-- The direction of the last character that is no mark. -/
def lastDirection (ds : List Direction) : Option Direction :=
  (ds.reverse.dropWhile (· == .nonspacingMark)).head?

/-- The directions of the characters of a label go together: the first one is that of a letter, and
the others suit it. -/
def directionsFit (ds : List Direction) : Bool :=
  match ds with
  | [] => true
  | .leftToRight :: _ =>
    ds.all (· ∈ [.leftToRight, .europeanNumber, .neutral, .nonspacingMark]) &&
      lastDirection ds ∈ [some .leftToRight, some .europeanNumber]
  | .rightToLeft :: _ =>
    ds.all (· ∈ [.rightToLeft, .arabicNumber, .europeanNumber, .neutral, .nonspacingMark]) &&
      lastDirection ds ∈ [some .rightToLeft, some .arabicNumber, some .europeanNumber] &&
      !(ds.contains .europeanNumber && ds.contains .arabicNumber)
  | _ => false

/-- Characters that make a name one that runs from right to left. -/
def runsRightToLeft (d : Direction) : Bool :=
  d == .rightToLeft || d == .arabicNumber

/-- The labels of a name suit each other: if any of them runs from right to left, each of them keeps
to one direction. -/
def directionsAgree (labels : List (List Char)) : Bool :=
  if labels.all isAscii then true
  else
    let directions := labels.map (·.map direction)
    !directions.any (·.any runsRightToLeft) || directions.all directionsFit

/-! ## Labels -/

/-- The mark of the ASCII form of an international label. -/
def asciiMark : List Char := ['x', 'n', '-', '-']

/-- The mapping leaves every character of a text alone, and the text is normalized. -/
def isMapped (cs : List Char) : Bool :=
  cs.all (fun c => mapChar? c == some [c]) && normalize cs == cs

/-- The international form of a label; the ASCII form has to stand for a label that could not have
been written in ASCII. -/
def decodeLabel? (label : List Char) : Option (List Char) :=
  if asciiMark.isPrefixOf label then do
    let decoded ← Punycode.decode? (label.drop asciiMark.length)
    if label.length ≤ 2000 && isAscii label && !isAscii decoded && isMapped decoded &&
        !decoded.any isForbiddenInDomain then
      some decoded
    else none
  else some label

/-- A label in its international form is sound: it does not start with a mark, its joiners fit, and
it is not excessively long. -/
def isSoundLabel (label : List Char) : Bool :=
  isAscii label ||
    (label.length ≤ 1000 && !label.head?.any marks.contains && joinersFit [] label)

/-- The labels of a host name, mapped and normalized; nothing if the text is no host name. -/
def hostLabels? (cs : List Char) : Option (List (List Char)) := do
  let mapped ← mapHost? cs
  let labels := mapped.splitOn '.'
  let decoded ← labels.mapM decodeLabel?
  if !mapped.any isForbiddenInDomain && decoded.all isSoundLabel && directionsAgree decoded then
    some labels
  else none

end GatewayRouting.Url
