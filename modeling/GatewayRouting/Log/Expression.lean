import GatewayRouting.Text.Blank
import GatewayRouting.Text.Digits
import GatewayRouting.Unicode.Alphanumeric

/-!
# Regular expressions

Which texts are regular expressions. They know alternatives, groups with and without names, the
repetition marks, sets of characters with their operators, switches, and comments where blanks do not
count. There is no data about letters behind them: classes of letters and characters of either case
can be asked for only with Unicode switched off, where nothing may fit half a character.

An expression is read from left to right. Of its parts only the depth is kept, for expressions must
not be nested too deeply, and whether it looks for the edges of Unicode words, which no automaton can
find.

* `expressionFault?` is the fault of a text, if it is no expression that an automaton can run.
-/

namespace GatewayRouting.Log

/-- Why an expression cannot be used. -/
inductive ExpressionFault where
  | unreadable
  | wordEdge
deriving DecidableEq, Repr

namespace Expression

/-! ## Switches -/

/-- How the text of an expression is meant at some place. -/
structure Switches where
  ignoreCase : Bool := false
  unicode : Bool := true
  /-- Blanks and comments do not count. -/
  spaced : Bool := false

/-- The letters of the switches. -/
def switchLetters : List Char := ['i', 'm', 's', 'U', 'u', 'x', 'R']

/-- Turns a switch on or off. Most of them do not matter for reading. -/
def Switches.set (w : Switches) (value : Bool) (c : Char) : Switches :=
  match c with
  | 'i' => { w with ignoreCase := value }
  | 'u' => { w with unicode := value }
  | 'x' => { w with spaced := value }
  | _ => w

/-- The switches behind a list of letters: those behind a hyphen are turned off. No letter and no
hyphen stands twice, and the hyphen does not stand last. -/
def Switches.change? (w : Switches) (letters : List Char) : Option Switches :=
  if letters.all (· ∈ '-' :: switchLetters) && letters.Nodup && letters.getLast? != some '-' then
    let on := letters.takeWhile (· != '-')
    some ((letters.drop (on.length + 1)).foldl (·.set false) (on.foldl (·.set true) w))
  else none

/-- Leaves out blanks and comments at the start of a text. A comment reaches from a hash sign to the
end of the line; `comment` tells whether one is open. -/
def skipFrom (comment : Bool) : List Char → List Char
  | [] => []
  | c :: cs =>
    if comment then skipFrom (c != '\n') cs
    else if Text.isBlank c then skipFrom false cs
    else if c = '#' then skipFrom true cs
    else c :: cs

/-- A text from its first character that counts. -/
def Switches.skip (w : Switches) (cs : List Char) : List Char :=
  if w.spaced then skipFrom false cs else cs

/-- The character that is seen ahead of a text. Where blanks do not count, a hash sign does not
either, but what stands behind it is seen. -/
def Switches.peek (w : Switches) (cs : List Char) : Option Char :=
  if w.spaced then
    let ahead := match cs.dropWhile Text.isBlank with
      | '#' :: rest => rest.dropWhile Text.isBlank
      | rest => rest
    ahead.head? <|> cs.head?
  else cs.head?

/-! ## Escapes -/

/-- What a backslash and the characters behind it stand for. -/
inductive Escape where
  /-- One character; `byte` tells whether it was written by two hexadecimal digits. -/
  | literal (c : Char) (byte : Bool)
  /-- A class of characters, or all but those of a class. -/
  | classOf (negated : Bool)
  /-- An end of the text. -/
  | textEdge
  /-- An edge of a word, or any other place. -/
  | wordEdge

/-- What a letter stands for behind a backslash. -/
def controlEscape? (c : Char) : Option Char :=
  match c with
  | 'a' => some '\x07'
  | 'f' => some '\x0c'
  | 't' => some '\t'
  | 'n' => some '\n'
  | 'r' => some '\r'
  | 'v' => some '\x0b'
  | _ => none

/-- The number of hexadecimal digits behind the letter of a code point. -/
def codeDigits? (c : Char) : Option Nat :=
  match c with
  | 'x' => some 2
  | 'u' => some 4
  | 'U' => some 8
  | _ => none

/-- An ASCII character that a backslash strips of its meaning. -/
def isEscapable (c : Char) : Bool :=
  c.toNat < 0x80 && !c.isAlphanum && c != '<' && c != '>'

/-- Reads hexadecimal digits behind those that write `value`. -/
def readCode (w : Switches) : (digits : Nat) → (value : Nat) → List Char → Option (Nat × List Char)
  | 0, value, cs => some (value, w.skip cs)
  | digits + 1, value, cs =>
    match w.skip cs with
    | [] => none
    | c :: cs => do readCode w digits (16 * value + (← Text.hexDigit? c)) cs

/-- Reads what stands behind a backslash. -/
def readEscape (w : Switches) : List Char → Option (Escape × List Char)
  | [] => none
  | c :: cs =>
    match codeDigits? c, controlEscape? c with
    | some digits, _ => do
      let (value, rest) ← readCode w digits 0 cs
      if value.isValidChar then some (.literal (Char.ofNat value) (c = 'x'), rest) else none
    | none, some d => some (.literal d false, cs)
    | none, none =>
      if isEscapable c then some (.literal c false, cs)
      else if c ∈ ['d', 's', 'w'] then some (.classOf false, cs)
      else if c ∈ ['D', 'S', 'W'] then some (.classOf true, cs)
      else if c ∈ ['A', 'z'] then some (.textEdge, cs)
      else if c ∈ ['b', 'B', '<', '>'] then some (.wordEdge, cs)
      else none

/-- A character may stand for itself: not where letter case is ignored in Unicode, and not as a byte
that is half a character. -/
def Switches.takes (w : Switches) (c : Char) (byte : Bool) : Bool :=
  if w.unicode then !w.ignoreCase else !byte || c.toNat < 0x80

/-- A character may stand for itself in a set. -/
def Switches.takesInSet (w : Switches) (c : Char) : Bool :=
  if w.unicode then !w.ignoreCase else c.toNat < 0x80

/-- A class that an escape names may be asked for: it is one of ASCII characters. -/
def Switches.takesClass (w : Switches) (negated : Bool) : Bool :=
  !w.unicode && !negated

/-! ## Sets -/

/-- A set while it is read: the number of its members, the depth of the deepest one, and the depth of
what stands in front of the last operator. -/
structure SetShape where
  members : Nat := 0
  depth : Nat := 0
  left : Option Nat := none

/-- A set with a further member. -/
def SetShape.add (s : SetShape) (depth : Nat) : SetShape :=
  { s with members := s.members + 1, depth := max s.depth depth }

/-- The depth of the members of a set; several are one step deeper than one. -/
def SetShape.membersDepth (s : SetShape) : Nat :=
  if s.members ≤ 1 then s.depth else s.depth + 1

/-- The depth of what stands between the brackets of a set. -/
def SetShape.innerDepth (s : SetShape) : Nat :=
  match s.left with
  | none => s.membersDepth
  | some left => max left s.membersDepth + 1

/-- The names of the classes of ASCII characters. -/
def asciiClasses : List String :=
  ["alnum", "alpha", "ascii", "blank", "cntrl", "digit", "graph", "lower", "print", "punct",
    "space", "upper", "word", "xdigit"]

/-- Reads the name of a class of ASCII characters behind its opening bracket, and tells whether the
class is negated. -/
def readAsciiClass (cs : List Char) : Option (Bool × List Char) :=
  match cs with
  | ':' :: cs =>
    let negated := cs.head? = some '^'
    let cs := if negated then cs.drop 1 else cs
    let name := cs.takeWhile (· != ':')
    match cs.drop name.length with
    | ':' :: ']' :: rest =>
      if String.ofList name ∈ asciiClasses then some (negated, rest) else none
    | _ => none
  | _ => none

/-- Reads the hyphens at the start of a set, and a closing bracket that stands first and so is a
member. `fuel` bounds the number of hyphens. -/
def readSetHead (w : Switches) : (fuel : Nat) → SetShape → List Char → Option (SetShape × List Char)
  | 0, _, _ => none
  | fuel + 1, s, cs =>
    match cs with
    | [] => none
    | '-' :: cs => if w.takesInSet '-' then readSetHead w fuel (s.add 0) (w.skip cs) else none
    | ']' :: rest =>
      if s.members ≠ 0 then some (s, cs)
      else if w.takesInSet ']' then some (s.add 0, w.skip rest)
      else none
    | _ => some (s, cs)

/-- Reads the start of a set behind its opening bracket. -/
def openSet (w : Switches) (cs : List Char) : Option (SetShape × List Char) :=
  match w.skip cs with
  | '^' :: cs => if w.unicode then readSetHead w (cs.length + 1) {} (w.skip cs) else none
  | cs => readSetHead w (cs.length + 1) {} cs

/-- Reads a member of a set that is no range. -/
def readMember (w : Switches) : List Char → Option (Escape × List Char)
  | [] => none
  | '\\' :: cs => readEscape w cs
  | c :: cs => some (.literal c false, cs)

/-- Reads a member of a set or a range of them. A hyphen in front of the end of the set or of another
hyphen makes no range. -/
def readRange (w : Switches) (cs : List Char) : Option (List Char) := do
  let (first, rest) ← readMember w cs
  let alone := match first with
    | .literal c _ => w.takesInSet c
    | .classOf negated => w.takesClass negated
    | _ => false
  match w.skip rest with
  | '-' :: after =>
    if w.peek after ∈ [some ']', some '-'] then
      if alone then some ('-' :: after) else none
    else do
      let (last, rest) ← readMember w (w.skip after)
      match first, last with
      | .literal a _, .literal b _ =>
        if a ≤ b && w.takesInSet a && w.takesInSet b then some rest else none
      | _, _ => none
  | rest => if alone then some rest else none

/-- Reads a set up to its closing bracket and gives its depth. `outer` holds the sets around the one
that is read, the innermost first, and `fuel` bounds the number of steps. -/
def readSet (w : Switches) :
    (fuel : Nat) → (outer : List SetShape) → SetShape → List Char → Option (Nat × List Char)
  | 0, _, _, _ => none
  | fuel + 1, outer, s, cs =>
    match w.skip cs with
    | [] => none
    | '[' :: cs =>
      match readAsciiClass cs with
      | some (negated, rest) =>
        if (if w.unicode then w.ignoreCase else negated) then none
        else readSet w fuel outer (s.add 0) rest
      | none => do
        let (inner, rest) ← openSet w cs
        readSet w fuel (s :: outer) inner rest
    | ']' :: cs =>
      match outer with
      | [] => some (s.innerDepth + 1, cs)
      | parent :: outer => readSet w fuel outer (parent.add (s.innerDepth + 1)) cs
    | '&' :: '&' :: cs => readSet w fuel outer { left := some s.innerDepth } cs
    | '-' :: '-' :: cs => readSet w fuel outer { left := some s.innerDepth } cs
    | '~' :: '~' :: cs => readSet w fuel outer { left := some s.innerDepth } cs
    | cs => do readSet w fuel outer (s.add 0) (← readRange w cs)

/-! ## Parts -/

/-- A sequence of parts while it is read, with the alternatives in front of it. -/
structure Sequence where
  parts : Nat := 0
  depth : Nat := 0
  /-- The depth of the last part, if it can be repeated. -/
  last : Option Nat := none
  /-- The depth of the deepest alternative in front, if there is one. -/
  alternatives : Option Nat := none

namespace Sequence

/-- A sequence with a further part. -/
def add (s : Sequence) (depth : Nat) : Sequence :=
  { s with parts := s.parts + 1, depth := max s.depth depth, last := some depth }

/-- A sequence with switches behind its parts. -/
def addSwitches (s : Sequence) : Sequence :=
  { s with parts := s.parts + 1, last := none }

/-- A sequence with its last part repeated. -/
def repeatLast? (s : Sequence) : Option Sequence :=
  s.last.map fun d => { s with depth := max s.depth (d + 1), last := some (d + 1) }

/-- The depth of a sequence without its alternatives; several parts are one step deeper than one. -/
def ownDepth (s : Sequence) : Nat :=
  if s.parts ≤ 1 then s.depth else s.depth + 1

/-- The alternatives behind a sequence. -/
def alternate (s : Sequence) : Sequence :=
  { alternatives := some (max s.ownDepth (s.alternatives.getD 0)) }

/-- The depth of a sequence and its alternatives. -/
def wholeDepth (s : Sequence) : Nat :=
  match s.alternatives with
  | none => s.ownDepth
  | some d => max d s.ownDepth + 1

end Sequence

/-- A group while it is read: what stands around it, and the switches there. -/
structure OpenGroup where
  around : Sequence
  switches : Switches

/-- The state of reading an expression. -/
structure State where
  switches : Switches := {}
  sequence : Sequence := {}
  /-- The open groups, the innermost one first. -/
  groups : List OpenGroup := []
  /-- The names of groups so far. -/
  names : List (List Char) := []
  /-- An edge of Unicode words has been asked for. -/
  wordEdge : Bool := false

/-- The state behind a further part. -/
def State.add (s : State) (depth : Nat) : State :=
  { s with sequence := s.sequence.add depth }

/-- The state behind an opening parenthesis. -/
def State.openGroup (s : State) (inside : Switches) : State :=
  { s with
    switches := inside
    sequence := {}
    groups := ⟨s.sequence, s.switches⟩ :: s.groups }

/-- A text is the name of a group. -/
def isGroupName (name : List Char) : Bool :=
  match name with
  | [] => false
  | c :: cs =>
    (c = '_' || Unicode.isAlphabetic c) &&
      cs.all fun c => c ∈ ['_', '.', '[', ']'] || Unicode.isAlphanumeric c

/-- Reads the name of a group behind its opening angle bracket. -/
def State.named (s : State) (cs : List Char) : Option (State × List Char) :=
  let name := cs.takeWhile (· != '>')
  match cs.drop name.length with
  | [] => none
  | _ :: rest =>
    if isGroupName name && !s.names.contains name then
      some ({ s with names := name :: s.names }.openGroup s.switches, rest)
    else none

/-- Reads the switches behind a parenthesis and a question mark. They are for the group that a colon
opens, or for the rest of the group around them. -/
def State.switched (s : State) (cs : List Char) : Option (State × List Char) := do
  let letters := cs.takeWhile fun c => c != ':' && c != ')'
  let changed ← s.switches.change? letters
  match cs.drop letters.length with
  | ':' :: rest => some (s.openGroup changed, rest)
  | _ :: rest =>
    if letters.isEmpty then none
    else some ({ s with switches := changed, sequence := s.sequence.addSwitches }, rest)
  | [] => none

/-- Reads what stands behind an opening parenthesis. -/
def State.group (s : State) (cs : List Char) : Option (State × List Char) :=
  match cs with
  | '?' :: '<' :: '=' :: _ => none
  | '?' :: '<' :: '!' :: _ => none
  | '?' :: 'P' :: '<' :: rest => s.named rest
  | '?' :: '<' :: rest => s.named rest
  | '?' :: rest => s.switched rest
  | rest => some (s.openGroup s.switches, rest)

/-- Reads the next part of an expression; there is one. -/
def State.part (s : State) (cs : List Char) : Option (State × List Char) :=
  match cs with
  | [] => none
  | '(' :: rest => s.group (s.switches.skip rest)
  | ')' :: rest =>
    match s.groups with
    | [] => none
    | g :: groups =>
      some ({ s with
        switches := g.switches
        sequence := g.around.add (s.sequence.wholeDepth + 1)
        groups }, rest)
  | '|' :: rest => some ({ s with sequence := s.sequence.alternate }, rest)
  | '[' :: rest => do
    let (shape, rest) ← openSet s.switches rest
    let (depth, rest) ← readSet s.switches (rest.length + 1) [] shape rest
    some (s.add depth, rest)
  | '{' :: _ => none
  | '\\' :: rest => do
    match ← readEscape s.switches rest with
    | (.literal c byte, rest) => if s.switches.takes c byte then some (s.add 0, rest) else none
    | (.classOf negated, rest) =>
      if s.switches.takesClass negated then some (s.add 0, rest) else none
    | (.textEdge, rest) => some (s.add 0, rest)
    | (.wordEdge, rest) =>
      some ({ s.add 0 with wordEdge := s.wordEdge || s.switches.unicode }, rest)
  | '.' :: rest => if s.switches.unicode then some (s.add 0, rest) else none
  | c :: rest =>
    if c ∈ ['*', '+', '?'] then
      s.sequence.repeatLast?.map fun sequence =>
        ({ s with sequence }, if rest.head? = some '?' then rest.drop 1 else rest)
    else if c ∈ ['^', '$'] || s.switches.takes c false then some (s.add 0, rest)
    else none

/-- Reads an expression to its end, in at most `fuel` parts. -/
def State.parts (s : State) : (fuel : Nat) → List Char → Option State
  | 0, _ => none
  | fuel + 1, cs =>
    match s.switches.skip cs with
    | [] => some s
    | cs => do
      let (s, rest) ← s.part cs
      s.parts fuel rest

/-- The depth that no expression may exceed. -/
def maxDepth : Nat := 250

end Expression

/-- The fault of a text, if it is no expression or none that an automaton can run. -/
def expressionFault? (cs : List Char) : Option ExpressionFault :=
  match ({} : Expression.State).parts (cs.length + 1) cs with
  | none => some .unreadable
  | some s =>
    if !s.groups.isEmpty || Expression.maxDepth < s.sequence.wholeDepth then some .unreadable
    else if s.wordEdge then some .wordEdge
    else none

end GatewayRouting.Log
