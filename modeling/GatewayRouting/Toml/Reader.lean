/-!
# Reading characters

A reader takes characters off the front of a list and gives a value, or refuses the input. The
readers of this file are shared by all parts of the TOML grammar.
-/

namespace GatewayRouting.Toml

/-- A function that takes characters off the front of the input, or refuses it. -/
abbrev Reader (α : Type) := StateT (List Char) Option α

namespace Reader

/-- Refuses the input. -/
def fail {α : Type} : Reader α := fun _ => none

/-- The next character, left in place. -/
def peek : Reader (Option Char) := fun cs => some (cs.head?, cs)

/-- Takes the next character if it satisfies `p`. -/
def satisfy (p : Char → Bool) : Reader Char
  | [] => none
  | c :: cs => if p c then some (c, cs) else none

/-- Takes the character `c`. -/
def char (c : Char) : Reader Unit := do
  let _ ← satisfy (· == c)

/-- Takes the given characters. -/
def exactly (expected : List Char) : Reader Unit := fun cs =>
  if expected.isPrefixOf cs then some ((), cs.drop expected.length) else none

/-- Takes characters as long as they satisfy `p`. -/
def takeWhile (p : Char → Bool) : Reader (List Char) := fun cs =>
  some (cs.takeWhile p, cs.dropWhile p)

/-- Takes what `r` takes, or nothing where `r` refuses the input. -/
def optional {α : Type} (r : Reader α) : Reader (Option α) := fun cs =>
  match r cs with
  | some (a, rest) => some (some a, rest)
  | none => some (none, cs)

/-- Takes what the first reader takes, or else what the second one takes. -/
def orElse {α : Type} (r s : Reader α) : Reader α := fun cs =>
  match r cs with
  | some result => some result
  | none => s cs

/-- Takes what `r` takes, and gives the characters taken. -/
def taken {α : Type} (r : Reader α) : Reader (List Char) := fun cs =>
  match r cs with
  | some (_, rest) => some (cs.take (cs.length - rest.length), rest)
  | none => none

/-- Runs `r` up to `rounds` times, as long as it goes on. -/
def loop {σ : Type} (r : σ → Reader (Option σ)) : Nat → σ → Reader σ
  | 0, s => pure s
  | rounds + 1, s => do
    match ← r s with
    | none => pure s
    | some s' => loop r rounds s'

/-- Runs `r` as long as it goes on. Every round but the last has to take a character. -/
def iterate {σ : Type} (r : σ → Reader (Option σ)) (s : σ) : Reader σ := fun cs =>
  loop r (cs.length + 1) s cs

end Reader

/-! ## Blanks, line ends and comments -/

/-- A blank inside a line. -/
def isSpace (c : Char) : Bool := c == ' ' || c == '\t'

/-- A character outside ASCII. -/
def isWide (c : Char) : Bool := c.toNat ≥ 0x80

/-- A character of a comment: any but the control characters other than the tab. -/
def isCommentChar (c : Char) : Bool :=
  c == '\t' || (' ' ≤ c && c ≤ '~') || isWide c

/-- Takes the blanks before anything else on a line. -/
def spaces : Reader Unit := do
  let _ ← Reader.takeWhile isSpace

/-- Takes a line end: a line feed, with or without a carriage return in front. -/
def newline : Reader Unit
  | '\n' :: cs => some ((), cs)
  | '\r' :: '\n' :: cs => some ((), cs)
  | _ => none

/-- Takes the end of the input. -/
def endOfInput : Reader Unit
  | [] => some ((), [])
  | _ => none

/-- Takes a comment up to the end of its line. -/
def comment : Reader Unit := do
  Reader.char '#'
  let _ ← Reader.takeWhile isCommentChar

/-- Takes what may stand behind an item: blanks, a comment, and the end of the line or of the
input. -/
def lineEnd : Reader Unit := do
  spaces
  let _ ← Reader.optional comment
  Reader.orElse newline endOfInput

/-- Takes blanks, line ends and comments, which an array may hold between its items. -/
def filler : Reader Unit :=
  Reader.iterate (fun _ => do
    spaces
    match ← Reader.peek with
    | some '#' => comment; newline; pure (some ())
    | some '\n' => newline; pure (some ())
    | some '\r' => newline; pure (some ())
    | _ => pure none) ()

end GatewayRouting.Toml
