import GatewayRouting.Text.Digits
import GatewayRouting.Toml.Reader

/-!
# TOML strings

The four kinds of strings: basic ones between double quotes, which know escapes, literal ones
between single quotes, which do not, and the forms of both between three quotes, which may span
lines. Every line end inside a string counts as a line feed.
-/

namespace GatewayRouting.Toml

/-! ## Escapes -/

/-- The character whose code point hexadecimal digits write. -/
def codePoint? (cs : List Char) : Option Char := do
  let n ← Text.numberIn? 16 cs
  if h : n.isValidChar then some (Char.ofNatAux n h) else none

/-- The character that a single letter behind a backslash stands for. -/
def shortEscape? : Char → Option Char
  | 'b' => some '\x08'
  | 't' => some '\t'
  | 'n' => some '\n'
  | 'f' => some '\x0c'
  | 'r' => some '\r'
  | '"' => some '"'
  | '\\' => some '\\'
  | _ => none

/-- Puts a character in front of the text that was read after it. -/
def prepend (c : Char) (result : List Char × List Char) : List Char × List Char :=
  (c :: result.1, result.2)

/-! ## Strings on one line -/

/-- A character of a basic string that stands for itself. -/
def isBasicChar (c : Char) : Bool :=
  isCommentChar c && c != '"' && c != '\\'

/-- A character of a literal string. -/
def isLiteralChar (c : Char) : Bool :=
  isCommentChar c && c != '\''

/-- The rest of a basic string behind its opening quote. -/
def basicBody : List Char → Option (List Char × List Char)
  | [] => none
  | '"' :: rest => some ([], rest)
  | '\\' :: 'u' :: a :: b :: c :: d :: rest => do
    let ch ← codePoint? [a, b, c, d]
    (basicBody rest).map (prepend ch)
  | '\\' :: 'U' :: a :: b :: c :: d :: e :: f :: g :: h :: rest => do
    let ch ← codePoint? [a, b, c, d, e, f, g, h]
    (basicBody rest).map (prepend ch)
  | '\\' :: e :: rest => do
    let ch ← shortEscape? e
    (basicBody rest).map (prepend ch)
  | c :: rest => if isBasicChar c then (basicBody rest).map (prepend c) else none

/-- The rest of a literal string behind its opening quote. -/
def literalBody : List Char → Option (List Char × List Char)
  | [] => none
  | '\'' :: rest => some ([], rest)
  | c :: rest => if isLiteralChar c then (literalBody rest).map (prepend c) else none

/-! ## Strings over several lines -/

/-- A line end stands in front. -/
def startsLineEnd : List Char → Bool
  | '\n' :: _ => true
  | '\r' :: '\n' :: _ => true
  | _ => false

/-- The input without a line end in front, which does not belong to the string. -/
def dropLineEnd : List Char → List Char
  | '\n' :: cs => cs
  | '\r' :: '\n' :: cs => cs
  | cs => cs

/-- The rest of a basic string over several lines. Up to two quotes may stand right before the
closing ones. A backslash at the end of a line takes the blanks and line ends behind it away, which
goes on as long as `skipping` holds. -/
def longBasicBody (skipping : Bool) : List Char → Option (List Char × List Char)
  | [] => none
  | '"' :: '"' :: '"' :: '"' :: '"' :: rest => some (['"', '"'], rest)
  | '"' :: '"' :: '"' :: '"' :: rest => some (['"'], rest)
  | '"' :: '"' :: '"' :: rest => some ([], rest)
  | '\r' :: '\n' :: rest =>
    if skipping then longBasicBody true rest
    else (longBasicBody false rest).map (prepend '\n')
  | '\n' :: rest =>
    if skipping then longBasicBody true rest
    else (longBasicBody false rest).map (prepend '\n')
  | '\\' :: 'u' :: a :: b :: c :: d :: rest => do
    let ch ← codePoint? [a, b, c, d]
    (longBasicBody false rest).map (prepend ch)
  | '\\' :: 'U' :: a :: b :: c :: d :: e :: f :: g :: h :: rest => do
    let ch ← codePoint? [a, b, c, d, e, f, g, h]
    (longBasicBody false rest).map (prepend ch)
  | '\\' :: e :: rest =>
    if startsLineEnd ((e :: rest).dropWhile isSpace) then
      longBasicBody true rest
    else do
      let ch ← shortEscape? e
      (longBasicBody false rest).map (prepend ch)
  | c :: rest =>
    if skipping && isSpace c then longBasicBody true rest
    else if c == '"' || isBasicChar c then (longBasicBody false rest).map (prepend c)
    else none

/-- The rest of a literal string over several lines. -/
def longLiteralBody : List Char → Option (List Char × List Char)
  | [] => none
  | '\'' :: '\'' :: '\'' :: '\'' :: '\'' :: rest => some (['\'', '\''], rest)
  | '\'' :: '\'' :: '\'' :: '\'' :: rest => some (['\''], rest)
  | '\'' :: '\'' :: '\'' :: rest => some ([], rest)
  | '\r' :: '\n' :: rest => (longLiteralBody rest).map (prepend '\n')
  | '\n' :: rest => (longLiteralBody rest).map (prepend '\n')
  | c :: rest => if isCommentChar c then (longLiteralBody rest).map (prepend c) else none

/-! ## Readers -/

/-- Takes a string on one line, which is also a form of keys. -/
def shortString : Reader String
  | '"' :: cs => (basicBody cs).map fun r => (String.ofList r.1, r.2)
  | '\'' :: cs => (literalBody cs).map fun r => (String.ofList r.1, r.2)
  | _ => none

/-- Takes a string of any kind. -/
def anyString : Reader String
  | '"' :: '"' :: '"' :: cs =>
    (longBasicBody false (dropLineEnd cs)).map fun r => (String.ofList r.1, r.2)
  | '\'' :: '\'' :: '\'' :: cs =>
    (longLiteralBody (dropLineEnd cs)).map fun r => (String.ofList r.1, r.2)
  | cs => shortString cs

end GatewayRouting.Toml
