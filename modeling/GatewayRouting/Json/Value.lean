/-!
# JSON documents

The part of JSON that a compiled configuration needs, strings, arrays and objects, and its layout
over several lines with an indentation of two blanks.

* `Text.encode` writes the inside of a string.
* `Value.chars` writes a value at a depth of nesting.
* `Value.document` is a whole document, which ends in a line feed.
-/

namespace GatewayRouting.Json

/-- A JSON value. Objects keep their members in order. -/
inductive Value where
  | str (text : String)
  | arr (items : List Value)
  | obj (members : List (String × Value))
deriving Repr

/-! ## Strings -/

/-- A number below 256 as two hexadecimal digits. -/
def hexByte (n : Nat) : List Char :=
  [Nat.digitChar (n / 16), Nat.digitChar (n % 16)]

/-- A character inside a string: quotes, backslashes and control characters are escaped, all else
stands for itself. -/
def encodeChar (c : Char) : List Char :=
  match c with
  | '"' => ['\\', '"']
  | '\\' => ['\\', '\\']
  | '\x08' => ['\\', 'b']
  | '\x0c' => ['\\', 'f']
  | '\n' => ['\\', 'n']
  | '\r' => ['\\', 'r']
  | '\t' => ['\\', 't']
  | c => if c.toNat < 0x20 then '\\' :: 'u' :: '0' :: '0' :: hexByte c.toNat else [c]

/-- The characters of a string, between its quotes. -/
def quote (s : String) : List Char :=
  '"' :: s.toList.flatMap encodeChar ++ ['"']

/-! ## Layout -/

/-- The line feed and the blanks in front of an item. -/
def newLine (depth : Nat) : List Char :=
  '\n' :: List.replicate (2 * depth) ' '

mutual

/-- The characters of a value that is nested `depth` levels deep. Every item of an array and every
member of an object has a line of its own; empty ones are written without a line break. -/
def Value.chars (depth : Nat) : Value → List Char
  | .str text => quote text
  | .arr [] => ['[', ']']
  | .arr (v :: rest) =>
    '[' :: newLine (depth + 1) ++ v.chars (depth + 1) ++ itemChars (depth + 1) rest ++
      newLine depth ++ [']']
  | .obj [] => ['{', '}']
  | .obj ((k, v) :: rest) =>
    '{' :: newLine (depth + 1) ++ quote k ++ ':' :: ' ' :: v.chars (depth + 1) ++
      memberChars (depth + 1) rest ++ newLine depth ++ ['}']

/-- The characters of the items of an array after the first one. -/
def itemChars (depth : Nat) : List Value → List Char
  | [] => []
  | v :: rest => ',' :: newLine depth ++ v.chars depth ++ itemChars depth rest

/-- The characters of the members of an object after the first one. -/
def memberChars (depth : Nat) : List (String × Value) → List Char
  | [] => []
  | (k, v) :: rest =>
    ',' :: newLine depth ++ quote k ++ ':' :: ' ' :: v.chars depth ++ memberChars depth rest

end

/-- The text of a document. -/
def Value.document (v : Value) : String :=
  String.ofList (v.chars 0 ++ ['\n'])

end GatewayRouting.Json
