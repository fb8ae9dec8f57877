/-!
# Directives

The syntax tree of an nginx configuration file and its layout. A file is a list of items: simple
directives, which end in a semicolon, blocks, comments, and the empty lines that set them apart.

* `Quoted.encode` writes the inside of a quoted argument.
* `Item.chars` writes an item at a depth of nesting; every level indents by four blanks.
-/

namespace GatewayRouting.Nginx

/-! ## Arguments -/

/-- The characters of a quoted argument between its quotes: quotes and backslashes are protected by
a backslash. -/
def Quoted.encode : List Char → List Char
  | [] => []
  | c :: cs =>
    if c = '"' ∨ c = '\\' then '\\' :: c :: Quoted.encode cs else c :: Quoted.encode cs

/-- A word of a directive, written as it is or between double quotes. -/
inductive Word where
  | bare (text : String)
  | quoted (text : String)
deriving DecidableEq, Repr

/-- The characters of a word. -/
def Word.chars : Word → List Char
  | .bare text => text.toList
  | .quoted text => '"' :: Quoted.encode text.toList ++ ['"']

/-- The characters of some words with a blank between neighbours. -/
def Word.charsOfList : List Word → List Char
  | [] => []
  | [w] => w.chars
  | w :: rest => w.chars ++ ' ' :: Word.charsOfList rest

/-! ## Items -/

/-- A piece of a configuration file. -/
inductive Item where
  /-- An empty line. -/
  | gap
  | comment (text : String)
  | simple (words : List Word)
  | block (words : List Word) (body : List Item)
deriving Repr

/-- The blanks in front of an item. -/
def indent (depth : Nat) : List Char :=
  List.replicate (4 * depth) ' '

mutual

/-- The characters of an item that is nested `depth` levels deep. A block without items takes one
line. -/
def Item.chars (depth : Nat) : Item → List Char
  | .gap => ['\n']
  | .comment text => indent depth ++ '#' :: ' ' :: text.toList ++ ['\n']
  | .simple words => indent depth ++ Word.charsOfList words ++ [';', '\n']
  | .block words [] => indent depth ++ Word.charsOfList words ++ [' ', '{', '}', '\n']
  | .block words (item :: rest) =>
    indent depth ++ Word.charsOfList words ++ [' ', '{', '\n'] ++
      (Item.chars (depth + 1) item ++ Item.charsOfList (depth + 1) rest) ++
      indent depth ++ ['}', '\n']

/-- The characters of some items, one after the other. -/
def Item.charsOfList (depth : Nat) : List Item → List Char
  | [] => []
  | item :: rest => Item.chars depth item ++ Item.charsOfList depth rest

end

/-- The text of a configuration file. -/
def fileText (items : List Item) : String :=
  String.ofList (Item.charsOfList 0 items)

end GatewayRouting.Nginx
