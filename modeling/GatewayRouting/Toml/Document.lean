import GatewayRouting.Toml.Moment
import GatewayRouting.Toml.Table

/-!
# TOML documents

The grammar of keys, values and whole documents. Arrays and inline tables nest up to 79 levels deep,
and a dotted key has at most 79 parts; `valueAt` recurses on the levels that are left.

* `parseDocument?` reads the table that a document describes.
-/

namespace GatewayRouting.Toml

/-- The number of levels that values may nest, and of parts that a key may have. -/
def nestingLimit : Nat := 79

/-! ## Keys -/

/-- A character of a key without quotes. -/
def isBareKeyChar (c : Char) : Bool :=
  c.isAlphanum || c == '-' || c == '_'

/-- Takes one part of a key. -/
def simpleKey : Reader String := do
  match ← Reader.peek with
  | some '"' => shortString
  | some '\'' => shortString
  | _ =>
    let cs ← Reader.takeWhile isBareKeyChar
    if cs.isEmpty then Reader.fail else return String.ofList cs

/-- Takes the parts of a key behind the first one. -/
def keyParts : List String → Reader (List String) :=
  Reader.iterate fun parts => do
    match ← Reader.peek with
    | some '.' =>
      Reader.char '.'
      spaces
      let part ← simpleKey
      spaces
      return some (parts ++ [part])
    | _ => return none

/-- A key, split into its parts but the last and the last. -/
structure Key where
  path : List String
  last : String

/-- Takes a key whose parts are set apart by dots. Blanks may stand around every part. -/
def key : Reader Key := do
  spaces
  let first ← simpleKey
  spaces
  let parts ← keyParts [first]
  if parts.length > nestingLimit then Reader.fail
  else return ⟨parts.dropLast, parts.getLast?.getD first⟩

/-! ## Values -/

/-- Takes the rest of an array behind its opening bracket: values with commas between them, and a
comma behind the last one if wanted. -/
def arrayBody (item : Reader Value) : Reader Value := do
  let items ← Reader.iterate (fun (state : List Value × Bool) => do
    filler
    match ← Reader.peek with
    | some ']' => return none
    | _ =>
      if !state.2 then Reader.fail
      else
        let v ← item
        filler
        match ← Reader.peek with
        | some ',' => Reader.char ','; return some (state.1 ++ [v], true)
        | _ => return some (state.1 ++ [v], false)) ([], true)
  Reader.char ']'
  return .array items.1

/-- Takes a key, an equals sign and a value, and adds them to the entries of an inline table. -/
def inlineEntry (item : Reader Value) (es : Node.Entries) : Reader Node.Entries := do
  let k ← key
  Reader.char '='
  spaces
  let v ← item
  spaces
  match Node.insertKey k.path k.last v es with
  | some es => return es
  | none => Reader.fail

/-- Takes the entries of an inline table behind the first one, each after a comma. -/
def moreInlineEntries (item : Reader Value) : Node.Entries → Reader Node.Entries :=
  Reader.iterate fun es => do
    match ← Reader.peek with
    | some ',' => Reader.char ','; return some (← inlineEntry item es)
    | _ => return none

/-- Takes the rest of an inline table behind its opening brace, which has no comma behind its last
entry. -/
def inlineTableBody (item : Reader Value) : Reader Value := do
  spaces
  match ← Reader.peek with
  | some '}' => Reader.char '}'; return .table []
  | _ =>
    let es ← moreInlineEntries item (← inlineEntry item [])
    Reader.char '}'
    return .table (Node.toEntries es)

/-- Takes a value; arrays and inline tables may nest `levels` deep. -/
def valueAt (levels : Nat) : Reader Value := do
  match ← Reader.peek with
  | some '"' => return .string (← anyString)
  | some '\'' => return .string (← anyString)
  | some 't' => Reader.exactly "true".toList; return .boolean true
  | some 'f' => Reader.exactly "false".toList; return .boolean false
  | some '[' =>
    match levels with
    | 0 => Reader.fail
    | levels + 1 => Reader.char '['; arrayBody (valueAt levels)
  | some '{' =>
    match levels with
    | 0 => Reader.fail
    | levels + 1 => Reader.char '{'; inlineTableBody (valueAt levels)
  | _ => Reader.orElse moment (Reader.orElse float integer)

/-! ## Documents -/

/-- What has been read of a document: its entries, and the table that the last header opened. -/
structure Progress where
  entries : Node.Entries
  header : List String

/-- Takes the header of an array of tables. -/
def elementHeader (p : Progress) : Reader Progress := do
  Reader.exactly ['[', '[']
  let k ← key
  Reader.exactly [']', ']']
  lineEnd
  match Node.openElement k.path k.last p.entries with
  | some es => return ⟨es, k.path ++ [k.last]⟩
  | none => Reader.fail

/-- Takes the header of a table. -/
def tableHeader (p : Progress) : Reader Progress := do
  Reader.char '['
  let k ← key
  Reader.char ']'
  lineEnd
  match Node.openTable k.path k.last p.entries with
  | some es => return ⟨es, k.path ++ [k.last]⟩
  | none => Reader.fail

/-- Takes a line that sets a key. -/
def keyLine (p : Progress) : Reader Progress := do
  let k ← key
  Reader.char '='
  spaces
  let v ← valueAt nestingLimit
  lineEnd
  match Node.insertBelow p.header k.path k.last v p.entries with
  | some es => return { p with entries := es }
  | none => Reader.fail

/-- A header of an array of tables stands in front. -/
def startsElementHeader : Reader Bool := fun cs =>
  some (['[', '['].isPrefixOf cs, cs)

/-- Takes the next item of a document, if there is one. -/
def nextItem (p : Progress) : Reader (Option Progress) := do
  spaces
  match ← Reader.peek with
  | none => return none
  | some '#' =>
    comment
    Reader.orElse newline endOfInput
    return some p
  | some '\n' => newline; return some p
  | some '\r' => newline; return some p
  | some '[' =>
    if ← startsElementHeader then return some (← elementHeader p)
    else return some (← tableHeader p)
  | _ => return some (← keyLine p)

/-- Takes a whole document. -/
def document : Reader Node.Entries := do
  let p ← Reader.iterate nextItem ⟨[], []⟩
  endOfInput
  return p.entries

/-- The input without a byte order mark in front. -/
def dropByteOrderMark : List Char → List Char
  | '\uFEFF' :: cs => cs
  | cs => cs

/-- The entries of the table that a document describes; none if it is not well-formed. -/
def parseDocument? (text : String) : Option (List (String × Value)) :=
  (document (dropByteOrderMark text.toList)).map fun r => Node.toEntries r.1

end GatewayRouting.Toml
