import GatewayRouting.Toml.Value

/-!
# Building tables

The tables of a document grow entry by entry, and what may be added to a table depends on how it
came about. A table that a header declares is finished when the next header comes. A table that only
stands on the way to another one is *implied*, and a later header may declare it. A table that a
dotted key makes is *dotted*, and only further dotted keys may add to it. No key is set twice.

* `Node.descend` walks along a path of keys and changes the table at its end.
* `Node.insertKey` adds the value of a dotted key.
* `Node.openTable` and `Node.openElement` are the two kinds of headers.
-/

namespace GatewayRouting.Toml

/-- How a table came about. -/
inductive Origin where
  | declared
  | implied
  | dotted
deriving DecidableEq, Repr

/-- What a key stands for while a document is read: a value, a table that may still grow, or an
array of tables, of which the last one may still grow. -/
inductive Node where
  | value (v : Value)
  | table (origin : Origin) (entries : List (String × Node))
  | tables (elements : List (List (String × Node)))

namespace Node

/-- The entries of a table, by key. -/
abbrev Entries := List (String × Node)

/-- The entry of a key. -/
def find? (key : String) (es : Entries) : Option Node :=
  es.lookup key

/-- The entries with that of a key replaced, or added at the end. -/
def set (key : String) (node : Node) : Entries → Entries
  | [] => [(key, node)]
  | (k, n) :: rest => if k = key then (k, node) :: rest else (k, n) :: set key node rest

/-- Changes the table at the end of a path. Missing tables on the way are made; `byKeys` tells that
the path is the front of a dotted key and not of a header. The path may lead through the last table
of an array, and a dotted key may not lead through a declared table. -/
def descend (byKeys : Bool) (change : Origin → Entries → Option Entries) :
    List String → Origin → Entries → Option Entries
  | [], origin, es => change origin es
  | key :: path, _, es =>
    match find? key es with
    | none => do
      let made := if byKeys then Origin.dotted else Origin.implied
      return set key (.table made (← descend byKeys change path made [])) es
    | some (.value _) => none
    | some (.table origin inner) =>
      if byKeys && origin == .declared then none
      else do return set key (.table origin (← descend byKeys change path origin inner)) es
    | some (.tables elements) =>
      match elements.reverse with
      | [] => none
      | last :: before => do
        let inner ← descend byKeys change path .declared last
        return set key (.tables (before.reverse ++ [inner])) es

/-- Adds the value of a dotted key: the table at the end of its front part has to be dotted, unless
the key has a single part, and the last part may not be set. -/
def insertKey (path : List String) (key : String) (v : Value) (es : Entries) : Option Entries :=
  descend true (fun origin inner =>
    if !path.isEmpty && origin != .dotted then none
    else match find? key inner with
      | some _ => none
      | none => some (inner ++ [(key, .value v)])) path .declared es

/-- Declares the table that a header names: it is new, or it was implied so far. -/
def openTable (path : List String) (key : String) (es : Entries) : Option Entries :=
  descend false (fun _ inner =>
    match find? key inner with
    | none => some (inner ++ [(key, .table .declared [])])
    | some (.table .implied entries) => some (set key (.table .declared entries) inner)
    | some _ => none) path .declared es

/-- Adds a table to the array of tables that a header names. -/
def openElement (path : List String) (key : String) (es : Entries) : Option Entries :=
  descend false (fun _ inner =>
    match find? key inner with
    | none => some (inner ++ [(key, .tables [[]])])
    | some (.tables elements) => some (set key (.tables (elements ++ [[]])) inner)
    | some _ => none) path .declared es

/-- Adds the value of a dotted key to the table that a header opened. -/
def insertBelow (header path : List String) (key : String) (v : Value) (es : Entries) :
    Option Entries :=
  descend false (fun _ inner => insertKey path key v inner) header .declared es

/-! ## The finished value -/

mutual

/-- The value that a key stands for when the document has been read. -/
def toValue : Node → Value
  | .value v => v
  | .table _ es => .table (toEntries es)
  | .tables elements => .array (toValues elements)

/-- The finished entries of a table. -/
def toEntries : List (String × Node) → List (String × Value)
  | [] => []
  | (key, node) :: rest => (key, toValue node) :: toEntries rest

/-- The finished tables of an array. -/
def toValues : List (List (String × Node)) → List Value
  | [] => []
  | es :: rest => .table (toEntries es) :: toValues rest

end

end Node

end GatewayRouting.Toml
