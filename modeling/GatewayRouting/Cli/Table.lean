import GatewayRouting.Directory
import GatewayRouting.Gateway

/-!
# The table of routes

A table of the functions that declare a path, ordered by path, with the methods they accept and the
URL they are reached at. Columns are set apart by two blanks, and every column but the last is
filled up to the greatest number of bytes among its cells.

* `routesTable` is the text of the table.
-/

namespace GatewayRouting.Cli

/-- A row of the table. -/
structure TableRow where
  name : String
  methods : String
  path : String
  target : String
deriving DecidableEq, Repr

/-- The headings of the columns. -/
def tableHeader : TableRow := ⟨"NAME", "METHODS", "FROM", "TO"⟩

/-- The methods of a function as it declares them, or a star if it accepts all. -/
def methodsCell (f : FunctionDecl) : String :=
  match f.methods with
  | none => "*"
  | some [] => "*"
  | some names => ",".intercalate names

/-- The URL of a function, if it is deployed at an address that can be reached. -/
def targetCell (d : Directory) (f : FunctionDecl) : String :=
  match d.lookup f.name with
  | .error _ => "<not deployed>"
  | .ok address =>
    match targetUrl address with
    | .error _ => "<not deployed>"
    | .ok url => url

/-- The row of a function; functions without a path have none. -/
def row? (d : Directory) (f : FunctionDecl) : Option TableRow :=
  f.path.map fun path => ⟨f.name, methodsCell f, path, targetCell d f⟩

/-- Puts a row in front of rows in order of their paths, behind those with a lesser path. -/
def insertRow (r : TableRow) : List TableRow → List TableRow
  | [] => [r]
  | s :: rest => if s.path < r.path then s :: insertRow r rest else r :: s :: rest

/-- The rows ordered by path, and in their order where paths are equal. -/
def sortRows (rows : List TableRow) : List TableRow :=
  rows.foldr insertRow []

/-- The rows of a configuration, in order. -/
def tableRows (c : Config) : List TableRow :=
  sortRows (c.functions.filterMap (row? c.directory))

/-- The width of a column: the greatest number of bytes among its cells. -/
def columnWidth (cell : TableRow → String) (rows : List TableRow) : Nat :=
  (rows.map fun r => (cell r).utf8ByteSize).foldl max 0

/-- A cell filled up to a number of characters. -/
def padCell (width : Nat) (s : String) : String :=
  s ++ String.ofList (List.replicate (width - s.length) ' ')

/-- The line of a row, with the widths of the first three columns. -/
def rowLine (nameWidth methodsWidth pathWidth : Nat) (r : TableRow) : String :=
  padCell nameWidth r.name ++ "  " ++ padCell methodsWidth r.methods ++ "  " ++
    padCell pathWidth r.path ++ "  " ++ r.target ++ "\n"

/-- The text of the table of a configuration. -/
def routesTable (c : Config) : String :=
  let rows := tableHeader :: tableRows c
  let line := rowLine (columnWidth (·.name) rows) (columnWidth (·.methods) rows)
    (columnWidth (·.path) rows)
  String.join (rows.map line)

end GatewayRouting.Cli
