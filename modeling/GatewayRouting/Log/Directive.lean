import GatewayRouting.Log.Event
import GatewayRouting.Log.ValuePattern
import GatewayRouting.Text.Blank
import GatewayRouting.Unicode.Alphanumeric

/-!
# Log directives

A directive names a level and says what it is about. `level` alone is about everything, and
`target[span{field=value}]=level` about the components whose name starts with `target`, inside
spans of that name, where there is a field of that name and value. Each part may be missing, but the
brackets are there with a span or a field; where the level is missing, everything passes.

* `Directive.parse` reads one directive.
* `Directive.covers` tells which events a directive is about.
-/

namespace GatewayRouting.Log

/-- What a directive asks of the fields: there is one of that name, and its value, if one is given,
fits. -/
structure FieldRule where
  name : String
  value : Option String
deriving DecidableEq, Repr

/-- A rule about some events, or about all. `threshold` is the rank of the least important level
that passes, and zero where none does. -/
structure Directive where
  target : Option String := none
  span : Option String := none
  field : Option FieldRule := none
  threshold : Nat
deriving DecidableEq, Repr

/-! ## Events -/

/-- A directive about spans, or about values inside them, says nothing about events outside any. -/
def Directive.isAboutEvents (d : Directive) : Bool :=
  d.span.isNone && !d.field.any (·.value.isSome)

/-- A directive is about the events of components whose name starts with its target, if they have
its field. -/
def Directive.covers (d : Directive) (e : Event) : Bool :=
  d.isAboutEvents && d.target.all (fun t => t.toList.isPrefixOf e.component.toList) &&
    d.field.all fun f => e.fieldNames.contains f.name

/-- The order of narrowness: by the length of the target, then by having a field, then by the name
of the field. -/
def Directive.narrowness (d : Directive) : Nat × String :=
  (2 * (d.target.elim 0 fun t => t.length + 1) + (if d.field.isSome then 1 else 0),
    (d.field.map FieldRule.name).getD "")

/-- A directive is at most as narrow as another one. -/
def Directive.isWider (d e : Directive) : Bool :=
  let (a, f) := d.narrowness
  let (b, g) := e.narrowness
  a < b || (a = b && !decide (g < f))

/-! ## Levels -/

/-- The number that a decimal numeral writes, with or without a plus sign. -/
def numeral? (cs : List Char) : Option Nat :=
  let ds := match cs with
    | '+' :: ds => ds
    | ds => ds
  if ds.isEmpty || !ds.all Char.isDigit then none
  else some (Text.decimalNumber ds)

/-- The threshold that a word stands for: the name of a level in any letter case, `off`, or a number
up to five. -/
def threshold? (word : List Char) : Option Nat :=
  match numeral? word with
  | some n => if n ≤ 5 then some n else none
  | none =>
    if word.map Char.toUpper = "OFF".toList then some 0
    else (Level.all.find? fun l => l.name.toList == word.map Char.toUpper).map Level.rank

/-- The threshold that lets every event pass. -/
def everything : Nat := Level.trace.rank

/-! ## Reading -/

/-- Why a directive cannot be read. -/
inductive DirectiveError where
  | malformed
  | unknownLevel
  | badPattern (fault : ExpressionFault)
deriving DecidableEq, Repr

/-- The wording of an error. -/
def DirectiveError.message : DirectiveError → String
  | .malformed => "invalid filter directive"
  | .unknownLevel =>
    "error parsing level filter: expected one of \"off\", \"error\", \"warn\", \"info\", " ++
      "\"debug\", \"trace\", or a number 0-5"
  | .badPattern fault => "invalid field filter: " ++ fault.message

/-- A character that a target or a level may start with. -/
def startsDirective (c : Char) : Bool :=
  Unicode.isAlphanumeric c || c == '-' || c == ':' || c == '_'

/-- A directive while it is read. The places of its parts are found in `seen`, the text without the
blanks around it, and the parts are cut at these places from `whole`, which has kept them. -/
structure DirectiveText where
  whole : List Char
  seen : List Char

namespace DirectiveText

/-- The place where the first character after `start` satisfies `p`, or the end. -/
def find (t : DirectiveText) (start : Nat) (p : Char → Bool) : Nat :=
  start + ((t.seen.drop start).takeWhile (!p ·)).length

/-- The part between two places. -/
def cut (t : DirectiveText) (start stop : Nat) : List Char :=
  (t.whole.take stop).drop start

/-- Reads the level that starts at a place. -/
def level (t : DirectiveText) (start : Nat) : Except DirectiveError Nat :=
  match t.whole.drop start with
  | [] => .ok everything
  | word =>
    match threshold? word with
    | some n => .ok n
    | none => .error .unknownLevel

/-- Reads what stands behind a closing bracket. -/
def afterSpan (t : DirectiveText) (target span : Option String) (field : Option FieldRule)
    (start : Nat) : Except DirectiveError Directive :=
  match t.seen.drop start with
  | [] => .ok ⟨target, span, field, everything⟩
  | '=' :: _ => do return ⟨target, span, field, ← t.level (start + 1)⟩
  | _ => .error .malformed

/-- The rule that a text between braces writes. What stands behind a second equals sign is left
out. -/
def fieldRule (cs : List Char) : Except DirectiveError FieldRule :=
  let name := cs.takeWhile (· != '=')
  match cs.drop name.length with
  | [] => .ok ⟨String.ofList name, none⟩
  | _ :: rest =>
    let value := rest.takeWhile (· != '=')
    match patternFault? value with
    | none => .ok ⟨String.ofList name, some (String.ofList value)⟩
    | some fault => .error (.badPattern fault)

/-- Reads what stands behind an opening bracket. -/
def spanPart (t : DirectiveText) (target : Option String) (start : Nat) :
    Except DirectiveError Directive :=
  let stop := t.find start fun c => c = ']' || c = '{'
  match t.seen[stop]? with
  | none => .error .malformed
  | some ']' => t.afterSpan target (some (String.ofList (t.cut start stop))) none (stop + 1)
  | some _ =>
    let span := if stop = start then none else some (String.ofList (t.cut start stop))
    let close := t.find (stop + 1) (· = '}')
    if close = stop + 1 || t.seen[close]?.isNone then .error .malformed
    else do
      let rule ← fieldRule (t.cut (stop + 1) close)
      if t.seen[close + 1]? = some ']' then t.afterSpan target span (some rule) (close + 2)
      else .error .malformed

/-- Reads a directive from its start. -/
def directive (t : DirectiveText) : Except DirectiveError Directive :=
  match t.seen with
  | [] => .error .malformed
  | '[' :: _ => t.spanPart none 1
  | c :: _ =>
    if !startsDirective c then .error .malformed
    else
      let stop := t.find 0 fun c => c = '=' || c = '['
      let target := some (String.ofList (t.cut 0 stop))
      match t.seen[stop]? with
      | none =>
        match threshold? t.whole with
        | some n => .ok { threshold := n }
        | none => .ok { target := some (String.ofList t.whole), threshold := everything }
      | some '=' => do return { target, threshold := ← t.level (stop + 1) }
      | some _ => t.spanPart target (stop + 1)

end DirectiveText

/-- The directive that a text writes. -/
def Directive.parse (cs : List Char) : Except DirectiveError Directive :=
  DirectiveText.directive ⟨cs, Text.trimChars cs⟩

end GatewayRouting.Log
