import GatewayRouting.Log.Directive
import GatewayRouting.Text.Lowercase

/-!
# Log filters

A filter is a list of directives parted by commas. For an event, the narrowest directive that is
about it decides, and of several that are equally narrow the last one.

* `Filter.passes` applies a filter.
* `Filter.parse?` reads one, and `Filter.parseLenient` skips directives that cannot be read.
* `defaultDirective` is the directive for a configured level.
-/

namespace GatewayRouting.Log

/-- A list of directives, in the order in which they are written. -/
structure Filter where
  directives : List Directive
deriving DecidableEq, Repr

/-! ## Applying -/

/-- The directive that decides about an event: the narrowest one that is about it, and the last of
those. -/
def Filter.decisive? (f : Filter) (e : Event) : Option Directive :=
  (f.directives.filter (·.covers e)).foldl
    (fun best d => match best with
      | none => some d
      | some b => if b.isWider d then some d else some b)
    none

/-- An event passes when the decisive directive admits its level. -/
def Filter.passes (f : Filter) (e : Event) : Bool :=
  match f.decisive? e with
  | none => false
  | some d => e.level.rank ≤ d.threshold

/-! ## Reading -/

/-- The texts of the directives of a filter. -/
def directiveTexts (text : String) : List (List Char) :=
  (text.toList.splitOn ',').filter (!·.isEmpty)

/-- The filter of some directives; without any, errors pass and nothing else. -/
def Filter.ofDirectives (ds : List Directive) : Filter :=
  if ds.isEmpty then ⟨[{ threshold := Level.error.rank }]⟩ else ⟨ds⟩

/-- The filter that a text writes, if each of its directives can be read. -/
def Filter.parse? (text : String) : Option Filter :=
  ((directiveTexts text).mapM fun cs => (Directive.parse cs).toOption).map Filter.ofDirectives

/-- The filter of the directives that can be read, and a warning for each of the others. -/
def Filter.parseLenient (text : String) : Filter × List String :=
  let results := (directiveTexts text).map fun cs => (String.ofList cs, Directive.parse cs)
  (.ofDirectives (results.filterMap (·.2.toOption)),
    results.filterMap fun r =>
      match r.2 with
      | .ok _ => none
      | .error e => some (s!"ignoring \x60{r.1}\x60: {e.message}"))

/-! ## The configured level -/

/-- The directive for a configured level, which is about this program's components. -/
def defaultDirective (level : String) : String :=
  "faas_gateway=" ++ Text.lowercase level

/-- The filter that a run uses, with warnings about unreadable directives: that of the environment
if it has a readable one, and otherwise that of the configured level. -/
def Filter.choose (environment : Option String) (level : String) : Filter × List String :=
  match environment.bind Filter.parse? with
  | some f => (f, [])
  | none => Filter.parseLenient (defaultDirective level)

end GatewayRouting.Log
