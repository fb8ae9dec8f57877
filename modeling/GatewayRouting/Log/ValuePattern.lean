import GatewayRouting.Log.Expression

/-!
# Patterns for values

A log directive may ask that a field has a value that fits a pattern: a truth value, a number, or a
regular expression. Only whether a pattern can be used matters here, for patterns are about spans,
and the program opens none.

* `patternFault?` is the fault of a pattern that cannot be used.
-/

namespace GatewayRouting.Log

/-- A number with a sign, which may have a fraction and an exponent, or the name of an endless or
undefined one. -/
def isSignedNumber (cs : List Char) : Bool :=
  let body := cs.drop 1
  let whole := body.takeWhile Char.isDigit
  let behind := body.drop whole.length
  let fraction := if behind.head? = some '.' then (behind.drop 1).takeWhile Char.isDigit else []
  let tail := if behind.head? = some '.' then behind.drop (fraction.length + 1) else behind
  let exponent :=
    match tail.map Char.toLower with
    | [] => true
    | 'e' :: '+' :: ds => !ds.isEmpty && ds.all Char.isDigit
    | 'e' :: '-' :: ds => !ds.isEmpty && ds.all Char.isDigit
    | 'e' :: ds => !ds.isEmpty && ds.all Char.isDigit
    | _ => false
  (cs.head? = some '+' || cs.head? = some '-') &&
    (String.ofList (body.map Char.toLower) ∈ ["inf", "infinity", "nan"] ||
      (!(whole.isEmpty && fraction.isEmpty) && exponent))

/-- The fault of a pattern. Truth values and numbers have none: without a sign they are expressions
too. -/
def patternFault? (cs : List Char) : Option ExpressionFault :=
  if isSignedNumber cs then none else expressionFault? cs

/-- The wording of a fault. -/
def ExpressionFault.message : ExpressionFault → String
  | .unreadable => "error building NFA"
  | .wordEdge =>
    "unsupported regex feature for DFAs: cannot build DFAs for regexes with Unicode word " ++
      "boundaries; switch to ASCII word boundaries, or heuristically enable Unicode word " ++
      "boundaries or use a different regex engine"

end GatewayRouting.Log
