import GatewayRouting.Text.Blank

/-!
# Character literals

A character between single quotes, as error messages show it: tab, line feed, carriage return, the
single quote and the backslash have a short escape, a plain blank and every visible character stand
for themselves, and the other blank characters are written by their code point.
-/

namespace GatewayRouting.Text

/-- The hexadecimal digits of a number, lower case and without leading zeros. -/
def hexText (n : Nat) : String :=
  String.ofList (Nat.toDigits 16 n)

/-- What stands for a character between single quotes. -/
def escapeInQuotes (c : Char) : String :=
  match c with
  | '\t' => "\\t"
  | '\n' => "\\n"
  | '\r' => "\\r"
  | '\'' => "\\'"
  | '\\' => "\\\\"
  | ' ' => " "
  | c => if isBlank c then "\\u\x7b" ++ hexText c.toNat ++ "\x7d" else c.toString

/-- A blank or visible character between single quotes. -/
def charLiteral (c : Char) : String :=
  "'" ++ escapeInQuotes c ++ "'"

end GatewayRouting.Text
