import GatewayRouting.Toml.Text
import GatewayRouting.Toml.Value

/-!
# TOML numbers

Integers have 64 bits and may be written in base 2, 8, 10 or 16. Floating-point numbers need a
fraction or an exponent and have to be below the largest double-precision number; only negative
ones may exceed it. Underscores may stand between digits.
-/

namespace GatewayRouting.Toml

/-! ## Digits -/

/-- More digits, each with or without an underscore in front. The underscores are left out. -/
def moreDigits (p : Char → Bool) : List Char → Option (List Char × List Char)
  | [] => some ([], [])
  | '_' :: c :: rest => if p c then (moreDigits p rest).map (prepend c) else none
  | c :: rest => if p c then (moreDigits p rest).map (prepend c) else some ([], c :: rest)

/-- Takes one or more digits. -/
def digits (p : Char → Bool) : Reader (List Char)
  | [] => none
  | c :: rest => if p c then (moreDigits p rest).map (prepend c) else none

/-- Takes a decimal number without leading zeros. -/
def decimal : Reader (List Char)
  | '0' :: rest => some (['0'], rest)
  | cs => digits Char.isDigit cs

/-- Takes an optional sign, and tells whether it is a minus. -/
def sign : Reader Bool
  | '+' :: rest => some (false, rest)
  | '-' :: rest => some (true, rest)
  | cs => some (false, cs)

/-! ## Integers -/

/-- The number of negative integers of 64 bits, which is that of the others too. -/
def integerBound : Nat := 0x8000000000000000

/-- An integer of 64 bits. -/
def integerOf (negative : Bool) (n : Nat) : Option Value :=
  if negative then
    if n ≤ integerBound then some (.integer (-n)) else none
  else if n < integerBound then some (.integer n) else none

/-- Takes an integer written in a base other than ten, behind its mark. -/
def basedInteger (base : Nat) : Reader Value := do
  let ds ← digits fun c => (Text.digitIn? base c).isSome
  let n ← Text.numberIn? base ds
  integerOf false n

/-- Takes an integer. -/
def integer : Reader Value
  | '0' :: 'x' :: rest => basedInteger 16 rest
  | '0' :: 'o' :: rest => basedInteger 8 rest
  | '0' :: 'b' :: rest => basedInteger 2 rest
  | cs => (do
      let negative ← sign
      let ds ← decimal
      integerOf negative (Text.decimalNumber ds) : Reader Value) cs

/-! ## Floating-point numbers -/

/-- Takes a fraction. -/
def fraction : Reader (List Char) := do
  Reader.char '.'
  digits Char.isDigit

/-- Takes an exponent. -/
def exponent : Reader Int := do
  let _ ← Reader.satisfy (fun c => c == 'e' || c == 'E')
  let negative ← sign
  let ds ← digits Char.isDigit
  return if negative then -(Text.decimalNumber ds : Int) else Text.decimalNumber ds

/-- The number of decimal digits of a positive number, and zero for zero. -/
def digitCount (n : Nat) : Nat :=
  if n = 0 then 0 else (Nat.toDigits 10 n).length

/-- The least number that rounds to infinity: half a unit in the last place above the largest
double. -/
def doubleBound : Nat := Nat.pow 2 1024 - Nat.pow 2 970

/-- The number `m * 10 ^ e` is too large for double precision. Numbers of a clearly different size
are told by their digit count. -/
def exceedsDouble (m : Nat) (e : Int) : Bool :=
  let size := digitCount m + e
  if m = 0 || size < 300 then false
  else if size > 320 then true
  else doubleBound ≤ (if e < 0 then m / Nat.pow 10 (-e).toNat else m * Nat.pow 10 e.toNat)

/-- Takes a number with a fraction or an exponent, and tells its sign, its digits and the power of
ten that scales them. -/
def scaled : Reader (Bool × Nat × Int) := do
  let negative ← sign
  let whole ← decimal
  match ← Reader.peek with
  | some '.' =>
    let part ← fraction
    let e := match ← Reader.peek with
      | some 'e' => exponent
      | some 'E' => exponent
      | _ => pure 0
    let e ← e
    return (negative, Text.decimalNumber (whole ++ part), e - part.length)
  | some 'e' => return (negative, Text.decimalNumber whole, ← exponent)
  | some 'E' => return (negative, Text.decimalNumber whole, ← exponent)
  | _ => Reader.fail

/-- Takes one of the words for infinity and not-a-number, with or without a sign. -/
def specialFloat : Reader Unit := do
  let _ ← sign
  Reader.orElse (Reader.exactly ['i', 'n', 'f']) (Reader.exactly ['n', 'a', 'n'])

/-- Takes a number within the range of double precision. -/
def finiteFloat : Reader Unit := do
  let (negative, m, e) ← scaled
  if !negative && exceedsDouble m e then Reader.fail

/-- Takes a floating-point number. -/
def float : Reader Value := do
  let cs ← Reader.taken (Reader.orElse finiteFloat specialFloat)
  return .float (String.ofList cs)

end GatewayRouting.Toml
