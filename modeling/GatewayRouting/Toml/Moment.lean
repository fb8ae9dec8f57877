import GatewayRouting.Toml.Number

/-!
# TOML dates and times

Dates, times of day, and both together, with or without an offset. A date has to exist in the
calendar; a minute may have a second of number 60.
-/

namespace GatewayRouting.Toml

/-- Takes exactly `count` decimal digits that write a number from `lo` to `hi`. -/
def fixedDigits (count lo hi : Nat) : Reader Nat := fun cs =>
  let ds := cs.take count
  let n := Text.decimalNumber ds
  if ds.length = count ∧ ds.all Char.isDigit ∧ lo ≤ n ∧ n ≤ hi then some (n, cs.drop count)
  else none

/-- A year has a 29th of February. -/
def isLeapYear (year : Nat) : Bool :=
  year % 4 == 0 && (year % 100 != 0 || year % 400 == 0)

/-- The number of days of a month. -/
def daysOfMonth (year month : Nat) : Nat :=
  if month = 2 then (if isLeapYear year then 29 else 28)
  else if month = 4 ∨ month = 6 ∨ month = 9 ∨ month = 11 then 30
  else 31

/-- Takes a date. -/
def date : Reader Unit := do
  let year ← fixedDigits 4 0 9999
  Reader.char '-'
  let month ← fixedDigits 2 1 12
  Reader.char '-'
  let _ ← fixedDigits 2 1 (daysOfMonth year month)

/-- Takes a time of day. -/
def timeOfDay : Reader Unit := do
  let _ ← fixedDigits 2 0 23
  Reader.char ':'
  let _ ← fixedDigits 2 0 59
  Reader.char ':'
  let _ ← fixedDigits 2 0 60
  let _ ← Reader.optional (do
    Reader.char '.'
    let _ ← Reader.satisfy Char.isDigit
    let _ ← Reader.takeWhile Char.isDigit)

/-- Takes the offset of a time from universal time. -/
def offset : Reader Unit :=
  Reader.orElse
    (do let _ ← Reader.satisfy fun c => c == 'Z' || c == 'z')
    (do
      let _ ← Reader.satisfy fun c => c == '+' || c == '-'
      let _ ← fixedDigits 2 0 23
      Reader.char ':'
      let _ ← fixedDigits 2 0 59)

/-- Takes a time of day behind a date. -/
def timeAfterDate : Reader Unit := do
  let _ ← Reader.satisfy fun c => c == 'T' || c == 't' || c == ' '
  timeOfDay
  let _ ← Reader.optional offset

/-- Takes a date, a time of day, or both. -/
def moment : Reader Value := do
  let dated : Reader Unit := do
    date
    let _ ← Reader.optional timeAfterDate
  let cs ← Reader.taken (Reader.orElse dated timeOfDay)
  return .moment (String.ofList cs)

end GatewayRouting.Toml
