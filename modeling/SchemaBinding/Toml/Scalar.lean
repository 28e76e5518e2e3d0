import SchemaBinding.Toml.Quotation
import SchemaBinding.Toml.Value
import SchemaBinding.Decimal.Shortest

/-! # Numbers, booleans and dates
Digits may be grouped by single underscores. Integers have 64 bits. Floats are rounded to the
nearest one and may not exceed the largest. Dates and times have to exist. -/

namespace SchemaBinding.Toml

/-- Digits, with single underscores between them. -/
def digitGroup (isDigit : Char → Bool) : Scan (List Char) := do
  let first ← Scan.charOf isDigit
  let rest ← Scan.many do
    let _ ← Scan.optional (Scan.char '_')
    Scan.charOf isDigit
  return first :: rest

/-- A sign; whether it is a minus. -/
def sign : Scan Bool :=
  Scan.or (do Scan.char '-'; return true) <| Scan.or (do Scan.char '+'; return false) (pure false)

/-- The number that decimal digits stand for. -/
def decimalNumber (digits : List Char) : Nat :=
  digits.foldl (fun n c => 10 * n + (c.toNat - '0'.toNat)) 0

/-- Decimal digits without a leading zero. -/
def decimalDigits : Scan (List Char) := do
  match ← Scan.peek with
  | some '0' => do Scan.char '0'; return ['0']
  | _ => digitGroup Char.isDigit

/-- An integer of 64 bits. -/
def integer64 (n : Int) : Scan Value :=
  if -0x8000000000000000 ≤ n && n < 0x8000000000000000 then pure (.integer n) else failure

/-- A decimal integer. -/
def decimalInteger : Scan Value := do
  let negative ← sign
  let n := decimalNumber (← decimalDigits)
  integer64 (if negative then -(n : Int) else n)

/-- An integer in another base, behind its mark. -/
def basedInteger (mark : Char) (base : Nat) : Scan Value := do
  Scan.chars ['0', mark]
  let digits ← digitGroup fun c => (hexValue? c).any (· < base)
  integer64 (digits.foldl (fun n c => base * n + (hexValue? c).getD 0) 0 : Nat)

/-- The digits behind a decimal point. -/
def fractionDigits : Scan (List Char) := do
  Scan.char '.'
  digitGroup Char.isDigit

/-- The exponent of a float. -/
def exponent : Scan Int := do
  let _ ← Scan.charOf fun c => c == 'e' || c == 'E'
  let negative ← sign
  let n := decimalNumber (← digitGroup Char.isDigit)
  return if negative then -(n : Int) else n

/-- A float written in digits. -/
def digitFloat : Scan Value := do
  let negative ← sign
  let whole ← decimalDigits
  let fraction ← Scan.optional fractionDigits
  let power ← Scan.optional exponent
  if fraction.isNone && power.isNone then failure
  else
    let fraction := fraction.getD []
    let x := Decimal.nearestFloat negative (decimalNumber (whole ++ fraction))
      (power.getD 0 - fraction.length)
    if x == 1.0 / 0.0 then failure else return .float x

/-- Infinity, or the number that is none. -/
def specialFloat : Scan Value := do
  let negative ← sign
  let x ← Scan.or (do Scan.chars ['i', 'n', 'f']; return 1.0 / 0.0)
    (do Scan.chars ['n', 'a', 'n']; return 0.0 / 0.0)
  return .float (if negative then -x else x)

/-- A number of a given count of digits, within bounds. -/
def fixedNumber (count least most : Nat) : Scan Nat := do
  let n := decimalNumber (← Scan.exactly Char.isDigit count)
  if least ≤ n && n ≤ most then return n else failure

/-- Whether a year has a leap day. -/
def isLeapYear (year : Nat) : Bool :=
  year % 4 == 0 && (year % 100 != 0 || year % 400 == 0)

/-- The number of days of a month. -/
def daysOfMonth (year month : Nat) : Nat :=
  if month = 2 then if isLeapYear year then 29 else 28
  else if month = 4 || month = 6 || month = 9 || month = 11 then 30
  else 31

/-- A date. -/
def date : Scan Unit := do
  let year ← fixedNumber 4 0 9999
  Scan.char '-'
  let month ← fixedNumber 2 1 12
  Scan.char '-'
  let day ← fixedNumber 2 1 31
  if daysOfMonth year month < day then failure

/-- A time of day; a minute may have a leap second. -/
def time : Scan Unit := do
  let _ ← fixedNumber 2 0 23
  Scan.char ':'
  let _ ← fixedNumber 2 0 59
  Scan.char ':'
  let _ ← fixedNumber 2 0 60
  let _ ← Scan.optional do
    Scan.char '.'
    Scan.span1 Char.isDigit

/-- The offset of a time. -/
def timeOffset : Scan Unit :=
  Scan.or (do let _ ← Scan.charOf fun c => c == 'Z' || c == 'z') do
    let _ ← Scan.charOf fun c => c == '+' || c == '-'
    let _ ← fixedNumber 2 0 23
    Scan.char ':'
    let _ ← fixedNumber 2 0 59

/-- A date, a time, or a date and a time. -/
def datetime : Scan Value := do
  Scan.or
    (do
      date
      let _ ← Scan.optional do
        let _ ← Scan.charOf fun c => c == 'T' || c == 't' || c == ' '
        time
        Scan.optional timeOffset)
    time
  return .datetime

/-- `true` or `false`. -/
def boolean : Scan Value :=
  Scan.or (do Scan.chars ['t', 'r', 'u', 'e']; return .boolean true)
    (do Scan.chars ['f', 'a', 'l', 's', 'e']; return .boolean false)

/-- A value without parts. -/
def scalar : Scan Value :=
  Scan.or (do return .string (← anyString)) <|
  Scan.or boolean <| Scan.or datetime <| Scan.or digitFloat <| Scan.or specialFloat <|
  Scan.or (basedInteger 'x' 16) <| Scan.or (basedInteger 'o' 8) <|
  Scan.or (basedInteger 'b' 2) decimalInteger

end SchemaBinding.Toml
