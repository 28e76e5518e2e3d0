/-! # The shortest decimal of a float
A binary floating-point number is written with the fewest decimal digits that read back as the same
number, and among those with the ones nearest to it. The search runs in exact arithmetic on the
number's significand and exponent. -/

namespace SchemaBinding.Decimal

/-- A finite positive float as an interval around `significand * 2 ^ exponent`: the numbers that
round to it. -/
structure Binary where
  significand : Nat
  exponent : Int
  /-- Whether the next smaller float is only half as far away as the next larger one. -/
  narrowBelow : Bool
  deriving DecidableEq, Repr

/-- A fraction of natural numbers. -/
structure Fraction where
  num : Nat
  den : Nat
  deriving DecidableEq, Repr

/-- `n * base ^ e` as a fraction. -/
def scaled (n base : Nat) (e : Int) : Fraction :=
  if 0 ≤ e then ⟨n * base.pow e.toNat, 1⟩ else ⟨n, base.pow (-e).toNat⟩

/-- The order of fractions. -/
def Fraction.le (a b : Fraction) : Bool := a.num * b.den ≤ b.num * a.den

/-- The strict order of fractions. -/
def Fraction.lt (a b : Fraction) : Bool := a.num * b.den < b.num * a.den

namespace Binary

/-- The float itself. -/
def value (b : Binary) : Fraction := scaled (4 * b.significand) 2 (b.exponent - 2)

/-- The midpoint to the next smaller float. -/
def lower (b : Binary) : Fraction :=
  scaled (4 * b.significand - if b.narrowBelow then 1 else 2) 2 (b.exponent - 2)

/-- The midpoint to the next larger float. -/
def upper (b : Binary) : Fraction := scaled (4 * b.significand + 2) 2 (b.exponent - 2)

/-- Whether a fraction rounds to the float. The midpoints do if the significand is even. -/
def roundsTo (b : Binary) (x : Fraction) : Bool :=
  if b.significand % 2 = 0 then b.lower.le x && x.le b.upper
  else b.lower.lt x && x.lt b.upper

/-- The number of digits before the decimal point, negative for leading zeros behind it: the least
`k` from `start` on with a value below `10 ^ k`, at most `steps` later. -/
def magnitudeFrom (b : Binary) : Nat → Int → Int
  | 0, k => k
  | steps + 1, k => if b.value.lt (scaled 1 10 k) then k else b.magnitudeFrom steps (k + 1)

/-- The float lies between `10 ^ (magnitude - 1)` and `10 ^ magnitude`. -/
def magnitude (b : Binary) : Int := b.magnitudeFrom 640 (-330)

/-- The decimal on the grid of `10 ^ e` that is nearest to the float among those that round to it.
Of two that are equally near it is the larger one. -/
def nearest? (b : Binary) (e : Int) : Option Nat :=
  let v := b.value
  let unit := scaled 1 10 e
  let below := v.num * unit.den / (v.den * unit.num)
  let at? (d : Nat) : Bool := b.roundsTo (scaled d 10 e)
  if at? below then
    if at? (below + 1) then
      let twice := scaled (2 * below + 1) 10 e
      let double : Fraction := ⟨2 * v.num, v.den⟩
      if double.lt twice then some below else some (below + 1)
    else some below
  else if at? (below + 1) then some (below + 1)
  else none

/-- The shortest decimal `digits * 10 ^ e` of at least `n` digits, trying `steps` lengths. One digit
may round up to ten, which is one digit again. -/
def shortestFrom (b : Binary) (magnitude : Int) : Nat → Nat → Nat × Int
  | 0, _ => (b.significand, b.exponent)
  | steps + 1, n =>
    let e := magnitude - n
    match b.nearest? e with
    | some d => if d % 10 = 0 then (d / 10, e + 1) else (d, e)
    | none => b.shortestFrom magnitude steps (n + 1)

/-- The shortest decimal `digits * 10 ^ e` that rounds to the float. -/
def shortest (b : Binary) : Nat × Int := b.shortestFrom b.magnitude 17 1

end Binary

/-- A decimal `digits * 10 ^ e` written without an exponent and with at least one digit on either
side of the point. -/
def plainText (digits : Nat) (e : Int) : String :=
  let ds := (Nat.toDigits 10 digits)
  if 0 ≤ e then String.ofList (ds ++ List.replicate e.toNat '0') ++ ".0"
  else
    let places := (-e).toNat
    let padded := List.replicate (places + 1 - ds.length) '0' ++ ds
    String.ofList (padded.take (padded.length - places)) ++ "."
      ++ String.ofList (padded.drop (padded.length - places))

/-- The leading bit of a significand, which a float leaves out: `2 ^ 52`. -/
def impliedBit : Nat := 0x10000000000000

/-- The parts of a float: its sign, its biased exponent and its fraction. -/
def floatParts (x : Float) : Bool × Nat × Nat :=
  let bits := x.toBits.toNat
  (bits / 0x8000000000000000 = 1, bits / impliedBit % 0x800, bits % impliedBit)

/-- The text of a float: the shortest decimal that reads back, positional, with a point. -/
def floatText (x : Float) : String :=
  let (negative, biased, fraction) := floatParts x
  let sign := if negative then "-" else ""
  if biased = 2047 then
    if fraction = 0 then sign ++ "inf" else "NaN"
  else if biased = 0 && fraction = 0 then sign ++ "0.0"
  else
    let b : Binary :=
      if biased = 0 then ⟨fraction, -1074, false⟩
      else ⟨fraction + impliedBit, (biased : Int) - 1075, fraction = 0 && biased ≠ 1⟩
    let (digits, e) := b.shortest
    sign ++ plainText digits e

/-- The float nearest to `digits * 10 ^ e`, infinite beyond the range of floats. -/
def nearestFloat (negative : Bool) (digits : Nat) (e : Int) : Float :=
  let length := (Nat.toDigits 10 digits).length
  let size :=
    if digits = 0 || e + length < -330 then 0.0
    else if 330 < e + length then 1.0 / 0.0
    else Float.ofScientific digits (e < 0) e.natAbs
  if negative then -size else size

end SchemaBinding.Decimal
