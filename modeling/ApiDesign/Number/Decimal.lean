import ApiDesign.Number.Binary64

/-!
Contract: the decimal text of a double-precision number.

Two parts. `shortest` finds the fewest decimal digits that still read back as the number: it widens the grid of
decimals digit by digit and takes the first grid that has a point in the interval of reals which round to the
number, of two such points the nearer. `Binary64.text` is the notation of those digits: positional from one
ten-thousandth up to ten to the sixteenth, with at least one digit after the point; scientific elsewhere.
-/

namespace ApiDesign

/-- A positive fraction of whole numbers. -/
structure Ratio where
  numerator : Nat
  denominator : Nat
deriving DecidableEq, Repr

/-- `factor * base ^ exponent`, with a negative exponent in the denominator. -/
def Ratio.scaled (factor base : Nat) (exponent : Int) : Ratio :=
  if 0 ≤ exponent then ⟨factor * base.pow exponent.toNat, 1⟩ else ⟨factor, base.pow (-exponent).toNat⟩

/-- How many decimal digits a whole number has; zero has one. -/
def digitCount (number : Nat) : Nat := (Nat.toDigits 10 number).length

/-- The exponent of the largest power of ten that is not above the fraction. -/
def Ratio.decimalExponent (value : Ratio) : Int :=
  if value.denominator ≤ value.numerator then
    (digitCount (value.numerator / value.denominator) : Int) - 1
  else
    -(digitCount ((value.denominator + value.numerator - 1) / value.numerator - 1) : Int)

/-- The decimal digits of a number: a whole number of units `10 ^ exponent`. -/
structure Decimal where
  digits : Nat
  exponent : Int
deriving DecidableEq, Repr

namespace Decimal

/-- The reals that round to `significand * 2 ^ exponent`, in quarters of a unit: four units less half of the gap
below, which is narrower under a power of two, up to four units plus half of the gap above. The ends belong to the
interval when the significand is even. -/
structure Interval where
  significand : Nat
  exponent : Int
deriving DecidableEq, Repr

/-- The lower end in quarters of a unit. -/
def Interval.low (interval : Interval) : Nat :=
  if interval.significand = Nat.pow 2 52 ∧ -1074 < interval.exponent then 4 * interval.significand - 1
  else 4 * interval.significand - 2

/-- The upper end in quarters of a unit. -/
def Interval.high (interval : Interval) : Nat := 4 * interval.significand + 2

/-- Whether `units * 10 ^ power` lies in the interval. -/
def Interval.holds (interval : Interval) (units : Nat) (power : Int) : Bool :=
  let point := Ratio.scaled units 10 power
  let quarter := Ratio.scaled 1 2 (interval.exponent - 2)
  let scaledPoint := point.numerator * quarter.denominator
  let scaledLow := interval.low * quarter.numerator * point.denominator
  let scaledHigh := interval.high * quarter.numerator * point.denominator
  if interval.significand % 2 = 0 then scaledLow ≤ scaledPoint && scaledPoint ≤ scaledHigh
  else scaledLow < scaledPoint && scaledPoint < scaledHigh

/-- The point of the grid of `count` digits that reads back, if there is one: of the two neighbours of the value the
one in the interval, of both the nearer, of two equally near the upper. -/
def onGrid? (interval : Interval) (count : Nat) : Option Decimal :=
  let value := Ratio.scaled interval.significand 2 interval.exponent
  let power := value.decimalExponent - (count : Int) + 1
  let grid := Ratio.scaled 1 10 power
  let numerator := value.numerator * grid.denominator
  let denominator := value.denominator * grid.numerator
  let below := numerator / denominator
  let remainder := numerator % denominator
  match interval.holds below power && below != 0, interval.holds (below + 1) power with
  | true, true => some ⟨if 2 * remainder < denominator then below else below + 1, power⟩
  | true, false => some ⟨below, power⟩
  | false, true => some ⟨below + 1, power⟩
  | false, false => none

/-- The fewest digits that read back. Seventeen digits always do. -/
def shortest (interval : Interval) : Decimal :=
  ((List.range 17).findSome? fun index => onGrid? interval (index + 1)).getD ⟨0, 0⟩

/-- Digits without the zeros at their end. -/
def significantDigits (digits : Nat) : List Char :=
  ((Nat.toDigits 10 digits).reverse.dropWhile (· = '0')).reverse

/-- The least power of ten whose multiples are written positionally. -/
def lowestPositional : Int := -4

/-- The least power of ten that is written scientifically again. -/
def lowestScientific : Int := 16

/-- The notation of digits whose first one stands at the power `leading`. -/
def spell (digits : List Char) (leading : Int) : List Char :=
  if lowestPositional ≤ leading ∧ leading < lowestScientific then
    if 0 ≤ leading then
      let whole := leading.toNat + 1
      let fraction := digits.drop whole
      digits.take whole ++ List.replicate (whole - digits.length) '0' ++
        '.' :: (if fraction.isEmpty then ['0'] else fraction)
    else
      '0' :: '.' :: (List.replicate ((-leading).toNat - 1) '0' ++ digits)
  else
    let fraction := digits.drop 1
    digits.take 1 ++ (if fraction.isEmpty then [] else '.' :: fraction) ++ 'e' :: (toString leading).toList

/-- The notation of a decimal. -/
def chars (decimal : Decimal) : List Char :=
  let leading := decimal.exponent + (digitCount decimal.digits : Int) - 1
  spell (significantDigits decimal.digits) leading

end Decimal

namespace Binary64

/-- The text of a magnitude that is not a NaN. -/
def magnitudeChars (magnitude : Nat) : List Char :=
  if magnitude = infinityMagnitude then "inf".toList
  else if magnitude = 0 then "0.0".toList
  else
    let (significand, exponent) := decompose magnitude
    (Decimal.shortest ⟨significand, exponent⟩).chars

/-- The decimal text: the fewest digits that read back, and a name for what is not finite. -/
def text (number : Binary64) : String :=
  if number.isNaN then "NaN"
  else String.ofList ((if number.isNegative then ['-'] else []) ++ magnitudeChars number.magnitude)

end Binary64

end ApiDesign
