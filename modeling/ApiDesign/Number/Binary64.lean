/-!
Contract: double-precision numbers as their 64 bits.

A number is its bit pattern, so two numbers are the same number exactly when their bits agree: the zeros of both
signs differ, and so do two NaNs with different payloads. The rank orders all patterns, NaNs outermost on the side
of their sign. Comparison as a number (`sameNumber`) is the other equality, used for bounds.

Does not own: the decimal notation (`Number.Decimal`).
-/

namespace ApiDesign

/-- A double-precision number, given by its bits: sign, eleven bits of exponent, fifty-two of fraction. -/
structure Binary64 where
  bits : UInt64
deriving DecidableEq, Repr

namespace Binary64

/-- The pattern without the sign. -/
def magnitude (number : Binary64) : Nat := number.bits.toNat % Nat.pow 2 63

/-- Whether the sign bit is set. -/
def isNegative (number : Binary64) : Bool := Nat.pow 2 63 ≤ number.bits.toNat

/-- The pattern of infinity without the sign; every larger magnitude is a NaN. -/
def infinityMagnitude : Nat := 0x7ff * Nat.pow 2 52

/-- Whether the pattern stands for no number. -/
def isNaN (number : Binary64) : Bool := infinityMagnitude < number.magnitude

/-- The place in the total order of all patterns. Below zero a larger magnitude stands further down, and the negative
zero stands below the positive one. -/
def rank (number : Binary64) : Int :=
  if number.isNegative then -(number.magnitude : Int) - 1 else number.magnitude

/-- The total order of all patterns. -/
def compare (left right : Binary64) : Ordering := Ord.compare left.rank right.rank

/-- Whether two patterns stand for the same number: a NaN for none, the zeros of both signs for one. -/
def sameNumber (left right : Binary64) : Bool :=
  !left.isNaN && !right.isNaN && (left == right || (left.magnitude == 0 && right.magnitude == 0))

/-- The pattern with a sign and a magnitude. -/
def ofMagnitude (negative : Bool) (magnitude : Nat) : Binary64 :=
  ⟨UInt64.ofNat ((if negative then Nat.pow 2 63 else 0) + magnitude)⟩

/-- The magnitude of a positive whole number below 2^64, rounded to nearest, ties to the even neighbour. A carry out
of the fraction raises the exponent by itself. -/
def magnitudeOfNat (number : Nat) : Nat :=
  if number = 0 then 0
  else
    let exponent := Nat.log2 number
    let significand :=
      if exponent ≤ 52 then number * Nat.pow 2 (52 - exponent)
      else
        let unit := Nat.pow 2 (exponent - 52)
        let quotient := number / unit
        let twice := 2 * (number % unit)
        if unit < twice || (twice = unit && quotient % 2 = 1) then quotient + 1 else quotient
    (exponent + 1023) * Nat.pow 2 52 + (significand - Nat.pow 2 52)

/-- The number nearest to an integer. -/
def ofInt (number : Int) : Binary64 :=
  ofMagnitude (number < 0) (magnitudeOfNat number.natAbs)

/-- The number with the value of a single-precision pattern. Every such value is a double-precision one. -/
def ofBinary32 (bits : UInt32) : Binary64 :=
  let exponent := bits.toNat / Nat.pow 2 23 % Nat.pow 2 8
  let fraction := bits.toNat % Nat.pow 2 23
  let magnitude :=
    if exponent = 0xff then infinityMagnitude + fraction * Nat.pow 2 29
    else if exponent ≠ 0 then (exponent + 896) * Nat.pow 2 52 + fraction * Nat.pow 2 29
    else if fraction = 0 then 0
    else
      let leading := Nat.log2 fraction
      (leading + 874) * Nat.pow 2 52 + (fraction * Nat.pow 2 (52 - leading) - Nat.pow 2 52)
  ofMagnitude (Nat.pow 2 31 ≤ bits.toNat) magnitude

/-- A finite magnitude as `significand * 2 ^ exponent`. -/
def decompose (magnitude : Nat) : Nat × Int :=
  let exponent : Nat := magnitude / Nat.pow 2 52
  let fraction := magnitude % Nat.pow 2 52
  if exponent = 0 then (fraction, -1074) else (Nat.pow 2 52 + fraction, (exponent : Int) - 1075)

end Binary64

end ApiDesign
