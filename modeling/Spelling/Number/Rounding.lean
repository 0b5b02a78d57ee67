/-!
# Rounding to binary floating point

The nearest binary floating-point number to a fraction, ties to the even neighbour, in exact integer
arithmetic.  A format is given by how many bits its significands have and the exponent of its least
positive number.  The encodings of the nonnegative numbers of a format count up from zero in their
order, which makes the carry into the next exponent, the step from subnormal to normal numbers and
the step to infinity the same addition.
-/

namespace Spelling.Number

/-- A binary floating-point format. -/
structure BinaryFormat where
  /-- Bits of a significand, the leading one included -/
  precision : Nat
  /-- The least positive number is two to the power of minus this -/
  depth : Nat
  /-- Encoding of positive infinity -/
  infinity : Nat
  /-- Encoding of the sign -/
  sign : Nat

/-- Single precision. -/
def single : BinaryFormat := ⟨24, 149, 0x7F800000, 0x80000000⟩

/-- Double precision. -/
def double : BinaryFormat := ⟨53, 1074, 0x7FF0000000000000, 0x8000000000000000⟩

/-- The nearest natural number to a fraction, a half going to the even neighbour. -/
def roundHalfEven (numerator denominator : Nat) : Nat :=
  let q := numerator / denominator
  let r := numerator % denominator
  if 2 * r < denominator then q
  else if denominator < 2 * r then q + 1
  else if q % 2 = 0 then q
  else q + 1

/-- A fraction multiplied by two to an integer power. -/
def scale (numerator denominator : Nat) (power : Int) : Nat × Nat :=
  if 0 ≤ power then (numerator <<< power.toNat, denominator)
  else (numerator, denominator <<< (-power).toNat)

/-- The integer `e` with `2 ^ e ≤ numerator / denominator < 2 ^ (e + 1)`. -/
def binaryExponent (numerator denominator : Nat) : Int :=
  let guess := (numerator.log2 : Int) - (denominator.log2 : Int)
  let (n, d) := scale numerator denominator (-guess)
  if n < d then guess - 1 else guess

/-- Encoding of the number of a format that is nearest to a fraction. -/
def BinaryFormat.encodeFraction (f : BinaryFormat) (numerator denominator : Nat) : Nat :=
  if numerator = 0 then 0
  else
    let unit := max (binaryExponent numerator denominator - (f.precision - 1 : Nat)) (-f.depth)
    let (n, d) := scale numerator denominator (-unit)
    let bits := (unit + f.depth).toNat <<< (f.precision - 1) + roundHalfEven n d
    min bits f.infinity

/-- Encoding of the number nearest to `digits` times ten to the power of `exponent`.  Powers so
large that no format in use holds them are cut off before they are computed. -/
def BinaryFormat.encodeDecimal (f : BinaryFormat) (digits : Nat) (exponent : Int) : Nat :=
  let size := (digits.log2 : Int) + 1
  if digits = 0 then 0
  else if 400 < exponent then f.infinity
  else if exponent < -400 - size then 0
  else if 0 ≤ exponent then f.encodeFraction (digits * Nat.pow 10 exponent.toNat) 1
  else f.encodeFraction digits (Nat.pow 10 (-exponent).toNat)

end Spelling.Number
