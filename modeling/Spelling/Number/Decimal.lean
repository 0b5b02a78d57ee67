import Spelling.Number.Rounding

/-!
# Numbers written in decimal

The two forms in which settings are written.

    natural    an optional plus sign and decimal digits
    real       an optional sign, then `inf`, `infinity` or `nan` in any case, or
               digits with at most one point and at least one digit, then an optional exponent,
               which is `e` or `E`, an optional sign and digits
-/

namespace Spelling.Number

/-- Digits taken as one number, read on from `n`. -/
def natFrom (n : Nat) (digits : List Char) : Nat :=
  digits.foldl (fun n c => 10 * n + (c.toNat - '0'.toNat)) n

/-- The number that a nonempty run of decimal digits writes. -/
def nat? (digits : List Char) : Option Nat :=
  if !digits.isEmpty && digits.all Char.isDigit then some (natFrom 0 digits) else none

/-- The text without the plus sign it may start with. -/
def withoutPlus : List Char → List Char
  | '+' :: rest => rest
  | cs => cs

/-- A natural number below `bound`, with an optional plus sign. -/
def natBelow? (bound : Nat) (text : String) : Option Nat :=
  (nat? (withoutPlus text.toList)).filter (· < bound)

/-- Whether a text is negative, and the text after its sign. -/
def splitSign : List Char → Bool × List Char
  | '-' :: rest => (true, rest)
  | '+' :: rest => (false, rest)
  | cs => (false, cs)

/-- A run of digits that may be empty, and what follows it. -/
def spanDigits (cs : List Char) : List Char × List Char :=
  (cs.takeWhile Char.isDigit, cs.dropWhile Char.isDigit)

/-- The exponent at the end of a real number. -/
def exponent? : List Char → Option Int
  | [] => some 0
  | e :: rest =>
    if e = 'e' ∨ e = 'E' then
      let (negative, digits) := splitSign rest
      (nat? digits).map fun n => if negative then -(n : Int) else n
    else none

/-- The digits of a real number and the power of ten they are multiplied by. -/
def decimal? (cs : List Char) : Option (Nat × Int) :=
  let (whole, rest) := spanDigits cs
  let (fraction, rest) := match rest with
    | '.' :: rest => spanDigits rest
    | rest => ([], rest)
  if whole.isEmpty && fraction.isEmpty then none
  else (exponent? rest).map fun e => (natFrom 0 (whole ++ fraction), e - fraction.length)

/-- Encoding in single precision of the real number that a text writes. -/
def singleBits? (text : String) : Option Nat :=
  let (negative, rest) := splitSign text.toList
  let sign := if negative then single.sign else 0
  let name := rest.map Char.toLower
  if name = "inf".toList ∨ name = "infinity".toList then some (sign + single.infinity)
  else if name = "nan".toList then some (sign + single.infinity + 1)
  else (decimal? rest).map fun (digits, e) => sign + single.encodeDecimal digits e

/-- The real number that a text writes, in single precision. -/
def single? (text : String) : Option Float32 :=
  (singleBits? text).map fun bits => Float32.ofBits (UInt32.ofNat bits)

end Spelling.Number
