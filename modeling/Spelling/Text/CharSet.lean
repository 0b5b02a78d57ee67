/-!
# Sets of characters

A property of characters is kept as a table of code points.  `inRanges` reads a table of runs, both
ends included; `inStrides` reads a table of runs that take every `step`-th code point, which is how
the capitals of most alphabets lie between their small letters.
-/

namespace Spelling.Text

/-- Whether a character lies in one of the runs of a table. -/
def inRanges (table : List (Nat × Nat)) (c : Char) : Bool :=
  table.any fun r => r.1 ≤ c.toNat && c.toNat ≤ r.2

/-- Every `step`-th code point from `first` to `last`. -/
structure Stride where
  /-- First code point of the run -/
  first : Nat
  /-- Last code point of the run -/
  last : Nat
  /-- Distance between two code points of the run -/
  step : Nat

/-- Whether a character is one of the code points of a table of strides. -/
def inStrides (table : List Stride) (c : Char) : Bool :=
  table.any fun r => r.first ≤ c.toNat && c.toNat ≤ r.last && (c.toNat - r.first) % r.step == 0

end Spelling.Text
