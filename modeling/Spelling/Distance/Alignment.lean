/-!
# Weighted alignment distance

The least cost of aligning a typed word with a candidate.  Inserting a character, leaving one out
and swapping two neighbours cost one each; equal characters cost nothing; replacing the character at
some place of the typed word by another costs what `replace` says.  No character is edited twice.

Only costs up to a limit matter.  When every cell of a row is beyond the limit the distance is too,
and the rows below are not computed.

The costs may live in any arithmetic.  The speller computes in single precision; with exact
arithmetic the same definition can be compared with the mathematical distance.
-/

namespace Spelling.Distance

/-- The arithmetic that costs are computed in. -/
structure CostScale (α : Type) where
  /-- A whole number of edits -/
  whole : Nat → α
  add : α → α → α
  /-- The lesser of two costs -/
  least : α → α → α
  /-- Whether the first cost is greater than the second -/
  exceeds : α → α → Bool
  /-- Whether the first cost is at most the second -/
  within : α → α → Bool

namespace CostScale

/-- Costs in single precision.  The lesser of a cost and no number is the cost. -/
def single : CostScale Float32 where
  whole := Float32.ofNat
  add := (· + ·)
  least a b := if a < b then a else if b.isNaN then a else b
  exceeds a b := b < a
  within a b := a ≤ b

variable {α : Type} (scale : CostScale α)

/-- One edit more. -/
def succ (cost : α) : α :=
  scale.add cost (scale.whole 1)

/-- The cell at which typed character `t`, coming after `t'`, meets candidate character `c`, coming
after `c'`.  `swapped` is the cell two rows up and two columns back, if there is one. -/
def cell (replace : Char → Char → α) (t' : Option Char) (t : Char) (c' : Option Char) (c : Char)
    (diagonal up left : α) (swapped : Option α) : α :=
  let replaced := scale.add diagonal (if t = c then scale.whole 0 else replace t c)
  let cost := scale.least (scale.least replaced (scale.succ up)) (scale.succ left)
  match swapped with
  | some before => if c' = some t ∧ t' = some c then scale.least cost (scale.succ before) else cost
  | none => cost

/-- The cells of a row after its first one.  `above` is the row above from the column of `left` on,
and `higher` the row above that from one column before, empty in the first column. -/
def cells (replace : Char → Char → α) (t' : Option Char) (t : Char) :
    Option Char → List α → List α → α → List Char → List α
  | c', higher, diagonal :: up :: above, left, c :: cs =>
    let here := scale.cell replace t' t c' c diagonal up left (c'.bind fun _ => higher.head?)
    here :: cells replace t' t (some c) (if c'.isSome then higher.tail else higher)
      (up :: above) here cs
  | _, _, _, _, _ => []

/-- The row of the first `i + 1` typed characters, `t` being the last of them. -/
def row (replace : Char → Char → α) (candidate : List Char) (i : Nat) (t' : Option Char) (t : Char)
    (higher above : List α) : List α :=
  let first := scale.whole (i + 1)
  first :: scale.cells replace t' t none higher above first candidate

/-- Whether every cell of a row is beyond the limit. -/
def beyond (limit : α) : List α → Bool
  | [] => false
  | first :: rest => scale.exceeds (rest.foldl scale.least first) limit

/-- Cost of the typed characters from place `i` on, given the two rows before them. -/
def alignFrom (limit : α) (replace : Nat → Char → Char → α) (candidate : List Char) :
    Nat → Option Char → List α → List α → List Char → Option α
  | _, _, _, above, [] =>
    above.getLast?.bind fun cost => if scale.within cost limit then some cost else none
  | i, t', higher, above, t :: ts =>
    let here := scale.row (replace i) candidate i t' t higher above
    if scale.beyond limit here then none
    else alignFrom limit replace candidate (i + 1) (some t) above here ts

/-- The least cost of aligning a typed word with a candidate, if it is within the limit. -/
def align (limit : α) (replace : Nat → Char → Char → α) (typed candidate : List Char) : Option α :=
  scale.alignFrom limit replace candidate 0 none [] ((List.range (candidate.length + 1)).map
    scale.whole) typed

end CostScale

end Spelling.Distance
