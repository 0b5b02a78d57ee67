import Spelling.Distance.Alignment

/-!
# Alignment in place

The same least cost, computed in three rows of cells that serve one comparison after another:

    before      the row of two characters ago, which a swap goes back to
    previous    the row of the character before
    current     the row that is being filled, one cell after another

A comparison empties the rows first and makes them as wide as its candidate needs.  After each
typed character they change places: the row just filled is the previous one, and the row of two
characters ago is filled over next.
-/

namespace Spelling.Distance

/-- Three rows of cells. -/
structure Rows (α : Type) where
  before : Array α := #[]
  previous : Array α := #[]
  current : Array α := #[]

namespace CostScale

variable {α : Type} (scale : CostScale α)

/-- The cell in a column of a row. -/
def read (row : Array α) (column : Nat) : α :=
  row.getD column (scale.whole 0)

/-- A row emptied, and then filled up with zeros to some width. -/
def blank (width : Nat) (row : Array α) : Array α :=
  row.take 0 ++ Array.replicate width (scale.whole 0)

/-- Fills the cells of a row after column `j`, where it meets the candidate's characters after `c'`.
The row is that of typed character `t`, coming after `t'`. -/
def fill (replace : Char → Char → α) (t' : Option Char) (t : Char) (before previous : Array α) :
    Nat → Option Char → List Char → Array α → Array α
  | _, _, [], current => current
  | j, c', c :: cs, current =>
    let here := scale.cell replace t' t c' c (scale.read previous j) (scale.read previous (j + 1))
      (scale.read current j) (c'.map fun _ => scale.read before (j - 1))
    fill replace t' t before previous (j + 1) (some c) cs (current.setIfInBounds (j + 1) here)

end CostScale

namespace Rows

variable {α : Type} (scale : CostScale α)

/-- The rows of a comparison before its first character. -/
def start (width : Nat) (rows : Rows α) : Rows α where
  before := scale.blank width rows.before
  previous := (scale.blank width rows.previous).mapIdx fun j _ => scale.whole j
  current := scale.blank width rows.current

/-- The current row, filled for the first `i + 1` typed characters, `t` being the last of them. -/
def refilled (replace : Char → Char → α) (candidate : List Char) (i : Nat) (t' : Option Char)
    (t : Char) (rows : Rows α) : Array α :=
  scale.fill replace t' t rows.before rows.previous 0 none candidate
    (rows.current.setIfInBounds 0 (scale.whole (i + 1)))

/-- Cost of the typed characters from place `i` on, given the rows before them, and the rows after
them. -/
def alignFrom (limit : α) (replace : Nat → Char → Char → α) (candidate : List Char) :
    Nat → Option Char → Rows α → List Char → Option α × Rows α
  | _, _, rows, [] =>
    let cost := scale.read rows.previous candidate.length
    (if scale.within cost limit then some cost else none, rows)
  | i, t', rows, t :: ts =>
    let current := rows.refilled scale (replace i) candidate i t' t
    if scale.beyond limit current.toList then (none, { rows with current })
    else alignFrom limit replace candidate (i + 1) (some t) ⟨rows.previous, current, rows.before⟩ ts

/-- The least cost of aligning a typed word with a candidate, if it is within the limit, and the
rows as the comparison leaves them. -/
def compare (limit : α) (replace : Nat → Char → Char → α) (typed candidate : List Char)
    (rows : Rows α) : Option α × Rows α :=
  alignFrom scale limit replace candidate 0 none (rows.start scale (candidate.length + 1)) typed

/-- The least cost of aligning a typed word with a candidate, if it is within the limit. -/
def align (limit : α) (replace : Nat → Char → Char → α) (typed candidate : List Char)
    (rows : Rows α) : Option α :=
  (rows.compare scale limit replace typed candidate).1

end Rows

end Spelling.Distance
