/-!
# Edit distance

The number of insertions, deletions and substitutions of single characters that turn one text into
another, computed in two rows of cells.  Column `j` of a row stands for the first `j` characters of
the second text:

    previous    distances from what was read of the first text
    current     the row that is being filled, for one character more

A full row changes places with the previous one.  So the next row is filled over what is left of the
row before.
-/

namespace Spelling.Distance

/-- Fills the cells of a row after column `j`, where it meets characters of the second text.  `c` is
the last character read of the first one. -/
def fillEdits (c : Char) (previous : Array Nat) : Nat → List Char → Array Nat → Array Nat
  | _, [], current => current
  | j, d :: ds, current =>
    let substituted := previous.getD j 0 + if c = d then 0 else 1
    let here := min (min substituted (previous.getD (j + 1) 0 + 1)) (current.getD j 0 + 1)
    fillEdits c previous (j + 1) ds (current.setIfInBounds (j + 1) here)

/-- Distance to `target`, when `i` characters of the first text were read and some are left. -/
def editsFrom (target : List Char) : Nat → Array Nat → Array Nat → List Char → Nat
  | _, previous, _, [] => previous.getD target.length 0
  | i, previous, current, c :: cs =>
    let filled := fillEdits c previous 0 target (current.setIfInBounds 0 (i + 1))
    editsFrom target (i + 1) filled previous cs

/-- Edit distance between two lists of characters. -/
def edits (a b : List Char) : Nat :=
  editsFrom b 0 (Array.range (b.length + 1)) (Array.replicate (b.length + 1) 0) a

end Spelling.Distance

/-- Edit distance between two texts, counted in characters. -/
def Spelling.editDistance (a b : String) : Nat :=
  Spelling.Distance.edits a.toList b.toList
