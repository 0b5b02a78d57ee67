/-!
# Room

Some tables and lists are laid out in full when they are made, and one that could never fit breaks
off its making:

    a table     has a power of two of places, of which at most seven in eight are taken;
                it fits with at most 2^58 places
    a list      holds its elements side by side, each with the same number of bytes;
                it fits in fewer than 2^63 bytes

What happens to one that would fit, but not here and now, is no matter of this library.
-/

namespace Spelling

/-- Why something could never be laid out. -/
inductive Overflow where
  /-- A table would have too many places -/
  | table
  /-- A list would have too many bytes -/
  | list
  deriving DecidableEq, Repr

/-- What is said about something that could never be laid out. -/
def Overflow.message : Overflow → String
  | table => "Hash table capacity overflow"
  | list => "capacity overflow"

/-- Most places that a table has. -/
def placeLimit : Nat := 1 <<< 58

/-- Most bytes that a list has. -/
def byteLimit : Nat := 1 <<< 63 - 1

/-- Lays out a table for some entries. -/
def layTable (entries : Nat) : Except Overflow Unit :=
  if 8 * entries / 7 ≤ placeLimit then .ok () else .error .table

/-- Lays out a list of some elements. -/
def layList (elements bytes : Nat) : Except Overflow Unit :=
  if elements * bytes ≤ byteLimit then .ok () else .error .list

/-- A table fits exactly if its entries take at most seven in eight of the most places. -/
theorem layTable_eq_ok_iff {entries : Nat} :
    layTable entries = .ok () ↔ entries ≤ 7 * (placeLimit / 8) := by
  unfold layTable placeLimit
  split <;> simp <;> omega

/-- What fits as a list also fits with fewer elements. -/
theorem layList_of_le {m n bytes : Nat} (h : m ≤ n) (fits : layList n bytes = .ok ()) :
    layList m bytes = .ok () := by
  unfold layList at *
  have := Nat.mul_le_mul_right bytes h
  split at fits
  · rw [if_pos (by omega)]
  · simp at fits

end Spelling
