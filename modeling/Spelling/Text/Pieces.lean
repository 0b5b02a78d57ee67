/-!
# Pieces

A text is parted at some of its characters, each of which ends one piece and starts the next; a
piece may be empty.
-/

namespace Spelling.Text

/-- The pieces of a text between separators, one more than there are separators. -/
def pieces (isSeparator : Char → Bool) : List Char → List (List Char)
  | [] => [[]]
  | c :: rest =>
    if isSeparator c then [] :: pieces isSeparator rest
    else match pieces isSeparator rest with
      | [] => [[c]]
      | p :: ps => (c :: p) :: ps

/-- A text has at least one piece. -/
theorem pieces_ne_nil (isSeparator : Char → Bool) (cs : List Char) :
    pieces isSeparator cs ≠ [] := by
  induction cs with
  | nil => simp [pieces]
  | cons c rest ih =>
    unfold pieces
    split
    · simp
    · split <;> simp

/-- There is one piece more than there are separators. -/
theorem length_pieces (isSeparator : Char → Bool) (cs : List Char) :
    (pieces isSeparator cs).length = cs.countP isSeparator + 1 := by
  induction cs with
  | nil => rfl
  | cons c rest ih =>
    unfold pieces
    split
    · simp_all
    · split <;> simp_all

/-- The pieces of a text at a character. -/
def splitAt (separator : Char) (text : String) : List String :=
  (pieces (· == separator) text.toList).map String.ofList

end Spelling.Text
