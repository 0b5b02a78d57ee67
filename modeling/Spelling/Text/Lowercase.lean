import Spelling.Text.CaseMap
import Spelling.Text.Cased

/-!
# Lowercasing a text

Each character is lowercased on its own, except the Greek capital sigma.  A sigma that ends a word
becomes `ς` and any other `σ`.  It ends a word when a cased character comes before it and none
comes after it, with case-ignorable characters looked through on both sides.
-/

namespace Spelling.Text

/-- Whether the first character that is not case-ignorable is cased. -/
def meetsCased (cs : List Char) : Bool :=
  match cs.dropWhile isCaseIgnorable with
  | [] => false
  | c :: _ => isCased c

/-- The lowercase of a character between the text before it, nearest first, and the text after. -/
def lowerBetween (before : List Char) (c : Char) (after : List Char) : List Char :=
  if c = 'Σ' then
    if meetsCased before && !meetsCased after then ['ς'] else ['σ']
  else lowerChar c

/-- The lowercase of a text that follows `before`, whose nearest character comes first. -/
def lowerAfter (before : List Char) : List Char → List Char
  | [] => []
  | c :: rest => lowerBetween before c rest ++ lowerAfter (c :: before) rest

/-- The lowercase of a text. -/
def lowerChars (cs : List Char) : List Char :=
  lowerAfter [] cs

/-- Away from capital sigmas the context plays no part. -/
theorem lowerBetween_of_ne {c : Char} (h : c ≠ 'Σ') (before after : List Char) :
    lowerBetween before c after = lowerChar c := by
  simp [lowerBetween, h]

/-- A text without capital sigma is lowercased character by character. -/
theorem lowerAfter_eq_flatMap {cs : List Char} (h : 'Σ' ∉ cs) (before : List Char) :
    lowerAfter before cs = cs.flatMap lowerChar := by
  induction cs generalizing before with
  | nil => rfl
  | cons c rest ih =>
    simp only [List.mem_cons, not_or] at h
    simp [lowerAfter, lowerBetween_of_ne (Ne.symm h.1), ih h.2]

end Spelling.Text
