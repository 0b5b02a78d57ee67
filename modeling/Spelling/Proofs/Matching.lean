import Mathlib.Data.List.TakeWhile
import Spelling.Text.Words

/-!
# Words as the matches of a pattern

The words of a text are what a search for this pattern finds:

    [letters, marks, digits]+ ( [apostrophes, hyphen] [letters, marks, digits]+ )*

A search tries a pattern with backtracking.  What a pattern can leave of a text is listed in the order
in which it is tried, so that the first of the list is what remains after the match (`match?`):

    one p       the text after its first character, if that passes
    seq a b     what `b` leaves of what `a` leaves
    many a      what `many a` leaves of what `a` leaves, and after all of these the text itself

All matches are found from the left, each in what the last one leaves (`findAll`).  Reading a word
goes on character by character instead and never goes back; both come to the same words
(`findAll_wordPattern`).
-/

namespace Spelling.Text

/-- What is searched for. -/
inductive Pattern where
  /-- A character that passes a test -/
  | one (p : Char → Bool)
  /-- One pattern after another -/
  | seq (a b : Pattern)
  /-- A pattern any number of times, as often as possible -/
  | many (a : Pattern)

/-- What is left of a text after a step any number of times, as often as possible first.  A step that
reads nothing is not repeated. -/
def again (step : List Char → List (List Char)) (text : List Char) : List (List Char) :=
  ((step text).flatMap fun rest =>
    if _h : rest.length < text.length then again step rest else []) ++ [text]
termination_by text.length

namespace Pattern

/-- What a pattern can leave of a text, in the order in which it is tried. -/
def rests : Pattern → List Char → List (List Char)
  | one _, [] => []
  | one p, c :: rest => if p c then [rest] else []
  | seq a b, text => (a.rests text).flatMap b.rests
  | many a, text => again a.rests text

/-- What is left of a text after a match at its beginning. -/
def match? (a : Pattern) (text : List Char) : Option (List Char) :=
  (a.rests text).head?

/-- What a search for a pattern that reads something finds in a text, from the left. -/
def findAll (a : Pattern) : List Char → List (List Char)
  | [] => []
  | c :: rest =>
    match a.match? (c :: rest) with
    | some left =>
      if _h : left.length ≤ rest.length then
        (c :: rest).take (rest.length + 1 - left.length) :: a.findAll left
      else a.findAll rest
    | none => a.findAll rest
termination_by text => text.length
decreasing_by all_goals (simp only [List.length_cons]; omega)

/-- A pattern at least once, and as often as possible. -/
def many1 (a : Pattern) : Pattern := seq a (many a)

variable {a : Pattern} {text rest : List Char}

/-! ## What matches first -/

theorem head?_append_of_ne_nil {xs : List (List Char)} (h : xs ≠ []) (ys : List (List Char)) :
    (xs ++ ys).head? = xs.head? := by
  rw [List.head?_append, Option.or_of_isSome (List.isSome_head?.mpr h)]

theorem head?_flatMap {xs : List (List Char)} {f : List Char → List (List Char)}
    (h : ∀ x, f x ≠ []) : (xs.flatMap f).head? = xs.head?.bind fun x => (f x).head? := by
  cases xs with
  | nil => rfl
  | cons x xs =>
      rw [List.flatMap_cons, head?_append_of_ne_nil (h x)]
      rfl

theorem again_ne_nil (step : List Char → List (List Char)) (text : List Char) :
    again step text ≠ [] := by
  rw [again]
  exact List.append_ne_nil_of_right_ne_nil _ (List.cons_ne_nil _ _)

/-- A repetition goes on as long as its pattern matches. -/
theorem match?_many_of_some (h : a.match? text = some rest) (hlt : rest.length < text.length) :
    (many a).match? text = (many a).match? rest := by
  obtain ⟨others, hrests⟩ := List.head?_eq_some_iff.mp h
  rw [match?, rests, again, hrests, List.flatMap_cons, dif_pos hlt, List.append_assoc,
    head?_append_of_ne_nil (again_ne_nil _ _)]
  rfl

/-- A repetition ends where its pattern does not match. -/
theorem match?_many_of_none (h : a.match? text = none) : (many a).match? text = some text := by
  rw [match?, rests, again, List.head?_eq_none_iff.mp h]
  rfl

/-- No repetition after a pattern makes it go back. -/
theorem match?_seq_many (a b : Pattern) (text : List Char) :
    (seq a (many b)).match? text = (a.match? text).bind (many b).match? :=
  head?_flatMap fun _ => again_ne_nil _ _

theorem match?_seq_one_cons (p : Char → Bool) (b : Pattern) (c : Char) (rest : List Char) :
    (seq (one p) b).match? (c :: rest) = if p c then b.match? rest else none := by
  rw [match?, rests, rests]
  split
  · rw [List.flatMap_singleton]
    rfl
  · rfl

theorem match?_one_cons (p : Char → Bool) (c : Char) (rest : List Char) :
    (one p).match? (c :: rest) = if p c then some rest else none := by
  rw [match?, rests]
  split <;> rfl

theorem match?_many_one (p : Char → Bool) (text : List Char) :
    (many (one p)).match? text = some (text.dropWhile p) := by
  induction text with
  | nil => exact match?_many_of_none rfl
  | cons c rest ih =>
      have hone := match?_one_cons p c rest
      rw [List.dropWhile_cons]
      split
      · next hc =>
        rw [if_pos hc] at hone
        rw [match?_many_of_some hone (Nat.lt_succ_self _), ih]
      · next hc =>
        rw [if_neg hc] at hone
        exact match?_many_of_none hone

theorem match?_many1_one_cons (p : Char → Bool) (c : Char) (rest : List Char) :
    (many1 (one p)).match? (c :: rest) = if p c then some (rest.dropWhile p) else none := by
  rw [many1, match?_seq_one_cons, match?_many_one]

end Pattern

/-! ## Words -/

/-- Another part of a word, after an apostrophe or a hyphen. -/
def joinedPattern : Pattern :=
  .seq (.one isJoiner) (.many1 (.one isWordChar))

/-- A word. -/
def wordPattern : Pattern :=
  .seq (.many1 (.one isWordChar)) (.many joinedPattern)

variable {word : List Char} {c : Char}

theorem match?_joinedPattern (c : Char) (rest : List Char) : joinedPattern.match? (c :: rest) =
    if isJoiner c && startsWord rest then some (rest.dropWhile isWordChar) else none := by
  rw [joinedPattern, Pattern.match?_seq_one_cons]
  cases rest with
  | nil =>
      rw [startsWord, Bool.and_false, if_neg Bool.false_ne_true]
      exact ite_self none
  | cons d rest =>
      rw [Pattern.match?_many1_one_cons, startsWord, List.dropWhile_cons]
      cases isJoiner c <;> cases isWordChar d <;> rfl

/-- A word that has begun is read up to where the pattern stops matching. -/
theorem exists_wordsAfter (hword : word ≠ []) (text : List Char) : ∃ run left,
    text = run ++ left ∧
      (Pattern.many joinedPattern).match? (text.dropWhile isWordChar) = some left ∧
      wordsAfter word text = (word ++ run) :: wordsAfter [] left := by
  induction text generalizing word with
  | nil =>
      refine ⟨[], [], rfl, Pattern.match?_many_of_none rfl, ?_⟩
      rw [wordsAfter, finished, List.isEmpty_eq_false_iff.mpr hword, List.append_nil]
      rfl
  | cons c rest ih =>
      have hempty : word.isEmpty = false := List.isEmpty_eq_false_iff.mpr hword
      obtain ⟨run, left, hrest, hmatch, hwords⟩ := ih (List.concat_ne_nil c word)
      have hjoined := match?_joinedPattern c rest
      rw [List.append_assoc, List.singleton_append] at hwords
      rw [List.dropWhile_cons, wordsAfter, hempty]
      by_cases hc : isWordChar c = true
      · rw [if_pos hc, hc, Bool.true_or, if_pos rfl]
        exact ⟨c :: run, left, congrArg (c :: ·) hrest, hmatch, hwords⟩
      · rw [if_neg hc, Bool.eq_false_iff.mpr hc, Bool.false_or, Bool.not_false, Bool.true_and]
        split
        · next htaken =>
          rw [if_pos htaken] at hjoined
          have hlt : (rest.dropWhile isWordChar).length < (c :: rest).length :=
            Nat.lt_succ_of_le (List.length_dropWhile_le ..)
          rw [Pattern.match?_many_of_some hjoined hlt]
          exact ⟨c :: run, left, congrArg (c :: ·) hrest, hmatch, hwords⟩
        · next hnot =>
          rw [if_neg hnot] at hjoined
          refine ⟨[], c :: rest, rfl, Pattern.match?_many_of_none hjoined, ?_⟩
          simp [finished, hword, wordsAfter, hc]

theorem match?_wordPattern (c : Char) (rest : List Char) : wordPattern.match? (c :: rest) =
    if isWordChar c then (Pattern.many joinedPattern).match? (rest.dropWhile isWordChar)
    else none := by
  rw [wordPattern, Pattern.match?_seq_many, Pattern.match?_many1_one_cons]
  split <;> rfl

/-- What a word leaves of the text is not longer than what comes after its first character. -/
theorem exists_of_isWordChar (hc : isWordChar c = true) (rest : List Char) : ∃ run left,
    rest = run ++ left ∧ wordPattern.match? (c :: rest) = some left ∧
      wordsAfter [] (c :: rest) = (c :: run) :: wordsAfter [] left := by
  obtain ⟨run, left, hrest, hmatch, hwords⟩ := exists_wordsAfter (List.cons_ne_nil c []) rest
  refine ⟨run, left, hrest, ?_, ?_⟩
  · rw [match?_wordPattern, if_pos hc, hmatch]
  · rw [wordsAfter, hc, Bool.true_or, if_pos rfl]
    exact hwords

/-- **The words of a text are the matches of the word pattern.** -/
theorem findAll_wordPattern (text : List Char) : wordPattern.findAll text = wordChars text := by
  rw [wordChars]
  induction hlength : text.length using Nat.strongRecOn generalizing text with
  | ind n ih =>
  subst hlength
  cases text with
  | nil =>
      rw [Pattern.findAll]
      rfl
  | cons c rest =>
      rw [Pattern.findAll]
      by_cases hc : isWordChar c = true
      · obtain ⟨run, left, rfl, hmatch, hwords⟩ := exists_of_isWordChar hc rest
        have hlength : (run ++ left).length + 1 - left.length = (c :: run).length := by
          simp only [List.length_append, List.length_cons]
          omega
        have hle : left.length ≤ (run ++ left).length := by simp
        rw [hmatch, hwords]
        dsimp only
        rw [dif_pos hle, hlength, ih left.length (Nat.lt_succ_of_le hle) left rfl,
          ← List.cons_append, List.take_left]
      · have hnone : wordPattern.match? (c :: rest) = none := by
          rw [match?_wordPattern, if_neg hc]
        rw [hnone, wordsAfter, Bool.eq_false_iff.mpr hc]
        exact ih rest.length (Nat.lt_succ_self _) rest rfl

end Spelling.Text
