/-!
# Lines

A text is read line by line once it ends in a line feed, which is added when it is missing.  A line
holds its content up to a `#`; spaces and tabs part the content into fields.  What follows the `#`
is a comment.
-/

namespace Spelling.Text

/-- A text with a line feed at its end. -/
def terminated (cs : List Char) : List Char :=
  if cs.getLast? = some '\n' then cs else cs ++ ['\n']

/-- The lines of a text, without their line feeds. -/
def lines : List Char → List (List Char)
  | [] => []
  | c :: rest =>
    if c = '\n' then [] :: lines rest
    else match lines rest with
      | [] => [[c]]
      | l :: ls => (c :: l) :: ls

/-- The text of some lines, a line feed after each. -/
def unlines (ls : List (List Char)) : List Char :=
  ls.flatMap (· ++ ['\n'])

/-- Whether a character parts two fields. -/
def isBlank (c : Char) : Bool :=
  c == ' ' || c == '\t'

/-- A line without its comment. -/
def content (line : List Char) : List Char :=
  line.takeWhile (· != '#')

/-- The fields of a content that goes on after the part `field` of a field. -/
def fieldsAfter (field : List Char) : List Char → List (List Char)
  | [] => if field.isEmpty then [] else [field]
  | c :: rest =>
    if isBlank c then
      (if field.isEmpty then [] else [field]) ++ fieldsAfter [] rest
    else fieldsAfter (field ++ [c]) rest

/-- The fields of a content. -/
def fields (content : List Char) : List (List Char) :=
  fieldsAfter [] content

/-- Whether a line has nothing but blanks before its comment. -/
def isBlankLine (line : List Char) : Bool :=
  (content line).all isBlank

/-- Reading the lines of a text that ends in a line feed loses nothing. -/
theorem unlines_lines {cs : List Char} (h : cs.getLast? = some '\n') : unlines (lines cs) = cs := by
  induction cs with
  | nil => simp at h
  | cons c rest ih =>
    cases rest with
    | nil =>
      simp at h
      subst h
      rfl
    | cons d more =>
      have ih := ih (by simpa [List.getLast?_cons_cons] using h)
      by_cases hc : c = '\n'
      · simp only [lines, if_pos hc]
        simp only [lines] at ih
        simp [unlines] at ih ⊢
        exact ⟨hc.symm, ih⟩
      · rw [lines, if_neg hc]
        cases hl : lines (d :: more) with
        | nil => simp [hl, unlines] at ih
        | cons l ls =>
          rw [hl] at ih
          simp [unlines] at ih ⊢
          exact ih

end Spelling.Text
