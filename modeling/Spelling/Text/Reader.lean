import Spelling.Number.Decimal
import Spelling.Text.Fault
import Spelling.Text.Lines

/-!
# Readers

A reader takes something from the beginning of a text and leaves the rest, or stops with a fault.
Small readers are put together to larger ones:

    a >>= f            what `a` takes, and then what `f` of it takes
    a <|> b            what `a` takes, or else what `b` takes of the same text
    opt a              what `a` takes, or else nothing
    many a             what `a` takes, as often as it takes something
    separated1 sep a   what `a` takes, and again after each `sep`
    whole a            what `a` takes, if that leaves nothing

A reader that stops in one part of a larger one gives back all that was taken on the way there, so an
alternative starts where the first one did.  Nothing here knows of lines: a line feed is a character
like any other, and `newline` takes one.
-/

namespace Spelling.Text

/-- What a text is read by: a value and the text left after it, or a fault. -/
abbrev Reader (α : Type) : Type := StateT (List Char) (Except Fault) α

namespace Reader

variable {α β : Type}

/-- The fault of a reader that does not find what it looks for. -/
def missing (expected : Expected) (text : List Char) : Except Fault (α × List Char) :=
  .error ⟨String.ofList text, expected⟩

/-! ## Characters -/

/-- Takes a character that passes a test. -/
def one (p : Char → Bool) (expected : Expected) : Reader Char := fun text =>
  match text with
  | [] => missing expected text
  | c :: rest => if p c then .ok (c, rest) else missing expected text

/-- Takes the characters that pass a test, up to the first that does not. -/
def run (p : Char → Bool) : Reader (List Char) := fun text =>
  .ok (text.takeWhile p, text.dropWhile p)

/-- Takes the characters that pass a test, at least one. -/
def run1 (p : Char → Bool) (expected : Expected) : Reader (List Char) := fun text =>
  if (text.takeWhile p).isEmpty then missing expected text else run p text

/-- Takes a fixed text. -/
def tag (fixed : List Char) : Reader Unit := fun text =>
  if fixed.isPrefixOf text then .ok ((), text.drop fixed.length) else missing .tag text

/-- Takes a line feed. -/
def newline : Reader Char := one (· == '\n') .char

/-- Takes one of some characters. -/
def oneOf (chars : List Char) : Reader Char := one chars.contains .oneOf

/-- Takes blanks. -/
def space0 : Reader (List Char) := run isBlank

/-- Takes blanks, at least one. -/
def space1 : Reader (List Char) := run1 isBlank .space

/-- Takes what comes before the first of some characters, which is not nothing. -/
def isNot (chars : List Char) : Reader (List Char) := run1 (!chars.contains ·) .isNot

/-- Takes ASCII letters and digits, at least one. -/
def alphanumeric1 : Reader (List Char) := run1 Char.isAlphanum .alphaNumeric

/-- Takes decimal digits that write a number below `bound`. -/
def number (bound : Nat) : Reader Nat := fun text =>
  match (Number.nat? (text.takeWhile Char.isDigit)).filter (· < bound) with
  | some n => .ok (n, text.dropWhile Char.isDigit)
  | none => missing .digit text

/-! ## Alternatives and repetitions -/

/-- Takes what a reader takes, if it takes something. -/
def opt (a : Reader α) : Reader (Option α) :=
  (some <$> a) <|> pure none

/-- Takes what a reader takes, again and again until it stops.  A reader that takes nothing is not
repeated. -/
def many (a : Reader α) (text : List Char) : Except Fault (List α × List Char) :=
  match a text with
  | .error _ => .ok ([], text)
  | .ok (value, rest) =>
    if _h : rest.length < text.length then
      match many a rest with
      | .error fault => .error fault
      | .ok (values, left) => .ok (value :: values, left)
    else missing .many0 text
termination_by text.length

/-- Takes what a reader takes, again after each separator, at least once. -/
def separated1 (separator : Reader β) (a : Reader α) : Reader (List α) := do
  let first ← a
  let others ← many (do
    let _ ← separator
    a)
  pure (first :: others)

/-- Takes the whole text. -/
def whole (a : Reader α) : Reader α := fun text =>
  match a text with
  | .error fault => .error fault
  | .ok (value, []) => .ok (value, [])
  | .ok (_, left) => missing .eof left

/-! ## Parts of lines -/

/-- Takes what comes before the next blank, comment or line feed, which is not nothing. -/
def inner : Reader (List Char) := isNot [' ', '\t', '#', '\n']

/-- Takes a comment up to the end of the line. -/
def comment : Reader (Option (List Char)) := do
  tag ['#']
  opt (isNot ['\n'])

/-- Takes the end of a line: blanks, a comment if there is one, and the line feed. -/
def lineEnd : Reader Unit := do
  let _ ← space0
  let _ ← opt comment
  let _ ← newline
  pure ()

end Reader

end Spelling.Text
