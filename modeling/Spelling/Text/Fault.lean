import Spelling.Text.Quoted

/-!
# Parsing faults

Where the reading of a text stopped and what was looked for there.
-/

namespace Spelling.Text

/-- What was looked for at a fault. -/
inductive Expected where
  /-- A number in its range -/
  | digit
  /-- The end of the line -/
  | char
  /-- The end of the text, no further line being readable -/
  | eof
  /-- A fixed text -/
  | tag
  /-- A character outside some set -/
  | isNot
  /-- A character that passes a test -/
  | takeWhile1
  /-- A blank -/
  | space
  /-- One of some characters -/
  | oneOf
  /-- A letter or digit -/
  | alphaNumeric
  /-- Something to repeat that is not empty -/
  | many0
  deriving DecidableEq, Repr

/-- Name of what was looked for. -/
def Expected.name : Expected → String
  | digit => "Digit"
  | char => "Char"
  | eof => "Eof"
  | tag => "Tag"
  | isNot => "IsNot"
  | takeWhile1 => "TakeWhile1"
  | space => "Space"
  | oneOf => "OneOf"
  | alphaNumeric => "AlphaNumeric"
  | many0 => "Many0"

/-- The text left where reading stopped, and what was looked for. -/
structure Fault where
  rest : String
  expected : Expected
  deriving DecidableEq, Repr

/-- What a reader is told about a fault. -/
def Fault.message (f : Fault) : String :=
  "Parsing Error: Error \x7b input: " ++ quoted f.rest ++ ", code: " ++ f.expected.name ++ " \x7d"

end Spelling.Text
