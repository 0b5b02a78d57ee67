import Spelling.Text.WordChar

/-!
# Words of a text

A word is a run of letters, marks and digits.  Apostrophes, typographic ones too, and hyphens join
two such runs when one stands directly between a word character and another; at the ends of a word
and in runs of their own they belong to no word.
-/

namespace Spelling.Text

/-- The apostrophe of typography, checked like the plain one. -/
def apostrophe : Char := '’'

/-- The apostrophe that word lists use. -/
def singleQuote : Char := '\''

/-- Whether a character joins two parts of a word. -/
def isJoiner (c : Char) : Bool :=
  c == singleQuote || c == apostrophe || c == '-'

/-- Whether a text goes on with a word character. -/
def startsWord : List Char → Bool
  | [] => false
  | c :: _ => isWordChar c

/-- A finished word, unless there is none. -/
def finished (word : List Char) : List (List Char) :=
  if word.isEmpty then [] else [word]

/-- The words of a text that goes on after the part `word` of a word. -/
def wordsAfter (word : List Char) : List Char → List (List Char)
  | [] => finished word
  | c :: rest =>
    if isWordChar c || (!word.isEmpty && isJoiner c && startsWord rest) then
      wordsAfter (word ++ [c]) rest
    else
      finished word ++ wordsAfter [] rest

/-- The words of a text, in order. -/
def wordChars (text : List Char) : List (List Char) :=
  wordsAfter [] text

/-- The words of a text, in order. -/
def words (text : String) : List String :=
  (wordChars text.toList).map String.ofList

/-- A character, the typographic apostrophe taken for the plain one. -/
def plainApostrophe (c : Char) : Char :=
  if c = apostrophe then singleQuote else c

/-- A word with the apostrophes that word lists use. -/
def normalizeApostrophes (word : String) : String :=
  String.ofList (word.toList.map plainApostrophe)

end Spelling.Text
