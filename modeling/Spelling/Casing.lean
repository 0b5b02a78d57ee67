import Spelling.Locale.Basic
import Spelling.Text.Alphabetic
import Spelling.Text.Lowercase
import Spelling.Text.Uppercase

/-!
# Capitalization

How a word is capitalized, and its case variants under the rules of a locale.  Dictionaries hold
words in their canonical casing (Germans, NASA, hello), so a typed word is looked up under a few
variants that depend on its class:

    class     example           variants beside the word itself
    plain     hello, fooBar     none
    first     Hello             lowercase
    all       HELLO, IT'S       lowercase, capitalized
    mixed     FooBar            none
-/

namespace Spelling

/-- How a word is capitalized. -/
inductive Capitalization where
  /-- The first letter is no capital, or there is no letter -/
  | plain
  /-- The first letter is the only capital -/
  | first
  /-- Every letter is a capital, and there are at least two -/
  | all
  /-- The first letter is a capital and some others are, but not all -/
  | mixed
  deriving DecidableEq, Repr

namespace Capitalization

/-- The class of a word, seen from its letters alone. -/
def ofLetters : List Char → Capitalization
  | [] => plain
  | c :: rest =>
    if Text.isUppercase c then
      let capitals := (rest.filter Text.isUppercase).length
      if capitals = 0 then first
      else if capitals = rest.length then all
      else mixed
    else plain

/-- The class of a word.  Characters that are no letters play no part. -/
def classify (word : String) : Capitalization :=
  ofLetters (word.toList.filter Text.isAlphabetic)

/-- Whether the lowercase of a word of this class is worth a look. -/
def hasVariants : Capitalization → Bool
  | first | all => true
  | plain | mixed => false

end Capitalization

namespace Casing

/-- What turkic locales do before lowercasing: `I` loses no dot, `İ` keeps none. -/
def turkicDot (c : Char) : Char :=
  if c = 'I' then 'ı' else if c = 'İ' then 'i' else c

/-- The lowercase of characters under the rules of a locale. -/
def lowerChars (l : Locale) (cs : List Char) : List Char :=
  if l.hasTurkicCasing then Text.lowerChars (cs.map turkicDot) else Text.lowerChars cs

/-- The uppercase of a character under the rules of a locale. -/
def upperChar (l : Locale) (c : Char) : List Char :=
  if l.hasTurkicCasing && c == 'i' then ['İ'] else Text.upperChar c

/-- The first character uppercased and the others lowercased. -/
def capitalizeChars (l : Locale) : List Char → List Char
  | [] => []
  | c :: rest => upperChar l c ++ lowerChars l rest

/-- The lowercase of a word. -/
def lower (l : Locale) (word : String) : String :=
  String.ofList (lowerChars l word.toList)

/-- The uppercase of a word. -/
def upper (l : Locale) (word : String) : String :=
  String.ofList (word.toList.flatMap (upperChar l))

/-- The word with its first character uppercased and the rest lowercased. -/
def capitalize (l : Locale) (word : String) : String :=
  String.ofList (capitalizeChars l word.toList)

end Casing

/-- The spellings under which a word of some class is looked up, in order. -/
def Capitalization.variants (c : Capitalization) (l : Locale) (word : String) : List String :=
  word :: (if c.hasVariants then [Casing.lower l word] else []) ++
    (if c = .all then [Casing.capitalize l word] else [])

end Spelling
