import Spelling.Locale.Basic

/-!
# Scripts

The writing systems that dictionaries and keyboard layouts are told apart by.  A script is named by
a four-letter subtag of the locale, or else follows from its language; a language that is not listed
is taken to be written in Latin letters.
-/

namespace Spelling

/-- Writing system. -/
inductive Script where
  | latin | cyrillic | greek | hebrew | arabic | armenian | bengali | georgian | khmer | lao
  | malayalam | myanmar | sinhala | tamil | telugu | thai
  /-- A script that a subtag names and none of the above is -/
  | unknown
  deriving DecidableEq, Repr

namespace Script

/-- English name of a script. -/
def name : Script → String
  | latin => "Latin"
  | cyrillic => "Cyrillic"
  | greek => "Greek"
  | hebrew => "Hebrew"
  | arabic => "Arabic"
  | armenian => "Armenian"
  | bengali => "Bengali"
  | georgian => "Georgian"
  | khmer => "Khmer"
  | lao => "Lao"
  | malayalam => "Malayalam"
  | myanmar => "Myanmar"
  | sinhala => "Sinhala"
  | tamil => "Tamil"
  | telugu => "Telugu"
  | thai => "Thai"
  | unknown => "Unknown"

/-- Languages that are not written in Latin letters, with their script. -/
def languages : List (String × Script) :=
  [("ar", arabic), ("hy", armenian), ("bn", bengali), ("be", cyrillic), ("bg", cyrillic),
   ("kk", cyrillic), ("ky", cyrillic), ("mk", cyrillic), ("mn", cyrillic), ("ru", cyrillic),
   ("uk", cyrillic), ("ka", georgian), ("el", greek), ("he", hebrew), ("iw", hebrew),
   ("km", khmer), ("lo", lao), ("ml", malayalam), ("my", myanmar), ("si", sinhala),
   ("ta", tamil), ("te", telugu), ("th", thai)]

/-- Lowercase subtags of the scripts that are told apart. -/
def subtags : List (String × Script) :=
  [("latn", latin), ("cyrl", cyrillic), ("grek", greek), ("hebr", hebrew), ("arab", arabic),
   ("armn", armenian), ("beng", bengali), ("geor", georgian), ("khmr", khmer), ("laoo", lao),
   ("mlym", malayalam), ("mymr", myanmar), ("sinh", sinhala), ("taml", tamil), ("telu", telugu),
   ("thai", thai)]

/-- The script a language is written in when no subtag says otherwise. -/
def ofLanguage (language : String) : Script :=
  (languages.lookup language).getD latin

/-- The script that a subtag names, in any case. -/
def ofSubtag (subtag : String) : Script :=
  (subtags.lookup (asciiLower subtag)).getD unknown

end Script

/-- The script a locale is typed in: an explicit subtag wins over the language. -/
def Locale.script (l : Locale) : Script :=
  match l.script? with
  | some subtag => .ofSubtag subtag
  | none => .ofLanguage l.language

end Spelling
