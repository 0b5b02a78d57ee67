/-!
# Locales

A locale names the language a text is typed in, and optionally the script it is written in, the
region it is restricted to and a variant.  Each part is kept in its normal case, so equal locales
are equal values:

    language   lowercase    en
    script     titlecase    Latn
    region     uppercase    US, 419
    variant    verbatim     POSIX
-/

namespace Spelling

/-- A text with its ASCII letters lowercased. -/
def asciiLower (s : String) : String :=
  String.ofList (s.toList.map Char.toLower)

/-- A text with its ASCII letters uppercased. -/
def asciiUpper (s : String) : String :=
  String.ofList (s.toList.map Char.toUpper)

/-- Characters with the first one uppercased and the others lowercased, ASCII letters only. -/
def asciiTitleChars : List Char → List Char
  | [] => []
  | c :: rest => c.toUpper :: rest.map Char.toLower

/-- A text with its first character uppercased and the others lowercased, ASCII letters only. -/
def asciiTitle (s : String) : String :=
  String.ofList (asciiTitleChars s.toList)

/-- Language, script, region and variant of an input language. -/
structure Locale where
  language : String
  script? : Option String
  region? : Option String
  variant? : Option String
  deriving DecidableEq, Repr, Inhabited

namespace Locale

/-- The locale of a language and nothing else. -/
def ofLanguage (language : String) : Locale :=
  ⟨asciiLower language, none, none, none⟩

/-- The same locale restricted to a region. -/
def withRegion (l : Locale) (region : String) : Locale :=
  { l with region? := some (asciiUpper region) }

/-- The same locale written in an explicit script. -/
def withScript (l : Locale) (script : String) : Locale :=
  { l with script? := some (asciiTitle script) }

/-- The locale of the bare language. -/
def base (l : Locale) : Locale :=
  ofLanguage l.language

/-- The parts after the language that a locale has, in order. -/
def subtags (l : Locale) : List String :=
  l.script?.toList ++ l.region?.toList ++ l.variant?.toList

/-- A locale as it is displayed: its parts joined by underscores. -/
def display (l : Locale) : String :=
  "_".intercalate (l.language :: l.subtags)

/-- Locales as they are listed to a reader. -/
def displayAll (locales : List Locale) : String :=
  if locales.isEmpty then "none" else ", ".intercalate (locales.map display)

/-- Whether casing follows the turkic rules for dotted and dotless `i`. -/
def hasTurkicCasing (l : Locale) : Bool :=
  l.language == "tr" || l.language == "az"

/-- Order of two optional parts, an absent part first. -/
def comparePart : Option String → Option String → Ordering
  | none, none => .eq
  | none, some _ => .lt
  | some _, none => .gt
  | some a, some b => compare a b

/-- Order by language, then script, then region, then variant. -/
def compareParts (a b : Locale) : Ordering :=
  (compare a.language b.language).then <|
    (comparePart a.script? b.script?).then <|
      (comparePart a.region? b.region?).then (comparePart a.variant? b.variant?)

instance : Ord Locale := ⟨compareParts⟩

end Locale

end Spelling
