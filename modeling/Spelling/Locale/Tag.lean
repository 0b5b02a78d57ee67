import Spelling.Locale.Basic
import Spelling.Text.Pieces
import Spelling.Text.Whitespace

/-!
# Locale tags

The text form of a locale, as hosts hand it out: subtags of ASCII letters and digits joined by
single underscores or hyphens, white space around the whole allowed.

    subtag        position            form
    language      first, required     two or three letters
    script        next, if it fits    four letters
    region        next, if it fits    two letters or three digits
    variant       all that remain     anything, joined by underscores
-/

namespace Spelling

/-- Why a text is no locale tag. -/
inductive LocaleError where
  /-- The text is not made of subtags -/
  | malformed (tag : String)
  /-- The first subtag is no language code -/
  | language (subtag : String)
  deriving DecidableEq, Repr

/-- What a reader is told about a text that is no locale tag. -/
def LocaleError.message : LocaleError → String
  | malformed tag => "could not parse locale `" ++ tag ++ "`"
  | language subtag => "`" ++ subtag ++ "` is not a valid language subtag"

namespace Locale

/-- Whether a character stands between subtags. -/
def isSeparator (c : Char) : Bool :=
  c == '_' || c == '-'

/-- Whether a piece is a subtag: not empty, ASCII letters and digits only. -/
def isSubtag (cs : List Char) : Bool :=
  !cs.isEmpty && cs.all Char.isAlphanum

/-- Whether a subtag is a language code. -/
def isLanguage (cs : List Char) : Bool :=
  2 ≤ cs.length && cs.length ≤ 3 && cs.all Char.isAlpha

/-- Whether a subtag is a script code. -/
def isScript (cs : List Char) : Bool :=
  cs.length == 4 && cs.all Char.isAlpha

/-- Whether a subtag is a region code. -/
def isRegion (cs : List Char) : Bool :=
  (cs.length == 2 && cs.all Char.isAlpha) || (cs.length == 3 && cs.all Char.isDigit)

/-- Takes the first subtag if it has the form asked for. -/
def takeIf (form : List Char → Bool) : List (List Char) → Option (List Char) × List (List Char)
  | [] => (none, [])
  | s :: rest => if form s then (some s, rest) else (none, s :: rest)

/-- The subtags that no earlier part took, as one variant. -/
def variantOf (subtags : List (List Char)) : Option String :=
  if subtags.isEmpty then none else some ("_".intercalate (subtags.map String.ofList))

/-- The locale of a language code and the subtags after it. -/
def ofSubtags (language : List Char) (subtags : List (List Char)) : Locale :=
  let (script?, subtags) := takeIf isScript subtags
  let (region?, subtags) := takeIf isRegion subtags
  { language := asciiLower (String.ofList language)
    script? := script?.map fun s => asciiTitle (String.ofList s)
    region? := region?.map fun s => asciiUpper (String.ofList s)
    variant? := variantOf subtags }

/-- Reads a locale tag. -/
def parse (tag : String) : Except LocaleError Locale :=
  match Text.pieces isSeparator (Text.trimChars tag.toList) with
  | [] => .error (.malformed tag)
  | language :: subtags =>
    if (language :: subtags).all isSubtag then
      if isLanguage language then .ok (ofSubtags language subtags)
      else .error (.language (String.ofList language))
    else .error (.malformed tag)

end Locale

end Spelling
