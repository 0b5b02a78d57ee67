import Spelling.CommandLine.Option
import Spelling.Locale.Tag
import Spelling.Number.Decimal
import Spelling.Settings.Basic
import Spelling.Text.Lines

/-!
# Arguments

What a command line asks for.  Every option counts once, but the locales of several `--locales` add
up.  A path is not empty, a locale is a tag, and the most suggestions shown are a number; none at
all counts as one.
-/

namespace Spelling.CommandLine

/-- What a command line says. -/
structure Arguments where
  /-- The text to check -/
  text? : Option String := none
  /-- Path of the directory of word lists -/
  dictionaries? : Option String := none
  /-- The enabled locales, most preferred first -/
  locales : List Locale := []
  /-- Path of the settings file -/
  config? : Option String := none
  /-- Names of contacts do not count as words -/
  noContacts : Bool := false
  /-- Most suggestions shown for a word -/
  maxSuggestions? : Option Nat := none
  /-- Texts are read line by line -/
  interactive : Bool := false
  deriving DecidableEq, Repr

/-- What a command line asks for: help, or the work that its arguments describe. -/
inductive Request where
  | help
  | work (a : Arguments)
  deriving DecidableEq, Repr

namespace Arguments

/-- The directory of word lists. -/
def dictionaries (a : Arguments) : String := a.dictionaries?.getD "."

/-- The locale that is enabled when none is named. -/
def standardLocale : Locale := (Locale.ofLanguage "en").withRegion "US"

/-- The enabled locales. -/
def enabled (a : Arguments) : List Locale :=
  if a.locales.isEmpty then [standardLocale] else a.locales

/-- How many suggestions are shown for a word. -/
def maxSuggestions (a : Arguments) : Nat :=
  max 1 (a.maxSuggestions?.getD 5)

/-- A value that was not given before. -/
def once {α : Type} (k : Key) (before? : Option α) (value : α) :
    Except UsageError (Option α) :=
  match before? with
  | none => .ok (some value)
  | some _ => .error (.repeated k)

/-- A switch that was not there before. -/
def onceOn (k : Key) (before : Bool) : Except UsageError Bool :=
  if before then .error (.repeated k) else .ok true

/-- A value as it has to be read. -/
def read {α : Type} (k : Key) (value : String) (read? : String → Option α) :
    Except UsageError α :=
  match read? value with
  | some a => .ok a
  | none => .error (.badValue k value)

/-- A path, which is not empty. -/
def path? (value : String) : Option String :=
  if value.isEmpty then none else some value

/-- The locales of a list of tags with commas between them. -/
def locales? (value : String) : Option (List Locale) :=
  (Text.splitAt ',' value).mapM fun tag => (Locale.parse tag).toOption

/-- A number of suggestions. -/
def number? (value : String) : Option Nat :=
  Number.natBelow? (1 <<< 64) value

/-- The arguments with a switch more. -/
def withSwitch (a : Arguments) (k : Key) : Except UsageError Arguments := do
  match k with
  | .noContacts => return { a with noContacts := ← onceOn k a.noContacts }
  | .interactive => return { a with interactive := ← onceOn k a.interactive }
  | .dictionaries | .locales | .config | .maxSuggestions => throw (.missingValue k)
  | .help => return a

/-- The arguments with the value of an option more. -/
def withValue (a : Arguments) (k : Key) (value : String) : Except UsageError Arguments := do
  match k with
  | .dictionaries =>
    return { a with dictionaries? := ← once k a.dictionaries? (← read k value path?) }
  | .locales => return { a with locales := a.locales ++ (← read k value locales?) }
  | .config => return { a with config? := ← once k a.config? (← read k value path?) }
  | .maxSuggestions =>
    return { a with maxSuggestions? := ← once k a.maxSuggestions? (← read k value number?) }
  | .noContacts | .interactive | .help => throw (.unneededValue k)

/-- The arguments with a text to check. -/
def withText (a : Arguments) (text : String) : Except UsageError Arguments :=
  match a.text? with
  | none => .ok { a with text? := some text }
  | some _ => .error (.secondText text)

/-- The arguments with a part more. -/
def withPart (a : Arguments) : Part → Except UsageError Arguments
  | .switch k => a.withSwitch k
  | .value k value => a.withValue k value
  | .plain text => a.withText text

end Arguments

/-- Reads a command line.  Help is asked for by a part of it, wherever it stands, if all before it
is in order. -/
def Request.parse (args : List String) : Except UsageError Request :=
  match parts args with
  | .error e => .error e
  | .ok ps =>
    match ps.foldlM Arguments.withPart {} with
    | .error e => .error e
    | .ok a => .ok (if asksHelp ps then .help else .work a)

/-- What is shown on a request for help. -/
def usage : String :=
  String.ofList <| Text.unlines <| List.map String.toList
    ["Check words against word lists found in a directory", "",
      "Usage: spelling [OPTIONS] [TEXT]", "",
      "Options:",
      "  -d, --dictionaries <PATH>   directory of word lists, `.` by default",
      "  -l, --locales <TAG,...>     enabled locales, most preferred first, `en_US` by default",
      "  -c, --config <PATH>         file of directives that change the settings",
      "      --no-contacts           do not accept words of `contacts.dic`",
      "  -m, --max-suggestions <N>   most suggestions shown for a word, 5 by default",
      "  -i, --interactive           read text to check line by line",
      "  -h, --help                  show this"]

end Spelling.CommandLine
