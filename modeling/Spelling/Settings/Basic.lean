import Spelling.Files
import Spelling.Text.Fault

/-!
# Settings

What a service is set up with, for its whole life, and the ways a settings text can be wrong.
-/

namespace Spelling

/-- A count of at least one. -/
abbrev Count := { n : Nat // 0 < n }

/-- What a service is set up with. -/
structure Settings where
  /-- Dictionaries kept open for queries in a single locale -/
  cacheCapacity : Count := ⟨3, by decide⟩
  /-- Queries that may run at once -/
  maxReaders : Count := ⟨2, by decide⟩
  /-- Confidence from which a correction is recommended -/
  threshold : Float32 := 0.1
  /-- Whether the names of contacts count as words -/
  useContacts : Bool := true
  /-- Longest wait for a permit, in milliseconds; without one, waits take as long as they take -/
  permitTimeout? : Option Nat := none

/-- The settings where none are given. -/
def Settings.standard : Settings := {}

/-- Why a settings text is refused. -/
inductive SettingsError where
  /-- It is not made of directive lines -/
  | parser (fault : Text.Fault)
  /-- A directive has no meaning -/
  | unknownDirective (name : String)
  /-- The value of a directive is missing, malformed or out of range -/
  | invalidValue (directive value : String)
  /-- It could not be read -/
  | read (error : ReadError)
  deriving DecidableEq, Repr

namespace SettingsError

/-- What a reader is told. -/
def message : SettingsError → String
  | parser fault => "could not parse config: " ++ fault.message
  | unknownDirective name => "unknown directive `" ++ name ++ "`"
  | invalidValue directive value =>
    "invalid value `" ++ value ++ "` for directive `" ++ directive ++ "`"
  | read error => error.message

/-- The error with all its parts. -/
def detail : SettingsError → String
  | parser fault => "Parser(" ++ Text.quoted fault.message ++ ")"
  | unknownDirective name => "UnknownDirective(" ++ Text.quoted name ++ ")"
  | invalidValue directive value =>
    "InvalidValue \x7b directive: " ++ Text.quoted directive ++ ", value: " ++ Text.quoted value ++
      " \x7d"
  | read error => "Io(" ++ error.detail ++ ")"

end SettingsError

end Spelling
