import Spelling.Number.Decimal
import Spelling.Settings.Basic
import Spelling.Text.Lines

/-!
# Directives

A settings text has one directive on a line, a name in capitals and perhaps a value:

    CACHECAPACITY 3      dictionaries kept open, at least one
    READERS 2            queries at once, at least one
    THRESHOLD 0.1        confidence, finite and not negative
    CONTACTS             count the names of contacts as words
    NOCONTACTS           do not
    PERMITTIMEOUT 250    longest wait for a permit, in milliseconds
    NOPERMITTIMEOUT      no limit

Directives apply in order and the last one wins.  A comment may end a directive line, or take a
whole line if it starts it; a line of blanks may not have one.
-/

namespace Spelling

/-- A directive as it is written. -/
structure Directive where
  name : String
  value? : Option String
  deriving DecidableEq, Repr

namespace Directive

/-- Whether a character belongs to the name of a directive. -/
def isNameChar (c : Char) : Bool :=
  c.isUpper || c == '_'

/-- The directive of the fields of a line. -/
def ofFields? : List (List Char) → Option Directive
  | [name] => if name.all isNameChar then some ⟨String.ofList name, none⟩ else none
  | [name, value] =>
    if name.all isNameChar then some ⟨String.ofList name, some (String.ofList value)⟩ else none
  | _ => none

/-- Whether a line holds no directive: a comment from its start, or blanks and nothing else. -/
def isIdle (line : List Char) : Bool :=
  line.head? == some '#' || line.all Text.isBlank

/-- Reads a line, which may hold no directive. -/
def readLine? (line : List Char) : Option (Option Directive) :=
  if isIdle line then some none else (ofFields? (Text.fields (Text.content line))).map some

/-- What is wrong with a directive that lacks a usable value. -/
def invalid (d : Directive) : SettingsError :=
  .invalidValue d.name (d.value?.getD "")

/-- The value of a directive, read as it has to be. -/
def readValue {α : Type} (d : Directive) (read : String → Option α) : Except SettingsError α :=
  match d.value?.bind read with
  | some a => .ok a
  | none => .error d.invalid

/-- Bound of the whole numbers that can be written. -/
def wordBound : Nat := 1 <<< 64

/-- Reads a count of at least one. -/
def count? (text : String) : Option Count :=
  (Number.natBelow? wordBound text).bind fun n => if h : 0 < n then some ⟨n, h⟩ else none

/-- Reads a confidence. -/
def threshold? (text : String) : Option Float32 :=
  (Number.single? text).filter fun x => x.isFinite && !(x < 0)

/-- What a directive changes. -/
def apply (s : Settings) (d : Directive) : Except SettingsError Settings :=
  match d.name with
  | "CACHECAPACITY" => (d.readValue count?).map fun n => { s with cacheCapacity := n }
  | "READERS" => (d.readValue count?).map fun n => { s with maxReaders := n }
  | "THRESHOLD" => (d.readValue threshold?).map fun x => { s with threshold := x }
  | "CONTACTS" => .ok { s with useContacts := true }
  | "NOCONTACTS" => .ok { s with useContacts := false }
  | "PERMITTIMEOUT" =>
    (d.readValue (Number.natBelow? wordBound)).map fun n => { s with permitTimeout? := some n }
  | "NOPERMITTIMEOUT" => .ok { s with permitTimeout? := none }
  | name => .error (.unknownDirective name)

end Directive

namespace Settings

/-- Whether a line of a settings text can be read. -/
def isReadable (line : List Char) : Bool :=
  (Directive.readLine? line).isSome

/-- The directives of a settings text, or the fault at its first line that is no directive, comment
or blank line. -/
def directives (text : String) : Except Text.Fault (List Directive) :=
  let lines := Text.lines (Text.terminated text.toList)
  match lines.dropWhile isReadable with
  | [] => .ok (lines.filterMap fun line => (Directive.readLine? line).join)
  | rest => .error ⟨String.ofList (Text.unlines rest), .eof⟩

/-- Reads a settings text, whose directives change the defaults. -/
def parse (text : String) : Except SettingsError Settings :=
  match directives text with
  | .error fault => .error (.parser fault)
  | .ok ds => ds.foldlM Directive.apply standard

/-- Reads the content of a settings file, if there is one. -/
def ofContent : Except ReadError String → Except SettingsError Settings
  | .error error => .error (.read error)
  | .ok text => parse text

/-- Reads a settings file. -/
def ofFile (folder : Folder) (name : String) : Except SettingsError Settings :=
  ofContent (folder.readText name)

end Settings

end Spelling
