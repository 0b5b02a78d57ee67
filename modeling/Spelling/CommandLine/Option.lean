import Spelling.Text.Pieces

/-!
# Options of the command line

An argument is one of

    --             all arguments after it are plain
    --name         an option by its name, its value perhaps after a `=`
    -abc           options by their letters; what follows one that takes a value, perhaps after
                   a `=`, is its value
    anything else  plain, and so is a single `-`

The value of an option is the plain argument after it if none is attached.  A switch takes no value.
This module reads arguments into parts; what the parts come to is for `Arguments`.
-/

namespace Spelling.CommandLine

/-- An option. -/
inductive Key where
  | dictionaries
  | locales
  | config
  | noContacts
  | maxSuggestions
  | interactive
  | help
  deriving DecidableEq, Repr

namespace Key

/-- Every option. -/
def all : List Key :=
  [dictionaries, locales, config, noContacts, maxSuggestions, interactive, help]

/-- Name of an option. -/
def name : Key → String
  | dictionaries => "dictionaries"
  | locales => "locales"
  | config => "config"
  | noContacts => "no-contacts"
  | maxSuggestions => "max-suggestions"
  | interactive => "interactive"
  | help => "help"

/-- Letter of an option. -/
def letter? : Key → Option Char
  | dictionaries => some 'd'
  | locales => some 'l'
  | config => some 'c'
  | noContacts => none
  | maxSuggestions => some 'm'
  | interactive => some 'i'
  | help => some 'h'

/-- Whether an option takes no value. -/
def isSwitch : Key → Bool
  | noContacts | interactive | help => true
  | dictionaries | locales | config | maxSuggestions => false

/-- The option of some name. -/
def named? (name : String) : Option Key :=
  all.find? (·.name == name)

/-- The option of some letter. -/
def lettered? (c : Char) : Option Key :=
  all.find? (·.letter? == some c)

end Key

/-- Why a command line is refused. -/
inductive UsageError where
  /-- There is no such option -/
  | unknownOption (option : String)
  /-- An option lacks its value -/
  | missingValue (k : Key)
  /-- A switch was given a value -/
  | unneededValue (k : Key)
  /-- The value of an option has no meaning -/
  | badValue (k : Key) (value : String)
  /-- An option that counts once is there twice -/
  | repeated (k : Key)
  /-- There is more than one text to check -/
  | secondText (text : String)
  deriving DecidableEq, Repr

/-- What the caller is told. -/
def UsageError.message : UsageError → String
  | unknownOption option => "unexpected argument `" ++ option ++ "`"
  | missingValue k => "a value is required for `--" ++ k.name ++ "`"
  | unneededValue k => "`--" ++ k.name ++ "` takes no value"
  | badValue k value => "invalid value `" ++ value ++ "` for `--" ++ k.name ++ "`"
  | repeated k => "`--" ++ k.name ++ "` cannot be used twice"
  | secondText text => "unexpected argument `" ++ text ++ "`"

/-- A part of a command line. -/
inductive Part where
  | switch (k : Key)
  | value (k : Key) (value : String)
  | plain (text : String)
  deriving DecidableEq, Repr

/-- The form of an argument. -/
inductive Form where
  | stop
  | named (name : List Char) (value? : Option (List Char))
  | letters (cs : List Char)
  | plain
  deriving DecidableEq, Repr

/-- The parts of a text before and after its first `=`, if it has one. -/
def splitValue (cs : List Char) : List Char × Option (List Char) :=
  match cs.dropWhile (· != '=') with
  | [] => (cs, none)
  | _ :: value => (cs.takeWhile (· != '='), some value)

/-- The form of an argument. -/
def Form.of : List Char → Form
  | ['-', '-'] => stop
  | '-' :: '-' :: rest => let (name, value?) := splitValue rest; named name value?
  | ['-'] => plain
  | '-' :: rest => letters rest
  | _ => plain

/-- What an argument that is not plain comes to: some parts, and perhaps an option that still lacks
its value. -/
abbrev Scanned := Except UsageError (List Part × Option Key)

/-- Reads an option given by its name. -/
def scanNamed (name : List Char) (value? : Option (List Char)) : Scanned :=
  match Key.named? (String.ofList name) with
  | none => .error (.unknownOption ("--" ++ String.ofList name))
  | some k =>
    match k.isSwitch, value? with
    | true, none => .ok ([.switch k], none)
    | true, some _ => .error (.unneededValue k)
    | false, none => .ok ([], some k)
    | false, some value => .ok ([.value k (String.ofList value)], none)

/-- The value attached to a letter. -/
def attached : List Char → List Char
  | '=' :: value => value
  | value => value

/-- Reads options given by their letters. -/
def scanLetters : List Char → Scanned
  | [] => .ok ([], none)
  | c :: rest =>
    match Key.lettered? c with
    | none => .error (.unknownOption ("-" ++ String.singleton c))
    | some k =>
      if k = .help then .ok ([.switch k], none)
      else if k.isSwitch then
        (scanLetters rest).map fun (parts, pending?) => (.switch k :: parts, pending?)
      else if rest.isEmpty then .ok ([], some k)
      else .ok ([.value k (String.ofList (attached rest))], none)

/-- Whether some parts ask for help, after which nothing is read. -/
def asksHelp (parts : List Part) : Bool :=
  parts.contains (.switch .help)

/-- The parts of a command line, after an option that may still lack its value. -/
def partsAfter (pending? : Option Key) : List String → Except UsageError (List Part)
  | [] =>
    match pending? with
    | none => .ok []
    | some k => .error (.missingValue k)
  | arg :: rest =>
    match pending?, Form.of arg.toList with
    | some k, .plain => (partsAfter none rest).map (.value k arg :: ·)
    | some k, _ => .error (.missingValue k)
    | none, .plain => (partsAfter none rest).map (.plain arg :: ·)
    | none, .stop => .ok (rest.map .plain)
    | none, .named name value? => (scanNamed name value?).bind fun (parts, pending?) =>
      if asksHelp parts then .ok parts else (partsAfter pending? rest).map (parts ++ ·)
    | none, .letters cs => (scanLetters cs).bind fun (parts, pending?) =>
      if asksHelp parts then .ok parts else (partsAfter pending? rest).map (parts ++ ·)

/-- The parts of a command line. -/
def parts (args : List String) : Except UsageError (List Part) :=
  partsAfter none args

end Spelling.CommandLine
