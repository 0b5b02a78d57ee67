import Spelling.CommandLine.Arguments
import Spelling.Service.Check
import Spelling.Settings.Directive
import Spelling.Text.Whitespace
import Spelling.WordList.Source

/-!
# The program

One run of the command line: the settings are read, a service over the word lists of a directory is
set up, and the text of the arguments is checked, or else, in interactive use, every line of the
input.  A run ends with

    0      the work was done
    1      the settings cannot be used, or there is nothing to do
    2      the command line is refused
    101    setting up or the check of a word broke off
-/

namespace Spelling.CommandLine

/-- How a run ends. -/
inductive Ending where
  | done
  /-- It could not do its work -/
  | failed (report : String)
  /-- Its command line is refused -/
  | refused (e : UsageError)
  /-- It broke off -/
  | broken (message : String)
  deriving DecidableEq, Repr

namespace Ending

/-- The exit code. -/
def code : Ending → Nat
  | done => 0
  | failed _ => 1
  | refused _ => 2
  | broken _ => 101

/-- What is said about a failure. -/
def failure? : Ending → Option String
  | failed report => some ("Error: " ++ report)
  | done | refused _ | broken _ => none

end Ending

/-- The service of a run, over word lists. -/
abbrev Checker := Service Unit WordList.Dictionary

/-- What asks for the next line. -/
def prompt : String := "check text ❯ "

/-- What is said when there is neither a text nor interactive use. -/
def noAction : String := "no action provided"

namespace Arguments

/-- The settings of a run, from what is read of its settings file if it names one. -/
def settings (a : Arguments) (content : Except ReadError String) :
    Except SettingsError Settings :=
  let written : Except SettingsError Settings := match a.config? with
    | none => .ok .standard
    | some _ => Settings.ofContent content
  written.map fun s => if a.noContacts then { s with useContacts := false } else s

/-- The dictionaries of a run. -/
def backend (lists : Folder) : Backend Unit WordList.Dictionary :=
  .ofKind (WordList.Source.folder lists).kind

/-- The checker of a run. -/
def checker (a : Arguments) (s : Settings) : Except Unstarted Checker :=
  Service.setUp s () a.enabled

/-- Checks one text. -/
def check (a : Arguments) (lists : Folder) (text : String) (c : Checker) :
    Outcome Unit × Checker :=
  c.check (backend lists) a.maxSuggestions text

/-- Checks lines as they come: the number of prompts, and what it comes to. -/
def converse (a : Arguments) (lists : Folder) : List String → Checker → Nat × Outcome Unit × Checker
  | [], c => (1, .returned (), c)
  | line :: rest, c =>
    match a.check lists (Text.trim line) c with
    | (.returned (), c) =>
      let (prompts, r) := a.converse lists rest c
      (prompts + 1, r)
    | r => (1, r)

end Arguments

/-- How a run ends whose checks came to something. -/
def Ending.ofOutcome : Outcome Unit → Ending
  | .returned () => done
  | .broken message => broken message
  | .endless => broken "a dictionary was never found open"

/-- What a run shows. -/
structure Run where
  ending : Ending
  output : String := ""
  records : List Record := []
  deriving DecidableEq, Repr

namespace Run

/-- How severe a record has to be to be shown. -/
def level : Level := .info

/-- The run of some checks. -/
def ofChecks (lists : Folder) (prompts : Nat) (r : Outcome Unit × Checker) : Run :=
  let c := match r.1 with
    | .returned () => r.2.closeAll (Arguments.backend lists)
    | .broken _ | .endless => r.2
  { ending := .ofOutcome r.1
    output := String.join (List.replicate prompts prompt)
    records := shownAt level c.world.records }

/-- The run of a checker that was set up. -/
def ofChecker (a : Arguments) (lists : Folder) (input : String) (c : Checker) : Run :=
  match a.text? with
  | some text => ofChecks lists 0 (a.check lists text c)
  | none =>
    if a.interactive then
      let lines := (Text.lines input.toList).map String.ofList
      let (prompts, r) := a.converse lists lines c
      ofChecks lists prompts r
    else
      { ending := .failed (Text.quoted noAction)
        records := shownAt level c.world.records }

/-- The run that some arguments describe, in a folder and with some input. -/
def ofArguments (a : Arguments) (here : Folder) (input : String) : Run :=
  match a.settings (here.readText (a.config?.getD "")) with
  | .error e => { ending := .failed e.detail }
  | .ok s =>
    match a.checker s with
    | .error u => { ending := .broken u.message, records := shownAt level u.records }
    | .ok c => ofChecker a (here.folderAt a.dictionaries) input c

/-- The run of a command line, in a folder and with some input. -/
def ofCommandLine (args : List String) (here : Folder) (input : String) : Run :=
  match Request.parse args with
  | .error e => { ending := .refused e }
  | .ok .help => { ending := .done, output := usage }
  | .ok (.work a) => ofArguments a here input

end Run

end Spelling.CommandLine
