import Spelling.CommandLine.Program

/-!
# The command line

Reads the files that a run needs and the lines it is given, prints what it reports, and exits.  All
decisions are those of `Spelling.CommandLine`.
-/

namespace Spelling.CommandLine

/-- The number of an error of the system, which may come with its sign turned round. -/
def systemNumber (code : UInt32) : UInt32 :=
  if code < 0x80000000 then code else 0 - code

/-- The way of failing to read a text that an error of the system stands for, if it is one. -/
def readError? : IO.Error → Option ReadError
  | .noFileOrDirectory _ _ _ => some .notFound
  | .inappropriateType _ 21 _ => some .isDirectory
  | .inappropriateType _ _ _ => some .notDirectory
  | .invalidArgument _ code _ =>
    if systemNumber code = 36 then some .nameTooLong
    else if systemNumber code = 22 then some .nulInName
    else none
  | _ => none

/-- Reads what a file holds. -/
def readBytes (path : String) : IO (Except ReadError ByteArray) :=
  try
    return .ok (← IO.FS.readBinFile path)
  catch e =>
    match readError? e with
    | some error => return .error error
    | none => throw e

/-- Reads the files with some names in a directory. -/
def readFolder (path : String) (names : List String) : IO Folder := do
  let folder : Folder := ⟨path, []⟩
  let nodes ← names.filterMapM fun name => do
    return match ← readBytes (folder.pathOf name) with
      | .ok content => some (name, Node.file content)
      | .error _ => none
  return { folder with nodes }

/-- Prints records. -/
def print (records : List Record) : IO Unit :=
  for r in shownAt Run.level records do
    IO.eprintln (r.level.name ++ " " ++ r.topic.target ++ " > " ++ r.message)

/-- Prints the records that a checker made after the first `n`, and counts them all. -/
def printRecords (n : Nat) (c : Checker) : IO Nat := do
  print (c.world.records.drop n)
  return c.world.records.length

/-- Prints how a run ended, and gives its exit code. -/
def finish (e : Ending) : IO UInt32 := do
  match e with
  | .done => pure ()
  | .failed _ => IO.eprintln (e.failure?.getD "")
  | .refused error => IO.eprintln ("error: " ++ error.message)
  | .broken message => IO.eprintln message
  return UInt32.ofNat e.code

/-- Ends the work of a checker. -/
def close (lists : Folder) (printed : Nat) (o : Outcome Unit) (c : Checker) : IO UInt32 := do
  if o = .returned () then
    let _ ← printRecords printed (c.closeAll (Arguments.backend lists))
  finish (.ofOutcome o)

/-- Checks line after line. -/
partial def converse (a : Arguments) (lists : Folder) (printed : Nat) (c : Checker) :
    IO UInt32 := do
  IO.print prompt
  (← IO.getStdout).flush
  let line ← (← IO.getStdin).getLine
  if line.isEmpty then close lists printed (.returned ()) c
  else
    let (o, c) := a.check lists (Text.trim line) c
    let printed ← printRecords printed c
    if o = .returned () then converse a lists printed c else close lists printed o c

/-- Does the work of a checker that was set up. -/
def workWith (a : Arguments) (c : Checker) : IO UInt32 := do
  let lists ← readFolder a.dictionaries (WordList.Source.fileNames a.enabled)
  let printed ← printRecords 0 c
  match a.text? with
  | some text =>
    let (o, c) := a.check lists text c
    close lists (← printRecords printed c) o c
  | none =>
    if a.interactive then converse a lists printed c
    else finish (.failed (Text.quoted noAction))

/-- Does the work that some arguments describe. -/
def work (a : Arguments) : IO UInt32 := do
  let content ← match a.config? with
    | some path => (·.bind textOf) <$> readBytes path
    | none => pure (.error .notFound)
  match a.settings content with
  | .error e => finish (.failed e.detail)
  | .ok s =>
    match a.checker s with
    | .error u =>
      print u.records
      finish (.broken u.message)
    | .ok c => workWith a c

end Spelling.CommandLine

open Spelling.CommandLine in
/-- Runs the program. -/
def main (args : List String) : IO UInt32 := do
  match Request.parse args with
  | .error e => finish (.refused e)
  | .ok .help =>
    IO.print usage
    finish .done
  | .ok (.work a) => work a
