import Spelling.Dictionary
import Spelling.WordList.Line

/-!
# Reading a word list

The first line announces how many entries there are; every other line is blank or holds an entry.

    fault                                   what is left          looked for
    no announced number, or one too large   the whole text        a number
    more than blanks after the number       that and the rest     the end of the line
    a line that is no entry and not blank   that line and on      the end of the text

The announced number binds nothing: a list with another number of entries is only reported.
-/

namespace Spelling.WordList

/-- Bound of the numbers that can be announced. -/
def countBound : Nat := 1 <<< 64

/-- Reads the first line: the announced number, or the fault in a text that goes on with `rest`. -/
def readCount (line : List Char) (rest : List (List Char)) : Except Text.Fault Nat :=
  match (Number.nat? (line.takeWhile Char.isDigit)).filter (· < countBound) with
  | none => .error ⟨String.ofList (Text.unlines (line :: rest)), .digit⟩
  | some n =>
    let after := (line.dropWhile Char.isDigit).dropWhile Text.isBlank
    if Text.isBlankLine after then .ok n
    else .error ⟨String.ofList (Text.unlines (after :: rest)), .char⟩

/-- Whether a line can be read. -/
def isReadable (line : List Char) : Bool :=
  (readLine? line).isSome

/-- The entries written before the first line that cannot be read. -/
def entryLines (lines : List (List Char)) : List EntryLine :=
  (lines.takeWhile isReadable).filterMap fun line => (readLine? line).join

/-- What is reported when a list does not hold as many entries as announced. -/
def miscount (announced found : Nat) : List Record :=
  if announced = found then []
  else [⟨.warn, .wordList, "word list announces " ++ toString announced ++
    " entries but holds " ++ toString found⟩]

/-- Reads the lines after the first. -/
def readEntries (announced : Nat) (lines : List (List Char)) :
    Logged (Except Text.Fault WordList) :=
  let written := entryLines lines
  let flags := written.flatMap EntryLine.records
  match lines.dropWhile isReadable with
  | [] => ⟨.ok (.ofEntries (written.map EntryLine.entry)), flags ++ miscount announced written.length⟩
  | rest => ⟨.error ⟨String.ofList (Text.unlines rest), .eof⟩, flags⟩

/-- Reads a word list. -/
def parse (text : String) : Logged (Except Text.Fault WordList) :=
  match Text.lines (Text.terminated text.toList) with
  | [] => ⟨.error ⟨"", .digit⟩, []⟩
  | first :: rest =>
    match readCount first rest with
    | .error fault => ⟨.error fault, []⟩
    | .ok announced => readEntries announced rest

/-- Reads a word list as the text of a dictionary. -/
def ofText (text : String) : Logged (Except OpenError WordList) :=
  (Except.mapError OpenError.parser) <$> parse text

/-- Reads a word list file. -/
def ofFile (folder : Folder) (name : String) : Logged (Except OpenError WordList) :=
  match folder.readText name with
  | .error error => pure (.error (.read error))
  | .ok text => ofText text

end Spelling.WordList
