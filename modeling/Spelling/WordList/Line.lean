import Spelling.Number.Decimal
import Spelling.Text.Lines
import Spelling.WordList.Basic

/-!
# Lines of a word list

A line is blank or holds one entry; a comment may end either.

    hello fq:200
    world fq:180 bg:hello
    Germans/N fq:40
    darn/O fq:10   # mild

The word ends at the first blank, slash or comment.  Flags follow the slash: `O` for a word that may
offend, `N` for one that is never suggested, others have no meaning.  Then come fields, each after
a blank: `fq:` with a frequency and `bg:` with a word that comes before this one.
-/

namespace Spelling.WordList

/-- A field of an entry. -/
inductive Field where
  | frequency (n : Nat)
  | follows (word : String)
  deriving DecidableEq, Repr

/-- An entry as it is written. -/
structure EntryLine where
  word : String
  flags : List Char
  fields : List Field
  deriving DecidableEq, Repr

/-- Reads a field. -/
def Field.ofChars? : List Char → Option Field
  | 'f' :: 'q' :: ':' :: digits => ((Number.nat? digits).filter (· ≤ 255)).map .frequency
  | 'b' :: 'g' :: ':' :: word => if word.isEmpty then none else some (.follows (String.ofList word))
  | _ => none

/-- Whether a character belongs to the word of an entry. -/
def isWordPart (c : Char) : Bool :=
  !Text.isBlank c && c != '/'

/-- The flags after a word and what comes after them; nothing if a slash has no flags. -/
def splitFlags? : List Char → Option (List Char × List Char)
  | '/' :: rest =>
    let flags := rest.takeWhile (!Text.isBlank ·)
    if flags.isEmpty then none else some (flags, rest.dropWhile (!Text.isBlank ·))
  | rest => some ([], rest)

/-- Reads the entry of a line. -/
def EntryLine.ofLine? (line : List Char) : Option EntryLine := do
  let content := Text.content line
  let word := content.takeWhile isWordPart
  let (flags, rest) ← splitFlags? (content.dropWhile isWordPart)
  let fields ← (Text.fields rest).mapM Field.ofChars?
  if word.isEmpty then none else some ⟨String.ofList word, flags, fields⟩

/-- Reads a line, which may be blank. -/
def readLine? (line : List Char) : Option (Option EntryLine) :=
  if Text.isBlankLine line then some none else (EntryLine.ofLine? line).map some

/-- What a field changes in its entry. -/
def Field.apply (e : Entry) : Field → Entry
  | frequency n => { e with frequency := n }
  | follows word => { e with follows := e.follows ++ [word] }

/-- What is reported about a flag without meaning. -/
def unknownFlag (word : String) (flag : Char) : Record :=
  ⟨.debug, .wordList, "ignoring unknown flag `" ++ flag.toString ++ "` on `" ++ word ++ "`"⟩

/-- The entry that a line writes. -/
def EntryLine.entry (line : EntryLine) : Entry :=
  line.fields.foldl Field.apply
    { word := line.word
      offensive := line.flags.contains 'O'
      neverSuggested := line.flags.contains 'N' }

/-- What is reported about the flags of a line. -/
def EntryLine.records (line : EntryLine) : List Record :=
  (line.flags.filter fun c => c != 'O' && c != 'N').map (unknownFlag line.word)

end Spelling.WordList
