import Spelling.WordList.Dictionary
import Spelling.WordList.Parser

/-!
# Where word lists come from

A source has the main list of a locale, or else that of its bare language, and possibly a list of
contacts.  Lists are kept in memory by locale, or in a directory as files named after locales:

    en_GB.dic        the list of en_GB
    en.dic           the list of en, and of every other locale of the language
    contacts.dic     the contacts

A contacts list that cannot be read is reported and left out.
-/

namespace Spelling.WordList

/-- Where word lists come from. -/
inductive Source where
  | folder (f : Folder)
  | memory (lists : List (Locale × String)) (contacts? : Option String)

namespace Source

/-- A source in memory with one list more, which replaces that of the same locale. -/
def withList (lists : List (Locale × String)) (l : Locale) (text : String) :
    List (Locale × String) :=
  (l, text) :: lists.filter (·.1 != l)

/-- Name of the file that holds the list of a locale. -/
def fileName (l : Locale) : String :=
  l.display ++ ".dic"

/-- Name of the file that holds the contacts. -/
def contactsName : String := "contacts.dic"

/-- Names of the files that can be asked for when some locales are in use. -/
def fileNames (locales : List Locale) : List String :=
  contactsName :: locales.flatMap fun l => [fileName l, fileName l.base]

/-- Reads the main list of a locale. -/
def mainList (s : Source) (l : Locale) : Logged (Except OpenError WordList) :=
  match s with
  | .folder f =>
    match [l, l.base].map fileName |>.find? f.isFile with
    | none => pure (.error (.missing l))
    | some name => do
      Logged.report .debug .wordList ("reading word list " ++ f.pathOf name)
      ofFile f name
  | .memory lists _ =>
    match (lists.lookup l).or (lists.lookup l.base) with
    | none => pure (.error (.missing l))
    | some text => ofText text

/-- Reads the contacts as they are written, if there are any. -/
def writtenContacts (s : Source) : Option (Logged (Except OpenError WordList)) :=
  match s with
  | .folder f => if f.isFile contactsName then some (ofFile f contactsName) else none
  | .memory _ contacts? => contacts?.map ofText

/-- A list that could be read; the failure of any other is reported. -/
def orReport : Except OpenError WordList → Logged (Option WordList)
  | .ok list => pure (some list)
  | .error error => do
    Logged.report .warn .wordList ("ignoring contacts list: " ++ error.message)
    pure none

/-- Reads the contacts. -/
def contactsList (s : Source) : Logged (Option WordList) :=
  match s.writtenContacts with
  | none => pure none
  | some written => written >>= orReport

/-- Opens the dictionary of a locale. -/
def load (s : Source) (l : Locale) (o : Options) : Logged (Loaded Dictionary) := do
  match ← s.mainList l with
  | .error error => pure (.failed error)
  | .ok main =>
    match Dictionary.open? l main (← s.contactsList) o with
    | .ok d => pure (.opened d)
    | .error overflow => pure (.broken overflow.message)

/-- The dictionaries of a source. -/
def kind (s : Source) : DictionaryKind Dictionary where
  load := s.load
  contains := Dictionary.contains
  suggest := Dictionary.suggest
  hasMain := Dictionary.hasMain
  setContacts := Dictionary.setContacts
  close := Dictionary.close

end Source

end Spelling.WordList
