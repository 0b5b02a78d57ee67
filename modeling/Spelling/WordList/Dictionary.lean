import Spelling.Dictionary
import Spelling.Room
import Spelling.WordList.Ranking

/-!
# Dictionaries made of word lists

A main list and, while the option is on, the list of the user's contacts.  Closing lets go of both.
-/

namespace Spelling.WordList

/-- A dictionary made of word lists. -/
structure Dictionary where
  locale : Locale
  main? : Option WordList
  contacts? : Option WordList
  useContacts : Bool
  /-- How many sessions have scratch space -/
  sessions : Nat

namespace Dictionary

/-- A dictionary over lists that were read before. -/
def ofLists (l : Locale) (main : WordList) (contacts? : Option WordList) (o : Options) :
    Dictionary :=
  ⟨l, some main, contacts?, o.useContacts, o.sessions⟩

/-- Bytes of scratch space that a session takes. -/
def scratchBytes : Nat := 104

/-- Opens a dictionary over lists that were read before, with scratch space for its sessions. -/
def open? (l : Locale) (main : WordList) (contacts? : Option WordList) (o : Options) :
    Except Overflow Dictionary := do
  layList o.sessions scratchBytes
  return ofLists l main contacts? o

/-- The lists that are searched, the main one first. -/
def lists (d : Dictionary) : List WordList :=
  d.main?.toList ++ (if d.useContacts then d.contacts?.toList else [])

/-- The entries that are searched. -/
def entries (d : Dictionary) : List Entry :=
  d.lists.flatMap WordList.entries

/-- Whether a word is listed, as it is. -/
def contains (d : Dictionary) (word : String) : Bool :=
  d.lists.any (·.contains word)

/-- Whether the main list is there. -/
def hasMain (d : Dictionary) : Bool := d.main?.isSome

/-- The failure of a query that carries a session number without scratch space. -/
def outOfSessions (d : Dictionary) (session : Nat) : QueryError :=
  .backend (sessionName session ++ " is out of the " ++ toString d.sessions ++ " sessions of " ++
    d.locale.display)

/-- Whether a typed word is listed, as typed or in lowercase. -/
def isTypedValid (d : Dictionary) (typed : String) : Bool :=
  d.contains typed || d.contains (Casing.lower d.locale typed)

/-- Ranks the corrections of a typed word.  The rows are the scratch space of the session, which is
returned as it is left. -/
def suggestIn (rows : Distance.Rows Float32) (d : Dictionary) (q : Query) (session : Nat) :
    Except QueryError Results × Distance.Rows Float32 :=
  if !d.hasMain then (.error (.closed d.locale), rows)
  else if d.sessions ≤ session then (.error (d.outOfSessions session), rows)
  else
    let typed := q.composed.word
    let (corrections, rows) :=
      correctAll d.locale q (Casing.lowerChars d.locale typed.toList) rows d.entries
    (.ok { candidates := rank corrections, typedValid := d.isTypedValid typed }, rows)

/-- Ranks the corrections of a typed word, with fresh scratch space. -/
def suggest (d : Dictionary) (q : Query) (session : Nat) : Except QueryError Results :=
  (d.suggestIn {} q session).1

/-- Searches the contacts or not. -/
def setContacts (d : Dictionary) (on : Bool) : Dictionary :=
  { d with useContacts := on }

/-- Lets go of the lists. -/
def close (d : Dictionary) : Logged Dictionary := do
  Logged.report .debug .wordList ("releasing word lists of " ++ d.locale.display)
  pure { d with main? := none, contacts? := none }

end Dictionary

end Spelling.WordList
