import Spelling.Files
import Spelling.Locale.Basic
import Spelling.Query
import Spelling.Text.Fault

/-!
# Dictionaries

What is asked of the dictionary of a locale, whatever it is made of, and the ways this can fail.  A
dictionary that could not be opened is replaced by one that knows no word, so that a missing
dictionary degrades its own locale and no other.
-/

namespace Spelling

/-- What a dictionary is opened with. -/
structure Options where
  /-- Also accept and suggest words of the user's contacts -/
  useContacts : Bool := true
  /-- How many session numbers queries may carry -/
  sessions : Nat := 2
  deriving DecidableEq, Repr

/-- Why a dictionary could not be opened. -/
inductive OpenError where
  | missing (l : Locale)
  | parser (fault : Text.Fault)
  | read (error : ReadError)
  deriving DecidableEq, Repr

/-- What a reader is told about a dictionary that could not be opened. -/
def OpenError.message : OpenError → String
  | missing l => "no dictionary for locale " ++ l.display
  | parser fault => "could not parse dictionary: " ++ fault.message
  | read error => error.message

/-- What came of opening a dictionary. -/
inductive Loaded (δ : Type) where
  | opened (d : δ)
  | failed (error : OpenError)
  /-- The opening broke off -/
  | broken (message : String)

/-- Why a query on an open dictionary failed. -/
inductive QueryError where
  /-- The dictionary was closed -/
  | closed (l : Locale)
  /-- The dictionary itself failed -/
  | backend (reason : String)
  deriving DecidableEq, Repr

/-- What a reader is told about a failed query. -/
def QueryError.message : QueryError → String
  | closed l => "dictionary for " ++ l.display ++ " is closed"
  | backend reason => "dictionary query failed: " ++ reason

/-- How a session number is shown. -/
def sessionName (session : Nat) : String :=
  "session#" ++ toString session

/-- What can be asked of dictionaries of one kind, and how one is opened. -/
structure DictionaryKind (δ : Type) where
  /-- Opens the dictionary of a locale -/
  load : Locale → Options → Logged (Loaded δ)
  /-- Whether a word is in the dictionary, as it is -/
  contains : δ → String → Bool
  /-- Ranks corrections, with the scratch space of a session -/
  suggest : δ → Query → Nat → Except QueryError Results
  /-- Whether the main list is loaded -/
  hasMain : δ → Bool
  /-- Includes or leaves out the words of the contacts -/
  setContacts : δ → Bool → δ
  /-- Lets go of what was loaded -/
  close : δ → Logged δ

/-- Stands in for a dictionary that could not be opened. -/
structure Unavailable where
  locale : Locale
  reason : String
  deriving DecidableEq, Repr

namespace Unavailable

/-- The stand-in for a dictionary of a locale, with the reason it is needed. -/
def ofError (l : Locale) (error : OpenError) : Unavailable :=
  ⟨l, error.message⟩

/-- Closing a stand-in is only reported. -/
def close (u : Unavailable) : Logged Unit :=
  .report .debug .dictionary ("closing unavailable dictionary for " ++ u.locale.display)

end Unavailable

/-- A dictionary or its stand-in. -/
inductive Resource (δ : Type) where
  | dictionary (d : δ)
  | unavailable (u : Unavailable)

end Spelling
