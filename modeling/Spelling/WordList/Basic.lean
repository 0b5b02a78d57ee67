import Spelling.Casing
import Spelling.Log

/-!
# Word lists

A word list is its entries in order.  An entry is a word in its canonical casing with a frequency,
two flags and the words it often follows.  Beside the entries stands an index with a place for each
word.  It is made once, entry after entry, and a word that has a place keeps it; so the entry of a
word is the first that is listed.
-/

namespace Spelling

/-- An entry of a word list. -/
structure Entry where
  word : String
  /-- How common the word is, from 0 to 255 -/
  frequency : Nat := 0
  /-- The word may offend -/
  offensive : Bool := false
  /-- The word is right but never offered as a correction -/
  neverSuggested : Bool := false
  /-- Words that this one often follows -/
  follows : List String := []
  deriving DecidableEq, Repr

/-- Whether a word often follows another, in any case. -/
def Entry.comesAfter (e : Entry) (l : Locale) (previous : String) : Bool :=
  e.follows.any fun word => Casing.lower l word == Casing.lower l previous

namespace WordList

/-- Gives a word a place in an index, unless it has one. -/
def place (index : List (String × Nat)) (word : String) (i : Nat) : List (String × Nat) :=
  if (index.lookup word).isSome then index else (word, i) :: index

/-- The index of some entries that stand from place `i` on, added to that of those before. -/
def indexFrom (index : List (String × Nat)) (i : Nat) : List Entry → List (String × Nat)
  | [] => index
  | e :: rest => indexFrom (place index e.word i) (i + 1) rest

end WordList

/-- Entries in order, with their index. -/
structure WordList where
  entries : List Entry
  index : List (String × Nat)
  indexed : index = WordList.indexFrom [] 0 entries
  deriving DecidableEq, Repr

namespace WordList

/-- The list of some entries. -/
def ofEntries (entries : List Entry) : WordList :=
  ⟨entries, indexFrom [] 0 entries, rfl⟩

/-- The entry of exactly this word. -/
def get? (w : WordList) (word : String) : Option Entry :=
  (w.index.lookup word).bind (w.entries[·]?)

/-- Whether exactly this word is listed. -/
def contains (w : WordList) (word : String) : Bool :=
  (w.index.lookup word).isSome

/-- Number of entries. -/
def size (w : WordList) : Nat := w.entries.length

end WordList

end Spelling
