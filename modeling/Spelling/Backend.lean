import Spelling.Dictionary

/-!
# Backends

What a cache opens its dictionaries with.  Besides failing, opening a dictionary or asking one
anything may break off with a message; whoever asked then stops where they are.  Opening may depend
on what was opened before, so a backend has a state of its own.

`Backend.ofKind` breaks off only where its dictionaries do.  `Backend.rehearsed` also breaks off
when a script says so: a locale can be given a number of openings that break off, and the typed
words `!fail` and `!panic` fail and break off.
-/

namespace Spelling

/-- What came of a query. -/
inductive Answered where
  | results (r : Results)
  | failed (error : QueryError)
  | broken (message : String)
  deriving DecidableEq, Repr

/-- What a cache opens its dictionaries with; `σ` is its own state. -/
structure Backend (σ δ : Type) where
  /-- Opens the dictionary of a locale -/
  load : σ → Locale → Options → σ × Logged (Loaded δ)
  /-- Whether a word is in a dictionary, as it is, or what is said when looking it up breaks off -/
  contains : δ → String → Except String Bool
  /-- Ranks corrections, with the scratch space of a session -/
  suggest : δ → Query → Nat → Answered
  /-- Whether the main list is loaded, or what is said when that breaks off -/
  hasMain : δ → Except String Bool
  /-- Includes or leaves out the words of the contacts -/
  setContacts : δ → Bool → δ
  /-- Lets go of what was loaded; what remains is dropped -/
  close : δ → List Record

/-- What came of a query, when it cannot break off. -/
def Answered.ofExcept : Except QueryError Results → Answered
  | .ok r => results r
  | .error e => failed e

namespace Backend

/-- The backend that opens dictionaries of one kind. -/
def ofKind {δ : Type} (k : DictionaryKind δ) : Backend Unit δ where
  load _ l o := ((), k.load l o)
  contains d word := .ok (k.contains d word)
  suggest d q s := Answered.ofExcept (k.suggest d q s)
  hasMain d := .ok (k.hasMain d)
  setContacts := k.setContacts
  close d := (k.close d).records

/-- Openings that are to break off, by locale. -/
abbrev Breaks := List (Locale × Nat)

/-- Gives a locale a number of openings that are to break off, in place of any number before. -/
def Breaks.put (b : Breaks) (l : Locale) (n : Nat) : Breaks :=
  (l, n) :: b.filter (·.1 != l)

/-- How many openings of a locale are to break off. -/
def Breaks.of (b : Breaks) (l : Locale) : Nat :=
  (b.lookup l).getD 0

/-- One opening of a locale less to break off. -/
def Breaks.spend (b : Breaks) (l : Locale) : Breaks :=
  b.map fun (m, n) => if m = l then (m, n - 1) else (m, n)

/-- The typed word whose query fails. -/
def failWord : String := "!fail"

/-- The typed word whose query breaks off. -/
def panicWord : String := "!panic"

/-- The typed word whose query waits until it is let go. -/
def waitWord : String := "!wait"

/-- The backend of a script, over dictionaries of one kind. -/
def rehearsed {δ : Type} (k : DictionaryKind δ) : Backend Breaks δ where
  load b l o :=
    if 0 < b.of l then (b.spend l, pure (.broken "open panic"))
    else (b, k.load l o)
  contains d word := .ok (k.contains d word)
  suggest d q s :=
    if q.composed.word = failWord then .failed (.backend "query failure")
    else if q.composed.word = panicWord then .broken "query panic"
    else Answered.ofExcept (k.suggest d q s)
  hasMain d := .ok (k.hasMain d)
  setContacts := k.setContacts
  close d := (k.close d).records

end Backend

end Spelling
