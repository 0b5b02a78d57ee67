import Spelling.Cache.Basic

/-!
# Asking a dictionary

The questions that a cache passes on to a dictionary while it cannot be closed.  Words are looked up
one after another until one is found or a look-up breaks off.  A stand-in knows no word, suggests
nothing and is not recorded; a slot without dictionary answers like a closed one.
-/

namespace Spelling

/-- A question for a dictionary. -/
inductive Ask where
  /-- Whether one of some words is in it, tried in order -/
  | contains (words : List String)
  /-- Which corrections it has, with the scratch space of a session -/
  | suggest (q : Query) (session : Nat)
  /-- Whether its main list is loaded -/
  | hasMain

/-- An answer of a dictionary. -/
inductive Reply where
  | flag (b : Bool)
  | results (r : Results)
  | failed (e : QueryError)
  deriving DecidableEq, Repr

/-- What came of a question for yes or no, as the outcome of a call. -/
def Outcome.ofFlag : Except String Bool → Outcome Reply
  | .ok b => .returned (.flag b)
  | .error message => .broken message

namespace Answered

/-- What came of a query, as the outcome of a call. -/
def outcome : Answered → Outcome Reply
  | results r => .returned (.results r)
  | failed e => .returned (.failed e)
  | broken message => .broken message

end Answered

namespace Ask

/-- What a stand-in answers. -/
def ofUnavailable : Ask → Reply
  | contains _ => .flag false
  | suggest _ _ => .results .none
  | hasMain => .flag false

/-- What is answered for the slot of a locale that has no dictionary. -/
def ofClosed (l : Locale) : Ask → Reply
  | contains _ => .flag false
  | suggest _ _ => .failed (.closed l)
  | hasMain => .flag false

end Ask

namespace CacheState

variable {σ δ : Type}

/-- Looks words up in the dictionary of a slot until one is found or a look-up breaks off. -/
def lookUp (b : Backend σ δ) (i : Nat) (d : δ) :
    List String → CacheState σ δ → Except String Bool × CacheState σ δ
  | [], s => (.ok false, s)
  | word :: rest, s =>
    let s := s.note i (.lookedUp word)
    match b.contains d word with
    | .ok false => lookUp b i d rest s
    | found => (found, s)

/-- Asks the dictionary of a slot. -/
def askDictionary (b : Backend σ δ) (i : Nat) (d : δ) (a : Ask) (s : CacheState σ δ) :
    Outcome Reply × CacheState σ δ :=
  match a with
  | .contains words =>
    let (found, s) := s.lookUp b i d words
    (.ofFlag found, s)
  | .suggest q session =>
    ((b.suggest d q session).outcome, s.note i (.queried q.composed.word session))
  | .hasMain => (.ofFlag (b.hasMain d), s)

/-- Asks what a ready slot holds. -/
def askResource (b : Backend σ δ) (i : Nat) (r : Resource δ) (a : Ask) (s : CacheState σ δ) :
    Outcome Reply × CacheState σ δ :=
  match r with
  | .dictionary d => s.askDictionary b i d a
  | .unavailable _ => (.returned a.ofUnavailable, s)

end CacheState

end Spelling
