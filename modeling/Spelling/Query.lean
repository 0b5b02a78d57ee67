import Spelling.Keyboard.Geometry
import Spelling.Log

/-!
# Suggestion queries

What a dictionary is told when corrections are asked for: the typed word, perhaps with the point
where each character was touched; the words before it; the keyboard it was typed on; and which words
the host does not want to see.
-/

namespace Spelling

/-- What was typed, with one touch point per character when they are known. -/
structure Composed where
  word : String
  touches? : Option (List Point)

namespace Composed

/-- Input known by its characters alone. -/
def typed (word : String) : Composed := ⟨word, none⟩

/-- Input with touch points, which are dropped unless there is one per character. -/
def withTouches (word : String) (touches : List Point) : Logged Composed :=
  if touches.length = word.length then pure ⟨word, some touches⟩
  else do
    Logged.report .debug .suggest ("ignoring touch points that do not match `" ++ word ++ "`")
    pure ⟨word, none⟩

/-- The touch point of the character at some place. -/
def touch? (c : Composed) (index : Nat) : Option Point :=
  c.touches?.bind (·[index]?)

end Composed

/-- The words before the one that is checked. -/
structure Context where
  /-- The words before it, the closest one first -/
  previous : List String
  /-- Whether it starts a sentence -/
  beginning : Bool
  deriving DecidableEq, Repr

namespace Context

/-- How many words a context remembers. -/
def span : Nat := 3

/-- Nothing is known of the words before. -/
def empty : Context := ⟨[], false⟩

/-- The word starts a sentence. -/
def sentenceStart : Context := ⟨[], true⟩

/-- The words before, in reading order.  Only the last few are kept. -/
def ofWords (words : List String) : Context :=
  ⟨words.reverse.take span, false⟩

/-- The context of a word in a text, from the words before it in reading order. -/
def after (words : List String) : Context :=
  if words.isEmpty then sentenceStart else ofWords words

/-- The `n`th word before the checked one, the closest being the zeroth. -/
def word? (c : Context) (n : Nat) : Option String :=
  c.previous[n]?

end Context

/-- Which words are never offered. -/
structure Policy where
  /-- Leave out words that may offend -/
  blockOffensive : Bool := true
  deriving DecidableEq, Repr

/-- Everything a dictionary needs to rank corrections. -/
structure Query where
  composed : Composed
  context : Context
  keyboard : Keyboard
  policy : Policy

/-- A word offered as a correction, and how well it ranks. -/
structure Suggestion where
  word : String
  score : Int
  deriving DecidableEq, Repr

/-- Ranked corrections of a typed word. -/
structure Results where
  /-- Best candidate first -/
  candidates : List Suggestion
  /-- Whether the typed word is a word itself -/
  typedValid : Bool
  deriving DecidableEq, Repr

namespace Results

/-- No candidate, and the typed word is unknown. -/
def none : Results := ⟨[], false⟩

/-- The candidate that ranks first. -/
def best? (r : Results) : Option Suggestion := r.candidates.head?

end Results

end Spelling
