import Spelling.Distance.Rows
import Spelling.Query
import Spelling.Score
import Spelling.WordList.Basic

/-!
# Ranking corrections

Which entries of some word lists correct a typed word, and in what order.  An entry is left out when
it is never suggested, when it may offend and the host blocks that, and when its word is the typed
word itself.  Typed word and entry are compared in lowercase.  An entry further than the cost limit
is no correction, and one whose length differs by more than the limit is not even compared.

A correction scores by its frequency and by how many letters were typed, halved for every edit, and
half as much again when its entry follows the previous word.  Three stages follow:

    counting in     each word in its alphabetical place, with the best of its scores
    sorting         by falling score, words of one score as they stand
    cutting         the first ones are offered
-/

namespace Spelling.WordList

open Distance

/-- Most corrections offered for a word. -/
def suggestionLimit : Nat := 18

/-- Greatest cost of a correction. -/
def costLimit : Nat := 2

/-- Greatest difference in length between a typed word and its correction. -/
def lengthLimit : Nat := 2

/-- A cost not below a quarter and not above one. -/
def clampCost (cost : Float32) : Float32 :=
  if cost < 0.25 then 0.25 else if 1 < cost then 1 else cost

/-- Cost of replacing the character at a place of the typed word.  With a touch point it is half the
distance from it to the key of the candidate's character, in bounds; without one it depends on how
close the keys of both characters are. -/
def replaceCost (q : Query) (index : Nat) (typed candidate : Char) : Float32 :=
  match q.composed.touch? index with
  | some touch =>
    match q.keyboard.distanceTo? touch candidate with
    | some distance => clampCost (distance / 2)
    | none => 1
  | none =>
    match q.keyboard.proximity typed candidate with
    | .same => 0
    | .adjacent => 0.5
    | .distant | .unknown => 1

/-- Whether an entry may be offered for a query at all. -/
def Entry.isOffered (e : Entry) (q : Query) : Bool :=
  !e.neverSuggested && !(e.offensive && q.policy.blockOffensive) && e.word != q.composed.word

/-- Whether two lengths are close enough for a comparison. -/
def closeLengths (a b : Nat) : Bool :=
  a ≤ b + lengthLimit && b ≤ a + lengthLimit

/-- Cost of aligning a typed word with a candidate of about its length, if it is within the limit, and
the rows as the comparison leaves them. -/
def compareClose {α : Type} (scale : CostScale α) (rows : Rows α)
    (replace : Nat → Char → Char → α) (typed candidate : List Char) : Option α × Rows α :=
  if closeLengths candidate.length typed.length then
    rows.compare scale (scale.whole costLimit) replace typed candidate
  else (none, rows)

/-- Cost of aligning a typed word with a candidate of about its length, if it is within the limit.
The rows may have served any comparison before. -/
def alignClose {α : Type} (scale : CostScale α) (rows : Rows α) (replace : Nat → Char → Char → α)
    (typed candidate : List Char) : Option α :=
  (compareClose scale rows replace typed candidate).1

/-- A score on the scale of whole numbers, below its topmost value. -/
def wholeScore (score : Float) : Int :=
  let limit := Float.ofInt (Score.top - 1)
  (if score < limit then score else limit).toUInt64.toNat

/-- Score of an entry that corrects a typed word of some length at some cost. -/
def score (l : Locale) (q : Query) (typedLength : Nat) (e : Entry) (cost : Float32) : Int :=
  let letters := min typedLength e.word.length
  let raw := Float.ofNat (max e.frequency 1) * Score.best letters / Float.ofNat Score.initial *
    Float.pow 0.5 cost.toFloat
  let follows := match q.context.word? 0 with
    | some previous => e.comesAfter l previous
    | none => false
  wholeScore (if follows then raw * 1.5 else raw)

/-- The correction that an entry offers for a query, and the rows of a session as the comparison
leaves them. -/
def correct (l : Locale) (q : Query) (typed : List Char) (rows : Rows Float32) (e : Entry) :
    Option Suggestion × Rows Float32 :=
  if Entry.isOffered e q then
    let (cost?, rows) := compareClose CostScale.single rows (replaceCost q) typed
      (Casing.lowerChars l e.word.toList)
    (cost?.map fun cost => ⟨e.word, score l q typed.length e cost⟩, rows)
  else (none, rows)

/-- The corrections that some entries offer for a query, one entry compared after another. -/
def correctAll (l : Locale) (q : Query) (typed : List Char) :
    Rows Float32 → List Entry → List Suggestion × Rows Float32
  | rows, [] => ([], rows)
  | rows, e :: rest =>
    let (s?, rows) := correct l q typed rows e
    let (others, rows) := correctAll l q typed rows rest
    (s?.toList ++ others, rows)

/-- Counts a correction in among others, which stand in alphabetical order: a word keeps the best of
its scores. -/
def keepBest : List Suggestion → Suggestion → List Suggestion
  | [], s => [s]
  | t :: rest, s =>
    if s.word < t.word then s :: t :: rest
    else if s.word = t.word then ⟨t.word, max t.score s.score⟩ :: rest
    else t :: keepBest rest s

/-- The words corrected to in alphabetical order, each with the best of its scores. -/
def bestScores (corrections : List Suggestion) : List Suggestion :=
  corrections.foldl keepBest []

/-- Whether one correction scores at least as high as another. -/
def scoresAtLeast (a b : Suggestion) : Bool :=
  b.score ≤ a.score

/-- The best of some corrections.  Sorting leaves those of one score as they stand. -/
def rank (corrections : List Suggestion) : List Suggestion :=
  ((bestScores corrections).mergeSort scoresAtLeast).take suggestionLimit

end Spelling.WordList
