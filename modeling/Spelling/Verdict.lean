import Spelling.Casing
import Spelling.Query
import Spelling.Score

/-!
# Verdicts

What a host shows for a checked word: whether it is right, and otherwise which corrections to offer,
cased like the typed word, and whether the best of them is sure enough to be recommended.
-/

namespace Spelling

/-- What to show for a checked word. -/
structure Verdict where
  /-- The word is right -/
  inDictionary : Bool
  /-- The word should be marked as a typo -/
  looksLikeTypo : Bool
  /-- The best correction can be recommended -/
  hasRecommended : Bool
  /-- Corrections to offer, cased like the typed word -/
  suggestions : List String
  deriving DecidableEq, Repr

namespace Verdict

/-- The word is right. -/
def right : Verdict := ⟨true, false, false, []⟩

/-- The word is unknown and there is nothing to suggest. -/
def unknown (typo : Bool) : Verdict := ⟨false, typo, false, []⟩

/-- A candidate cased like a typed word of some class.  Only an uncapitalized candidate is
capitalized; a canonical casing stays. -/
def recase (l : Locale) (typed : Capitalization) (candidate : String) : String :=
  match typed with
  | .all => Casing.upper l candidate
  | .first =>
    if Capitalization.classify candidate = .plain then Casing.capitalize l candidate
    else candidate
  | .plain | .mixed => candidate

/-- Adds corrections to those already shown: the first of each spelling, never the typed word, and
no more than `max` in all. -/
def gather (typed : String) (max : Nat) (shown : List String) : List String → List String
  | [] => shown
  | word :: rest =>
    if shown.length = max then shown
    else if word = typed ∨ word ∈ shown then gather typed max shown rest
    else gather typed max (shown ++ [word]) rest

/-- The verdict on a typed word from its ranked corrections. -/
def ofResults (typed : String) (l : Locale) (results : Results) (threshold : Float32) (max : Nat) :
    Verdict :=
  if results.typedValid then right
  else
    let words := results.candidates.map fun s => recase l (Capitalization.classify typed) s.word
    { inDictionary := false
      looksLikeTypo := true
      hasRecommended := match results.best? with
        | some best => threshold ≤ Score.normalized typed best.word best.score
        | none => false
      suggestions := gather typed max [] words }

end Verdict

end Spelling
