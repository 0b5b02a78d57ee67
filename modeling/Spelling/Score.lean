import Spelling.Distance.Edit

/-!
# Scores

The scale of raw scores, and the confidence that a raw score gives a correction.  The best score a
word can get doubles with every typed letter; past twenty letters it would not fit the scale, whose
topmost value is kept for scores that are not compared with it.
-/

namespace Spelling.Score

/-- Letters after which the best score grows no more. -/
def letterLimit : Nat := 20

/-- The topmost score, which stands for itself. -/
def top : Int := 0x7FFFFFFF

/-- Score of a candidate whose first letter was typed. -/
def initial : Nat := 255

/-- Best raw score of a word that matches some number of typed letters, twice what its letters give
because it is a whole word. -/
def best (letters : Nat) : Float :=
  Float.ofNat (initial <<< min letters letterLimit * 2)

/-- Confidence of the correction of `before` to `after`: the raw score against the best one
possible, weighted down by the share of `after` that was edited. -/
def normalized (before after : String) (score : Int) : Float32 :=
  let spaces := (after.toList.filter (· == ' ')).length
  let distance := editDistance before after
  if before.length = 0 ∨ after.length = 0 ∨ spaces = after.length then 0
  else if score ≤ 0 ∨ after.length ≤ distance then 0
  else
    let scale := if score = top then Float.ofInt top
      else best (min before.length (after.length - spaces))
    let weight := 1 - Float.ofNat distance / Float.ofNat after.length
    (Float.ofInt score / scale * weight).toFloat32

end Spelling.Score
