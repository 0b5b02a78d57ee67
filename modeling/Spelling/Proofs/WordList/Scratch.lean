import Spelling.Proofs.Distance.Rows
import Spelling.WordList.Dictionary

/-!
# Scratch space leaves no trace

The entries of a dictionary are compared one after another in the rows of a session, and the next
query with the session finds the rows as the last one left them.  Each comparison comes to the cost
that it has in fresh rows, so every entry can be looked at alone (`correctAll_fst`), and a query gets
one answer whatever the rows hold (`suggestIn_fst`).
-/

namespace Spelling.WordList

open Distance

variable {α : Type} {l : Locale} {q : Query} {typed : List Char} {rows : Rows Float32} {e : Entry}

theorem compareClose_fst (scale : CostScale α) (rows : Rows α) (replace : Nat → Char → Char → α)
    (typed candidate : List Char) : (compareClose scale rows replace typed candidate).1 =
      if closeLengths candidate.length typed.length then
        scale.align (scale.whole costLimit) replace typed candidate
      else none := by
  rw [compareClose, apply_ite Prod.fst]
  exact congrArg (ite _ · none) (Rows.align_eq scale _ replace typed candidate)

/-- Cost of correcting a lowercased typed word to an entry, if it is within the limit. -/
def cost? (l : Locale) (q : Query) (typed : List Char) (e : Entry) : Option Float32 :=
  alignClose CostScale.single {} (replaceCost q) typed (Casing.lowerChars l e.word.toList)

/-- The correction that an entry offers for a query. -/
def correction? (l : Locale) (q : Query) (typed : List Char) (e : Entry) : Option Suggestion :=
  if Entry.isOffered e q then
    (cost? l q typed e).map fun cost => ⟨e.word, score l q typed.length e cost⟩
  else none

theorem correct_fst : (correct l q typed rows e).1 = correction? l q typed e := by
  rw [correct, correction?, apply_ite Prod.fst, cost?, alignClose]
  dsimp only
  rw [compareClose_fst, compareClose_fst]

/-- **Each entry offers its own correction.** -/
theorem correctAll_fst (entries : List Entry) :
    (correctAll l q typed rows entries).1 = entries.filterMap (correction? l q typed) := by
  induction entries generalizing rows with
  | nil => rfl
  | cons e rest ih =>
      rw [correctAll, List.filterMap_cons]
      dsimp only
      rw [ih, correct_fst]
      cases correction? l q typed e <;> rfl

namespace Dictionary

variable {d : Dictionary} {k : Nat}

/-- The corrections that the entries of a dictionary offer for a query. -/
def corrections (d : Dictionary) (q : Query) : List Suggestion :=
  d.entries.filterMap
    (correction? d.locale q (Casing.lowerChars d.locale q.composed.word.toList))

/-- What a dictionary answers to a query. -/
def answer (d : Dictionary) (q : Query) (k : Nat) : Except QueryError Results :=
  if !d.hasMain then .error (.closed d.locale)
  else if d.sessions ≤ k then .error (d.outOfSessions k)
  else .ok ⟨rank (d.corrections q), d.isTypedValid q.composed.word⟩

/-- **A query gets one answer, whatever the rows of its session hold.** -/
theorem suggestIn_fst (d : Dictionary) (q : Query) (k : Nat) (rows : Rows Float32) :
    (d.suggestIn rows q k).1 = d.answer q k := by
  rw [suggestIn, apply_ite Prod.fst, apply_ite Prod.fst, answer]
  dsimp only
  rw [correctAll_fst]
  rfl

theorem suggest_eq_answer (d : Dictionary) (q : Query) (k : Nat) : d.suggest q k = d.answer q k :=
  d.suggestIn_fst q k {}

theorem suggest_of_open (hopen : d.hasMain = true) (hsession : k < d.sessions) :
    d.suggest q k = .ok ⟨rank (d.corrections q), d.isTypedValid q.composed.word⟩ := by
  rw [suggest_eq_answer, answer, if_neg (by simp [hopen]), if_neg (Nat.not_le.mpr hsession)]

/-- Results come from an open dictionary that has the session. -/
theorem of_suggest_eq_ok {r : Results} (h : d.suggest q k = .ok r) : d.hasMain = true ∧
    k < d.sessions ∧ r = ⟨rank (d.corrections q), d.isTypedValid q.composed.word⟩ := by
  rw [suggest_eq_answer, answer] at h
  split at h
  · cases h
  · next hopen =>
    split at h
    · cases h
    · next hsession =>
      exact ⟨by simpa using hopen, Nat.not_le.mp hsession, (Except.ok.inj h).symm⟩

end Dictionary

end Spelling.WordList
