import Mathlib.Algebra.Order.Ring.Rat
import Spelling.Proofs.Distance.Rows
import Spelling.Proofs.Distance.Single
import Spelling.WordList.Ranking

/-!
# Comparing up to the limit loses nothing

A comparison breaks off when a row is beyond the limit of 2, and words whose lengths differ by more
than 2 are not compared at all.  Its rows have served other comparisons before.  Where costs are
exact and no replacement costs less than nothing, it still finds the least cost of aligning the two
words whenever that is at most 2, and no cost otherwise.

The costs of a query without touch points are halves, so they are exact in single precision too, and
the same is true of the comparison that a dictionary makes
(`untouched_words_are_compared_exactly`).
-/

namespace Spelling.WordList

open Distance

variable {K : Type} [CommRing K] [LinearOrder K]

theorem closeLengths_eq_false_iff {a b : Nat} :
    closeLengths a b = false ↔ b + 2 < a ∨ a + 2 < b := by
  rw [closeLengths, Bool.and_eq_false_iff, decide_eq_false_iff_not, decide_eq_false_iff_not,
    Nat.not_le, Nat.not_le, lengthLimit]

theorem whole_costLimit : (CostScale.exact K).whole costLimit = 2 :=
  Nat.cast_ofNat

variable [IsStrictOrderedRing K] {replace : Nat → Char → Char → K}

/-- Words whose lengths differ by more than 2 cannot be aligned at a cost within the limit. -/
theorem limit_lt_of_lengths (hreplace : ∀ i t c, 0 ≤ replace i t c) {typed candidate : List Char}
    {k : K} (hfar : typed.length + 2 < candidate.length ∨ candidate.length + 2 < typed.length)
    (h : Aligned replace typed candidate k) : 2 < k := by
  obtain ⟨htyped, hcandidate⟩ := h.length_le hreplace
  obtain hfar | hfar := hfar
  · have hcast : (typed.length : K) + 2 < candidate.length := by exact_mod_cast hfar
    linarith
  · have hcast : (candidate.length : K) + 2 < typed.length := by exact_mod_cast hfar
    linarith

section Least

variable (hreplace : ∀ i t c, 0 ≤ replace i t c) {typed candidate : List Char} {least : K}
  (hleast : IsLeast {k | Aligned replace typed candidate k} least) (rows : Rows K)

include hreplace hleast

theorem align_eq_some_iff_of_least (d : K) :
    rows.align (.exact K) ((CostScale.exact K).whole costLimit) replace typed candidate = some d ↔
      d = least ∧ d ≤ 2 := by
  rw [Rows.align_eq, align_eq_some_iff hreplace, whole_costLimit]
  exact and_congr_left fun _ => ⟨fun h => h.unique hleast, fun h => h ▸ hleast⟩

theorem align_eq_none_iff_of_least :
    rows.align (.exact K) ((CostScale.exact K).whole costLimit) replace typed candidate = none ↔
      2 < least := by
  rw [Option.eq_none_iff_forall_ne_some]
  simp [align_eq_some_iff_of_least hreplace hleast rows]

/-- Words that are left out for their lengths would cost more than the limit. -/
theorem alignClose_eq_align :
    alignClose (.exact K) rows replace typed candidate =
      rows.align (.exact K) ((CostScale.exact K).whole costLimit) replace typed candidate := by
  rw [alignClose, compareClose]
  split
  · rfl
  · next hclose =>
    have hlengths := closeLengths_eq_false_iff.mp (Bool.eq_false_iff.mpr hclose)
    have hfar := limit_lt_of_lengths hreplace hlengths hleast.1
    exact ((align_eq_none_iff_of_least hreplace hleast rows).mpr hfar).symm

end Least

/-- **A comparison finds the least cost of aligning two words exactly when it is at most 2.**
Whatever the rows held, it returns that cost then and none otherwise, so the row at which it breaks
off gives nothing away.  Words whose lengths differ by more than 2 would cost more than 2, so leaving
them out does not either. -/
theorem close_words_are_found_at_least_cost (hreplace : ∀ i t c, 0 ≤ replace i t c)
    (rows : Rows K) (typed candidate : List Char) :
    ∃ least, IsLeast {k | Aligned replace typed candidate k} least ∧
      (∀ d, rows.align (.exact K) ((CostScale.exact K).whole costLimit) replace typed candidate =
        some d ↔ d = least ∧ d ≤ 2) ∧
      (rows.align (.exact K) ((CostScale.exact K).whole costLimit) replace typed candidate = none ↔
        2 < least) ∧
      (typed.length + 2 < candidate.length ∨ candidate.length + 2 < typed.length → 2 < least) ∧
      alignClose (.exact K) rows replace typed candidate =
        rows.align (.exact K) ((CostScale.exact K).whole costLimit) replace typed candidate := by
  obtain ⟨least, hleast⟩ := exists_leastCost replace typed candidate
  exact ⟨least, hleast, align_eq_some_iff_of_least hreplace hleast rows,
    align_eq_none_iff_of_least hreplace hleast rows,
    fun h => limit_lt_of_lengths hreplace h hleast.1, alignClose_eq_align hreplace hleast rows⟩

/-- Replacing a character costs one, and half of that where a word begins. -/
def halfAtFirst (i : Nat) (_ _ : Char) : ℚ :=
  if i = 0 then 1 / 2 else 1

/-- One replacement at the beginning and a swap, in rows that held other costs. -/
theorem close_words_are_found_at_least_cost_of_swap :
    let rows : Rows ℚ := ⟨#[7, 7], #[], #[1 / 3]⟩
    (∀ i t c, 0 ≤ halfAtFirst i t c) ∧
    alignClose (.exact ℚ) rows halfAtFirst "Helol".toList "Jello".toList = some (3 / 2) ∧
    IsLeast {k | Aligned halfAtFirst "Helol".toList "Jello".toList k} (3 / 2) := by
  intro rows
  have hreplace : ∀ i t c, 0 ≤ halfAtFirst i t c := by
    intro i t c
    rw [halfAtFirst]
    split <;> norm_num
  obtain ⟨least, hleast, hfound, -, -, hclose⟩ := close_words_are_found_at_least_cost hreplace rows
    "Helol".toList "Jello".toList
  have hcost : alignClose (.exact ℚ) rows halfAtFirst "Helol".toList "Jello".toList =
      some (3 / 2) := by
    decide +kernel
  obtain ⟨rfl, -⟩ := (hfound _).mp (hclose ▸ hcost)
  exact ⟨hreplace, hcost, hleast⟩

/-! ## In single precision -/

/-- What replacing a character costs by how close the keys are. -/
def exactKeyCost (q : Query) (typed candidate : Char) : ℚ :=
  match q.keyboard.proximity typed candidate with
  | .same => 0
  | .adjacent => 1 / 2
  | .distant | .unknown => 1

theorem exactKeyCost_nonneg (q : Query) (typed candidate : Char) :
    0 ≤ exactKeyCost q typed candidate := by
  rw [exactKeyCost]
  split <;> norm_num

theorem halved_replaceCost {q : Query} (hq : ∀ i, q.composed.touch? i = none) (i : Nat)
    (typed candidate : Char) :
    Halved 2 (replaceCost q i typed candidate) (exactKeyCost q typed candidate) := by
  have hzero : (0 : Float32) = half 0 := by decide +kernel
  have hhalf : (0.5 : Float32) = half 1 := by decide +kernel
  have hone : (1 : Float32) = half 2 := by decide +kernel
  rw [replaceCost, hq, exactKeyCost]
  dsimp only
  cases q.keyboard.proximity typed candidate with
  | same => exact ⟨0, Nat.zero_le 2, hzero, by simp⟩
  | adjacent => exact ⟨1, one_le_two, hhalf, by simp⟩
  | distant | unknown => exact ⟨2, le_rfl, hone, by simp⟩

/-- Comparing goes as with exact costs, whatever the rows held. -/
theorem rel_alignClose {replace : Nat → Char → Char → Float32} {exact : Nat → Char → Char → ℚ}
    (hreplace : ∀ i t c, Halved 2 (replace i t c) (exact i t c)) (rows : Rows Float32)
    {typed candidate : List Char} (hlength : 2 * (typed.length + candidate.length) + 2 < 2 ^ 24) :
    Option.Rel (Halved (2 * (typed.length + candidate.length)))
      (alignClose .single rows replace typed candidate)
      (alignClose (.exact ℚ) {} exact typed candidate) := by
  rw [alignClose, alignClose, compareClose, compareClose]
  split
  · show Option.Rel _ (rows.align _ _ _ _ _) (Rows.align _ _ _ _ _ _)
    rw [Rows.align_eq, Rows.align_eq]
    exact rel_align hreplace (by decide) typed candidate hlength
  · exact .none

/-- **Without touch points words are compared exactly.**  A query has no touch points, and the words
have less than 2 ^ 23 characters.  Whatever the rows of its session held, the comparison that is made
for it in single precision finds the least cost of aligning the two words when that is at most 2, as
a number of halves, and none otherwise. -/
theorem untouched_words_are_compared_exactly {q : Query} (hq : ∀ i, q.composed.touch? i = none)
    (rows : Rows Float32) {typed candidate : List Char}
    (hlength : 2 * (typed.length + candidate.length) + 2 < 2 ^ 24) :
    (∀ d, alignClose .single rows (replaceCost q) typed candidate = some d ↔ ∃ k ≤ 4, d = half k ∧
      IsLeast {c : ℚ | Aligned (fun _ => exactKeyCost q) typed candidate c} (k / 2)) ∧
    (alignClose .single rows (replaceCost q) typed candidate = none ↔
      ∀ c : ℚ, Aligned (fun _ => exactKeyCost q) typed candidate c → 2 < c) := by
  have hreplace : ∀ i t c, 0 ≤ (fun _ => exactKeyCost q : Nat → Char → Char → ℚ) i t c :=
    fun _ => exactKeyCost_nonneg q
  obtain ⟨least, hleast⟩ := exists_leastCost (fun _ => exactKeyCost q) typed candidate
  have hfound := align_eq_some_iff_of_least hreplace hleast {}
  have hnone := align_eq_none_iff_of_least hreplace hleast {}
  have hlimit (k : Nat) : (k / 2 : ℚ) ≤ 2 ↔ k ≤ 4 := by
    rw [← Halved.half_le_half (k := 4)]
    norm_num
  have hrel := rel_alignClose (halved_replaceCost hq) rows hlength
  rw [alignClose_eq_align hreplace hleast] at hrel
  generalize Rows.align _ _ _ _ _ _ = found? at hrel hfound hnone
  generalize alignClose .single rows (replaceCost q) typed candidate = single? at hrel ⊢
  cases hrel with
  | none =>
      have hlt : 2 < least := hnone.mp rfl
      refine ⟨fun d => iff_of_false nofun ?_, iff_of_true rfl fun c hc => hlt.trans_le (hleast.2 hc)⟩
      rintro ⟨k, hk, -, hk'⟩
      exact hlt.not_ge (hleast.unique hk' ▸ (hlimit k).mpr hk)
  | some hd =>
      obtain ⟨k, -, rfl, rfl⟩ := hd
      obtain ⟨rfl, hle⟩ := (hfound _).mp rfl
      refine ⟨fun d => ?_, iff_of_false nofun fun h => hle.not_gt (h _ hleast.1)⟩
      rw [Option.some_inj]
      constructor
      · rintro rfl
        exact ⟨k, (hlimit k).mp hle, rfl, hleast⟩
      · rintro ⟨j, -, rfl, hj⟩
        have hsame : (j / 2 : ℚ) = k / 2 := hj.unique hleast
        rw [div_left_inj' two_ne_zero, Nat.cast_inj] at hsame
        rw [hsame]

end Spelling.WordList
