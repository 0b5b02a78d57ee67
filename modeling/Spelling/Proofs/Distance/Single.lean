import Mathlib.Algebra.Order.Field.Rat
import Mathlib.Data.List.Forall2
import Spelling.Proofs.Distance.Halves
import Spelling.Proofs.Distance.Least

/-!
# Single precision is exact for whole and half costs

Where replacing a character costs 0, 1/2 or 1, every cell of a comparison has a number of halves.  No
cell of a row is more than 1 above all those of the row before, so none is above the lengths of both
words together.  Halves of that size are not rounded, and the comparison in single precision goes as
with exact costs, cell by cell:

    in single precision     half k     half k + 1     lesser of two      beyond the limit
    exact                   k / 2      k / 2 + 1      lesser of two      beyond the limit

So both come to the same cost, or both to none (`rel_align`).
-/

namespace Spelling.Distance

/-- A cost in single precision and the exact one, of at most `n` halves. -/
def Halved (n : Nat) (x : Float32) (r : ℚ) : Prop :=
  ∃ k ≤ n, x = half k ∧ r = k / 2

variable {m n : Nat} {x y : Float32} {r r' : ℚ}

/-! ## Operations -/

namespace Halved

theorem mono (h : Halved m x r) (hle : m ≤ n) : Halved n x r := by
  obtain ⟨k, hk, rfl, rfl⟩ := h
  exact ⟨k, hk.trans hle, rfl, rfl⟩

theorem whole {a : Nat} (h : 2 * a < 2 ^ 24) :
    Halved (2 * a) (CostScale.single.whole a) ((CostScale.exact ℚ).whole a) :=
  ⟨2 * a, le_rfl, ofNat_eq_half h, by simp [CostScale.exact]⟩

theorem add (hx : Halved m x r) (hy : Halved n y r') (h : m + n < 2 ^ 24) :
    Halved (m + n) (CostScale.single.add x y) ((CostScale.exact ℚ).add r r') := by
  obtain ⟨j, hj, rfl, rfl⟩ := hx
  obtain ⟨k, hk, rfl, rfl⟩ := hy
  refine ⟨j + k, Nat.add_le_add hj hk, half_add_half (by omega), ?_⟩
  show (j / 2 + k / 2 : ℚ) = _
  rw [Nat.cast_add, add_div]

theorem succ (hx : Halved n x r) (h : n + 2 < 2 ^ 24) :
    Halved (n + 2) (CostScale.single.succ x) ((CostScale.exact ℚ).succ r) :=
  hx.add (whole (a := 1) (by decide)) h

theorem half_le_half {j k : Nat} : (j / 2 : ℚ) ≤ k / 2 ↔ j ≤ k := by
  rw [div_le_div_iff_of_pos_right two_pos, Nat.cast_le]

theorem half_lt_half {j k : Nat} : (j / 2 : ℚ) < k / 2 ↔ j < k := by
  rw [div_lt_div_iff_of_pos_right two_pos, Nat.cast_lt]

theorem least (hx : Halved n x r) (hy : Halved m y r') (hn : n < 2 ^ 24) (hm : m < 2 ^ 24) :
    Halved n (CostScale.single.least x y) ((CostScale.exact ℚ).least r r') := by
  obtain ⟨j, hj, rfl, rfl⟩ := hx
  obtain ⟨k, hk, rfl, rfl⟩ := hy
  have hlt := half_lt_half_iff (a := j) (b := k) (by omega) (by omega)
  have hnumber := isNaN_half (a := k) (by omega)
  simp only [CostScale.single, CostScale.exact, hlt, hnumber, Bool.false_eq_true, if_false]
  split
  · next h => exact ⟨j, hj, rfl, min_eq_left (half_le_half.mpr h.le)⟩
  · next h => exact ⟨k, (Nat.le_of_not_lt h).trans hj, rfl,
      min_eq_right (half_le_half.mpr (Nat.le_of_not_lt h))⟩

theorem exceeds (hx : Halved m x r) (hy : Halved n y r') (hm : m < 2 ^ 24) (hn : n < 2 ^ 24) :
    CostScale.single.exceeds x y = (CostScale.exact ℚ).exceeds r r' := by
  obtain ⟨j, hj, rfl, rfl⟩ := hx
  obtain ⟨k, hk, rfl, rfl⟩ := hy
  have hlt := half_lt_half_iff (a := k) (b := j) (by omega) (by omega)
  simp only [CostScale.single, CostScale.exact, hlt, half_lt_half]

theorem within (hx : Halved m x r) (hy : Halved n y r') (hm : m < 2 ^ 24) (hn : n < 2 ^ 24) :
    CostScale.single.within x y = (CostScale.exact ℚ).within r r' := by
  obtain ⟨j, hj, rfl, rfl⟩ := hx
  obtain ⟨k, hk, rfl, rfl⟩ := hy
  have hle := half_le_half_iff (a := j) (b := k) (by omega) (by omega)
  simp only [CostScale.single, CostScale.exact, hle, half_le_half]

end Halved

/-! ## Cells and rows -/

section Rows

variable {replace : Char → Char → Float32} {replace' : Char → Char → ℚ}
  (hreplace : ∀ t c, Halved 2 (replace t c) (replace' t c)) (hn : n + 4 < 2 ^ 24)
include hreplace hn

theorem Halved.cell (t' : Option Char) (t : Char) (c' : Option Char) (c : Char)
    {diagonal up left : Float32} {diagonal' up' left' : ℚ} {swapped : Option Float32}
    {swapped' : Option ℚ}
    (hdiagonal : Halved n diagonal diagonal') (hup : Halved n up up')
    (hleft : Halved (n + 2) left left') (hswapped : Option.Rel (Halved n) swapped swapped') :
    Halved (n + 2) (CostScale.single.cell replace t' t c' c diagonal up left swapped)
      ((CostScale.exact ℚ).cell replace' t' t c' c diagonal' up' left' swapped') := by
  have hcost : Halved 2 (if t = c then CostScale.single.whole 0 else replace t c)
      (if t = c then (CostScale.exact ℚ).whole 0 else replace' t c) := by
    split
    · exact (Halved.whole (by decide)).mono (Nat.zero_le 2)
    · exact hreplace t c
  have hcell := ((hdiagonal.add hcost (by omega)).least (hup.succ (by omega)) (by omega)
    (by omega)).least (hleft.succ (by omega)) (by omega) (by omega)
  cases hswapped with
  | none => exact hcell
  | some hbefore =>
      dsimp only [CostScale.cell]
      split
      · exact hcell.least (hbefore.succ (by omega)) (by omega) (by omega)
      · exact hcell

theorem forall₂_cells {t' c' : Option Char} (t : Char) {higher above : List Float32}
    {higher' above' : List ℚ} {left : Float32} {left' : ℚ}
    (hhigher : List.Forall₂ (Halved n) higher higher')
    (habove : List.Forall₂ (Halved n) above above') (hleft : Halved (n + 2) left left')
    (cs : List Char) : List.Forall₂ (Halved (n + 2))
      (CostScale.single.cells replace t' t c' higher above left cs)
      ((CostScale.exact ℚ).cells replace' t' t c' higher' above' left' cs) := by
  induction cs generalizing c' higher higher' above above' left left' with
  | nil => simp [CostScale.cells]
  | cons c cs ih =>
      cases habove with
      | nil => exact .nil
      | cons hdiagonal habove =>
          cases habove with
          | nil => exact .nil
          | cons hup habove =>
              have hswapped : Option.Rel (Halved n) (c'.bind fun _ => higher.head?)
                  (c'.bind fun _ => higher'.head?) := by
                cases c' with
                | none => exact .none
                | some _ => cases hhigher with
                  | nil => exact .none
                  | cons hhead _ => exact .some hhead
              have hhere := Halved.cell hreplace hn t' t c' c hdiagonal hup hleft hswapped
              refine .cons hhere (ih ?_ (.cons hup habove) hhere)
              split
              · cases hhigher with
                | nil => exact .nil
                | cons _ htail => exact htail
              · exact hhigher

theorem forall₂_row {i : Nat} (hi : 2 * i ≤ n) (t' : Option Char) (t : Char)
    {higher above : List Float32} {higher' above' : List ℚ}
    (hhigher : List.Forall₂ (Halved n) higher higher')
    (habove : List.Forall₂ (Halved n) above above') (candidate : List Char) :
    List.Forall₂ (Halved (n + 2))
      (CostScale.single.row replace candidate i t' t higher above)
      ((CostScale.exact ℚ).row replace' candidate i t' t higher' above') := by
  have hfirst := (Halved.whole (a := i + 1) (by omega)).mono (n := n + 2) (by omega)
  exact .cons hfirst (forall₂_cells hreplace hn t hhigher habove hfirst candidate)

end Rows

theorem beyond_eq {limit : Float32} {limit' : ℚ} (hlimit : Halved m limit limit')
    (hm : m < 2 ^ 24) (hn : n < 2 ^ 24) {row : List Float32} {row' : List ℚ}
    (hrow : List.Forall₂ (Halved n) row row') :
    CostScale.single.beyond limit row = (CostScale.exact ℚ).beyond limit' row' := by
  cases hrow with
  | nil => rfl
  | @cons first first' rest rest' hfirst hrest =>
      have hleast : Halved n (rest.foldl CostScale.single.least first)
          (rest'.foldl (CostScale.exact ℚ).least first') := by
        induction hrest generalizing first first' with
        | nil => exact hfirst
        | cons hhead _ ih => exact ih (hfirst.least hhead hn hn)
      exact hleast.exceeds hlimit hn hm

theorem rel_getLast? {row : List Float32} {row' : List ℚ}
    (h : List.Forall₂ (Halved n) row row') : Option.Rel (Halved n) row.getLast? row'.getLast? := by
  have hreverse := List.rel_reverse h
  rw [List.getLast?_eq_head?_reverse, List.getLast?_eq_head?_reverse]
  generalize row.reverse = reversed at hreverse
  generalize row'.reverse = reversed' at hreverse
  cases hreverse with
  | nil => exact .none
  | cons hlast _ => exact .some hlast

/-! ## Alignment -/

section Align

variable {replace : Nat → Char → Char → Float32} {replace' : Nat → Char → Char → ℚ}
  (hreplace : ∀ i t c, Halved 2 (replace i t c) (replace' i t c))
include hreplace

theorem rel_alignFrom {limit : Float32} {limit' : ℚ} (hlimit : Halved m limit limit')
    (hm : m < 2 ^ 24) (candidate : List Char) {i : Nat} (hi : 2 * i ≤ n) (t' : Option Char)
    {higher above : List Float32} {higher' above' : List ℚ}
    (hhigher : List.Forall₂ (Halved n) higher higher')
    (habove : List.Forall₂ (Halved n) above above') (ts : List Char)
    (hn : n + 2 * ts.length + 2 < 2 ^ 24) :
    Option.Rel (Halved (n + 2 * ts.length))
      (CostScale.single.alignFrom limit replace candidate i t' higher above ts)
      ((CostScale.exact ℚ).alignFrom limit' replace' candidate i t' higher' above' ts) := by
  induction ts generalizing i n t' higher higher' above above' with
  | nil =>
      have hlast := rel_getLast? habove
      rw [CostScale.alignFrom, CostScale.alignFrom]
      generalize above.getLast? = last? at hlast
      generalize above'.getLast? = exactLast? at hlast
      cases hlast with
      | none => exact .none
      | some hlast =>
          rw [Option.bind_some, Option.bind_some, hlast.within hlimit (by omega) hm]
          split
          · exact .some hlast
          · exact .none
  | cons t ts ih =>
      rw [List.length_cons] at hn
      have hrow := forall₂_row (hreplace i) (by omega) hi t' t hhigher habove candidate
      rw [CostScale.alignFrom, CostScale.alignFrom,
        beyond_eq hlimit hm (n := n + 2) (by omega) hrow]
      split
      · exact .none
      · have habove' : List.Forall₂ (Halved (n + 2)) above above' :=
          habove.imp fun _ _ h => h.mono (Nat.le_add_right n 2)
        have hrest := ih (i := i + 1) (by omega) (some t) habove' hrow (by omega)
        have hbound : n + 2 * (t :: ts).length = n + 2 + 2 * ts.length := by
          rw [List.length_cons]
          omega
        rwa [hbound]

/-- **Costs of halves are computed exactly.** -/
theorem rel_align {limit : Nat} (hlimit : 2 * limit < 2 ^ 24) (typed candidate : List Char)
    (hlength : 2 * (typed.length + candidate.length) + 2 < 2 ^ 24) :
    Option.Rel (Halved (2 * (typed.length + candidate.length)))
      (CostScale.single.align (CostScale.single.whole limit) replace typed candidate)
      ((CostScale.exact ℚ).align ((CostScale.exact ℚ).whole limit) replace' typed candidate) := by
  have hfirst : List.Forall₂ (Halved (2 * candidate.length))
      ((List.range (candidate.length + 1)).map CostScale.single.whole)
      ((List.range (candidate.length + 1)).map (CostScale.exact ℚ).whole) := by
    rw [List.forall₂_map_left_iff, List.forall₂_map_right_iff, List.forall₂_same]
    intro a ha
    have hle := List.mem_range.mp ha
    exact (Halved.whole (by omega)).mono (by omega)
  have halign := rel_alignFrom hreplace (Halved.whole hlimit) hlimit candidate (i := 0)
    (Nat.zero_le _) none .nil hfirst typed (by omega)
  rwa [← Nat.mul_add, Nat.add_comm] at halign

end Align

end Spelling.Distance
