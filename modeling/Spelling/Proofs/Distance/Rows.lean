import Spelling.Distance.Rows

/-!
# What the rows held does not matter

Aligning in place comes to the same as computing each row from the two before it, whatever
arithmetic the costs live in and whatever the rows held before.  While the current row is filled its
cells are of two kinds: up to some column they are those of the row that is computed, and after it
they are left over from an earlier one.  No cell that is left over is read.
-/

namespace Spelling.Distance

variable {α : Type} (scale : CostScale α)

/-! ## Cells -/

namespace CostScale

theorem read_eq {row : Array α} {j : Nat} {x : α} (h : (row.toList.drop j).head? = some x) :
    scale.read row j = x := by
  rw [List.head?_drop, Array.getElem?_toList] at h
  rw [read, Array.getD_eq_getD_getElem?, h]
  rfl

theorem toList_blank (width : Nat) (row : Array α) :
    (scale.blank width row).toList = List.replicate width (scale.whole 0) := by
  simp [blank]

/-- Two characters can be swapped only where both have one before them. -/
theorem cell_congr (replace : Char → Char → α) {t' c' : Option Char} (t c : Char)
    (diagonal up left : α) {swapped swapped' : Option α}
    (h : t' ≠ none → c' ≠ none → swapped = swapped') :
    scale.cell replace t' t c' c diagonal up left swapped =
      scale.cell replace t' t c' c diagonal up left swapped' := by
  cases t' with
  | none => cases swapped <;> cases swapped' <;> simp [cell]
  | some _ =>
      cases c' with
      | none => cases swapped <;> cases swapped' <;> simp [cell]
      | some _ => rw [h nofun nofun]

variable (replace : Char → Char → α) {t' : Option Char} (t : Char) {before previous : Array α}

theorem size_fill (j : Nat) (c' : Option Char) (cs : List Char) (current : Array α) :
    (scale.fill replace t' t before previous j c' cs current).size = current.size := by
  induction cs generalizing j c' current with
  | nil => rfl
  | cons c cs ih => rw [fill, ih, Array.size_setIfInBounds]

/-- Filling a row computes its cells one after another.  Of the current row `done` and `left` are
filled and `stale` is not. -/
theorem toList_fill {cs : List Char} {c' : Option Char} {higher done stale : List α} {left : α}
    {current : Array α} (hcurrent : current.toList = done ++ left :: stale)
    (hstale : stale.length = cs.length) (hprevious : previous.size = done.length + cs.length + 1)
    (hbefore : before.size = previous.size) (hc : c' = none ↔ done = [])
    (hhigher : t' ≠ none → higher = before.toList.drop (done.length - 1)) :
    (scale.fill replace t' t before previous done.length c' cs current).toList =
      done ++ left :: scale.cells replace t' t c' higher (previous.toList.drop done.length) left
        cs := by
  induction cs generalizing c' higher done stale left current with
  | nil =>
      rw [List.length_eq_zero_iff.mp hstale] at hcurrent
      simpa [fill, cells] using hcurrent
  | cons c cs ih =>
      obtain ⟨x, stale, rfl⟩ := List.exists_cons_of_length_eq_add_one hstale
      obtain ⟨diagonal, up, above, habove⟩ : ∃ diagonal up above,
          previous.toList.drop done.length = diagonal :: up :: above := by
        have hlength : (previous.toList.drop done.length).length = cs.length + 1 + 1 := by
          simp only [List.length_drop, Array.length_toList, hprevious, List.length_cons]
          omega
        obtain ⟨diagonal, rest, hrest⟩ := List.exists_cons_of_length_eq_add_one hlength
        rw [hrest, List.length_cons, Nat.add_right_cancel_iff] at hlength
        obtain ⟨up, above, rfl⟩ := List.exists_cons_of_length_eq_add_one hlength
        exact ⟨diagonal, up, above, hrest⟩
      have hnext : previous.toList.drop (done.length + 1) = up :: above := by
        rw [← List.tail_drop, habove, List.tail_cons]
      have hdiagonal : scale.read previous done.length = diagonal :=
        scale.read_eq (congrArg List.head? habove)
      have hup : scale.read previous (done.length + 1) = up :=
        scale.read_eq (congrArg List.head? hnext)
      have hleft : scale.read current done.length = left :=
        scale.read_eq (by simp [hcurrent])
      have hbehind : t' ≠ none → c' ≠ none →
          (c'.map fun _ => scale.read before (done.length - 1)) =
            c'.bind fun _ => higher.head? := by
        intro ht' hc'
        obtain ⟨d, rfl⟩ := Option.ne_none_iff_exists'.mp hc'
        have hlt : done.length - 1 < before.toList.length := by
          simp only [Array.length_toList, hbefore, hprevious]
          omega
        have hhead := List.getElem?_eq_getElem hlt
        rw [← List.head?_drop] at hhead
        rw [Option.map_some, Option.bind_some, hhigher ht', hhead, scale.read_eq hhead]
      rw [fill, habove, cells, hdiagonal, hup, hleft, scale.cell_congr replace t c _ _ _ hbehind]
      generalize scale.cell replace t' t c' c diagonal up left
        (c'.bind fun _ => higher.head?) = here
      have hlength : (done ++ [left]).length = done.length + 1 := List.length_append
      have hset : (current.setIfInBounds (done ++ [left]).length here).toList =
          (done ++ [left]) ++ here :: stale := by
        simp [hcurrent]
      rw [List.append_cons, ← hnext, ← hlength]
      refine ih hset (Nat.add_right_cancel hstale) ?_ (by simp) ?_
      · rw [hprevious, hlength, List.length_cons]
        omega
      · intro ht'
        rw [hhigher ht', hlength, Nat.add_sub_cancel]
        cases c' with
        | none => simp [hc.mp rfl]
        | some d =>
            have hdone : done ≠ [] := fun h => nomatch hc.mpr h
            rw [Option.isSome_some, if_pos rfl, List.tail_drop,
              Nat.sub_add_cancel (List.length_pos_iff.mpr hdone)]

end CostScale

/-! ## Rows -/

namespace Rows

/-- All rows have a width. -/
structure Wide (width : Nat) (rows : Rows α) : Prop where
  before : rows.before.size = width
  previous : rows.previous.size = width
  current : rows.current.size = width

variable {rows : Rows α} {candidate : List Char}

theorem wide_start (width : Nat) : Wide width (rows.start scale width) where
  before := by simp [start, ← Array.length_toList, CostScale.toList_blank]
  previous := by simp [start, ← Array.length_toList, CostScale.toList_blank]
  current := by simp [start, ← Array.length_toList, CostScale.toList_blank]

theorem toList_previous_start (width : Nat) :
    (rows.start scale width).previous.toList = (List.range width).map scale.whole := by
  apply List.ext_getElem <;> simp [start, CostScale.toList_blank]

/-- Refilling the current row computes the next one. -/
theorem toList_refilled (h : Wide (candidate.length + 1) rows) (replace : Char → Char → α) (i : Nat)
    {t' : Option Char} (t : Char) {higher : List α}
    (hhigher : t' ≠ none → higher = rows.before.toList) :
    (rows.refilled scale replace candidate i t' t).toList =
      scale.row replace candidate i t' t higher rows.previous.toList := by
  obtain ⟨x, stale, hstale⟩ : ∃ x stale, rows.current.toList = x :: stale :=
    List.exists_cons_of_length_eq_add_one (by rw [Array.length_toList, h.current])
  have hlength : stale.length = candidate.length := by
    have hsize := congrArg List.length hstale
    rw [Array.length_toList, h.current, List.length_cons] at hsize
    exact (Nat.add_right_cancel hsize).symm
  have hcurrent : (rows.current.setIfInBounds 0 (scale.whole (i + 1))).toList =
      [] ++ scale.whole (i + 1) :: stale := by
    simp [hstale]
  exact scale.toList_fill replace t hcurrent hlength (by simp [h.previous])
    (h.before.trans h.previous.symm) (iff_of_true rfl rfl) hhigher

theorem size_refilled (h : Wide (candidate.length + 1) rows) (replace : Char → Char → α) (i : Nat)
    (t' : Option Char) (t : Char) :
    (rows.refilled scale replace candidate i t' t).size = candidate.length + 1 := by
  rw [refilled, CostScale.size_fill, Array.size_setIfInBounds, h.current]

/-- In-place alignment, from any place on. -/
theorem alignFrom_eq (h : Wide (candidate.length + 1) rows) (limit : α)
    (replace : Nat → Char → Char → α) {i : Nat} {t' : Option Char} {higher : List α}
    (hhigher : t' ≠ none → higher = rows.before.toList) (ts : List Char) :
    (alignFrom scale limit replace candidate i t' rows ts).1 =
      scale.alignFrom limit replace candidate i t' higher rows.previous.toList ts := by
  induction ts generalizing i t' higher rows with
  | nil =>
      have hlast : rows.previous.toList.getLast? =
          some (scale.read rows.previous candidate.length) := by
        have hlt : candidate.length < rows.previous.toList.length := by
          simp [h.previous]
        have hget := List.getElem?_eq_getElem hlt
        rw [List.getLast?_eq_getElem?, Array.length_toList, h.previous, Nat.add_sub_cancel, hget,
          scale.read_eq (List.head?_drop.trans hget)]
      rw [alignFrom, CostScale.alignFrom, hlast, Option.bind_some]
  | cons t ts ih =>
      have hwide : Wide (candidate.length + 1)
          ⟨rows.previous, rows.refilled scale (replace i) candidate i t' t, rows.before⟩ :=
        ⟨h.previous, size_refilled scale h (replace i) i t' t, h.before⟩
      rw [alignFrom, CostScale.alignFrom, apply_ite Prod.fst,
        toList_refilled scale h (replace i) i t hhigher, ih hwide fun _ => rfl,
        toList_refilled scale h (replace i) i t hhigher]

/-- Aligning in place computes the same cost, whatever the rows held. -/
theorem align_eq (limit : α) (replace : Nat → Char → Char → α) (typed candidate : List Char) :
    rows.align scale limit replace typed candidate = scale.align limit replace typed candidate := by
  rw [align, compare, CostScale.align, alignFrom_eq scale (wide_start scale _) limit replace
    (absurd rfl ·), toList_previous_start]

end Rows

end Spelling.Distance
