import Mathlib.Order.Bounds.Basic
import Mathlib.Order.Lattice
import Spelling.Distance.Edit

/-!
# The fewest edits between two texts

An edit changes a text at one place.  It inserts a character, leaves one out, or substitutes one by
another.  Edits follow each other in any order, and a later one may change what an earlier one made
(`Edited`).

Still the parts of a text keep apart: edits that end in `a ++ b` are edits of a first part into `a`
and edits of the rest into `b` (`Edited.of_append_right`).  So one of three things becomes of the
last characters `t` and `c` of two texts, and the fewest edits are the least of three numbers, which
is the rule of a cell (`FewestEdits.concat`):

    `t` became `c`         the edits before both, and one if they differ
    `t` was left out       the edits from what is before `t`, and one
    `c` was inserted       the edits to what is before `c`, and one

Two rows are enough to compute these numbers.  A row that is filled anew still has cells of an
earlier row behind the column that was reached; of `Cells` only those up to that column count.
-/

namespace Spelling.Distance

/-- What an edit does at its place. -/
inductive Change : List Char → List Char → Prop
  | insert (c : Char) : Change [] [c]
  | leaveOut (c : Char) : Change [c] []
  | substitute (c d : Char) : Change [c] [d]

/-- An edit of a text. -/
inductive Edit : List Char → List Char → Prop
  | made {u v : List Char} (before after : List Char) (h : Change u v) :
      Edit (before ++ u ++ after) (before ++ v ++ after)

/-- A number of edits, one after another. -/
inductive Edited : Nat → List Char → List Char → Prop
  | done (a : List Char) : Edited 0 a a
  | next {n : Nat} {a b c : List Char} (h : Edit a b) (rest : Edited n b c) : Edited (n + 1) a c

/-- The fewest edits that turn a text into another. -/
def FewestEdits (a b : List Char) (k : Nat) : Prop := IsLeast {n | Edited n a b} k

variable {a b u v p q target : List Char} {t c d : Char} {i j k m n : Nat}

/-! ## One edit -/

theorem Change.symm (h : Change u v) : Change v u := by
  cases h with
  | insert c => exact leaveOut c
  | leaveOut c => exact insert c
  | substitute c d => exact substitute d c

theorem Change.length_le (h : Change u v) : u.length ≤ 1 := by
  cases h <;> simp

namespace Edit

theorem symm (h : Edit a b) : Edit b a := by
  cases h with
  | made before after h => exact made before after h.symm

theorem append_left (h : Edit a b) (s : List Char) : Edit (s ++ a) (s ++ b) := by
  cases h with
  | made before after h => simpa using made (s ++ before) after h

theorem append_right (h : Edit a b) (s : List Char) : Edit (a ++ s) (b ++ s) := by
  cases h with
  | made before after h => simpa using made before (after ++ s) h

theorem length_le (h : Edit a b) : a.length ≤ b.length + 1 := by
  cases h with
  | made before after h =>
      have hle := h.length_le
      simp only [List.length_append]
      omega

/-- An edit is made in one of two parts. -/
theorem of_append {s : List Char} (h : Edit s (a ++ b)) :
    (∃ x, s = x ++ b ∧ Edit x a) ∨ ∃ y, s = a ++ y ∧ Edit y b := by
  generalize hab : a ++ b = e at h
  cases h with
  | @made u v before after h =>
      have hshort := h.symm.length_le
      rw [List.append_assoc] at hab
      rcases List.append_eq_append_iff.mp hab with ⟨r, rfl, rfl⟩ | ⟨r, rfl, hr⟩
      · exact .inr ⟨r ++ u ++ after, by simp, by simpa using made r after h⟩
      · rcases List.append_eq_append_iff.mp hr with ⟨r', rfl, rfl⟩ | ⟨r', rfl, rfl⟩
        · exact .inl ⟨before ++ u ++ r', by simp, by simpa using made before r' h⟩
        · -- what came in is one character at most and is not parted
          have hparted : r = [] ∨ r' = [] := by
            rw [List.length_append] at hshort
            rw [← List.length_eq_zero_iff, ← List.length_eq_zero_iff]
            omega
          rcases hparted with rfl | rfl
          · exact .inr ⟨u ++ after, by simp, by simpa using made [] after h⟩
          · exact .inl ⟨before ++ u, by simp, by simpa using made before [] h⟩

/-- A character at the end is left out. -/
theorem dropLast (a : List Char) (c : Char) : Edit (a ++ [c]) a := by
  simpa using made a [] (.leaveOut c)

end Edit

/-! ## Edits one after another -/

namespace Edited

theorem single (h : Edit a b) : Edited 1 a b := .next h (.done b)

theorem trans {s : List Char} (h : Edited m a b) (h' : Edited n b s) : Edited (m + n) a s := by
  induction h with
  | done => rwa [Nat.zero_add]
  | next hedit _ ih =>
      rw [Nat.add_right_comm]
      exact .next hedit (ih h')

theorem symm (h : Edited n a b) : Edited n b a := by
  induction h with
  | done a => exact .done a
  | next hedit _ ih => exact ih.trans (.single hedit.symm)

theorem append_left (h : Edited n a b) (s : List Char) : Edited n (s ++ a) (s ++ b) := by
  induction h with
  | done a => exact .done (s ++ a)
  | next hedit _ ih => exact .next (hedit.append_left s) ih

theorem append_right (h : Edited n a b) (s : List Char) : Edited n (a ++ s) (b ++ s) := by
  induction h with
  | done a => exact .done (a ++ s)
  | next hedit _ ih => exact .next (hedit.append_right s) ih

/-- Two parts are edited one after the other. -/
theorem append (h : Edited m a b) (h' : Edited n u v) : Edited (m + n) (a ++ u) (b ++ v) :=
  (h.append_right u).trans (h'.append_left b)

/-- What ends in two parts was edited in two parts. -/
theorem of_append_right {s : List Char} (h : Edited n s (a ++ b)) :
    ∃ x y i j, s = x ++ y ∧ Edited i x a ∧ Edited j y b ∧ i + j = n := by
  generalize hab : a ++ b = e at h
  induction h with
  | done => exact ⟨a, b, 0, 0, hab.symm, .done a, .done b, rfl⟩
  | next hedit _ ih =>
      obtain ⟨x, y, i, j, rfl, hx, hy, rfl⟩ := ih hab
      rcases hedit.of_append with ⟨x', rfl, hx'⟩ | ⟨y', rfl, hy'⟩
      · exact ⟨x', y, i + 1, j, rfl, .next hx' hx, hy, by omega⟩
      · exact ⟨x, y', i, j + 1, rfl, hx, .next hy' hy, rfl⟩

/-- What starts in two parts is edited in two parts. -/
theorem of_append_left {s : List Char} (h : Edited n (a ++ b) s) :
    ∃ x y i j, s = x ++ y ∧ Edited i a x ∧ Edited j b y ∧ i + j = n := by
  obtain ⟨x, y, i, j, hs, hx, hy, hn⟩ := h.symm.of_append_right
  exact ⟨x, y, i, j, hs, hx.symm, hy.symm, hn⟩

theorem eq_of_zero (h : Edited 0 a b) : a = b := by
  cases h
  rfl

theorem pos_of_ne (h : Edited n a b) (hne : a ≠ b) : 0 < n := by
  refine Nat.pos_of_ne_zero ?_
  rintro rfl
  exact hne h.eq_of_zero

theorem length_le (h : Edited n a b) : a.length ≤ b.length + n := by
  induction h with
  | done => exact Nat.le_refl _
  | next hedit _ ih =>
      have hle := hedit.length_le
      omega

theorem meet (t c : Char) : Edited (if t = c then 0 else 1) [t] [c] := by
  by_cases htc : t = c
  · rw [if_pos htc, htc]
    exact .done [c]
  · rw [if_neg htc]
    exact .single (.made [] [] (.substitute t c))

theorem least (h : Edited m a b) (h' : Edited n a b) : Edited (min m n) a b := by
  rcases Nat.le_total m n with hle | hle
  · rwa [Nat.min_eq_left hle]
  · rwa [Nat.min_eq_right hle]

/-- As many edits as the longer text has characters are enough. -/
theorem exists_le_max (a b : List Char) : ∃ n ≤ max a.length b.length, Edited n a b := by
  induction a generalizing b with
  | nil =>
      induction b with
      | nil => exact ⟨0, Nat.zero_le _, .done []⟩
      | cons c b ih =>
          obtain ⟨n, hn, h⟩ := ih
          refine ⟨n + 1, ?_, h.trans (.single (.made [] b (.insert c)))⟩
          simp only [List.length_nil, List.length_cons] at hn ⊢
          omega
  | cons t a ih =>
      cases b with
      | nil =>
          obtain ⟨n, hn, h⟩ := ih []
          refine ⟨n + 1, ?_, .next (.made [] a (.leaveOut t)) h⟩
          simp only [List.length_nil, List.length_cons] at hn ⊢
          omega
      | cons c b =>
          obtain ⟨n, hn, h⟩ := ih b
          refine ⟨_, ?_, (meet t c).append h⟩
          simp only [List.length_cons]
          split <;> omega

/-- What becomes of the last characters of two texts. -/
theorem concat_cases (h : Edited n (p ++ [t]) (q ++ [c])) :
    (∃ k, Edited k p q ∧ k + (if t = c then 0 else 1) ≤ n) ∨
    (∃ k, Edited k p (q ++ [c]) ∧ k + 1 ≤ n) ∨
    ∃ k, Edited k (p ++ [t]) q ∧ k + 1 ≤ n := by
  obtain ⟨x, y, i, j, hxy, hx, hy, rfl⟩ := h.of_append_right
  obtain rfl | ⟨r, t', rfl⟩ := y.eq_nil_or_concat
  · -- nothing of the first text became `c`
    have hj := hy.pos_of_ne (by simp)
    rw [List.append_nil] at hxy
    exact .inr (.inr ⟨i, hxy ▸ hx, by omega⟩)
  · rw [List.concat_eq_append] at hxy hy
    obtain ⟨rfl, ht⟩ := List.append_inj' (hxy.trans (List.append_assoc x r [t']).symm) rfl
    obtain rfl := (List.cons.inj ht).1
    obtain ⟨v, w, k, l, hvw, hr, ht, rfl⟩ := hy.of_append_left
    rcases List.singleton_eq_append_iff.mp hvw with ⟨rfl, rfl⟩ | ⟨rfl, rfl⟩
    · -- `t` became `c`
      refine .inl ⟨i + k, by simpa using hx.append hr, ?_⟩
      split
      · omega
      · next htc =>
        have hl := ht.pos_of_ne (by simpa using htc)
        omega
    · -- `c` was there before `t`
      have hl := ht.pos_of_ne (by simp)
      exact .inr (.inl ⟨i + k, hx.append hr, by omega⟩)

end Edited

/-! ## The fewest -/

namespace FewestEdits

theorem eq (h : FewestEdits a b j) (h' : FewestEdits a b k) : j = k := h.unique h'

theorem symm (h : FewestEdits a b k) : FewestEdits b a k :=
  ⟨h.1.symm, fun _ hn => h.2 hn.symm⟩

theorem nil_left (b : List Char) : FewestEdits [] b b.length := by
  obtain ⟨n, hn, h⟩ := Edited.exists_le_max [] b
  have hlength := h.symm.length_le
  simp only [List.length_nil, Nat.zero_max, Nat.zero_add] at hn hlength
  obtain rfl := Nat.le_antisymm hn hlength
  refine ⟨h, fun m hm => ?_⟩
  simpa using hm.symm.length_le

theorem nil_right (a : List Char) : FewestEdits a [] a.length := (nil_left a).symm

/-- A cell comes from the three beside it. -/
theorem concat (hdiagonal : FewestEdits p q i) (hup : FewestEdits p (q ++ [c]) j)
    (hleft : FewestEdits (p ++ [t]) q k) : FewestEdits (p ++ [t]) (q ++ [c])
      (min (min (i + if t = c then 0 else 1) (j + 1)) (k + 1)) := by
  constructor
  · have hmeet : Edited _ (p ++ [t]) (q ++ [c]) := hdiagonal.1.append (.meet t c)
    have hleaveOut : Edited (j + 1) (p ++ [t]) (q ++ [c]) := .next (.dropLast p t) hup.1
    have hinsert : Edited (k + 1) (p ++ [t]) (q ++ [c]) :=
      hleft.1.trans (.single (Edit.dropLast q c).symm)
    exact (hmeet.least hleaveOut).least hinsert
  · intro n hn
    rcases Edited.concat_cases hn with ⟨m, hm, hle⟩ | ⟨m, hm, hle⟩ | ⟨m, hm, hle⟩
    · have := hdiagonal.2 hm
      omega
    · have := hup.2 hm
      omega
    · have := hleft.2 hm
      omega

end FewestEdits

/-! ## Rows of cells -/

theorem getD_setIfInBounds {row : Array Nat} (hi : i < row.size) (k j : Nat) :
    (row.setIfInBounds i k).getD j 0 = if i = j then k else row.getD j 0 := by
  rw [Array.getD_eq_getD_getElem?, Array.getElem?_setIfInBounds, if_pos hi,
    Array.getD_eq_getD_getElem?]
  split <;> rfl

/-- A row holds the fewest edits between a text and the beginnings of another, up to some column. -/
structure Cells (p target : List Char) (column : Nat) (row : Array Nat) : Prop where
  size : row.size = target.length + 1
  cell : ∀ j ≤ column, FewestEdits p (target.take j) (row.getD j 0)

namespace Cells

variable {row previous current : Array Nat}

theorem first (target : List Char) :
    Cells [] target target.length (Array.range (target.length + 1)) where
  size := Array.size_range
  cell j hj := by
    have hread : (Array.range (target.length + 1)).getD j 0 = j := by
      simp [Array.getD_eq_getD_getElem?, Nat.lt_succ_of_le hj]
    have hleast := FewestEdits.nil_left (target.take j)
    rw [List.length_take, Nat.min_eq_left hj] at hleast
    rwa [hread]

/-- A row that is begun anew holds its first column. -/
theorem begun (hsize : row.size = target.length + 1) :
    Cells p target 0 (row.setIfInBounds 0 p.length) where
  size := by rw [Array.size_setIfInBounds, hsize]
  cell j hj := by
    obtain rfl := Nat.le_zero.mp hj
    rw [getD_setIfInBounds (by omega), if_pos rfl, List.take_zero]
    exact .nil_right p

theorem next (h : Cells p target j row) (hj : j < target.length)
    (hk : FewestEdits p (target.take (j + 1)) k) :
    Cells p target (j + 1) (row.setIfInBounds (j + 1) k) where
  size := by rw [Array.size_setIfInBounds, h.size]
  cell i hi := by
    have hsize := h.size
    rw [getD_setIfInBounds (by omega)]
    split
    · next heq => exact heq ▸ hk
    · exact h.cell i (by omega)

/-- A row is filled from the one before it. -/
theorem filled (hprevious : Cells p target target.length previous)
    (hcurrent : Cells (p ++ [t]) target j current) {ds : List Char} (hds : target.drop j = ds) :
    Cells (p ++ [t]) target target.length (fillEdits t previous j ds current) := by
  induction ds generalizing j current with
  | nil =>
      have hj := List.drop_eq_nil_iff.mp hds
      exact ⟨hcurrent.size, fun i hi => hcurrent.cell i (hi.trans hj)⟩
  | cons d ds ih =>
      have hj : j < target.length := by
        rw [← List.drop_eq_nil_iff.not.trans Nat.not_le, hds]
        simp
      have hd : target.take (j + 1) = target.take j ++ [d] := by
        rw [List.take_add_one, ← List.head?_drop, hds]
        rfl
      have hrest : target.drop (j + 1) = ds := by
        rw [← List.tail_drop, hds]
        rfl
      have hup := hprevious.cell (j + 1) hj
      rw [hd] at hup
      have hhere := (hprevious.cell j hj.le).concat hup (hcurrent.cell j (Nat.le_refl j))
      rw [← hd] at hhere
      exact ih (hcurrent.next hj hhere) hrest

/-- Reading on from two rows comes to the fewest edits. -/
theorem fewest_editsFrom (h : Cells p target target.length previous)
    (hsize : current.size = target.length + 1) (ts : List Char) :
    FewestEdits (p ++ ts) target (editsFrom target p.length previous current ts) := by
  induction ts generalizing p previous current with
  | nil =>
      have hlast := h.cell target.length (Nat.le_refl _)
      rw [List.take_length] at hlast
      rwa [List.append_nil, editsFrom]
  | cons t ts ih =>
      have hlength : p.length + 1 = (p ++ [t]).length := by simp
      have hfilled := h.filled (t := t) (begun hsize) List.drop_zero
      rw [editsFrom, hlength, List.append_cons]
      exact ih hfilled h.size

end Cells

theorem fewestEdits_edits (a b : List Char) : FewestEdits a b (edits a b) :=
  (Cells.first b).fewest_editsFrom (by simp) a

/-- **The edit distance is the least number of edits.**  Counted are insertions, deletions and
substitutions of single characters, in any order.  So the distance is zero between equal texts only,
the same in both directions, no longer than any way round, and between the difference of the two
lengths and the greater one. -/
theorem edit_distance_is_least_number_of_edits (a b : String) :
    IsLeast {n | Edited n a.toList b.toList} (editDistance a b) ∧
      (editDistance a b = 0 ↔ a = b) ∧
      editDistance a b = editDistance b a ∧
      (∀ c, editDistance a c ≤ editDistance a b + editDistance b c) ∧
      max a.length b.length - min a.length b.length ≤ editDistance a b ∧
      editDistance a b ≤ max a.length b.length := by
  have hfewest : ∀ a b, FewestEdits a.toList b.toList (editDistance a b) := fun a b =>
    fewestEdits_edits a.toList b.toList
  refine ⟨hfewest a b, ⟨fun hzero => ?_, ?_⟩, (hfewest a b).eq (hfewest b a).symm, ?_, ?_, ?_⟩
  · have hnone := (hfewest a b).1
    rw [hzero] at hnone
    exact String.toList_inj.mp hnone.eq_of_zero
  · rintro rfl
    exact Nat.le_zero.mp ((hfewest a a).2 (.done a.toList))
  · intro c
    exact (hfewest a c).2 ((hfewest a b).1.trans (hfewest b c).1)
  · have hleft := (hfewest a b).1.length_le
    have hright := (hfewest a b).1.symm.length_le
    rw [String.length_toList, String.length_toList] at hleft hright
    omega
  · obtain ⟨n, hn, hedited⟩ := Edited.exists_le_max a.toList b.toList
    rw [String.length_toList, String.length_toList] at hn
    exact ((hfewest a b).2 hedited).trans hn

example : editDistance "kitten" "sitting" = 3 := by decide +kernel

end Spelling.Distance
