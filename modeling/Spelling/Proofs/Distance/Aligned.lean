import Mathlib.Algebra.Order.Ring.Defs
import Mathlib.Data.List.Induction
import Mathlib.Data.Set.Image
import Mathlib.Tactic.Linarith

/-!
# Alignments of two words

An alignment reads two words from the left, and each of its steps reads on in one of them or in
both:

    step          reads of the typed word   of the candidate   and costs
    insert        nothing                   a character        1
    leave out     a character               nothing            1
    keep          a character               the same           0
    replace       a character               another            what replacing it there costs
    swap          two characters            both, swapped      1

No step goes back, so no character is edited twice.  Where no replacement costs less than nothing,
an alignment is at least as costly as what it makes of any prefix of the typed word
(`Aligned.exists_prefix`), and as the difference of the lengths.
-/

namespace Spelling.Distance

variable {K : Type} [CommRing K]

/-- A typed word can be aligned with a candidate at some cost.  A replacement costs what `replace`
says of its place in the typed word and of both characters. -/
inductive Aligned (replace : Nat → Char → Char → K) : List Char → List Char → K → Prop
  | done : Aligned replace [] [] 0
  | insert {ts cs : List Char} {k : K} (h : Aligned replace ts cs k) (c : Char) :
      Aligned replace ts (cs ++ [c]) (k + 1)
  | leaveOut {ts cs : List Char} {k : K} (h : Aligned replace ts cs k) (t : Char) :
      Aligned replace (ts ++ [t]) cs (k + 1)
  | keep {ts cs : List Char} {k : K} (h : Aligned replace ts cs k) (c : Char) :
      Aligned replace (ts ++ [c]) (cs ++ [c]) k
  | replace {ts cs : List Char} {k : K} (h : Aligned replace ts cs k) {t c : Char} (hne : t ≠ c) :
      Aligned replace (ts ++ [t]) (cs ++ [c]) (k + replace ts.length t c)
  | swap {ts cs : List Char} {k : K} (h : Aligned replace ts cs k) (x y : Char) :
      Aligned replace (ts ++ [x, y]) (cs ++ [y, x]) (k + 1)

namespace Aligned

variable {replace : Nat → Char → Char → K} {ts cs : List Char} {k : K}

/-! ## The last step -/

theorem meet (h : Aligned replace ts cs k) (t c : Char) :
    Aligned replace (ts ++ [t]) (cs ++ [c]) (k + if t = c then 0 else replace ts.length t c) := by
  by_cases htc : t = c
  · rw [if_pos htc, add_zero, htc]
    exact h.keep c
  · rw [if_neg htc]
    exact h.replace htc

/-- How an alignment comes to its end, when both words end in some character. -/
theorem concat_iff {t c : Char} : Aligned replace (ts ++ [t]) (cs ++ [c]) k ↔
    (∃ j, Aligned replace ts cs j ∧ j + (if t = c then 0 else replace ts.length t c) = k) ∨
    (∃ j, Aligned replace ts (cs ++ [c]) j ∧ j + 1 = k) ∨
    (∃ j, Aligned replace (ts ++ [t]) cs j ∧ j + 1 = k) ∨
    ∃ ts' cs', ts = ts' ++ [c] ∧ cs = cs' ++ [t] ∧ ∃ j, Aligned replace ts' cs' j ∧ j + 1 = k := by
  constructor
  · intro h
    generalize hts : ts ++ [t] = p at h
    generalize hcs : cs ++ [c] = q at h
    cases h with
    | done => simp at hts
    | insert h d =>
        obtain ⟨rfl, -⟩ := List.append_inj' hcs rfl
        exact .inr (.inr (.inl ⟨_, hts ▸ h, rfl⟩))
    | leaveOut h d =>
        obtain ⟨rfl, -⟩ := List.append_inj' hts rfl
        exact .inr (.inl ⟨_, hcs ▸ h, rfl⟩)
    | keep h d =>
        obtain ⟨rfl, ht⟩ := List.append_inj' hts rfl
        obtain ⟨rfl, hc⟩ := List.append_inj' hcs rfl
        cases ht
        cases hc
        exact .inl ⟨_, h, by simp⟩
    | replace h hne =>
        obtain ⟨rfl, ht⟩ := List.append_inj' hts rfl
        obtain ⟨rfl, hc⟩ := List.append_inj' hcs rfl
        cases ht
        cases hc
        exact .inl ⟨_, h, by rw [if_neg hne]⟩
    | @swap ts' cs' j h x y =>
        rw [List.append_cons ts'] at hts
        rw [List.append_cons cs'] at hcs
        obtain ⟨rfl, ht⟩ := List.append_inj' hts rfl
        obtain ⟨rfl, hc⟩ := List.append_inj' hcs rfl
        cases ht
        cases hc
        exact .inr (.inr (.inr ⟨ts', cs', rfl, rfl, j, h, rfl⟩))
  · rintro (⟨j, h, rfl⟩ | ⟨j, h, rfl⟩ | ⟨j, h, rfl⟩ | ⟨ts', cs', rfl, rfl, j, h, rfl⟩)
    · exact h.meet t c
    · exact h.leaveOut t
    · exact h.insert c
    · simpa using h.swap c t

/-- The costs of aligning two words that end in some character, by the last step. -/
theorem setOf_concat (replace : Nat → Char → Char → K) (ts cs : List Char) (t c : Char) :
    {k | Aligned replace (ts ++ [t]) (cs ++ [c]) k} =
      ((· + if t = c then 0 else replace ts.length t c) '' {k | Aligned replace ts cs k} ∪
        (· + 1) '' {k | Aligned replace ts (cs ++ [c]) k} ∪
        (· + 1) '' {k | Aligned replace (ts ++ [t]) cs k}) ∪
      {k | ∃ ts' cs', ts = ts' ++ [c] ∧ cs = cs' ++ [t] ∧
        ∃ j, Aligned replace ts' cs' j ∧ j + 1 = k} := by
  ext k
  rw [Set.mem_ofPred_eq, concat_iff]
  simp only [Set.mem_union, Set.mem_image, Set.mem_ofPred_eq, or_assoc]

/-- When both words end in the same two characters, the other way round, the costs with that swap as
the last step. -/
theorem setOf_swap (replace : Nat → Char → Char → K) (ts cs : List Char) (t c : Char) :
    {k | ∃ ts' cs', ts ++ [c] = ts' ++ [c] ∧ cs ++ [t] = cs' ++ [t] ∧
      ∃ j, Aligned replace ts' cs' j ∧ j + 1 = k} = (· + 1) '' {k | Aligned replace ts cs k} := by
  ext k
  simp only [List.append_left_inj, exists_eq_left', exists_and_left, Set.mem_ofPred_eq,
    Set.mem_image]

/-- Characters that meet none are inserted. -/
theorem nil_left_iff : Aligned replace [] cs k ↔ k = cs.length := by
  constructor
  · intro h
    generalize hts : ([] : List Char) = p at h
    induction h with
    | done => simp
    | insert _ _ ih => simp [ih hts]
    | leaveOut | keep | replace | swap => simp at hts
  · rintro rfl
    induction cs using List.reverseRecOn with
    | nil => simpa using done
    | append_singleton cs c ih => simpa using ih.insert c

/-- Characters that meet none are left out. -/
theorem nil_right_iff : Aligned replace ts [] k ↔ k = ts.length := by
  constructor
  · intro h
    generalize hcs : ([] : List Char) = q at h
    induction h with
    | done => simp
    | leaveOut _ _ ih => simp [ih hcs]
    | insert | keep | replace | swap => simp at hcs
  · rintro rfl
    induction ts using List.reverseRecOn with
    | nil => simpa using done
    | append_singleton ts t ih => simpa using ih.leaveOut t

/-! ## Costs are at least what prefixes and lengths cost -/

variable [LinearOrder K] [IsStrictOrderedRing K] (hreplace : ∀ i t c, 0 ≤ replace i t c)
include hreplace

/-- A prefix of the typed word can be aligned with some prefix of the candidate at no more cost. A
swap that reads past the prefix leaves out the character before. -/
theorem exists_prefix (h : Aligned replace ts cs k) {p : List Char} (hp : p <+: ts) :
    ∃ q, q <+: cs ∧ ∃ j ≤ k, Aligned replace p q j := by
  induction h generalizing p with
  | done =>
      rw [List.prefix_nil.mp hp]
      exact ⟨[], List.prefix_rfl, 0, le_rfl, done⟩
  | insert _ c ih =>
      obtain ⟨q, hq, j, hj, h⟩ := ih hp
      exact ⟨q, hq.trans (List.prefix_append _ _), j, by linarith, h⟩
  | leaveOut h t ih =>
      obtain rfl | hp := List.prefix_concat_iff.mp hp
      · exact ⟨_, List.prefix_rfl, _, le_rfl, h.leaveOut t⟩
      · obtain ⟨q, hq, j, hj, h⟩ := ih hp
        exact ⟨q, hq, j, by linarith, h⟩
  | keep h c ih =>
      obtain rfl | hp := List.prefix_concat_iff.mp hp
      · exact ⟨_, List.prefix_rfl, _, le_rfl, h.keep c⟩
      · obtain ⟨q, hq, j, hj, h⟩ := ih hp
        exact ⟨q, hq.trans (List.prefix_append _ _), j, hj, h⟩
  | @replace ts _ _ h t c hne ih =>
      obtain rfl | hp := List.prefix_concat_iff.mp hp
      · exact ⟨_, List.prefix_rfl, _, le_rfl, h.replace hne⟩
      · obtain ⟨q, hq, j, hj, h⟩ := ih hp
        have hcost := hreplace ts.length t c
        exact ⟨q, hq.trans (List.prefix_append _ _), j, by linarith, h⟩
  | swap h x y ih =>
      rw [List.append_cons] at hp
      obtain rfl | hp := List.prefix_concat_iff.mp hp
      · refine ⟨_, List.prefix_rfl, _, le_rfl, ?_⟩
        rw [← List.append_cons]
        exact h.swap x y
      · obtain rfl | hp := List.prefix_concat_iff.mp hp
        · exact ⟨_, List.prefix_append _ _, _, le_rfl, h.leaveOut x⟩
        · obtain ⟨q, hq, j, hj, h⟩ := ih hp
          exact ⟨q, hq.trans (List.prefix_append _ _), j, by linarith, h⟩

/-- Neither word is longer than the other by more than the cost. -/
theorem length_le (h : Aligned replace ts cs k) :
    (ts.length : K) ≤ cs.length + k ∧ (cs.length : K) ≤ ts.length + k := by
  induction h with
  | done => simp
  | insert | leaveOut | keep | swap =>
      simp only [List.length_append, List.length_cons, List.length_nil]
      push_cast
      constructor <;> linarith
  | @replace ts _ _ _ t c _ ih =>
      have hcost := hreplace ts.length t c
      simp only [List.length_append, List.length_cons, List.length_nil]
      push_cast
      constructor <;> linarith

end Aligned

end Spelling.Distance
