/-!
# Distinct elements of a list

`List.eraseDups` keeps every element once, in the order of the first places.  Leaving elements out
before or after comes to the same (`eraseDups_filter`), and the first few of the distinct elements
are known from the first few of those that come after the head (`take_eraseDups_cons`).
-/

namespace Spelling

variable {α : Type} [DecidableEq α]

theorem eraseDups_filter (p : α → Bool) (xs : List α) :
    (xs.filter p).eraseDups = xs.eraseDups.filter p := by
  induction hlength : xs.length using Nat.strongRecOn generalizing xs with
  | ind n ih =>
    cases xs with
    | nil => rfl
    | cons x xs =>
        have hrest := ih (xs.filter fun y => !y == x).length
          (by rw [← hlength]; exact Nat.lt_succ_of_le (List.length_filter_le _ _)) _ rfl
        rw [List.filter_filter] at hrest
        rw [List.eraseDups_cons]
        by_cases hx : p x = true
        · rw [List.filter_cons_of_pos hx, List.filter_cons_of_pos hx, List.eraseDups_cons,
            List.filter_filter, ← hrest]
          congr 3
          funext y
          exact Bool.and_comm _ _
        · rw [List.filter_cons_of_neg hx, List.filter_cons_of_neg hx, ← hrest]
          congr 2
          funext y
          by_cases hy : y = x
          · simp [hy, hx]
          · simp [hy]

theorem eraseDups_cons_eq (x : α) (xs : List α) :
    (x :: xs).eraseDups = x :: xs.eraseDups.filter (· != x) := by
  rw [List.eraseDups_cons, eraseDups_filter]
  rfl

theorem head?_eraseDups (xs : List α) : xs.eraseDups.head? = xs.head? := by
  cases xs with
  | nil => rfl
  | cons x xs => rw [eraseDups_cons_eq, List.head?_cons, List.head?_cons]

theorem nodup_eraseDups (xs : List α) : xs.eraseDups.Nodup := by
  induction xs with
  | nil => exact List.nodup_nil
  | cons x xs ih =>
      rw [eraseDups_cons_eq, List.nodup_cons]
      exact ⟨by simp, ih.filter _⟩

/-- One place more makes up for one element that is left out. -/
theorem take_filter_take {xs : List α} (h : xs.Nodup) (x : α) (n : Nat) :
    ((xs.take (n + 1)).filter (· != x)).take n = (xs.filter (· != x)).take n := by
  induction xs generalizing n with
  | nil => simp
  | cons y ys ih =>
      obtain ⟨hy, hys⟩ := List.nodup_cons.mp h
      rw [List.take_succ_cons]
      by_cases hyx : y = x
      · subst hyx
        have hall : ∀ zs : List α, y ∉ zs → zs.filter (· != y) = zs := by
          intro zs hzs
          rw [List.filter_eq_self]
          intro z hz
          simpa using fun heq : z = y => hzs (heq ▸ hz)
        rw [List.filter_cons_of_neg (by simp), List.filter_cons_of_neg (by simp), hall ys hy,
          hall _ fun hmem => hy (List.mem_of_mem_take hmem), List.take_take, Nat.min_self]
      · rw [List.filter_cons_of_pos (by simpa using hyx),
          List.filter_cons_of_pos (by simpa using hyx)]
        cases n with
        | zero => rfl
        | succ n => rw [List.take_succ_cons, List.take_succ_cons, ih hys]

/-- The first few distinct elements with one more in front. -/
theorem take_eraseDups_cons (x : α) (xs : List α) {n : Nat} (hn : 0 < n) :
    (x :: xs).eraseDups.take n = (x :: (xs.eraseDups.take n).filter (· != x)).take n := by
  cases n with
  | zero => exact absurd hn (Nat.lt_irrefl 0)
  | succ n =>
      rw [eraseDups_cons_eq, List.take_succ_cons, List.take_succ_cons,
        take_filter_take (nodup_eraseDups xs)]

/-- Of two distinct elements the one with the earlier first place comes first. -/
theorem pairwise_idxOf_eraseDups (xs : List α) :
    xs.eraseDups.Pairwise fun x y => xs.idxOf x < xs.idxOf y := by
  induction xs with
  | nil => exact .nil
  | cons x xs ih =>
      have hrest : ∀ y ∈ xs.eraseDups.filter (· != x), (x :: xs).idxOf y = xs.idxOf y + 1 := by
        intro y hy
        have hne : y ≠ x := by simpa using (List.mem_filter.mp hy).2
        rw [List.idxOf_cons, beq_eq_false_iff_ne.mpr hne.symm, cond_false]
      rw [eraseDups_cons_eq, List.pairwise_cons]
      refine ⟨fun y hy => ?_, (ih.sublist List.filter_sublist).imp_of_mem fun hy hz hlt => ?_⟩
      · rw [List.idxOf_cons_self, hrest y hy]
        exact Nat.succ_pos _
      · rw [hrest _ hy, hrest _ hz]
        exact Nat.succ_lt_succ hlt

end Spelling
