import Mathlib.Algebra.GroupWithZero.Nat
import Mathlib.Data.List.Nodup

/-!
# A list in which one moves on

Callers are listed by their numbers, and a step of one of them changes its place in the list only.
What is counted over all callers changes as it changes for that one.
-/

namespace Spelling

variable {α : Type}

/-- One entry is changed between those before and after it. -/
theorem exists_set_split {l : List α} {i : Nat} {x : α} (h : l[i]? = some x) :
    ∃ before after, l = before ++ x :: after ∧ ∀ y, l.set i y = before ++ y :: after := by
  obtain ⟨hi, rfl⟩ := List.getElem?_eq_some_iff.mp h
  refine ⟨l.take i, l.drop (i + 1), by simp, ?_⟩
  intro y
  rw [List.set_eq_take_append_cons_drop, if_pos hi]

theorem sum_map_split (f : α → Nat) (before after : List α) (x : α) :
    ((before ++ x :: after).map f).sum = f x + ((before ++ after).map f).sum := by
  simp only [List.map_append, List.map_cons, List.sum_append, List.sum_cons]
  omega

theorem le_sum_map_of_mem (f : α → Nat) {l : List α} {x : α} (h : x ∈ l) :
    f x ≤ (l.map f).sum := by
  obtain ⟨before, after, rfl⟩ := List.append_of_mem h
  rw [sum_map_split]
  exact Nat.le_add_right ..

theorem sum_map_eq_zero (f : α → Nat) {l : List α} (h : ∀ x ∈ l, f x = 0) : (l.map f).sum = 0 := by
  induction l with
  | nil => rfl
  | cons x rest ih =>
      rw [List.map_cons, List.sum_cons, h x List.mem_cons_self,
        ih fun y hy => h y (List.mem_cons_of_mem _ hy)]

/-- Two entries count together. -/
theorem add_le_sum_map (f : α → Nat) {l : List α} {x y : α} :
    ∀ {i j : Nat}, i ≠ j → l[i]? = some x → l[j]? = some y → f x + f y ≤ (l.map f).sum := by
  induction l with
  | nil =>
      intro i j _ hx
      exact nomatch hx
  | cons z rest ih =>
      intro i j hij hx hy
      rw [List.map_cons, List.sum_cons]
      cases i with
      | zero =>
          cases hx
          cases j with
          | zero => exact absurd rfl hij
          | succ j =>
              have hmem : y ∈ rest := List.mem_of_getElem? hy
              exact Nat.add_le_add_left (le_sum_map_of_mem f hmem) _
      | succ i =>
          cases j with
          | zero =>
              cases hy
              have hmem : x ∈ rest := List.mem_of_getElem? hx
              rw [Nat.add_comm]
              exact Nat.add_le_add_left (le_sum_map_of_mem f hmem) _
          | succ j =>
              have hrest := ih (fun h => hij (congrArg Nat.succ h)) hx hy
              omega

/-- The entry that was changed. -/
theorem getElem?_set_of_some {l : List α} {i : Nat} {x : α} (hx : l[i]? = some x) (y : α) :
    (l.set i y)[i]? = some y :=
  List.getElem?_set_self (List.getElem?_eq_some_iff.mp hx).1

/-- What holds of all entries and of another one holds when this takes the place of one. -/
theorem forall_mem_set {P : α → Prop} {l : List α} (i : Nat) {y : α} (h : ∀ x ∈ l, P x)
    (hy : P y) : ∀ x ∈ l.set i y, P x := by
  intro x hx
  rcases List.mem_or_eq_of_mem_set hx with hx | rfl
  · exact h x hx
  · exact hy

/-- What is in a list in which one entry was changed. -/
theorem getElem?_set_cases {l : List α} {i j : Nat} {y z : α} (hz : (l.set i y)[j]? = some z) :
    i = j ∧ z = y ∨ i ≠ j ∧ l[j]? = some z := by
  rw [List.getElem?_set] at hz
  split at hz
  · next h =>
    split at hz
    · exact .inl ⟨h, (Option.some.inj hz).symm⟩
    · cases hz
  · next h => exact .inr ⟨h, hz⟩

/-- Where an entry went when one was changed. -/
theorem getElem?_set_moved {l : List α} {i j : Nat} {x z : α} (hx : l[i]? = some x) (y : α)
    (hz : l[j]? = some z) :
    i = j ∧ z = x ∧ (l.set i y)[j]? = some y ∨ i ≠ j ∧ (l.set i y)[j]? = some z := by
  by_cases hij : i = j
  · subst hij
    exact .inl ⟨rfl, Option.some.inj (hz.symm.trans hx), getElem?_set_of_some hx y⟩
  · exact .inr ⟨hij, (List.getElem?_set_ne hij).trans hz⟩

/-- What is in a list to which one entry was added. -/
theorem getElem?_append_cases {l : List α} {i : Nat} {y z : α} (hz : (l ++ [y])[i]? = some z) :
    l[i]? = some z ∨ i = l.length ∧ z = y := by
  rw [List.getElem?_append] at hz
  split at hz
  · exact .inl hz
  · next h =>
    obtain ⟨hlt, heq⟩ := List.getElem?_eq_some_iff.mp hz
    simp only [List.length_singleton] at hlt
    refine .inr ⟨by omega, ?_⟩
    simpa using heq.symm

/-- An entry stays where it is when others are added. -/
theorem getElem?_append_of_some {l : List α} {i : Nat} {x : α} (h : l[i]? = some x)
    (l' : List α) : (l ++ l')[i]? = some x :=
  (List.getElem?_append_left (List.getElem?_eq_some_iff.mp h).1).trans h

theorem filterMap_cons_toList {β : Type} (f : α → Option β) (a : α) (l : List α) :
    (a :: l).filterMap f = (f a).toList ++ l.filterMap f := by
  cases h : f a <;> simp [h]

/-- Where every entry that is picked counts, there are at most as many picked as counted. -/
theorem length_filterMap_le_sum {β : Type} {f : α → Option β} {g : α → Nat} {l : List α}
    (hle : ∀ x ∈ l, (f x).toList.length ≤ g x) : (l.filterMap f).length ≤ (l.map g).sum := by
  induction l with
  | nil => exact Nat.le_refl _
  | cons x l ih =>
      have hrest := ih fun y hy => hle y (List.mem_cons_of_mem _ hy)
      have hhead := hle x List.mem_cons_self
      rw [filterMap_cons_toList, List.length_append, List.map_cons, List.sum_cons]
      omega

/-- Where one entry counts and is not picked, fewer are picked than counted. -/
theorem length_filterMap_lt_sum {β : Type} {f : α → Option β} {g : α → Nat} {l : List α}
    (hle : ∀ x ∈ l, (f x).toList.length ≤ g x) {z : α} (hz : z ∈ l) (hf : f z = none)
    (hg : 0 < g z) : (l.filterMap f).length < (l.map g).sum := by
  obtain ⟨before, after, rfl⟩ := List.append_of_mem hz
  have hrest : ((before ++ after).filterMap f).length ≤ ((before ++ after).map g).sum := by
    refine length_filterMap_le_sum ?_
    intro x hx
    refine hle x ?_
    rcases List.mem_append.mp hx with hx | hx
    · exact List.mem_append_left _ hx
    · exact List.mem_append_right _ (List.mem_cons_of_mem _ hx)
  rw [sum_map_split]
  simp only [List.filterMap_append, filterMap_cons_toList, hf, Option.toList_none,
    List.nil_append, List.length_append] at hrest ⊢
  omega

/-- What is picked of a value is counted entry by entry. -/
theorem count_filterMap (f : α → Option Nat) (l : List α) (k : Nat) :
    (l.filterMap f).count k = (l.map fun x => if f x = some k then 1 else 0).sum := by
  induction l with
  | nil => rfl
  | cons x rest ih =>
      rw [filterMap_cons_toList, List.count_append, ih, List.map_cons, List.sum_cons]
      cases hf : f x with
      | none => simp
      | some j => simp [List.count_singleton]

/-- Where no value is picked twice, it is picked of one entry. -/
theorem eq_of_nodup_filterMap {f : α → Option Nat} {l : List α} (h : (l.filterMap f).Nodup)
    {i j : Nat} {x y : α} {k : Nat} (hi : l[i]? = some x) (hj : l[j]? = some y)
    (hx : f x = some k) (hy : f y = some k) : i = j := by
  refine Decidable.byContradiction ?_
  intro hne
  have htwo := add_le_sum_map (fun z => if f z = some k then 1 else 0) hne hi hj
  have hone := List.nodup_iff_count_le_one.mp h k
  rw [count_filterMap] at hone
  simp only [if_pos hx, if_pos hy] at htwo
  omega

/-- What is counted for an entry is made up for by what is picked and what is counted besides. -/
theorem sum_map_le_add {β : Type} {f g : α → Nat} {p : α → Option β} {l : List α}
    (h : ∀ x ∈ l, f x ≤ (p x).toList.length + g x) :
    (l.map f).sum ≤ (l.filterMap p).length + (l.map g).sum := by
  induction l with
  | nil => exact Nat.le_refl _
  | cons x rest ih =>
      have hrest := ih fun y hy => h y (List.mem_cons_of_mem _ hy)
      have hhead := h x List.mem_cons_self
      rw [filterMap_cons_toList, List.length_append, List.map_cons, List.sum_cons, List.map_cons,
        List.sum_cons]
      omega

/-- Where all others count nothing, one entry counts for all. -/
theorem sum_map_eq_of_others (f : α → Nat) {l : List α} {x : α} :
    ∀ {i : Nat}, l[i]? = some x → (∀ j y, j ≠ i → l[j]? = some y → f y = 0) →
      (l.map f).sum = f x := by
  induction l with
  | nil =>
      intro i hx
      exact nomatch hx
  | cons z rest ih =>
      intro i hx hothers
      rw [List.map_cons, List.sum_cons]
      cases i with
      | zero =>
          cases hx
          rw [sum_map_eq_zero f, Nat.add_zero]
          intro y hy
          obtain ⟨j, hj⟩ := List.getElem?_of_mem hy
          exact hothers (j + 1) y (Nat.succ_ne_zero j) hj
      | succ i =>
          rw [hothers 0 z (Nat.succ_ne_zero i).symm rfl, Nat.zero_add]
          refine ih hx ?_
          intro j y hj hy
          exact hothers (j + 1) y (fun heq => hj (Nat.succ_inj.mp heq)) hy

end Spelling
