import Spelling.Proofs.Cache.Lineage

/-!
# Newcomers

A locale that is not resident gets a new slot, and the caller who asked for it opens it.  What that
caller learns when the slot comes to be is enough to open it later: once the slot it was told of is
closed, nothing is left of the earlier slots of the locale, whatever other callers did meanwhile.
-/

namespace Spelling.Cache

variable {δ : Type}

/-! ## A new slot -/

section Newcomer

variable {c : Cache δ} {l : Locale}

/-- The residents that stay when a new one comes. -/
def staying (c : Cache δ) : List (Locale × Nat) :=
  if c.victim?.isSome then c.resident.dropLast else c.resident

theorem resident_enroll : (c.enroll l).2.resident = (l, c.slots.length) :: c.staying := rfl

theorem closing_enroll : (c.enroll l).2.closing =
    match c.victim? with
    | some (m, j) => put c.closing m j
    | none => c.closing := rfl

/-- The residents are those that stay and the one that is evicted. -/
theorem mem_resident_iff (e : Locale × Nat) :
    e ∈ c.resident ↔ e ∈ c.staying ∨ c.victim? = some e := by
  rw [staying]
  cases hv : c.victim? with
  | none => simp
  | some x =>
      have hlast : c.resident.getLast? = some x := by
        rw [victim?] at hv
        split at hv
        · cases hv
        · exact hv
      obtain ⟨kept, hsplit⟩ := List.getLast?_eq_some_iff.mp hlast
      simp [hsplit, eq_comm]

/-- Only the evicted slot is new among those to be closed. -/
theorem mem_closing_enroll (e : Locale × Nat) : e ∈ (c.enroll l).2.closing ↔
    c.victim? = some e ∨ e ∈ c.closing ∧ ∀ j, c.victim? ≠ some (e.1, j) := by
  rw [closing_enroll]
  cases hv : c.victim? with
  | none => simp
  | some x =>
      obtain ⟨m, k⟩ := x
      rw [mem_put]
      simp only [Option.some.injEq, Prod.mk.injEq, ne_eq]
      constructor
      · rintro (rfl | ⟨he, hne⟩)
        · exact .inl rfl
        · exact .inr ⟨he, fun j hj => hne hj.1.symm⟩
      · rintro (rfl | ⟨he, hne⟩)
        · exact .inl rfl
        · exact .inr ⟨he, fun heq => hne k ⟨heq.symm, rfl⟩⟩

theorem dead_enroll {j : Nat} (hj : j < c.slots.length) :
    (c.enroll l).2.Dead j ↔ c.Dead j := by
  have hne := Nat.ne_of_lt hj
  constructor <;> intro hdead
  · refine ⟨hj, ?_, ?_⟩
    · simpa only [isOpening_enroll, if_neg hne] using hdead.unopened
    · simpa only [phase_enroll, if_neg hne] using hdead.unready
  · refine ⟨by simpa using Nat.lt_succ_of_lt hj, ?_, ?_⟩
    · simpa only [isOpening_enroll, if_neg hne] using hdead.unopened
    · simpa only [phase_enroll, if_neg hne] using hdead.unready

theorem localeOf_enroll_of_lt {j : Nat} (hj : j < c.slots.length) :
    (c.enroll l).2.localeOf j = c.localeOf j := by
  rw [localeOf_enroll, if_neg (Nat.ne_of_lt hj)]

theorem localeOf_enroll_self : (c.enroll l).2.localeOf c.slots.length = l := by
  rw [localeOf_enroll, if_pos rfl]

theorem lt_or_eq_of_enroll {j : Nat} (hj : j < (c.enroll l).2.slots.length) :
    j < c.slots.length ∨ j = c.slots.length := by
  rw [length_enroll] at hj
  exact Nat.lt_succ_iff_lt_or_eq.mp hj

theorem isOpening_enroll_self : (c.enroll l).2.isOpening c.slots.length = true := by
  rw [isOpening_enroll, if_pos rfl]

theorem Lineage.enroll (h : c.Lineage) (hnone : c.resident.lookup l = none) :
    (c.enroll l).2.Lineage := by
  have hgone : ∀ j, (l, j) ∉ c.resident := not_mem_of_lookup hnone
  have hstay : ∀ e, e ∈ c.staying → e ∈ c.resident := by
    intro e he
    exact (mem_resident_iff e).mpr (.inl he)
  have hvictim : ∀ e, c.victim? = some e → e ∈ c.resident := by
    intro e he
    exact (mem_resident_iff e).mpr (.inr he)
  refine ⟨?_, ?_, ?_, ?_, ?_, ?_, ?_, ?_⟩
  · intro i hi
    rw [isOpening_enroll] at hi
    rw [phase_enroll]
    split
    · rfl
    · next hne => exact h.loading_of_opening i (by rwa [if_neg hne] at hi)
  · intro i hi
    rw [isOpening_enroll] at hi
    rw [readersOf_enroll]
    split
    · rfl
    · next hne => exact h.unread_of_opening i (by rwa [if_neg hne] at hi)
  · intro m i hi
    rw [resident_enroll] at hi
    rcases List.mem_cons.mp hi with heq | hi
    · cases heq
      exact ⟨by simp, localeOf_enroll_self⟩
    · obtain ⟨hlt, hlocale⟩ := h.resident_locale m i (hstay _ hi)
      exact ⟨by simpa using Nat.lt_succ_of_lt hlt, (localeOf_enroll_of_lt hlt).trans hlocale⟩
  · intro m i hi
    have hknown : i < c.slots.length ∧ c.localeOf i = m := by
      rcases (mem_closing_enroll _).mp hi with hv | ⟨hclo, -⟩
      · exact h.resident_locale m i (hvictim _ hv)
      · exact h.closing_locale m i hclo
    exact ⟨by simpa using Nat.lt_succ_of_lt hknown.1,
      (localeOf_enroll_of_lt hknown.1).trans hknown.2⟩
  · intro j k hjk hk hjl hopen
    rcases lt_or_eq_of_enroll hk with hk | rfl
    · have hj : j < c.slots.length := Nat.lt_trans hjk hk
      rw [localeOf_enroll_of_lt hj, localeOf_enroll_of_lt hk] at hjl
      rw [isOpening_enroll, if_neg (Nat.ne_of_lt hk)] at hopen
      exact (dead_enroll hj).mpr (h.earlier_dead j k hjk hk hjl hopen)
    · rw [isOpening_enroll_self] at hopen
      cases hopen
  · intro p hp hdead
    rcases lt_or_eq_of_enroll hp with hp | rfl
    · rw [dead_enroll hp] at hdead
      rw [localeOf_enroll_of_lt hp, resident_enroll, mem_closing_enroll]
      have hlater : ∀ q, p < q → q < c.slots.length → c.localeOf q = c.localeOf p →
          ∃ q, p < q ∧ q < (c.enroll l).2.slots.length ∧
            (c.enroll l).2.localeOf q = c.localeOf p := by
        intro q hpq hq hql
        exact ⟨q, hpq, by simpa using Nat.lt_succ_of_lt hq, (localeOf_enroll_of_lt hq).trans hql⟩
      rcases h.known p hp hdead with hres | hclo | ⟨q, hpq, hq, hql⟩
      · rcases (mem_resident_iff _).mp hres with hstays | hv
        · exact .inl (List.mem_cons_of_mem _ hstays)
        · exact .inr (.inl (.inl hv))
      · by_cases hv : ∃ j, c.victim? = some (c.localeOf p, j)
        · obtain ⟨j, hv⟩ := hv
          obtain ⟨hj, hjl⟩ := h.resident_locale _ _ (hvictim _ hv)
          rcases Nat.eq_or_lt_of_le (h.resident_last _ j (hvictim _ hv) p hp rfl) with rfl | hlt
          · exact .inr (.inl (.inl hv))
          · exact .inr (.inr (hlater j hlt hj hjl))
        · exact .inr (.inl (.inr ⟨hclo, fun j hj => hv ⟨j, hj⟩⟩))
      · exact .inr (.inr (hlater q hpq hq hql))
    · rw [localeOf_enroll_self, resident_enroll]
      exact .inl (List.mem_cons_self ..)
  · intro m p hp j hj hjl
    rw [resident_enroll] at hp
    rcases List.mem_cons.mp hp with heq | hp
    · cases heq
      rw [length_enroll] at hj
      exact Nat.lt_succ_iff.mp hj
    · rcases lt_or_eq_of_enroll hj with hj | rfl
      · rw [localeOf_enroll_of_lt hj] at hjl
        exact h.resident_last m p (hstay _ hp) j hj hjl
      · rw [localeOf_enroll_self] at hjl
        exact absurd (hstay _ hp) (hjl ▸ hgone p)
  · intro m p hp q hq hql hpq
    rcases lt_or_eq_of_enroll hq with hq | rfl
    · rw [localeOf_enroll_of_lt hq] at hql
      rw [isOpening_enroll, if_neg (Nat.ne_of_lt hq), resident_enroll]
      rcases (mem_closing_enroll _).mp hp with hv | ⟨hclo, hother⟩
      · exact absurd (h.resident_last m p (hvictim _ hv) q hq hql) (Nat.not_le.mpr hpq)
      · obtain ⟨hopen, hres⟩ := h.closing_last m p hclo q hq hql hpq
        rcases (mem_resident_iff _).mp hres with hstays | hv
        · exact ⟨hopen, List.mem_cons_of_mem _ hstays⟩
        · exact absurd hv (hother q)
    · rw [localeOf_enroll_self] at hql
      subst hql
      rw [resident_enroll]
      exact ⟨isOpening_enroll_self, List.mem_cons_self ..⟩

theorem Later.enroll (h : c.Lineage) (hnone : c.resident.lookup l = none) :
    c.Later (c.enroll l).2 := by
  refine ⟨by simp, fun i => localeOf_enroll_of_lt,
    fun i hi => (dead_enroll hi.lt).mpr hi, ?_, ?_⟩
  · intro m p hp
    rcases (mem_closing_enroll _).mp hp with hv | ⟨hclo, -⟩
    · have hres := (mem_resident_iff _).mpr (.inr hv)
      refine .inr ?_
      intro q hq hql
      rcases lt_or_eq_of_enroll hq with hq | rfl
      · exact h.resident_last m p hres q hq (localeOf_enroll_of_lt hq ▸ hql)
      · rw [localeOf_enroll_self] at hql
        exact absurd hres (hql ▸ not_mem_of_lookup hnone p)
    · exact .inl hclo
  · intro i hi
    rw [phase_enroll, if_neg]
    rintro rfl
    simp [readersOf] at hi

/-- Of slots of one locale that are not resident, one at most is to be closed. -/
theorem Lineage.closing_unique (h : c.Lineage) (hnone : c.resident.lookup l = none) {i j : Nat}
    (hi : (l, i) ∈ c.closing) (hj : (l, j) ∈ c.closing) : i = j := by
  have hle : ∀ {i j : Nat}, (l, i) ∈ c.closing → (l, j) ∈ c.closing → j ≤ i := by
    intro i j hi hj
    obtain ⟨hjlt, hjl⟩ := h.closing_locale l j hj
    refine Nat.le_of_not_lt ?_
    intro hlt
    exact not_mem_of_lookup hnone j (h.closing_last l i hi j hjlt hjl hlt).2
  exact Nat.le_antisymm (hle hj hi) (hle hi hj)

/-- What is left of a locale that is not resident is behind the slot to be closed. -/
theorem Lineage.behind_closing (h : c.Lineage) (hnone : c.resident.lookup l = none) {j : Nat}
    (hj : j < c.slots.length) (hjl : c.localeOf j = l) :
    c.Dead j ∨ ∃ p, c.closing.lookup l = some p ∧ j ≤ p := by
  -- by induction on the number of slots after `j`: a later slot of the locale has the answer
  induction hn : c.slots.length - j using Nat.strongRecOn generalizing j with
  | _ n ih =>
      by_cases hdead : c.Dead j
      · exact .inl hdead
      · rcases h.known j hj hdead with hres | hclo | ⟨q, hjq, hq, hql⟩
        · exact absurd (hjl ▸ hres) (not_mem_of_lookup hnone j)
        · rw [hjl] at hclo
          cases hlookup : c.closing.lookup l with
          | none => exact absurd hclo (not_mem_of_lookup hlookup j)
          | some p =>
              have hp := h.closing_unique hnone hclo (mem_of_lookup hlookup)
              exact .inr ⟨p, rfl, Nat.le_of_eq hp⟩
        · have hq' := ih (c.slots.length - q) (by omega) hq (hql.trans hjl) rfl
          rcases hq' with hlater | ⟨p, hp, hqp⟩
          · exact .inl (h.earlier_dead j q hjq hq hql.symm hlater.unopened)
          · exact .inr ⟨p, hp, Nat.le_trans (Nat.le_of_lt hjq) hqp⟩

theorem Lineage.heir_enroll (h : c.Lineage) (hnone : c.resident.lookup l = none) :
    (c.enroll l).2.Heir c.slots.length (c.closing.lookup l) := by
  refine ⟨by simp, ?_, ?_, ?_⟩
  · intro j hj hjl
    rw [localeOf_enroll_of_lt hj, localeOf_enroll_self] at hjl
    rw [dead_enroll hj]
    exact h.behind_closing hnone hj hjl
  · intro p hp
    obtain ⟨hlt, hlocale⟩ := h.closing_locale l p (mem_of_lookup hp)
    rw [localeOf_enroll_of_lt hlt, localeOf_enroll_self]
    exact ⟨hlt, hlocale⟩
  · intro p hp hplt
    rw [localeOf_enroll_self] at hp
    rcases (mem_closing_enroll _).mp hp with hv | ⟨hclo, -⟩
    · exact absurd ((mem_resident_iff _).mpr (.inr hv)) (not_mem_of_lookup hnone p)
    · cases hlookup : c.closing.lookup l with
      | none => exact absurd hclo (not_mem_of_lookup hlookup p)
      | some q => rw [h.closing_unique hnone hclo (mem_of_lookup hlookup)]

end Newcomer

/-! ## What the opener of a slot goes on knowing -/

section Openers

variable {c c' : Cache δ} {k p : Nat} {p? : Option Nat}

theorem Heir.later (hk : c.Heir k p?) (hs : c.Later c') : c'.Heir k p? := by
  have hlocale := hs.localeOf k hk.lt
  refine ⟨Nat.lt_of_lt_of_le hk.lt hs.length_le, ?_, ?_, ?_⟩
  · intro j hj hjl
    rw [hlocale, hs.localeOf j (Nat.lt_trans hj hk.lt)] at hjl
    rcases hk.behind j hj hjl with hdead | hp
    · exact .inl (hs.dead j hdead)
    · exact .inr hp
  · intro p hp
    obtain ⟨hlt, hpl⟩ := hk.previous p hp
    rw [hlocale, hs.localeOf p (Nat.lt_trans hlt hk.lt)]
    exact ⟨hlt, hpl⟩
  · intro p hp hlt
    rw [hlocale] at hp
    rcases hs.closing _ p hp with hclo | hlast
    · exact hk.sole p hclo hlt
    · have hle := hlast k (Nat.lt_of_lt_of_le hk.lt hs.length_le) hlocale
      exact absurd hlt (Nat.not_lt.mpr hle)

/-- Once the slot to be closed first is closed and forgotten, nothing is left of the slots before.
-/
theorem Heir.settled (h : c.Lineage) (hk : c.Heir k (some p)) (hdead : c.Dead p) :
    (c.settled p).Heir k none := by
  have hslots : (c.settled p).slots = c.slots := rfl
  refine ⟨hk.lt, ?_, nofun, ?_⟩
  · intro j hj hjl
    refine .inl ((dead_of_slots hslots j).mpr ?_)
    rcases hk.behind j hj hjl with hj | ⟨q, hq, hle⟩
    · exact hj
    · cases hq
      rcases Nat.eq_or_lt_of_le hle with rfl | hlt
      · exact hdead
      · have hpl := (hk.previous p rfl).2
        exact h.earlier_dead j p hlt hdead.lt (hjl.trans hpl.symm) hdead.unopened
  · intro q hq hlt
    rw [localeOf_of_slots hslots] at hq
    have hmem := mem_closing_settled _ |>.mp hq
    have hqp := hk.sole q hmem.1 hlt
    cases hqp
    exact absurd (by rw [(hk.previous p rfl).2]) hmem.2

end Openers

end Spelling.Cache
