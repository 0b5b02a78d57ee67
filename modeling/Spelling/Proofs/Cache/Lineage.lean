import Spelling.Proofs.Cache.Turn

/-!
# Slots of one locale

A locale gets a new slot each time it is asked for and not resident.  The slots of a locale form a
line, and `Lineage` says what holds along it at all times:

    a slot that nobody opens any more    has only dead slots before it
    a resident slot                      is the last of its locale
    a slot that is to be closed          is the last but for a resident one that is still being
                                         opened, by a caller who closes it first
    a slot that may have a dictionary    is resident, or to be closed, or has another after it

A dead slot has no dictionary and never gets one again.  The second and third rows also hold when
the note that a slot is to be closed was replaced by that of a later slot: then the caller who opens
the later one still has it in mind (`Heir`).

`Later` is what no work on the cache undoes.
-/

namespace Spelling.Cache

variable {δ : Type}

/-- A slot that has no dictionary and never gets one. -/
structure Dead (c : Cache δ) (i : Nat) : Prop where
  lt : i < c.slots.length
  unopened : c.isOpening i = false
  unready : ∀ r, c.phase i ≠ .ready r

/-- What holds of the slots of a cache at all times. -/
structure Lineage (c : Cache δ) : Prop where
  loading_of_opening : ∀ i, c.isOpening i = true → c.phase i = .loading
  unread_of_opening : ∀ i, c.isOpening i = true → c.readersOf i = 0
  resident_locale : ∀ l i, (l, i) ∈ c.resident → i < c.slots.length ∧ c.localeOf i = l
  closing_locale : ∀ l i, (l, i) ∈ c.closing → i < c.slots.length ∧ c.localeOf i = l
  earlier_dead : ∀ j k, j < k → k < c.slots.length → c.localeOf j = c.localeOf k →
    c.isOpening k = false → c.Dead j
  known : ∀ p, p < c.slots.length → ¬ c.Dead p →
    (c.localeOf p, p) ∈ c.resident ∨ (c.localeOf p, p) ∈ c.closing ∨
      ∃ q, p < q ∧ q < c.slots.length ∧ c.localeOf q = c.localeOf p
  resident_last : ∀ l p, (l, p) ∈ c.resident →
    ∀ j, j < c.slots.length → c.localeOf j = l → j ≤ p
  closing_last : ∀ l p, (l, p) ∈ c.closing →
    ∀ q, q < c.slots.length → c.localeOf q = l → p < q →
      c.isOpening q = true ∧ (l, q) ∈ c.resident

/-- What no work on a cache undoes. -/
structure Later (c c' : Cache δ) : Prop where
  length_le : c.slots.length ≤ c'.slots.length
  localeOf : ∀ i, i < c.slots.length → c'.localeOf i = c.localeOf i
  dead : ∀ i, c.Dead i → c'.Dead i
  closing : ∀ l p, (l, p) ∈ c'.closing →
    (l, p) ∈ c.closing ∨ ∀ q, q < c'.slots.length → c'.localeOf q = l → q ≤ p
  phase : ∀ i, 0 < c.readersOf i → c'.phase i = c.phase i

/-- The slot to be closed first, if any, stands for all earlier slots of the locale. -/
def Behind (c : Cache δ) (k : Nat) (p? : Option Nat) : Prop :=
  ∀ j, j < k → c.localeOf j = c.localeOf k → c.Dead j ∨ ∃ p, p? = some p ∧ j ≤ p

/-- What the caller who opens a slot knows of the slot to be closed first. -/
structure Heir (c : Cache δ) (k : Nat) (p? : Option Nat) : Prop where
  lt : k < c.slots.length
  behind : c.Behind k p?
  previous : ∀ p, p? = some p → p < k ∧ c.localeOf p = c.localeOf k
  sole : ∀ p, (c.localeOf k, p) ∈ c.closing → p < k → p? = some p

/-! ## Work on the lists of slots -/

section Lists

variable {c c' : Cache δ}

theorem localeOf_of_slots (h : c'.slots = c.slots) (i : Nat) : c'.localeOf i = c.localeOf i := by
  rw [localeOf_eq, localeOf_eq, h]

theorem phase_of_slots (h : c'.slots = c.slots) (i : Nat) : c'.phase i = c.phase i := by
  rw [phase_eq, phase_eq, h]

theorem isOpening_of_slots (h : c'.slots = c.slots) (i : Nat) :
    c'.isOpening i = c.isOpening i := by
  rw [isOpening_eq, isOpening_eq, h]

theorem readersOf_of_slots (h : c'.slots = c.slots) (i : Nat) :
    c'.readersOf i = c.readersOf i := by
  rw [readersOf_eq, readersOf_eq, h]

theorem dead_of_slots (h : c'.slots = c.slots) (i : Nat) : c'.Dead i ↔ c.Dead i := by
  constructor <;> intro hdead
  · exact ⟨h ▸ hdead.lt, isOpening_of_slots h i ▸ hdead.unopened,
      fun r => phase_of_slots h i ▸ hdead.unready r⟩
  · exact ⟨h ▸ hdead.lt, (isOpening_of_slots h i).trans hdead.unopened,
      fun r => (phase_of_slots h i).symm ▸ hdead.unready r⟩

/-- Work that takes slots out of the residents, and notes and forgets which are to be closed. -/
structure Resorted (c c' : Cache δ) : Prop where
  slots : c'.slots = c.slots
  resident : ∀ e, e ∈ c'.resident → e ∈ c.resident
  closing : ∀ e, e ∈ c'.closing → e ∈ c.closing ∨ e ∈ c.resident
  known : ∀ p, ¬ c.Dead p →
    (c.localeOf p, p) ∈ c.resident ∨ (c.localeOf p, p) ∈ c.closing →
      (c.localeOf p, p) ∈ c'.resident ∨ (c.localeOf p, p) ∈ c'.closing ∨
        ∃ q, p < q ∧ q < c.slots.length ∧ c.localeOf q = c.localeOf p
  closing_last : ∀ l p, (l, p) ∈ c'.closing →
    ∀ q, q < c.slots.length → c.localeOf q = l → p < q →
      c.isOpening q = true ∧ (l, q) ∈ c'.resident

theorem Lineage.resorted (h : c.Lineage) (hs : c.Resorted c') : c'.Lineage := by
  have hlocale := localeOf_of_slots hs.slots
  have hopening := isOpening_of_slots hs.slots
  have hlength : c'.slots.length = c.slots.length := congrArg List.length hs.slots
  refine ⟨?_, ?_, ?_, ?_, ?_, ?_, ?_, ?_⟩
  · intro i hi
    rw [phase_of_slots hs.slots]
    exact h.loading_of_opening i (hopening i ▸ hi)
  · intro i hi
    rw [readersOf_of_slots hs.slots]
    exact h.unread_of_opening i (hopening i ▸ hi)
  · intro l i hi
    rw [hlength, hlocale]
    exact h.resident_locale l i (hs.resident _ hi)
  · intro l i hi
    rw [hlength, hlocale]
    rcases hs.closing _ hi with hi | hi
    · exact h.closing_locale l i hi
    · exact h.resident_locale l i hi
  · intro j k hjk hk hjl hopen
    rw [hlength] at hk
    rw [hlocale, hlocale] at hjl
    rw [hopening] at hopen
    exact (dead_of_slots hs.slots j).mpr (h.earlier_dead j k hjk hk hjl hopen)
  · intro p hp hdead
    rw [hlength] at hp
    rw [dead_of_slots hs.slots] at hdead
    simp only [hlocale, hlength]
    rcases h.known p hp hdead with hres | hclo | hlater
    · exact hs.known p hdead (.inl hres)
    · exact hs.known p hdead (.inr hclo)
    · exact .inr (.inr hlater)
  · intro l p hp j hj hjl
    rw [hlength] at hj
    rw [hlocale] at hjl
    exact h.resident_last l p (hs.resident _ hp) j hj hjl
  · intro l p hp q hq hql hpq
    rw [hlength] at hq
    rw [hlocale] at hql
    rw [hopening]
    exact hs.closing_last l p hp q hq hql hpq

theorem Later.resorted (h : c.Lineage) (hs : c.Resorted c') : c.Later c' := by
  refine ⟨Nat.le_of_eq (congrArg List.length hs.slots).symm,
    fun i _ => localeOf_of_slots hs.slots i, fun i => (dead_of_slots hs.slots i).mpr, ?_,
    fun i _ => phase_of_slots hs.slots i⟩
  intro l p hp
  rcases hs.closing _ hp with hclo | hres
  · exact .inl hclo
  · refine .inr ?_
    intro q hq hql
    rw [congrArg List.length hs.slots] at hq
    rw [localeOf_of_slots hs.slots] at hql
    exact h.resident_last l p hres q hq hql

theorem Resorted.countEviction (hs : c.Resorted c') : c.Resorted c'.countEviction :=
  ⟨hs.slots, hs.resident, hs.closing, hs.known, hs.closing_last⟩

/-- No slots come or go. -/
theorem Resorted.of_mem_iff (h : c.Lineage) (hslots : c'.slots = c.slots)
    (hresident : ∀ e, e ∈ c'.resident ↔ e ∈ c.resident)
    (hclosing : ∀ e, e ∈ c'.closing ↔ e ∈ c.closing) : c.Resorted c' := by
  refine ⟨hslots, fun e => (hresident e).mp, fun e he => .inl ((hclosing e).mp he), ?_, ?_⟩
  · intro p _ hp
    rcases hp with hres | hclo
    · exact .inl ((hresident _).mpr hres)
    · exact .inr (.inl ((hclosing _).mpr hclo))
  · intro l p hp q hq hql hpq
    obtain ⟨hopen, hres⟩ := h.closing_last l p ((hclosing _).mp hp) q hq hql hpq
    exact ⟨hopen, (hresident _).mpr hres⟩

theorem mem_closing_settled {i : Nat} (e : Locale × Nat) :
    e ∈ (c.settled i).closing ↔ e ∈ c.closing ∧ e ≠ (c.localeOf i, i) := by
  simp [settled]

/-- A dead slot is forgotten. -/
theorem resorted_settled (h : c.Lineage) {i : Nat} (hi : c.Dead i) :
    c.Resorted (c.settled i) := by
  have hmem : ∀ e, e ∈ (c.settled i).closing ↔ e ∈ c.closing ∧ e ≠ (c.localeOf i, i) :=
    mem_closing_settled
  refine ⟨rfl, fun e he => he, fun e he => .inl ((hmem e).mp he).1, ?_, ?_⟩
  · intro p hdead hp
    rcases hp with hres | hclo
    · exact .inl hres
    · have hne : p ≠ i := by
        intro heq
        exact hdead (heq ▸ hi)
      exact .inr (.inl ((hmem _).mpr ⟨hclo, fun heq => hne (congrArg Prod.snd heq)⟩))
  · intro l p hp
    exact h.closing_last l p ((hmem _).mp hp).1

/-- A dead slot is no resident any more. -/
theorem resorted_forget (h : c.Lineage) {i : Nat} (hi : c.Dead i) :
    c.Resorted (c.forget i) := by
  have hmem : ∀ e, e ∈ (c.forget i).resident ↔ e ∈ c.resident ∧ e ≠ (c.localeOf i, i) := by
    intro e
    simp [forget]
  refine ⟨rfl, fun e he => ((hmem e).mp he).1, fun e he => .inl he, ?_, ?_⟩
  · intro p hdead hp
    rcases hp with hres | hclo
    · have hne : p ≠ i := by
        intro heq
        exact hdead (heq ▸ hi)
      exact .inl ((hmem _).mpr ⟨hres, fun heq => hne (congrArg Prod.snd heq)⟩)
    · exact .inr (.inl hclo)
  · intro l p hp q hq hql hpq
    obtain ⟨hopen, hres⟩ := h.closing_last l p hp q hq hql hpq
    refine ⟨hopen, (hmem _).mpr ⟨hres, ?_⟩⟩
    intro heq
    cases heq
    rw [hi.unopened] at hopen
    cases hopen

/-- A locale is resident in one slot at most. -/
theorem Lineage.resident_unique (h : c.Lineage) {l : Locale} {i j : Nat}
    (hi : (l, i) ∈ c.resident) (hj : (l, j) ∈ c.resident) : i = j := by
  obtain ⟨hilt, hil⟩ := h.resident_locale l i hi
  obtain ⟨hjlt, hjl⟩ := h.resident_locale l j hj
  exact Nat.le_antisymm (h.resident_last l j hj i hilt hil) (h.resident_last l i hi j hjlt hjl)

/-- A resident slot asked for again is resident, and so are the others. -/
theorem Lineage.mem_put_resident (h : c.Lineage) {l : Locale} {i : Nat}
    (hi : c.resident.lookup l = some i) (e : Locale × Nat) :
    e ∈ put c.resident l i ↔ e ∈ c.resident := by
  rw [mem_put]
  constructor
  · rintro (rfl | ⟨he, -⟩)
    · exact mem_of_lookup hi
    · exact he
  · intro he
    obtain ⟨m, j⟩ := e
    by_cases hm : m = l
    · subst hm
      rw [h.resident_unique he (mem_of_lookup hi)]
      exact .inl rfl
    · exact .inr ⟨he, hm⟩

/-- A resident slot asked for again is the resident used last, and nothing else changes. -/
theorem resorted_hit (h : c.Lineage) {l : Locale} {i : Nat}
    (hi : c.resident.lookup l = some i) (hslots : c'.slots = c.slots)
    (hresident : c'.resident = put c.resident l i) (hclosing : c'.closing = c.closing) :
    c.Resorted c' := by
  refine .of_mem_iff h hslots ?_ (fun e => by rw [hclosing])
  intro e
  rw [hresident]
  exact h.mem_put_resident hi e

/-- Notes for slots to be closed, of which no two are about one locale. -/
theorem mem_foldl_put {drained : List (Locale × Nat)}
    (hunique : ∀ l i j, (l, i) ∈ drained → (l, j) ∈ drained → i = j)
    (closing : List (Locale × Nat)) (e : Locale × Nat) :
    e ∈ drained.foldl (fun closing (l, i) => put closing l i) closing ↔
      e ∈ drained ∨ e ∈ closing ∧ ∀ i, (e.1, i) ∉ drained := by
  induction drained generalizing closing with
  | nil => simp
  | cons x rest ih =>
      have hrest := ih (fun l i j hi hj =>
        hunique l i j (List.mem_cons_of_mem _ hi) (List.mem_cons_of_mem _ hj))
      rw [List.foldl_cons, hrest, mem_put]
      constructor
      · rintro (he | ⟨rfl | ⟨he, hne⟩, hrest⟩)
        · exact .inl (List.mem_cons_of_mem _ he)
        · exact .inl (List.mem_cons_self ..)
        · refine .inr ⟨he, ?_⟩
          intro i hi
          rcases List.mem_cons.mp hi with heq | hi
          · exact hne (by rw [← heq])
          · exact hrest i hi
      · rintro (he | ⟨he, hnot⟩)
        · by_cases hin : e ∈ rest
          · exact .inl hin
          · have hx : e = x := (List.mem_cons.mp he).resolve_right hin
            refine .inr ⟨.inl hx, fun i hi => hin ?_⟩
            have hi' : i = e.2 := hunique e.1 i e.2 (List.mem_cons_of_mem _ hi) he
            rwa [hi'] at hi
        · refine .inr ⟨.inr ⟨he, fun heq => hnot x.2 ?_⟩, fun i hi => hnot i ?_⟩
          · rw [heq]
            exact List.mem_cons_self ..
          · exact List.mem_cons_of_mem _ hi

theorem Lineage.mem_closing_drain (h : c.Lineage) (e : Locale × Nat) :
    e ∈ c.drain.2.closing ↔ e ∈ c.resident ∨ e ∈ c.closing ∧ ∀ i, (e.1, i) ∉ c.resident := by
  have hunique : ∀ l i j, (l, i) ∈ c.resident.reverse → (l, j) ∈ c.resident.reverse → i = j :=
    fun l i j hi hj => h.resident_unique (List.mem_reverse.mp hi) (List.mem_reverse.mp hj)
  show e ∈ c.resident.reverse.foldl (fun closing (l, i) => put closing l i) c.closing ↔ _
  rw [mem_foldl_put hunique]
  simp only [List.mem_reverse]

/-- Every resident slot is to be closed. -/
theorem resorted_drain (h : c.Lineage) : c.Resorted c.drain.2 := by
  have hmem := h.mem_closing_drain
  refine ⟨rfl, fun e he => absurd he List.not_mem_nil, ?_, ?_, ?_⟩
  · intro e he
    rcases (hmem e).mp he with hres | ⟨hclo, -⟩
    · exact .inr hres
    · exact .inl hclo
  · intro p _ hp
    refine .inr ?_
    rcases hp with hres | hclo
    · exact .inl ((hmem _).mpr (.inl hres))
    · cases hlookup : c.resident.lookup (c.localeOf p) with
      | none => exact .inl ((hmem _).mpr (.inr ⟨hclo, not_mem_of_lookup hlookup⟩))
      | some q =>
          have hq := mem_of_lookup hlookup
          obtain ⟨hqlt, hql⟩ := h.resident_locale _ q hq
          obtain ⟨hplt, -⟩ := h.closing_locale _ p hclo
          rcases Nat.eq_or_lt_of_le (h.resident_last _ q hq p hplt rfl) with rfl | hlt
          · exact .inl ((hmem _).mpr (.inl hq))
          · exact .inr ⟨q, hlt, hqlt, hql⟩
  · intro l p hp q hq hql hpq
    rcases (hmem _).mp hp with hres | ⟨hclo, hno⟩
    · exact absurd (h.resident_last l p hres q hq hql) (Nat.not_le.mpr hpq)
    · exact absurd (h.closing_last l p hclo q hq hql hpq).2 (hno q)

end Lists

/-! ## Work on one slot -/

section Slot

variable {c c' : Cache δ}

/-- Work on slots that leaves the lists of slots as they are.  A slot may be unlocked that somebody
opened, and then nothing may be left of the slots before it. -/
structure Reworked (c c' : Cache δ) : Prop where
  length : c'.slots.length = c.slots.length
  localeOf : ∀ i, c'.localeOf i = c.localeOf i
  resident : c'.resident = c.resident
  closing : c'.closing = c.closing
  dead : ∀ i, c.Dead i → c'.Dead i
  phase : ∀ i, 0 < c.readersOf i → c'.phase i = c.phase i
  opening : ∀ i, c'.isOpening i = true →
    c.isOpening i = true ∧ c'.phase i = c.phase i ∧ c'.readersOf i = c.readersOf i
  opened : ∀ k, c.isOpening k = true → c'.isOpening k = false → c.Heir k none

theorem Lineage.reworked (h : c.Lineage) (hs : c.Reworked c') : c'.Lineage := by
  refine ⟨?_, ?_, ?_, ?_, ?_, ?_, ?_, ?_⟩
  · intro i hi
    obtain ⟨hopen, hphase, -⟩ := hs.opening i hi
    rw [hphase]
    exact h.loading_of_opening i hopen
  · intro i hi
    obtain ⟨hopen, -, hreaders⟩ := hs.opening i hi
    rw [hreaders]
    exact h.unread_of_opening i hopen
  · simp only [hs.length, hs.localeOf, hs.resident]
    exact h.resident_locale
  · simp only [hs.length, hs.localeOf, hs.closing]
    exact h.closing_locale
  · intro j k hjk hk hjl hopen
    rw [hs.length] at hk
    rw [hs.localeOf, hs.localeOf] at hjl
    refine hs.dead j ?_
    cases hwas : c.isOpening k with
    | false => exact h.earlier_dead j k hjk hk hjl hwas
    | true =>
        rcases (hs.opened k hwas hopen).behind j hjk hjl with hdead | ⟨p, hp, -⟩
        · exact hdead
        · cases hp
  · intro p hp hdead
    rw [hs.length] at hp
    simp only [hs.length, hs.localeOf, hs.resident, hs.closing]
    exact h.known p hp fun hwas => hdead (hs.dead p hwas)
  · simp only [hs.length, hs.localeOf, hs.resident]
    exact h.resident_last
  · simp only [hs.length, hs.localeOf, hs.resident, hs.closing]
    intro l p hp q hq hql hpq
    obtain ⟨hwas, hres⟩ := h.closing_last l p hp q hq hql hpq
    refine ⟨?_, hres⟩
    cases hopen : c'.isOpening q with
    | true => rfl
    | false =>
        have hsole := (hs.opened q hwas hopen).sole p (hql ▸ hp) hpq
        cases hsole

theorem Later.reworked (hs : c.Reworked c') : c.Later c' :=
  ⟨Nat.le_of_eq hs.length.symm, fun i _ => hs.localeOf i, hs.dead,
    fun _ _ hp => .inl (hs.closing ▸ hp), hs.phase⟩

theorem reworked_lockRead {i : Nat} (hcan : c.canRead i = true) :
    c.Reworked (c.lockRead i) := by
  obtain ⟨hlt, hopen⟩ := canRead_iff.mp hcan
  refine ⟨length_modifySlot .., c.localeOf_lockRead i, rfl, rfl, ?_,
    fun j _ => c.phase_lockRead i j, ?_, ?_⟩
  · intro j hj
    exact ⟨by simpa [lockRead] using hj.lt, by simpa using hj.unopened,
      by simpa using hj.unready⟩
  · intro j hj
    rw [isOpening_lockRead] at hj
    refine ⟨hj, phase_lockRead .., ?_⟩
    have hij : i ≠ j := by
      intro heq
      rw [heq, hj] at hopen
      cases hopen
    rw [readersOf_lockRead c hlt, if_neg hij]
    rfl
  · intro k hk hk'
    rw [isOpening_lockRead, hk] at hk'
    cases hk'

theorem reworked_unlockRead (h : c.Lineage) (i : Nat) : c.Reworked (c.unlockRead i) := by
  refine ⟨length_modifySlot .., c.localeOf_unlockRead i, rfl, rfl, ?_,
    fun j _ => c.phase_unlockRead i j, ?_, ?_⟩
  · intro j hj
    exact ⟨by simpa [unlockRead] using hj.lt, by simpa using hj.unopened,
      by simpa using hj.unready⟩
  · intro j hj
    rw [isOpening_unlockRead] at hj
    refine ⟨hj, phase_unlockRead .., ?_⟩
    rw [readersOf_unlockRead, h.unread_of_opening j hj]
    exact Nat.zero_sub _
  · intro k hk hk'
    rw [isOpening_unlockRead, hk] at hk'
    cases hk'

variable {σ : Type} {b : Backend σ δ} {s : CacheState σ δ} {i : Nat}

theorem reworked_shut (hcan : s.cache.canWrite i = true) :
    s.cache.Reworked (s.shut b i).cache := by
  obtain ⟨-, hopen, hreaders⟩ := canWrite_iff.mp hcan
  have hopening : ∀ j, s.cache.isOpening j = true → i ≠ j := by
    intro j hj heq
    rw [heq, hj] at hopen
    cases hopen
  refine ⟨CacheState.length_shut .., CacheState.localeOf_shut b s i,
    CacheState.resident_shut .., CacheState.closing_shut .., ?_, ?_, ?_, ?_⟩
  · intro j hj
    refine ⟨by simpa using hj.lt, by simpa using hj.unopened, ?_⟩
    intro r
    rw [CacheState.phase_shut]
    split
    · exact nofun
    · exact hj.unready r
  · intro j hj
    have hij : i ≠ j := by
      intro heq
      rw [← heq, hreaders] at hj
      exact Nat.lt_irrefl 0 hj
    rw [CacheState.phase_shut, if_neg hij]
  · intro j hj
    rw [CacheState.isOpening_shut] at hj
    refine ⟨hj, ?_, CacheState.readersOf_shut ..⟩
    rw [CacheState.phase_shut, if_neg (hopening j hj)]
  · intro k hk hk'
    rw [CacheState.isOpening_shut, hk] at hk'
    cases hk'

theorem dead_shut (hcan : s.cache.canWrite i = true) : (s.shut b i).cache.Dead i := by
  obtain ⟨hlt, hopen, -⟩ := canWrite_iff.mp hcan
  refine ⟨by simpa using hlt, by simpa using hopen, ?_⟩
  intro r
  rw [CacheState.phase_shut, if_pos rfl]
  exact nofun

theorem reworked_switchContacts (on : Bool) (hcan : s.cache.canWrite i = true) :
    s.cache.Reworked (s.switchContacts b on i).cache := by
  obtain ⟨-, hopen, hreaders⟩ := canWrite_iff.mp hcan
  have hopening : ∀ j, s.cache.isOpening j = true → i ≠ j := by
    intro j hj heq
    rw [heq, hj] at hopen
    cases hopen
  refine ⟨CacheState.length_switchContacts .., CacheState.localeOf_switchContacts b s on i,
    CacheState.resident_switchContacts .., CacheState.closing_switchContacts .., ?_, ?_, ?_, ?_⟩
  · intro j hj
    refine ⟨by simpa using hj.lt, by simpa using hj.unopened, ?_⟩
    intro r
    rw [CacheState.phase_switchContacts]
    have hunready := hj.unready
    split
    · simp only [CacheState.switched]
      split
      · next d hd => exact absurd hd (hunready _)
      · exact hunready r
    · exact hunready r
  · intro j hj
    have hij : i ≠ j := by
      intro heq
      rw [← heq, hreaders] at hj
      exact Nat.lt_irrefl 0 hj
    rw [CacheState.phase_switchContacts, if_neg hij]
  · intro j hj
    rw [CacheState.isOpening_switchContacts] at hj
    refine ⟨hj, ?_, CacheState.readersOf_switchContacts ..⟩
    rw [CacheState.phase_switchContacts, if_neg (hopening j hj)]
  · intro k hk hk'
    rw [CacheState.isOpening_switchContacts, hk] at hk'
    cases hk'

/-- A slot may be filled once nothing is left of the slots before it. -/
theorem reworked_fill (h : s.cache.Lineage) (on : Bool) (hopen : s.cache.isOpening i = true)
    (hheir : s.cache.Heir i none) : s.cache.Reworked (s.fill b i on).2.cache := by
  refine ⟨CacheState.length_fill .., CacheState.localeOf_fill b s i on,
    CacheState.resident_fill .., CacheState.closing_fill .., ?_, ?_, ?_, ?_⟩
  · intro j hj
    have hij : i ≠ j := by
      intro heq
      rw [heq, hj.unopened] at hopen
      cases hopen
    refine ⟨by simpa using hj.lt, ?_, ?_⟩
    · rw [CacheState.isOpening_fill, if_neg hij]
      exact hj.unopened
    · intro r
      rw [CacheState.phase_fill b s on hheir.lt, if_neg hij]
      exact hj.unready r
  · intro j hj
    have hij : i ≠ j := by
      intro heq
      rw [← heq, h.unread_of_opening i hopen] at hj
      exact Nat.lt_irrefl 0 hj
    rw [CacheState.phase_fill b s on hheir.lt, if_neg hij]
  · intro j hj
    rw [CacheState.isOpening_fill] at hj
    split at hj
    · cases hj
    · next hij =>
      refine ⟨hj, ?_, CacheState.readersOf_fill ..⟩
      rw [CacheState.phase_fill b s on hheir.lt, if_neg hij]
  · intro k hk hk'
    rw [CacheState.isOpening_fill] at hk'
    split at hk'
    · next heq => exact heq ▸ hheir
    · rw [hk] at hk'
      cases hk'

end Slot

end Spelling.Cache
