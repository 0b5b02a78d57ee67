import Spelling.Cache.Caller

/-!
# Slots seen from outside

A slot is seen through its locale, what it holds, whether somebody opens it and how many read it.
Each piece of work on a cache is told through these views, and no proof looks into a slot otherwise.

    work              locale     phase        opened by somebody     readers
    enroll            the new slot has the locale asked for, is loading, and somebody opens it
    shut              —          closed       —                      —
    fill              —          as loaded    no                     —
    switchContacts    —          changed      —                      —
    lockRead          —          —            —                      one more
    unlockRead        —          —            —                      one less
-/

namespace Spelling

namespace Cache

variable {δ : Type}

/-- Whether somebody opens the dictionary of a slot. -/
def isOpening (c : Cache δ) (i : Nat) : Bool :=
  match c.slots[i]? with
  | some s => s.writing
  | none => false

/-- How many queries are at work in a slot. -/
def readersOf (c : Cache δ) (i : Nat) : Nat :=
  match c.slots[i]? with
  | some s => s.readers
  | none => 0

/-! ## Slots by locale -/

theorem mem_put {slots : List (Locale × Nat)} {l : Locale} {i : Nat} {e : Locale × Nat} :
    e ∈ put slots l i ↔ e = (l, i) ∨ e ∈ slots ∧ e.1 ≠ l := by
  simp [put]

theorem mem_of_lookup {slots : List (Locale × Nat)} {l : Locale} {i : Nat}
    (h : slots.lookup l = some i) : (l, i) ∈ slots := by
  obtain ⟨before, after, rfl, -⟩ := List.lookup_eq_some_iff.mp h
  simp

theorem not_mem_of_lookup {slots : List (Locale × Nat)} {l : Locale}
    (h : slots.lookup l = none) (i : Nat) : (l, i) ∉ slots := by
  intro hi
  simpa using List.lookup_eq_none_iff.mp h _ hi

/-! ## Views -/

section Views

variable (c : Cache δ) (i : Nat)

theorem localeOf_eq : c.localeOf i = ((c.slots[i]?).map Slot.locale).getD default := by
  rw [localeOf]
  cases c.slots[i]? <;> rfl

theorem phase_eq : c.phase i = ((c.slots[i]?).map Slot.phase).getD .closed := by
  rw [phase]
  cases c.slots[i]? <;> rfl

theorem isOpening_eq : c.isOpening i = ((c.slots[i]?).map Slot.writing).getD false := by
  rw [isOpening]
  cases c.slots[i]? <;> rfl

theorem readersOf_eq : c.readersOf i = ((c.slots[i]?).map Slot.readers).getD 0 := by
  rw [readersOf]
  cases c.slots[i]? <;> rfl

theorem isOpening_of_length_le {i : Nat} (h : c.slots.length ≤ i) : c.isOpening i = false := by
  rw [isOpening_eq, List.getElem?_eq_none h]
  rfl

theorem readersOf_of_length_le {i : Nat} (h : c.slots.length ≤ i) : c.readersOf i = 0 := by
  rw [readersOf_eq, List.getElem?_eq_none h]
  rfl

end Views

/-! ## What happens to one slot -/

section Modify

variable (c : Cache δ) (i j : Nat) (f : Slot δ → Slot δ)

@[simp] theorem modifySlot_resident : (c.modifySlot i f).resident = c.resident := rfl

@[simp] theorem modifySlot_closing : (c.modifySlot i f).closing = c.closing := rfl

@[simp] theorem modifySlot_label : (c.modifySlot i f).label = c.label := rfl

@[simp] theorem length_modifySlot : (c.modifySlot i f).slots.length = c.slots.length := by
  simp [modifySlot]

theorem getElem?_modifySlot :
    (c.modifySlot i f).slots[j]? = if i = j then (c.slots[j]?).map f else c.slots[j]? := by
  by_cases hij : i = j
  · subst hij
    simp [modifySlot]
  · simp [modifySlot, hij]

theorem modifySlot_congr {f g : Slot δ → Slot δ}
    (h : ∀ s, c.slots[i]? = some s → f s = g s) : c.modifySlot i f = c.modifySlot i g := by
  have hslots : c.slots.modify i f = c.slots.modify i g := by
    refine List.ext_getElem? ?_
    intro j
    rw [List.getElem?_modify, List.getElem?_modify]
    by_cases hij : i = j
    · subst hij
      cases hs : c.slots[i]? with
      | none => rfl
      | some s => simp [h s hs]
    · simp [hij]
  simp only [modifySlot, hslots]

theorem modifySlot_eq_self {f : Slot δ → Slot δ}
    (h : ∀ s, c.slots[i]? = some s → f s = s) : c.modifySlot i f = c := by
  rw [modifySlot_congr c i (g := id) h]
  simp only [modifySlot, List.modify_id]

/-- What a change leaves as it is cannot be seen. -/
theorem view_modifySlot {α : Type} (view : Slot δ → α) (hf : ∀ s, view (f s) = view s) :
    ((c.modifySlot i f).slots[j]?).map view = (c.slots[j]?).map view := by
  rw [getElem?_modifySlot]
  by_cases hij : i = j
  · simp [hij, hf, Function.comp_def]
  · simp [hij]

theorem localeOf_modifySlot (hf : ∀ s, (f s).locale = s.locale) :
    (c.modifySlot i f).localeOf j = c.localeOf j := by
  rw [localeOf_eq, view_modifySlot c i j f _ hf, localeOf_eq]

theorem isOpening_modifySlot (hf : ∀ s, (f s).writing = s.writing) :
    (c.modifySlot i f).isOpening j = c.isOpening j := by
  rw [isOpening_eq, view_modifySlot c i j f _ hf, isOpening_eq]

theorem readersOf_modifySlot (hf : ∀ s, (f s).readers = s.readers) :
    (c.modifySlot i f).readersOf j = c.readersOf j := by
  rw [readersOf_eq, view_modifySlot c i j f _ hf, readersOf_eq]

theorem phase_modifySlot (hf : ∀ s, (f s).phase = s.phase) :
    (c.modifySlot i f).phase j = c.phase j := by
  rw [phase_eq, view_modifySlot c i j f _ hf, phase_eq]

end Modify

/-! ### The locks of a slot -/

section Locks

variable {c : Cache δ} {i : Nat}

theorem lt_of_unclosed (h : c.phase i ≠ .closed) : i < c.slots.length := by
  refine Nat.lt_of_not_le fun hle => h ?_
  rw [phase_eq, List.getElem?_eq_none hle]
  rfl

theorem lt_of_phase_ready {r : Resource δ} (h : c.phase i = .ready r) : i < c.slots.length :=
  lt_of_unclosed (h ▸ nofun)

theorem canRead_iff : c.canRead i = true ↔ i < c.slots.length ∧ c.isOpening i = false := by
  rw [canRead, isOpening]
  cases hs : c.slots[i]? with
  | none => simpa using hs
  | some s => simp [(List.getElem?_eq_some_iff.mp hs).1]

theorem canWrite_iff : c.canWrite i = true ↔
    i < c.slots.length ∧ c.isOpening i = false ∧ c.readersOf i = 0 := by
  rw [canWrite, isOpening, readersOf]
  cases hs : c.slots[i]? with
  | none => simpa using hs
  | some s => simp [(List.getElem?_eq_some_iff.mp hs).1]

variable (c i)

@[simp] theorem localeOf_lockRead (j : Nat) : (c.lockRead i).localeOf j = c.localeOf j :=
  localeOf_modifySlot c i j _ fun _ => rfl

@[simp] theorem isOpening_lockRead (j : Nat) : (c.lockRead i).isOpening j = c.isOpening j :=
  isOpening_modifySlot c i j _ fun _ => rfl

@[simp] theorem phase_lockRead (j : Nat) : (c.lockRead i).phase j = c.phase j :=
  phase_modifySlot c i j _ fun _ => rfl

@[simp] theorem localeOf_unlockRead (j : Nat) : (c.unlockRead i).localeOf j = c.localeOf j :=
  localeOf_modifySlot c i j _ fun _ => rfl

@[simp] theorem isOpening_unlockRead (j : Nat) : (c.unlockRead i).isOpening j = c.isOpening j :=
  isOpening_modifySlot c i j _ fun _ => rfl

@[simp] theorem phase_unlockRead (j : Nat) : (c.unlockRead i).phase j = c.phase j :=
  phase_modifySlot c i j _ fun _ => rfl

theorem readersOf_lockRead {i : Nat} (h : i < c.slots.length) (j : Nat) :
    (c.lockRead i).readersOf j = c.readersOf j + if i = j then 1 else 0 := by
  simp only [readersOf, lockRead]
  rw [getElem?_modifySlot]
  by_cases hij : i = j
  · subst hij
    simp [List.getElem?_eq_getElem h]
  · simp [hij]

theorem readersOf_unlockRead (j : Nat) :
    (c.unlockRead i).readersOf j = c.readersOf j - if i = j then 1 else 0 := by
  simp only [readersOf, unlockRead]
  rw [getElem?_modifySlot]
  by_cases hij : i = j
  · subst hij
    cases hs : c.slots[i]? <;> simp
  · simp [hij]

end Locks

/-! ## A slot more -/

section Enroll

variable (c : Cache δ) (l : Locale)

@[simp] theorem length_enroll : (c.enroll l).2.slots.length = c.slots.length + 1 := by
  simp [enroll]

theorem getElem?_enroll (j : Nat) : (c.enroll l).2.slots[j]? =
    if j = c.slots.length then some { locale := l, writing := true } else c.slots[j]? := by
  by_cases hj : j = c.slots.length
  · subst hj
    simp [enroll]
  · rw [if_neg hj]
    show (c.slots ++ [_])[j]? = _
    rcases Nat.lt_or_gt_of_ne hj with hlt | hgt
    · exact List.getElem?_append_left hlt
    · rw [List.getElem?_eq_none (by simp; omega), List.getElem?_eq_none (by omega)]

theorem localeOf_enroll (j : Nat) : (c.enroll l).2.localeOf j =
    if j = c.slots.length then l else c.localeOf j := by
  rw [localeOf_eq, getElem?_enroll, localeOf_eq]
  by_cases hj : j = c.slots.length
  · rw [if_pos hj, if_pos hj]; rfl
  · rw [if_neg hj, if_neg hj]

theorem phase_enroll (j : Nat) : (c.enroll l).2.phase j =
    if j = c.slots.length then .loading else c.phase j := by
  rw [phase_eq, getElem?_enroll, phase_eq]
  by_cases hj : j = c.slots.length
  · rw [if_pos hj, if_pos hj]; rfl
  · rw [if_neg hj, if_neg hj]

theorem isOpening_enroll (j : Nat) : (c.enroll l).2.isOpening j =
    if j = c.slots.length then true else c.isOpening j := by
  rw [isOpening_eq, getElem?_enroll, isOpening_eq]
  by_cases hj : j = c.slots.length
  · rw [if_pos hj, if_pos hj]; rfl
  · rw [if_neg hj, if_neg hj]

theorem readersOf_enroll (j : Nat) : (c.enroll l).2.readersOf j =
    if j = c.slots.length then 0 else c.readersOf j := by
  rw [readersOf_eq, getElem?_enroll, readersOf_eq]
  by_cases hj : j = c.slots.length
  · rw [if_pos hj, if_pos hj]; rfl
  · rw [if_neg hj, if_neg hj]

end Enroll

end Cache

/-! ## Work that is done for a cache and the world -/

namespace CacheState

variable {σ δ : Type} (b : Backend σ δ) (s : CacheState σ δ)

@[simp] theorem cache_reportFirst (i : Nat) (e? p? : Option Nat) :
    (s.reportFirst i e? p?).cache = s.cache := by
  cases e? <;> cases p? <;> rfl

@[simp] theorem cache_reportPrevious? (p? : Option Nat) :
    (s.reportPrevious? p?).cache = s.cache := by
  cases p? <;> rfl

@[simp] theorem cache_reportDrain (drained : List Nat) :
    (s.reportDrain drained).cache = s.cache := by
  rw [reportDrain]
  split <;> rfl

@[simp] theorem cache_note (i : Nat) (d : Deed) : (s.note i d).cache = s.cache := rfl

@[simp] theorem cache_onCache (f : Cache δ → Cache δ) : (s.onCache f).cache = f s.cache := rfl

@[simp] theorem world_onCache (f : Cache δ → Cache δ) : (s.onCache f).world = s.world := rfl

@[simp] theorem events_reportFirst (i : Nat) (e? p? : Option Nat) :
    (s.reportFirst i e? p?).world.events = s.world.events := by
  cases e? <;> cases p? <;> rfl

@[simp] theorem events_reportPrevious? (p? : Option Nat) :
    (s.reportPrevious? p?).world.events = s.world.events := by
  cases p? <;> rfl

@[simp] theorem events_reportDrain (drained : List Nat) :
    (s.reportDrain drained).world.events = s.world.events := by
  rw [reportDrain]
  split <;> rfl

@[simp] theorem events_note (i : Nat) (d : Deed) : (s.note i d).world.events =
    s.world.events ++ [⟨s.cache.label, i, s.cache.localeOf i, d⟩] := rfl

/-! ### Closing -/

theorem cache_shut (i : Nat) :
    (s.shut b i).cache = s.cache.modifySlot i fun slot => { slot with phase := .closed } := by
  rw [shut]
  split <;> rfl

@[simp] theorem backend_shut (i : Nat) : (s.shut b i).world.backend = s.world.backend := by
  rw [shut]
  split <;> rfl

@[simp] theorem resident_shut (i : Nat) : (s.shut b i).cache.resident = s.cache.resident := by
  rw [cache_shut]; rfl

@[simp] theorem closing_shut (i : Nat) : (s.shut b i).cache.closing = s.cache.closing := by
  rw [cache_shut]; rfl

@[simp] theorem length_shut (i : Nat) :
    (s.shut b i).cache.slots.length = s.cache.slots.length := by
  rw [cache_shut, Cache.length_modifySlot]

@[simp] theorem localeOf_shut (i j : Nat) :
    (s.shut b i).cache.localeOf j = s.cache.localeOf j := by
  rw [cache_shut]
  exact Cache.localeOf_modifySlot _ _ _ _ fun _ => rfl

@[simp] theorem isOpening_shut (i j : Nat) :
    (s.shut b i).cache.isOpening j = s.cache.isOpening j := by
  rw [cache_shut]
  exact Cache.isOpening_modifySlot _ _ _ _ fun _ => rfl

@[simp] theorem readersOf_shut (i j : Nat) :
    (s.shut b i).cache.readersOf j = s.cache.readersOf j := by
  rw [cache_shut]
  exact Cache.readersOf_modifySlot _ _ _ _ fun _ => rfl

@[simp] theorem phase_shut (i j : Nat) :
    (s.shut b i).cache.phase j = if i = j then .closed else s.cache.phase j := by
  rw [cache_shut]
  simp only [Cache.phase]
  rw [Cache.getElem?_modifySlot]
  by_cases hij : i = j
  · cases hs : s.cache.slots[j]? <;> simp [hij]
  · simp [hij]

/-! ### Opening -/

end CacheState

namespace Loaded

variable {δ : Type}

/-- What a slot holds after an opening. -/
def phase (l : Locale) : Loaded δ → Phase δ
  | opened d => .ready (.dictionary d)
  | failed e => .ready (.unavailable (.ofError l e))
  | broken _ => .loading

/-- Whether there is a dictionary. -/
def success : Loaded δ → Bool
  | opened _ => true
  | failed _ | broken _ => false

/-- The message of an opening that broke off. -/
def message? : Loaded δ → Option String
  | opened _ | failed _ => none
  | broken message => some message

end Loaded

namespace CacheState

variable {σ δ : Type} (b : Backend σ δ) (s : CacheState σ δ)

/-- What opening the dictionary of a slot gives. -/
def loads (i : Nat) (on : Bool) : Loaded δ :=
  (b.load s.world.backend (s.cache.localeOf i) ⟨on, s.cache.sessions⟩).2.value

/-- What an opening does, whatever comes of it. -/
theorem fill_spec (i : Nat) (on : Bool) :
    (s.fill b i on).1 = (s.loads b i on).message? ∧
      (s.fill b i on).2.cache = (s.cache.modifySlot i fun slot =>
        { slot with phase := (s.loads b i on).phase (s.cache.localeOf i), writing := false }) ∧
      (s.fill b i on).2.world.events = s.world.events ++ [⟨s.cache.label, i, s.cache.localeOf i,
        .opened ⟨on, s.cache.sessions⟩ (s.loads b i on).success⟩] ∧
      (s.fill b i on).2.world.backend =
        (b.load s.world.backend (s.cache.localeOf i) ⟨on, s.cache.sessions⟩).1 := by
  cases h : s.loads b i on with
  | opened d | failed e | broken message =>
      rw [loads] at h
      simp only [fill, h]
      exact ⟨rfl, rfl, rfl, rfl⟩

theorem fill_fst (i : Nat) (on : Bool) : (s.fill b i on).1 = (s.loads b i on).message? :=
  (s.fill_spec b i on).1

theorem cache_fill (i : Nat) (on : Bool) : (s.fill b i on).2.cache =
    s.cache.modifySlot i fun slot =>
      { slot with phase := (s.loads b i on).phase (s.cache.localeOf i), writing := false } :=
  (s.fill_spec b i on).2.1

@[simp] theorem events_fill (i : Nat) (on : Bool) : (s.fill b i on).2.world.events =
    s.world.events ++ [⟨s.cache.label, i, s.cache.localeOf i,
      .opened ⟨on, s.cache.sessions⟩ (s.loads b i on).success⟩] :=
  (s.fill_spec b i on).2.2.1

theorem backend_fill (i : Nat) (on : Bool) : (s.fill b i on).2.world.backend =
    (b.load s.world.backend (s.cache.localeOf i) ⟨on, s.cache.sessions⟩).1 :=
  (s.fill_spec b i on).2.2.2

@[simp] theorem resident_fill (i : Nat) (on : Bool) :
    (s.fill b i on).2.cache.resident = s.cache.resident := by
  rw [cache_fill]; rfl

@[simp] theorem closing_fill (i : Nat) (on : Bool) :
    (s.fill b i on).2.cache.closing = s.cache.closing := by
  rw [cache_fill]; rfl

@[simp] theorem length_fill (i : Nat) (on : Bool) :
    (s.fill b i on).2.cache.slots.length = s.cache.slots.length := by
  rw [cache_fill, Cache.length_modifySlot]

@[simp] theorem localeOf_fill (i : Nat) (on : Bool) (j : Nat) :
    (s.fill b i on).2.cache.localeOf j = s.cache.localeOf j := by
  rw [cache_fill]
  exact Cache.localeOf_modifySlot _ _ _ _ fun _ => rfl

@[simp] theorem readersOf_fill (i : Nat) (on : Bool) (j : Nat) :
    (s.fill b i on).2.cache.readersOf j = s.cache.readersOf j := by
  rw [cache_fill]
  exact Cache.readersOf_modifySlot _ _ _ _ fun _ => rfl

@[simp] theorem isOpening_fill (i : Nat) (on : Bool) (j : Nat) :
    (s.fill b i on).2.cache.isOpening j = if i = j then false else s.cache.isOpening j := by
  rw [cache_fill, Cache.isOpening_eq, Cache.getElem?_modifySlot, Cache.isOpening_eq]
  by_cases hij : i = j
  · rw [if_pos hij, if_pos hij]
    cases s.cache.slots[j]? <;> rfl
  · rw [if_neg hij, if_neg hij]

theorem phase_fill {i : Nat} (on : Bool) (h : i < s.cache.slots.length) (j : Nat) :
    (s.fill b i on).2.cache.phase j =
      if i = j then (s.loads b i on).phase (s.cache.localeOf i) else s.cache.phase j := by
  rw [cache_fill, Cache.phase_eq, Cache.getElem?_modifySlot, Cache.phase_eq]
  by_cases hij : i = j
  · subst hij
    rw [if_pos rfl, if_pos rfl, List.getElem?_eq_getElem h]
    rfl
  · rw [if_neg hij, if_neg hij]

/-! ### Turning contacts on and off -/

/-- The phase of a slot whose contacts were turned on or off. -/
def switched (on : Bool) : Phase δ → Phase δ
  | .ready (.dictionary d) => .ready (.dictionary (b.setContacts d on))
  | p => p

/-- A slot with a dictionary has its contacts turned on or off, and any other stays as it is. -/
theorem cache_switchContacts (on : Bool) (i : Nat) : (s.switchContacts b on i).cache =
    s.cache.modifySlot i fun slot => { slot with phase := switched b on slot.phase } := by
  rw [switchContacts]
  split
  · next d hd =>
    refine Cache.modifySlot_congr _ _ ?_
    intro slot hslot
    have hphase : slot.phase = .ready (.dictionary d) := by
      simpa [Cache.phase_eq, hslot] using hd
    rw [hphase]
    rfl
  · next hother =>
    refine (Cache.modifySlot_eq_self _ _ ?_).symm
    intro slot hslot
    have hphase : slot.phase = s.cache.phase i := by simp [Cache.phase_eq, hslot]
    have hsame : switched b on slot.phase = slot.phase := by
      simp only [switched]
      split
      · next d hd => exact absurd (hphase.symm.trans hd) (hother d)
      · rfl
    rw [hsame]

theorem switched_closed {on : Bool} {p : Phase δ} (h : switched b on p = .closed) :
    p = .closed := by
  simp only [switched] at h
  split at h
  · cases h
  · exact h

@[simp] theorem backend_switchContacts (on : Bool) (i : Nat) :
    (s.switchContacts b on i).world.backend = s.world.backend := by
  rw [switchContacts]
  split <;> rfl

@[simp] theorem resident_switchContacts (on : Bool) (i : Nat) :
    (s.switchContacts b on i).cache.resident = s.cache.resident := by
  rw [cache_switchContacts]; rfl

@[simp] theorem closing_switchContacts (on : Bool) (i : Nat) :
    (s.switchContacts b on i).cache.closing = s.cache.closing := by
  rw [cache_switchContacts]; rfl

@[simp] theorem length_switchContacts (on : Bool) (i : Nat) :
    (s.switchContacts b on i).cache.slots.length = s.cache.slots.length := by
  rw [cache_switchContacts, Cache.length_modifySlot]

@[simp] theorem localeOf_switchContacts (on : Bool) (i j : Nat) :
    (s.switchContacts b on i).cache.localeOf j = s.cache.localeOf j := by
  rw [cache_switchContacts]
  exact Cache.localeOf_modifySlot _ _ _ _ fun _ => rfl

@[simp] theorem isOpening_switchContacts (on : Bool) (i j : Nat) :
    (s.switchContacts b on i).cache.isOpening j = s.cache.isOpening j := by
  rw [cache_switchContacts]
  exact Cache.isOpening_modifySlot _ _ _ _ fun _ => rfl

@[simp] theorem readersOf_switchContacts (on : Bool) (i j : Nat) :
    (s.switchContacts b on i).cache.readersOf j = s.cache.readersOf j := by
  rw [cache_switchContacts]
  exact Cache.readersOf_modifySlot _ _ _ _ fun _ => rfl

@[simp] theorem phase_switchContacts (on : Bool) (i j : Nat) :
    (s.switchContacts b on i).cache.phase j =
      if i = j then switched b on (s.cache.phase j) else s.cache.phase j := by
  rw [cache_switchContacts, Cache.phase_eq, Cache.getElem?_modifySlot, Cache.phase_eq]
  by_cases hij : i = j
  · rw [if_pos hij, if_pos hij]
    cases s.cache.slots[j]? <;> rfl
  · rw [if_neg hij, if_neg hij]

end CacheState

end Spelling
