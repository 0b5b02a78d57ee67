import Mathlib.Data.List.Nodup
import Spelling.Proofs.Cache.Ledger

/-!
# What becomes of a slot that leaves the residents

A slot leaves the residents when it is evicted or drained, and then one caller owes it a close, and
owes the cache the word that it is closed.  Who owes what is read off where a caller is:

    place                  owes a close to     owes the word on
    evicting k j           j                   j
    evicted k j                                j
    closing slots          all of them         all of them
    closed i rest          the rest            i and the rest

A later caller who opens the same locale again may close the slot too (`retiring`), and then has
nothing to lose: the second close finds nothing there.  So no debt is counted for it.

`Debts` says that no slot is forgotten by everybody: one that may have a dictionary is resident or
owed a close, and one that is noted as to be closed is owed the word.  `Compact` bounds the
residents themselves.
-/

namespace Spelling.Cache

variable {σ δ : Type} {b : Backend σ δ}

/-! ## Residents -/

/-- There are at most as many residents as there is room, no two of one locale. -/
structure Compact (c : Cache δ) : Prop where
  bounded : c.resident.length ≤ c.capacity
  nodup : (c.resident.map Prod.fst).Nodup

section Compact

variable {c c' : Cache δ} {l : Locale} {i : Nat}

theorem compact_ofCapacity (label capacity : Nat) (o : Options) :
    (ofCapacity label capacity o : Cache δ).Compact :=
  ⟨Nat.zero_le _, List.nodup_nil⟩

/-- Residents that leave make no trouble. -/
theorem Compact.shrink (h : c.Compact) (hcapacity : c'.capacity = c.capacity)
    (hresident : c'.resident.Sublist c.resident) : c'.Compact :=
  ⟨hcapacity ▸ Nat.le_trans hresident.length_le h.bounded, h.nodup.sublist (hresident.map _)⟩

theorem nodup_cons_resident {residents : List (Locale × Nat)}
    (hnodup : (residents.map Prod.fst).Nodup) (hl : ∀ j, (l, j) ∉ residents) :
    (((l, i) :: residents).map Prod.fst).Nodup := by
  rw [List.map_cons, List.nodup_cons]
  refine ⟨?_, hnodup⟩
  intro hmem
  obtain ⟨⟨m, j⟩, hj, rfl⟩ := List.mem_map.mp hmem
  exact hl j hj

/-- A resident asked for again takes no more room. -/
theorem Compact.hit (h : c.Compact) (hi : c.resident.lookup l = some i)
    (hcapacity : c'.capacity = c.capacity) (hresident : c'.resident = put c.resident l i) :
    c'.Compact := by
  have hothers : (c.resident.filter (·.1 != l)).Sublist c.resident := List.filter_sublist
  have hfewer : (c.resident.filter (·.1 != l)).length < c.resident.length := by
    refine List.length_filter_lt_length_iff_exists.mpr ⟨(l, i), mem_of_lookup hi, ?_⟩
    simp
  refine ⟨?_, ?_⟩
  · rw [hresident, hcapacity, put, List.length_cons]
    exact Nat.le_trans hfewer h.bounded
  · rw [hresident, put]
    refine nodup_cons_resident (h.nodup.sublist (hothers.map _)) ?_
    intro j hj
    simp at hj

/-- A newcomer takes the room of the one that is evicted. -/
theorem Compact.enroll (h : c.Compact) (hroom : 0 < c.capacity)
    (hnone : c.resident.lookup l = none) : (c.enroll l).2.Compact := by
  have hstay : c.staying.Sublist c.resident := by
    rw [staying]
    split
    · exact List.dropLast_sublist _
    · exact List.Sublist.refl _
  refine ⟨?_, ?_⟩
  · show (c.enroll l).2.resident.length ≤ c.capacity
    have hbounded := h.bounded
    rw [resident_enroll, List.length_cons, staying]
    cases hv : c.victim? with
    | some e =>
        have hmem : e ∈ c.resident := (mem_resident_iff e).mpr (.inr hv)
        have hpos := List.length_pos_of_mem hmem
        simp only [Option.isSome_some, if_true, List.length_dropLast]
        omega
    | none =>
        rw [victim?] at hv
        split at hv
        · next hlt => exact hlt
        · rw [List.getLast?_eq_none_iff.mp hv]
          exact hroom
  · rw [resident_enroll]
    refine nodup_cons_resident (h.nodup.sublist (hstay.map _)) ?_
    intro j hj
    exact not_mem_of_lookup hnone j (hstay.subset hj)

end Compact

/-! ## Debts -/

namespace Caller

/-- The slots that a caller is going to close and nobody else has to. -/
def shuts : Caller → List Nat
  | evicting _ j _ _ => [j]
  | closing slots => slots
  | closed _ rest => rest
  | finding .. | evicted .. | retiring .. | retired .. | choosing .. | opening .. | entering ..
  | asking .. | answering .. | forgetting .. | retrying .. | leaving .. | inspecting _ | draining
  | switching _ | collecting _ | applying .. | peeking _ | done _ => []

/-- The slots of which a caller is going to say that they are closed. -/
def forgets : Caller → List Nat
  | evicting _ j _ _ | evicted _ j _ _ => [j]
  | closing slots => slots
  | closed i rest => i :: rest
  | finding .. | retiring .. | retired .. | choosing .. | opening .. | entering .. | asking ..
  | answering .. | forgetting .. | retrying .. | leaving .. | inspecting _ | draining
  | switching _ | collecting _ | applying .. | peeking _ | done _ => []

theorem shuts_begin (k : Nat) (e? p? : Option Nat) (w : Want) :
    (begin k e? p? w).shuts = e?.toList := by
  cases e? <;> cases p? <;> rfl

theorem forgets_begin (k : Nat) (e? p? : Option Nat) (w : Want) :
    (begin k e? p? w).forgets = e?.toList := by
  cases e? <;> cases p? <;> rfl

theorem shuts_closeNext (slots : List Nat) : (closeNext slots).shuts = slots := by
  cases slots <;> rfl

theorem forgets_closeNext (slots : List Nat) : (closeNext slots).forgets = slots := by
  cases slots <;> rfl

theorem Idle.shuts {x : Caller} (h : x.Idle) : x.shuts = [] := by
  cases h with
  | @start call => cases call <;> rfl
  | done => rfl

theorem Idle.forgets {x : Caller} (h : x.Idle) : x.forgets = [] := by
  cases h with
  | @start call => cases call <;> rfl
  | done => rfl

section Step

variable {s t : CacheState σ δ} {x y : Caller} {n : Nat}

/-- What a step of one caller does to the residents, to what is to be closed, and to its debts. -/
structure Pays (s t : CacheState σ δ) (x y : Caller) : Prop where
  shuts : ∀ i, i < s.cache.slots.length → ¬ t.cache.Dead i →
    (s.cache.localeOf i, i) ∈ s.cache.resident ∨ i ∈ x.shuts →
      (s.cache.localeOf i, i) ∈ t.cache.resident ∨ i ∈ y.shuts
  newcomer : ∀ i, s.cache.slots.length ≤ i → i < t.cache.slots.length →
    (t.cache.localeOf i, i) ∈ t.cache.resident
  forgets : ∀ e ∈ t.cache.closing, e ∈ s.cache.closing ∧ (e.2 ∈ x.forgets → e.2 ∈ y.forgets) ∨
    e.2 ∈ y.forgets

/-- Most steps leave the residents and what is to be closed as they are. -/
theorem Pays.same (hlength : t.cache.slots.length = s.cache.slots.length)
    (hresident : t.cache.resident = s.cache.resident)
    (hclosing : t.cache.closing = s.cache.closing)
    (hshuts : ∀ i, ¬ t.cache.Dead i → i ∈ x.shuts → i ∈ y.shuts)
    (hforgets : ∀ i, i ∈ x.forgets → i ∈ y.forgets) : Pays s t x y := by
  refine ⟨?_, ?_, ?_⟩
  · intro i _ hdead howed
    rw [hresident]
    exact howed.imp_right (hshuts i hdead)
  · intro i hle hlt
    rw [hlength] at hlt
    exact absurd hlt (Nat.not_lt.mpr hle)
  · intro e he
    rw [hclosing] at he
    exact .inl ⟨he, hforgets e.2⟩

theorem Visit.pays (h : Visit s x t y) (hs : s.cache.Lineage) (hx : x.Fits s.cache) :
    Pays s t x y := by
  cases h with
  | @hit l w i hi =>
      have hmem := hs.mem_put_resident hi
      refine ⟨?_, fun j hle hlt => absurd hlt (Nat.not_lt.mpr hle), fun e he => .inl ⟨he, nofun⟩⟩
      intro j _ _ howed
      exact .inl ((hmem _).mpr (howed.resolve_right nofun))
  | @miss l w hnone =>
      refine ⟨?_, ?_, ?_⟩
      · intro i _ _ howed
        rw [CacheState.cache_reportFirst, CacheState.cache_onCache, resident_enroll, shuts_begin]
        rcases (mem_resident_iff _).mp (howed.resolve_right nofun) with hstays | hv
        · exact .inl (List.mem_cons_of_mem _ hstays)
        · rw [hv]
          exact .inr List.mem_cons_self
      · intro i hle hlt
        rw [CacheState.cache_reportFirst, CacheState.cache_onCache] at hlt ⊢
        obtain rfl : i = s.cache.slots.length := by
          rw [length_enroll] at hlt
          omega
        rw [localeOf_enroll_self, resident_enroll]
        exact List.mem_cons_self
      · intro e he
        rw [CacheState.cache_reportFirst, CacheState.cache_onCache, mem_closing_enroll] at he
        rw [forgets_begin]
        rcases he with hv | ⟨hclo, -⟩
        · rw [hv]
          exact .inr List.mem_cons_self
        · exact .inl ⟨hclo, nofun⟩
  | @evicted k j p? w =>
      refine ⟨?_, ?_, ?_⟩
      · intro i _ _ howed
        rw [CacheState.cache_reportPrevious?]
        exact .inl (howed.resolve_right nofun)
      · intro i hle hlt
        rw [CacheState.cache_reportPrevious?] at hlt
        exact absurd hlt (Nat.not_lt.mpr hle)
      · intro e he
        rw [CacheState.cache_reportPrevious?] at he
        obtain ⟨hclo, hne⟩ := (mem_closing_settled e).mp he
        refine .inl ⟨hclo, ?_⟩
        intro hj
        obtain rfl := List.mem_singleton.mp hj
        exact absurd (by rw [(hs.closing_locale _ _ hclo).2]) hne
  | retired =>
      refine ⟨fun i _ _ howed => .inl (howed.resolve_right nofun),
        fun i hle hlt => absurd hlt (Nat.not_lt.mpr hle), ?_⟩
      intro e he
      exact .inl ⟨((mem_closing_settled e).mp he).1, nofun⟩
  | @forgetting i a =>
      refine ⟨?_, fun i hle hlt => absurd hlt (Nat.not_lt.mpr hle), fun e he => .inl ⟨he, nofun⟩⟩
      intro j _ hdead howed
      -- the slot that is forgotten is dead, so it is another one
      have hne : j ≠ i := by
        rintro rfl
        have hgone : s.cache.Dead j := hx
        exact hdead ⟨hgone.lt, hgone.unopened, hgone.unready⟩
      refine .inl (List.mem_filter.mpr ⟨howed.resolve_right nofun, ?_⟩)
      simp [hne]
  | draining =>
      refine ⟨?_, ?_, ?_⟩
      · intro i _ _ howed
        refine .inr ?_
        rw [shuts_closeNext]
        exact List.mem_map_of_mem (List.mem_reverse.mpr (howed.resolve_right nofun))
      · intro i hle hlt
        rw [CacheState.cache_reportDrain] at hlt
        exact absurd hlt (Nat.not_lt.mpr hle)
      · intro e he
        rw [CacheState.cache_reportDrain, CacheState.cache_onCache, hs.mem_closing_drain] at he
        rw [forgets_closeNext]
        rcases he with hres | ⟨hclo, -⟩
        · exact .inr (List.mem_map_of_mem (List.mem_reverse.mpr hres))
        · exact .inl ⟨hclo, nofun⟩
  | @closed i rest =>
      refine ⟨?_, fun i hle hlt => absurd hlt (Nat.not_lt.mpr hle), ?_⟩
      · intro j _ _ howed
        rw [shuts_closeNext]
        exact howed
      · intro e he
        obtain ⟨hclo, hne⟩ := (mem_closing_settled e).mp he
        rw [forgets_closeNext]
        refine .inl ⟨hclo, ?_⟩
        intro hmem
        rcases List.mem_cons.mp hmem with rfl | hmem
        · exact absurd (by rw [(hs.closing_locale _ _ hclo).2]) hne
        · exact hmem
  | collecting | peeking => exact .same rfl rfl rfl (fun _ _ => nofun) fun _ => nofun

theorem Stride.pays (h : Stride b s x t y) : Pays s t x y := by
  cases h with
  | @evicting k j p? w hcan =>
      refine .same (CacheState.length_shut ..) (CacheState.resident_shut ..)
        (CacheState.closing_shut ..) ?_ fun _ hi => hi
      intro i hdead hi
      cases List.mem_singleton.mp hi
      exact absurd (dead_shut hcan) hdead
  | @closing i rest hcan =>
      refine .same (CacheState.length_shut ..) (CacheState.resident_shut ..)
        (CacheState.closing_shut ..) ?_ fun _ hi => hi
      intro j hdead hj
      rcases List.mem_cons.mp hj with rfl | hj
      · exact absurd (dead_shut hcan) hdead
      · exact hj
  | retiring _ =>
      exact .same (CacheState.length_shut ..) (CacheState.resident_shut ..)
        (CacheState.closing_shut ..) (fun _ _ => nofun) fun _ => nofun
  | opened _ | broken _ =>
      exact .same (CacheState.length_fill ..) (CacheState.resident_fill ..)
        (CacheState.closing_fill ..) (fun _ _ => nofun) fun _ => nofun
  | applying _ =>
      exact .same (CacheState.length_switchContacts ..) (CacheState.resident_switchContacts ..)
        (CacheState.closing_switchContacts ..) (fun _ _ => nofun) fun _ => nofun
  | entering _ | retrying | leaving =>
      exact .same (length_modifySlot ..) rfl rfl (fun _ _ => nofun) fun _ => nofun
  | choosing | exhausted | found | missed | starting | main | standIn | answering | inspecting
  | closedAll | switching | appliedAll =>
      exact .same rfl rfl rfl (fun _ _ => nofun) fun _ => nofun

theorem Turn.pays (h : Turn b n s x t y) (hs : s.cache.Lineage) (hx : x.Fits s.cache) :
    Pays s t x y := by
  cases h with
  | lock _ _ => exact .same rfl rfl rfl (fun _ _ hi => hi) fun _ hi => hi
  | visit _ h =>
      have hpays := h.pays hs hx
      refine ⟨?_, hpays.newcomer, hpays.forgets⟩
      intro i hi hdead
      exact hpays.shuts i hi fun hwas => hdead ⟨hwas.lt, hwas.unopened, hwas.unready⟩
  | stride h => exact h.pays

theorem Turn.compact (h : Turn b n s x t y) (hs : s.cache.Compact) (hroom : 0 < s.cache.capacity) :
    t.cache.Compact := by
  have hsame : t.cache.resident = s.cache.resident → t.cache.Compact := by
    intro hresident
    exact hs.shrink h.made.2.1 (hresident ▸ List.Sublist.refl _)
  cases h with
  | lock _ _ => exact hsame rfl
  | visit _ h =>
      cases h with
      | hit hi => exact hs.hit hi rfl rfl
      | miss hnone =>
          have henroll := hs.enroll hroom hnone
          refine ⟨?_, ?_⟩
          · simpa [relock] using henroll.bounded
          · simpa [relock] using henroll.nodup
      | evicted => exact hsame (by simp [relock, countEviction, settled])
      | draining => exact ⟨by simp [relock, drain], by simp [relock, drain]⟩
      | forgetting => exact hs.shrink rfl List.filter_sublist
      | retired | closed | collecting | peeking => exact hsame rfl
  | stride h =>
      cases h with
      | evicting _ | retiring _ | closing _ => exact hsame (CacheState.resident_shut ..)
      | opened _ | broken _ => exact hsame (CacheState.resident_fill ..)
      | applying _ => exact hsame (CacheState.resident_switchContacts ..)
      | choosing | entering | exhausted | found | missed | starting | main | standIn | answering
      | retrying | leaving | inspecting | closedAll | switching | appliedAll => exact hsame rfl

end Step

end Caller

/-! ## The cache and its callers -/

namespace Crowd

/-- Whatever may have a dictionary is resident or owed a close, and whatever is noted as to be
closed is owed the word that it is. -/
structure Debts (c : Crowd σ δ) : Prop where
  shuts : ∀ i, i < c.state.cache.slots.length → ¬ c.state.cache.Dead i →
    (c.state.cache.localeOf i, i) ∈ c.state.cache.resident ∨ ∃ x ∈ c.callers, i ∈ x.shuts
  forgets : ∀ e ∈ c.state.cache.closing, ∃ x ∈ c.callers, e.2 ∈ x.forgets

/-- What holds of the books of a cache and its callers at all times. -/
structure Accounts (label capacity : Nat) (c : Crowd σ δ) : Prop where
  sound : c.Sound
  compact : c.state.cache.Compact
  ledger : c.state.cache.Ledger label c.state.world.events
  debts : c.Debts
  label : c.state.cache.label = label
  capacity : c.state.cache.capacity = capacity

section Accounts

variable {c : Crowd σ δ} {label capacity n : Nat} {x y : Caller} {t : CacheState σ δ}

theorem accounts_ofCapacity (label capacity : Nat) (o : Options) (st : σ) :
    (ofCapacity label capacity o st : Crowd σ δ).Accounts label capacity where
  sound := sound_ofCapacity ..
  compact := compact_ofCapacity ..
  ledger := ledger_nil label rfl
  debts := ⟨fun i hi => absurd hi (Nat.not_lt_zero i), nofun⟩
  label := rfl
  capacity := rfl

/-- Where somebody at another place than before owes what others owed, so do they still. -/
theorem mem_callers_set {z : Caller} (hx : c.callers[n]? = some x) (hz : z ∈ c.callers)
    (y : Caller) : z = x ∨ z ∈ c.callers.set n y := by
  obtain ⟨j, hj⟩ := List.getElem?_of_mem hz
  rcases getElem?_set_moved hx y hj with ⟨-, heq, -⟩ | ⟨-, hset⟩
  · exact .inl heq
  · exact .inr (List.mem_of_getElem? hset)

theorem Debts.turn (hd : c.Debts) (hc : c.Sound) (hx : c.callers[n]? = some x)
    (h : Caller.Turn b n c.state x t y) : Debts ⟨t, c.callers.set n y⟩ := by
  have hmem := List.mem_of_getElem? hx
  have hself : y ∈ c.callers.set n y :=
    List.mem_set (List.getElem?_eq_some_iff.mp hx).1 y
  obtain ⟨-, hlater, -⟩ := h.keeps hc.lineage (hc.fits x hmem) fun k => hc.isOpening hmem
  have hpays := h.pays hc.lineage (hc.fits x hmem)
  refine ⟨?_, ?_⟩
  · intro i hi hdead
    rcases Nat.lt_or_ge i c.state.cache.slots.length with hlt | hge
    · rw [hlater.localeOf i hlt]
      have howed : ((c.state.cache.localeOf i, i) ∈ c.state.cache.resident ∨ i ∈ x.shuts) ∨
          ∃ z ∈ c.callers.set n y, i ∈ z.shuts := by
        rcases hd.shuts i hlt (fun hwas => hdead (hlater.dead i hwas)) with hres | ⟨z, hz, hcl⟩
        · exact .inl (.inl hres)
        · rcases mem_callers_set hx hz y with rfl | hset
          · exact .inl (.inr hcl)
          · exact .inr ⟨z, hset, hcl⟩
      rcases howed with howed | hothers
      · exact (hpays.shuts i hlt hdead howed).imp_right fun hcl => ⟨y, hself, hcl⟩
      · exact .inr hothers
    · exact .inl (hpays.newcomer i hge hi)
  · intro e he
    rcases hpays.forgets e he with ⟨hclo, hsame⟩ | hnew
    · obtain ⟨z, hz, hforgets⟩ := hd.forgets e hclo
      rcases mem_callers_set hx hz y with rfl | hset
      · exact ⟨y, hself, hsame hforgets⟩
      · exact ⟨z, hset, hforgets⟩
    · exact ⟨y, hself, hnew⟩

/-- One step of one caller keeps the books in order. -/
theorem Accounts.turn (hc : c.Accounts label capacity) (hroom : 0 < capacity)
    (hx : c.callers[n]? = some x) (h : Caller.Turn b n c.state x t y) :
    Accounts label capacity ⟨t, c.callers.set n y⟩ := by
  have hmem := List.mem_of_getElem? hx
  have hopens := fun k => hc.sound.isOpening hmem (k := k)
  have hfits := hc.sound.fits x hmem
  obtain ⟨hlabel, hcapacity, -⟩ := h.made
  obtain ⟨es, hevents, htold⟩ := h.told hc.sound.lineage hfits hopens
  refine ⟨hc.sound.turn hx h, h.compact hc.compact (hc.capacity ▸ hroom), ?_,
    hc.debts.turn hc.sound hx h, hlabel.trans hc.label, hcapacity.trans hc.capacity⟩
  show t.cache.Ledger label t.world.events
  rw [hevents]
  exact hc.ledger.told hc.label (h.settling hopens) htold

/-- A caller begins its call anew or is at its end, where it was the same before. -/
theorem Accounts.replace (hc : c.Accounts label capacity) (hx : c.callers[n]? = some x)
    (hidle : x.Idle) (hidle' : y.Idle) :
    Accounts label capacity ⟨c.state, c.callers.set n y⟩ := by
  refine ⟨hc.sound.replace hx hidle hidle', hc.compact, hc.ledger, ⟨?_, ?_⟩, hc.label,
    hc.capacity⟩
  · intro i hi hdead
    rcases hc.debts.shuts i hi hdead with hres | ⟨z, hz, hshuts⟩
    · exact .inl hres
    · rcases mem_callers_set hx hz y with rfl | hz
      · rw [hidle.shuts] at hshuts
        cases hshuts
      · exact .inr ⟨z, hz, hshuts⟩
  · intro e he
    obtain ⟨z, hz, hforgets⟩ := hc.debts.forgets e he
    rcases mem_callers_set hx hz y with rfl | hz
    · rw [hidle.forgets] at hforgets
      cases hforgets
    · exact ⟨z, hz, hforgets⟩

/-- One caller more, who begins a call. -/
theorem Accounts.append (hc : c.Accounts label capacity) (hidle : x.Idle) :
    Accounts label capacity ⟨c.state, c.callers ++ [x]⟩ := by
  refine ⟨hc.sound.append hidle, hc.compact, hc.ledger, ⟨?_, ?_⟩, hc.label, hc.capacity⟩
  · intro i hi hdead
    exact (hc.debts.shuts i hi hdead).imp_right fun ⟨z, hz, hshuts⟩ =>
      ⟨z, List.mem_append_left _ hz, hshuts⟩
  · intro e he
    obtain ⟨z, hz, hforgets⟩ := hc.debts.forgets e he
    exact ⟨z, List.mem_append_left _ hz, hforgets⟩

theorem Accounts.appendAll (hc : c.Accounts label capacity) (xs : List Caller)
    (hidle : ∀ x ∈ xs, x.Idle) : Accounts label capacity ⟨c.state, c.callers ++ xs⟩ := by
  induction xs generalizing c with
  | nil =>
      rw [List.append_nil]
      exact hc
  | cons x xs ih =>
      have hrest := ih (hc.append (hidle x List.mem_cons_self)) fun z hz =>
        hidle z (List.mem_cons_of_mem _ hz)
      simpa using hrest

/-- What is done to other caches is not booked here. -/
theorem Accounts.elsewhere (hc : c.Accounts label capacity) {es : List Event}
    (hcache : t.cache = c.state.cache)
    (hevents : t.world.events = c.state.world.events ++ es)
    (hes : ∀ e ∈ es, e.cache ≠ label) : Accounts label capacity ⟨t, c.callers⟩ := by
  obtain ⟨cache, world⟩ := t
  obtain rfl : cache = c.state.cache := hcache
  refine ⟨⟨hc.sound.lineage, hc.sound.fits, hc.sound.openers, hc.sound.readers⟩, hc.compact, ?_,
    ⟨hc.debts.shuts, hc.debts.forgets⟩, hc.label, hc.capacity⟩
  show c.state.cache.Ledger label world.events
  rw [hevents]
  exact hc.ledger.same (.of_slots rfl) (Event.slotsOf_append_of_ne hes)
    (Event.slotsOf_append_of_ne hes) fun _ => .rfl

/-- The books of a new cache, which nobody has called and nothing was done to. -/
theorem accounts_new {o : Options} {callers : List Caller}
    (hcache : t.cache = .ofCapacity label capacity o)
    (hevents : ∀ e ∈ t.world.events, e.cache ≠ label) (hidle : ∀ x ∈ callers, x.Idle) :
    Accounts label capacity ⟨t, callers⟩ := by
  have hstart : (ofCapacity label capacity o t.world.backend : Crowd σ δ).Accounts label capacity :=
    accounts_ofCapacity ..
  exact (hstart.appendAll callers hidle).elsewhere hcache rfl hevents

end Accounts

/-! ## Along a run -/

section Run

variable {c c' : Crowd σ δ} {label capacity : Nat}

theorem Accounts.happens (hc : c.Accounts label capacity) (hroom : 0 < capacity)
    (h : c.Happens b c') : c'.Accounts label capacity := by
  cases h with
  | arrival => exact hc.append .start
  | nothing => exact hc
  | turn hx h => exact hc.turn hroom hx h

/-- Every run keeps the books in order. -/
theorem Accounts.run (hc : c.Accounts label capacity) (hroom : 0 < capacity)
    (acts : List Happening) : (c.run b acts).Accounts label capacity := by
  induction acts generalizing c with
  | nil => exact hc
  | cons a acts ih => exact ih (hc.happens hroom (happens_of_act c a))

end Run

end Crowd

end Spelling.Cache
