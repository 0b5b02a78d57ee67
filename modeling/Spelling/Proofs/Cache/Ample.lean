import Spelling.Proofs.Cache.Bound
import Spelling.Proofs.Cache.Rest
import Spelling.Proofs.Cache.Settled

/-!
# A cache with room for all that is asked for

A cache that is only ever asked for some locales, and has room for as many, never evicts: its
residents are of these locales, no two of one, so that there is room for one more whenever one of
them is missing (`Ample.victim?_eq_none`).  Then no caller closes anything but those that take out
all residents:

    evicts      evicting, evicted, retiring, retired       nobody
    empties     draining, closing, closed                  whoever closes everything

While nobody does either, a slot that is ready stays so, and no dictionary is closed.
-/

namespace Spelling.Cache

variable {σ δ : Type} {b : Backend σ δ}

/-- There is room for some locales, and no slot is of any other. -/
structure Ample (locales : List Locale) (c : Cache δ) : Prop where
  room : locales.length ≤ c.capacity
  slots : ∀ k, k < c.slots.length → c.localeOf k ∈ locales

section Ample

variable {c c' : Cache δ} {locales : List Locale} {l : Locale}

theorem Ample.same (h : c.Ample locales) (hcapacity : c'.capacity = c.capacity)
    (hlength : c'.slots.length = c.slots.length) (hlocale : ∀ k, c'.localeOf k = c.localeOf k) :
    c'.Ample locales := by
  refine ⟨hcapacity ▸ h.room, ?_⟩
  intro k hk
  rw [hlocale]
  exact h.slots k (hlength ▸ hk)

/-- Nobody has to make room for a locale that is missing. -/
theorem Ample.victim?_eq_none (h : c.Ample locales) (hs : c.Lineage) (hc : c.Compact)
    (hl : l ∈ locales) (hnone : c.resident.lookup l = none) : c.victim? = none := by
  have hnodup : (((l, 0) :: c.resident).map Prod.fst).Nodup :=
    nodup_cons_resident hc.nodup (not_mem_of_lookup hnone)
  have hsubset : ((l, 0) :: c.resident).map Prod.fst ⊆ locales := by
    intro m hm
    rcases List.mem_cons.mp hm with rfl | hm
    · exact hl
    · obtain ⟨⟨m, k⟩, hk, rfl⟩ := List.mem_map.mp hm
      obtain ⟨hlt, hlocale⟩ := hs.resident_locale m k hk
      exact hlocale ▸ h.slots k hlt
  have hlt := (List.subperm_of_subset hnodup hsubset).length_le
  rw [List.length_map, List.length_cons] at hlt
  exact if_pos (Nat.lt_of_lt_of_le hlt h.room)

theorem Ample.enroll (h : c.Ample locales) (hl : l ∈ locales) : (c.enroll l).2.Ample locales := by
  refine ⟨h.room, ?_⟩
  intro k hk
  rw [localeOf_enroll]
  split
  · exact hl
  · next hne =>
    rw [length_enroll] at hk
    exact h.slots k (by omega)

end Ample

namespace Caller

/-- The locale that a caller is going to ask for. -/
def seeks? : Caller → Option Locale
  | finding l _ => some l
  | evicting .. | evicted .. | retiring .. | retired .. | choosing .. | opening .. | entering ..
  | asking .. | answering .. | forgetting .. | retrying .. | leaving .. | inspecting _ | draining
  | closing _ | closed .. | switching _ | collecting _ | applying .. | peeking _ | done _ => none

/-- Whether a caller closes a dictionary that has to go before its own is opened. -/
def evicts : Caller → Bool
  | evicting .. | evicted .. | retiring .. | retired .. => true
  | finding .. | choosing .. | opening .. | entering .. | asking .. | answering .. | forgetting ..
  | retrying .. | leaving .. | inspecting _ | draining | closing _ | closed .. | switching _
  | collecting _ | applying .. | peeking _ | done _ => false

/-- Whether a caller is about to take out all residents, or to close those it took out. -/
def empties : Caller → Bool
  | draining | closing _ | closed .. => true
  | finding .. | evicting .. | evicted .. | retiring .. | retired .. | choosing .. | opening ..
  | entering .. | asking .. | answering .. | forgetting .. | retrying .. | leaving ..
  | inspecting _ | switching _ | collecting _ | applying .. | peeking _ | done _ => false

section Places

variable {x : Caller} {i : Nat}

theorem evicts_entered (s : CacheState σ δ) (i : Nat) (a : Ask) (f : Fallback) :
    (entered s i a f).evicts = false := by
  simp only [entered]
  cases s.cache.phase i <;> cases f <;> rfl

theorem empties_begin (k : Nat) (e? p? : Option Nat) (w : Want) :
    (begin k e? p? w).empties = false := by
  cases e? <;> cases p? <;> rfl

theorem empties_entered (s : CacheState σ δ) (i : Nat) (a : Ask) (f : Fallback) :
    (entered s i a f).empties = false := by
  simp only [entered]
  cases s.cache.phase i <;> cases f <;> rfl

theorem empties_applyNext (on : Bool) (slots : List Nat) :
    (applyNext on slots).empties = false := by
  cases slots <;> rfl

theorem seeks?_entered (s : CacheState σ δ) (i : Nat) (a : Ask) (f : Fallback) :
    (entered s i a f).seeks? = none := by
  simp only [entered]
  cases s.cache.phase i <;> cases f <;> rfl

theorem Idle.evicts (h : x.Idle) : x.evicts = false := by
  cases h with
  | @start call => cases call <;> rfl
  | done => rfl

theorem sweeps_of_empties (h : x.empties = true) : x.sweeps = true := by
  cases x with
  | draining | closing | closed => rfl
  | finding | evicting | evicted | retiring | retired | choosing | opening | entering | asking
  | answering | forgetting | retrying | leaving | inspecting | switching | collecting | applying
  | peeking | done => cases h

theorem empties_of_forgets (h : i ∈ x.forgets) : x.empties = true ∨ x.evicts = true := by
  cases x with
  | closing | closed => exact .inl rfl
  | evicting | evicted => exact .inr rfl
  | finding | retiring | retired | choosing | opening | entering | asking | answering | forgetting
  | retrying | leaving | inspecting | draining | switching | collecting | applying | peeking
  | done => cases h

theorem empties_of_shuts (h : i ∈ x.shuts) : x.empties = true ∨ x.evicts = true := by
  cases x with
  | closing | closed => exact .inl rfl
  | evicting => exact .inr rfl
  | finding | evicted | retiring | retired | choosing | opening | entering | asking | answering
  | forgetting | retrying | leaving | inspecting | draining | switching | collecting | applying
  | peeking | done => cases h

end Places

theorem seeks?_closeNext (slots : List Nat) : (closeNext slots).seeks? = none := by
  cases slots <;> rfl

theorem evicts_closeNext (slots : List Nat) : (closeNext slots).evicts = false := by
  cases slots <;> rfl

theorem seeks?_applyNext (on : Bool) (slots : List Nat) :
    (applyNext on slots).seeks? = none := by
  cases slots <;> rfl

theorem evicts_applyNext (on : Bool) (slots : List Nat) :
    (applyNext on slots).evicts = false := by
  cases slots <;> rfl

section Step

variable {s t : CacheState σ δ} {x y : Caller} {n : Nat} {locales : List Locale}

/-- Nobody comes to empty the cache who did not set out to. -/
theorem Turn.empties (h : Turn b n s x t y) (hy : y.empties = true) : x.empties = true := by
  cases h with
  | lock _ _ => exact hy
  | visit _ h =>
      cases h with
      | draining | closed => rfl
      | @hit l w i _ => cases w <;> cases hy
      | miss _ => exact absurd hy (by simp [empties_begin])
      | @evicted k j p? w => cases p? <;> cases hy
      | collecting => exact absurd hy (by simp [empties_applyNext])
      | retired | forgetting | peeking => cases hy
  | stride h =>
      cases h with
      | closing _ | closedAll => rfl
      | @opened k on w _ => cases w <;> cases hy
      | entering _ => exact absurd hy (by simp [empties_entered])
      | applying _ => exact absurd hy (by simp [empties_applyNext])
      | evicting | retiring | choosing | broken | exhausted | found | missed | starting | main
      | standIn | answering | retrying | leaving | inspecting | switching | appliedAll => cases hy

/-! ## Nobody evicts -/

/-- What a step comes to for a cache with room for some locales. -/
structure Stays (locales : List Locale) (s t : CacheState σ δ) (y : Caller) : Prop where
  ample : t.cache.Ample locales
  evictions : t.cache.stats.evictions = s.cache.stats.evictions
  seeks : ∀ l, y.seeks? = some l → l ∈ locales
  evicts : y.evicts = false

/-- Most steps leave the slots as they are, and lead to no other locale. -/
theorem Stays.same (hs : s.cache.Ample locales) (hcapacity : t.cache.capacity = s.cache.capacity)
    (hlength : t.cache.slots.length = s.cache.slots.length)
    (hlocale : ∀ k, t.cache.localeOf k = s.cache.localeOf k)
    (hstats : t.cache.stats.evictions = s.cache.stats.evictions) (hseeks : y.seeks? = none)
    (hevicts : y.evicts = false) : Stays locales s t y := by
  refine ⟨hs.same hcapacity hlength hlocale, hstats, ?_, hevicts⟩
  intro l hl
  rw [hseeks] at hl
  cases hl

theorem Visit.stays (h : Visit s x t y) (hs : s.cache.Ample locales) (hlineage : s.cache.Lineage)
    (hcompact : s.cache.Compact) (hseeks : ∀ l, x.seeks? = some l → l ∈ locales)
    (hevicts : x.evicts = false) (hclosing : x.empties = false → s.cache.closing = []) :
    Stays locales s t y := by
  cases h with
  | @hit l w i _ => cases w <;> exact .same hs rfl rfl (fun _ => rfl) rfl rfl rfl
  | @miss l w hnone =>
      have hl : l ∈ locales := hseeks l rfl
      rw [hs.victim?_eq_none hlineage hcompact hl hnone, hclosing rfl]
      exact ⟨hs.enroll hl, rfl, nofun, rfl⟩
  | draining =>
      refine .same hs ?_ ?_ ?_ ?_ (seeks?_closeNext _) (evicts_closeNext _)
      all_goals rw [CacheState.cache_reportDrain]
      · rfl
      · rfl
      · exact fun _ => rfl
      · rfl
  | closed =>
      exact .same hs rfl rfl (fun _ => rfl) rfl (seeks?_closeNext _) (evicts_closeNext _)
  | collecting =>
      exact .same hs rfl rfl (fun _ => rfl) rfl (seeks?_applyNext ..) (evicts_applyNext ..)
  | forgetting | peeking => exact .same hs rfl rfl (fun _ => rfl) rfl rfl rfl
  | evicted | retired => cases hevicts

theorem Stride.stays (h : Stride b s x t y) (hs : s.cache.Ample locales)
    (hreads : ∀ k, x.reads? = some k → k < s.cache.slots.length) (hevicts : x.evicts = false) :
    Stays locales s t y := by
  have hshut : ∀ (i : Nat) {z : Caller}, z.seeks? = none → z.evicts = false →
      Stays locales s (s.shut b i) z := by
    intro i z hseeks hevicts
    refine .same hs ?_ (CacheState.length_shut ..) (CacheState.localeOf_shut b s i) ?_ hseeks
      hevicts
    all_goals rw [CacheState.cache_shut]; rfl
  have hfill : ∀ (k : Nat) (on : Bool) {z : Caller}, z.seeks? = none → z.evicts = false →
      Stays locales s (s.fill b k on).2 z := by
    intro k on z hseeks hevicts
    refine .same hs ?_ (CacheState.length_fill ..) (CacheState.localeOf_fill b s k on) ?_ hseeks
      hevicts
    all_goals rw [CacheState.cache_fill]; rfl
  cases h with
  | evicting | retiring => cases hevicts
  | closing _ => exact hshut _ rfl rfl
  | @opened k on w _ => cases w <;> exact hfill _ _ rfl rfl
  | broken _ => exact hfill _ _ rfl rfl
  | applying _ =>
      refine .same hs ?_ (CacheState.length_switchContacts ..)
        (CacheState.localeOf_switchContacts b s _ _) ?_ (seeks?_applyNext ..) (evicts_applyNext ..)
      all_goals rw [CacheState.cache_switchContacts]; rfl
  | entering _ =>
      exact .same hs rfl (length_modifySlot ..) (localeOf_lockRead s.cache _) rfl
        (seeks?_entered ..) (evicts_entered ..)
  | @retrying i a =>
      refine ⟨hs.same rfl (length_modifySlot ..) (localeOf_unlockRead s.cache i), rfl, ?_, rfl⟩
      intro l hl
      cases hl
      exact hs.slots i (hreads i rfl)
  | leaving =>
      exact .same hs rfl (length_modifySlot ..) (localeOf_unlockRead s.cache _) rfl rfl rfl
  | choosing | exhausted | found | missed | starting | main | standIn | answering | inspecting
  | closedAll | switching | appliedAll => exact .same hs rfl rfl (fun _ => rfl) rfl rfl rfl

/-- **Where there is room for all that is asked for, nobody evicts.** -/
theorem Turn.stays (h : Turn b n s x t y) (hs : s.cache.Ample locales)
    (hlineage : s.cache.Lineage) (hcompact : s.cache.Compact)
    (hseeks : ∀ l, x.seeks? = some l → l ∈ locales)
    (hreads : ∀ k, x.reads? = some k → k < s.cache.slots.length) (hevicts : x.evicts = false)
    (hclosing : x.empties = false → s.cache.closing = []) : Stays locales s t y := by
  cases h with
  | lock _ _ => exact ⟨hs.same rfl rfl fun _ => rfl, rfl, hseeks, hevicts⟩
  | visit _ h =>
      have hstays := h.stays hs hlineage hcompact hseeks hevicts hclosing
      exact ⟨hstays.ample.same rfl rfl fun _ => rfl, hstays.evictions, hstays.seeks, hstays.evicts⟩
  | stride h => exact h.stays hs hreads hevicts

/-! ## While nobody empties the cache -/

theorem Visit.phase_eq (h : Visit s x t y) {i : Nat} (hi : i < s.cache.slots.length) :
    t.cache.phase i = s.cache.phase i := by
  cases h with
  | miss _ =>
      rw [CacheState.cache_reportFirst, CacheState.cache_onCache, phase_enroll,
        if_neg (Nat.ne_of_lt hi)]
  | evicted =>
      rw [CacheState.cache_reportPrevious?]
      rfl
  | draining =>
      rw [CacheState.cache_reportDrain]
      rfl
  | hit | retired | forgetting | closed | collecting | peeking => rfl

/-- A slot that is ready stays ready. -/
theorem Turn.ready (h : Turn b n s x t y) (hs : s.cache.Lineage)
    (hopens : ∀ k, x.opens? = some k → s.cache.isOpening k = true) (hevicts : x.evicts = false)
    (hempties : x.empties = false) {i : Nat} {r : Resource δ} (hr : s.cache.phase i = .ready r) :
    ∃ r', t.cache.phase i = .ready r' := by
  have hlt := lt_of_phase_ready hr
  have hfill : ∀ k on, s.cache.isOpening k = true →
      ∃ r', (s.fill b k on).2.cache.phase i = .ready r' := by
    intro k on hopen
    have hki : k ≠ i := by
      rintro rfl
      rw [hs.loading_of_opening k hopen] at hr
      cases hr
    refine ⟨r, ?_⟩
    rw [CacheState.cache_fill, phase_eq, getElem?_modifySlot, if_neg hki, ← phase_eq, hr]
  cases h with
  | lock _ _ => exact ⟨r, hr⟩
  | visit _ h => exact ⟨r, (h.phase_eq hlt).trans hr⟩
  | stride h =>
      cases h with
      | evicting | retiring => cases hevicts
      | closing => cases hempties
      | opened _ | broken _ => exact hfill _ _ (hopens _ rfl)
      | @applying on j rest _ =>
          rw [CacheState.phase_switchContacts, hr]
          split
          · cases r with
            | dictionary d => exact ⟨_, rfl⟩
            | unavailable u => exact ⟨_, rfl⟩
          · exact ⟨r, rfl⟩
      | entering _ => exact ⟨r, (phase_lockRead ..).trans hr⟩
      | retrying | leaving => exact ⟨r, (phase_unlockRead ..).trans hr⟩
      | choosing | exhausted | found | missed | starting | main | standIn | answering | inspecting
      | closedAll | switching | appliedAll => exact ⟨r, hr⟩

/-- What a caller notes that empties nothing: that a dictionary is used, or that it opened one. -/
inductive Notes (b : Backend σ δ) (s t : CacheState σ δ) (x : Caller) : List Event → Prop
  | uses {es : List Event} : (∀ e ∈ es, e.deed.uses = true) → Notes b s t x es
  | opens {k : Nat} {on : Bool} {w : Want} {o : Options} {success : Bool} : x = opening k on w →
      ((s.loads b k on).message? = none → ∃ r, t.cache.phase k = .ready r) →
      Notes b s t x [⟨s.cache.label, k, s.cache.localeOf k, .opened o success⟩]

theorem Turn.notes (h : Turn b n s x t y) (hx : x.Fits s.cache) (hevicts : x.evicts = false)
    (hempties : x.empties = false) :
    ∃ es, t.world.events = s.world.events ++ es ∧ Notes b s t x es := by
  have hsilent : t.world.events = s.world.events →
      ∃ es, t.world.events = s.world.events ++ es ∧ Notes b s t x es :=
    fun heq => ⟨[], by rw [heq, List.append_nil], .uses nofun⟩
  have hfill : ∀ k on, k < s.cache.slots.length → (s.loads b k on).message? = none →
      ∃ r, (s.fill b k on).2.cache.phase k = .ready r := by
    intro k on hlt hmessage
    rw [CacheState.phase_fill b s on hlt, if_pos rfl]
    cases hloads : s.loads b k on with
    | opened d => exact ⟨_, rfl⟩
    | failed e => exact ⟨_, rfl⟩
    | broken message =>
        rw [hloads] at hmessage
        cases hmessage
  cases h with
  | lock _ _ => exact hsilent rfl
  | visit _ h => exact hsilent h.told.1
  | stride h =>
      cases h with
      | evicting | retiring => cases hevicts
      | closing => cases hempties
      | opened _ | broken _ =>
          exact ⟨_, CacheState.events_fill .., .opens rfl (hfill _ _ (Heir.lt hx))⟩
      | applying _ =>
          simp only [CacheState.switchContacts]
          split
          · refine ⟨_, CacheState.events_note .., .uses ?_⟩
            intro e he
            cases List.mem_singleton.mp he
            rfl
          · exact ⟨[], (List.append_nil _).symm, .uses nofun⟩
      | found _ _ | missed _ _ | starting _ =>
          refine ⟨_, CacheState.events_note .., .uses ?_⟩
          intro e he
          cases List.mem_singleton.mp he
          rfl
      | choosing | entering | exhausted | main | standIn | answering | retrying | leaving
      | inspecting | closedAll | switching | appliedAll => exact hsilent rfl

end Step

end Caller

/-! ## While somebody empties the cache -/

/-- Whoever closes everything notes nothing else. -/
theorem Crowd.Emptying.notes {s t : CacheState σ δ} {x y : Caller} {n : Nat}
    (hx : Crowd.Emptying s.cache x) (h : Caller.Turn b n s x t y) :
    ∃ es, t.world.events = s.world.events ++ es ∧
      ∀ e ∈ es, e.cache = s.cache.label ∧ e.deed = .closed := by
  cases h with
  | lock _ _ => exact ⟨[], (List.append_nil _).symm, nofun⟩
  | visit _ h => exact ⟨[], h.told.1.trans (List.append_nil _).symm, nofun⟩
  | stride h =>
      cases hx with
      | draining => cases h
      | closing _ =>
          cases h with
          | closing _ =>
              refine ⟨_, CacheState.events_shut _, ?_⟩
              intro e he
              rw [farewell] at he
              split at he
              · cases List.mem_singleton.mp he
                exact ⟨rfl, rfl⟩
              all_goals cases he
          | closedAll => exact ⟨[], (List.append_nil _).symm, nofun⟩
      | closed _ => cases h
      | done _ => cases h

end Spelling.Cache
