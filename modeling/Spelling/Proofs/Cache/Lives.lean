import Spelling.Proofs.Cache.Sound

/-!
# One dictionary of a locale at a time

The events of one locale tell one life after another: a dictionary is opened, used and closed, and
only then is the next one opened.  `Lives` reads this off the events, and `Told` says what events
one step adds.
-/

namespace Spelling

variable {σ δ : Type} {b : Backend σ δ}

namespace Deed

/-- Whether a deed needs an open dictionary and leaves it open. -/
def uses : Deed → Bool
  | lookedUp _ | queried .. | contactsSet _ => true
  | opened .. | closed => false

end Deed

/-- The events of one locale so far, and the slot whose dictionary is open after them, if any. -/
inductive Lives : Option Nat → List Event → Prop
  | nil : Lives none []
  | opened {events : List Event} {e : Event} {o : Options} : Lives none events →
      e.deed = .opened o true → Lives (some e.slot) (events ++ [e])
  | refused {events : List Event} {e : Event} {o : Options} : Lives none events →
      e.deed = .opened o false → Lives none (events ++ [e])
  | used {events : List Event} {e : Event} : Lives (some e.slot) events →
      e.deed.uses = true → Lives (some e.slot) (events ++ [e])
  | closed {events : List Event} {e : Event} : Lives (some e.slot) events →
      e.deed = .closed → Lives none (events ++ [e])

/-- A dictionary is open while it is used. -/
theorem Lives.before {open? : Option Nat} {events : List Event} (h : Lives open? events) :
    ∀ {es es' : List Event} {e : Event}, events = es ++ e :: es' → e.deed.uses = true →
      Lives (some e.slot) es := by
  -- the event is the last one, or it is among those before
  have hlast : ∀ {before es es' : List Event} {last e : Event},
      before ++ [last] = es ++ e :: es' → before = es ∧ last = e ∨
        ∃ rest, before = es ++ e :: rest := by
    intro before es es' last e heq
    rcases List.eq_nil_or_concat' es' with rfl | ⟨rest, final, rfl⟩
    · exact .inl (by simpa using heq)
    · rw [← List.cons_append, ← List.append_assoc] at heq
      exact .inr ⟨rest, (List.append_inj' heq rfl).1⟩
  induction h with
  | nil =>
      intro es es' e heq
      exact absurd heq.symm (by simp)
  | opened _ hdeed ih | refused _ hdeed ih | closed _ hdeed ih =>
      intro es es' e heq huses
      rcases hlast heq with ⟨-, rfl⟩ | ⟨rest, heq⟩
      · rw [hdeed] at huses
        cases huses
      · exact ih heq huses
  | used hopen _ ih =>
      intro es es' e heq huses
      rcases hlast heq with ⟨rfl, rfl⟩ | ⟨rest, heq⟩
      · exact hopen
      · exact ih heq huses

/-- The events of one locale, in their order. -/
def Event.about (l : Locale) (events : List Event) : List Event :=
  events.filter (·.locale == l)

namespace Cache

/-- There is an open dictionary in a slot. -/
def Holds (c : Cache δ) (i : Nat) : Prop := ∃ d, c.phase i = .ready (.dictionary d)

theorem Holds.lt {c : Cache δ} {i : Nat} (h : c.Holds i) : i < c.slots.length := by
  obtain ⟨d, hd⟩ := h
  exact lt_of_phase_ready hd

theorem Dead.not_holds {c : Cache δ} {i : Nat} (h : c.Dead i) : ¬ c.Holds i := by
  rintro ⟨d, hd⟩
  exact h.unready _ hd

/-- When a slot may be opened, no slot of its locale has an open dictionary. -/
theorem Heir.not_holds {c : Cache δ} {k : Nat} (h : c.Lineage) (hk : c.Heir k none)
    (hopen : c.isOpening k = true) {j : Nat} (hjl : c.localeOf j = c.localeOf k) :
    ¬ c.Holds j := by
  intro hj
  have hloading : ∀ i, c.isOpening i = true → ¬ c.Holds i := by
    rintro i hi ⟨d, hd⟩
    rw [h.loading_of_opening i hi] at hd
    cases hd
  rcases Nat.lt_trichotomy j k with hlt | rfl | hgt
  · rcases hk.behind j hlt hjl with hdead | ⟨p, hp, -⟩
    · exact hdead.not_holds hj
    · cases hp
  · exact hloading j hopen hj
  · cases hjopen : c.isOpening j with
    | true => exact hloading j hjopen hj
    | false =>
        have hdead := h.earlier_dead k j hgt hj.lt hjl.symm hjopen
        rw [hdead.unopened] at hopen
        cases hopen

/-- The events that some work adds, by what it does to the open dictionaries. -/
inductive Told (c c' : Cache δ) : List Event → Prop
  | nothing : (∀ j, c'.Holds j ↔ c.Holds j) → Told c c' []
  | opened {k : Nat} {o : Options} {success : Bool} : k < c.slots.length →
      (∀ j, c.localeOf j = c.localeOf k → ¬ c.Holds j) →
      (∀ j, c'.Holds j ↔ c.Holds j ∨ j = k ∧ success = true) →
      Told c c' [⟨c.label, k, c.localeOf k, .opened o success⟩]
  | used {i : Nat} {deed : Deed} : deed.uses = true → c.Holds i →
      (∀ j, c'.Holds j ↔ c.Holds j) → Told c c' [⟨c.label, i, c.localeOf i, deed⟩]
  | closed {i : Nat} : c.Holds i → (∀ j, c'.Holds j ↔ c.Holds j ∧ j ≠ i) →
      Told c c' [⟨c.label, i, c.localeOf i, .closed⟩]

theorem holds_of_slots {c c' : Cache δ} (h : c'.slots = c.slots) (j : Nat) :
    c'.Holds j ↔ c.Holds j := by
  simp only [Holds]
  rw [phase_of_slots h]

theorem holds_of_phase {c c' : Cache δ} (h : ∀ j, c'.phase j = c.phase j) (j : Nat) :
    c'.Holds j ↔ c.Holds j := by
  simp only [Holds]
  rw [h]

section Work

variable {s : CacheState σ δ}

/-- Closing tells that an open dictionary is closed, and nothing of any other slot. -/
theorem told_shut (i : Nat) : ∃ es, (s.shut b i).world.events = s.world.events ++ es ∧
    Told s.cache (s.shut b i).cache es := by
  have hholds : ∀ j, (s.shut b i).cache.Holds j ↔ s.cache.Holds j ∧ j ≠ i := by
    intro j
    simp only [Holds]
    rw [CacheState.phase_shut]
    by_cases hij : i = j
    · simp [hij]
    · simp [hij, Ne.symm hij]
  have hsilent : ¬ s.cache.Holds i → Told s.cache (s.shut b i).cache [] := by
    refine fun hi => .nothing fun j => (hholds j).trans ?_
    rw [and_iff_left_iff_imp]
    rintro hj rfl
    exact hi hj
  cases hphase : s.cache.phase i with
  | ready r =>
      cases r with
      | dictionary d =>
          refine ⟨_, ?_, .closed ⟨d, hphase⟩ hholds⟩
          simp only [CacheState.shut, hphase]
          refine (CacheState.events_note _ i .closed).trans ?_
          simp [localeOf_modifySlot]
      | unavailable u =>
          refine ⟨[], ?_, hsilent ?_⟩
          · simp only [CacheState.shut, hphase, List.append_nil]
            rfl
          · rintro ⟨d, hd⟩
            rw [hphase] at hd
            cases hd
  | loading | closed =>
      refine ⟨[], ?_, hsilent ?_⟩
      · simp only [CacheState.shut, hphase, List.append_nil]
        rfl
      · rintro ⟨d, hd⟩
        rw [hphase] at hd
        cases hd

theorem told_switchContacts (on : Bool) (i : Nat) : ∃ es,
    (s.switchContacts b on i).world.events = s.world.events ++ es ∧
      Told s.cache (s.switchContacts b on i).cache es := by
  cases hphase : s.cache.phase i with
  | ready r =>
      cases r with
      | dictionary d =>
          have hused : (Deed.contactsSet on).uses = true := rfl
          refine ⟨_, ?_, .used hused ⟨d, hphase⟩ ?_⟩
          · simp only [CacheState.switchContacts, hphase]
            simp [localeOf_modifySlot]
          · intro j
            simp only [Holds]
            rw [CacheState.phase_switchContacts]
            by_cases hij : i = j
            · subst hij
              simp [hphase, CacheState.switched]
            · rw [if_neg hij]
      | unavailable u =>
          have hsame : s.switchContacts b on i = s := by
            simp only [CacheState.switchContacts, hphase]
          rw [hsame]
          exact ⟨[], (List.append_nil _).symm, .nothing fun _ => .rfl⟩
  | loading | closed =>
      have hsame : s.switchContacts b on i = s := by
        simp only [CacheState.switchContacts, hphase]
      rw [hsame]
      exact ⟨[], (List.append_nil _).symm, .nothing fun _ => .rfl⟩

/-- Opening tells that a dictionary of the locale is open, or not. -/
theorem told_fill (h : s.cache.Lineage) {k : Nat} (on : Bool) (hk : s.cache.Heir k none)
    (hopen : s.cache.isOpening k = true) : ∃ es,
    (s.fill b k on).2.world.events = s.world.events ++ es ∧
      Told s.cache (s.fill b k on).2.cache es := by
  refine ⟨_, CacheState.events_fill b s k on, .opened hk.lt (fun j => hk.not_holds h hopen) ?_⟩
  intro j
  simp only [Holds]
  rw [CacheState.phase_fill b s on hk.lt]
  by_cases hkj : k = j
  · subst hkj
    cases s.loads b k on <;> simp [Loaded.phase, Loaded.success, h.loading_of_opening k hopen]
  · simp [hkj, Ne.symm hkj]

namespace Caller

variable {t : CacheState σ δ} {x y : Caller} {n : Nat}

theorem Visit.told (h : Visit s x t y) :
    t.world.events = s.world.events ∧ ∀ j, t.cache.Holds j ↔ s.cache.Holds j := by
  cases h with
  | miss hnone =>
      refine ⟨by rw [CacheState.events_reportFirst]; rfl, ?_⟩
      intro j
      rw [CacheState.cache_reportFirst, CacheState.cache_onCache]
      simp only [Holds]
      rw [phase_enroll]
      by_cases hj : j = s.cache.slots.length
      · simp [hj, phase_eq]
      · rw [if_neg hj]
  | evicted =>
      rw [CacheState.events_reportPrevious?, CacheState.cache_reportPrevious?]
      exact ⟨rfl, holds_of_slots rfl⟩
  | draining =>
      rw [CacheState.events_reportDrain, CacheState.cache_reportDrain]
      exact ⟨rfl, holds_of_slots rfl⟩
  | hit | retired | forgetting | closed | collecting | peeking =>
      exact ⟨rfl, holds_of_slots rfl⟩

theorem Stride.told (h : Stride b s x t y) (hs : s.cache.Lineage) (hx : x.Fits s.cache)
    (hopens : ∀ k, x.opens? = some k → s.cache.isOpening k = true) :
    ∃ es, t.world.events = s.world.events ++ es ∧ Told s.cache t.cache es := by
  cases h with
  | evicting _ | retiring _ | closing _ => exact told_shut _
  | opened _ | broken _ => exact told_fill hs _ hx (hopens _ rfl)
  | applying _ => exact told_switchContacts ..
  | found hd _ | missed hd _ | starting hd =>
      exact ⟨_, rfl, .used rfl ⟨_, hd⟩ fun _ => .rfl⟩
  | entering _ =>
      exact ⟨[], (List.append_nil _).symm, .nothing (holds_of_phase (phase_lockRead _ _))⟩
  | retrying | leaving =>
      exact ⟨[], (List.append_nil _).symm, .nothing (holds_of_phase (phase_unlockRead _ _))⟩
  | choosing | exhausted | main | standIn | answering | inspecting | closedAll | switching
  | appliedAll => exact ⟨[], (List.append_nil _).symm, .nothing (holds_of_slots rfl)⟩

theorem Turn.told (h : Turn b n s x t y) (hs : s.cache.Lineage) (hx : x.Fits s.cache)
    (hopens : ∀ k, x.opens? = some k → s.cache.isOpening k = true) :
    ∃ es, t.world.events = s.world.events ++ es ∧ Told s.cache t.cache es := by
  cases h with
  | lock _ _ => exact ⟨[], (List.append_nil _).symm, .nothing (holds_of_slots rfl)⟩
  | visit _ h =>
      obtain ⟨hevents, hholds⟩ := h.told
      exact ⟨[], by simpa [relock] using hevents, .nothing hholds⟩
  | stride h => exact h.told hs hx hopens

end Caller

end Work

/-! ## Along a run -/

/-- A slot is where the open dictionary of a locale is, if there is one. -/
def Shows (c : Cache δ) (l : Locale) (open? : Option Nat) : Prop :=
  ∀ i, open? = some i ↔ c.Holds i ∧ c.localeOf i = l

theorem about_append_singleton (l : Locale) (events : List Event) (e : Event) :
    Event.about l (events ++ [e]) =
      if e.locale = l then Event.about l events ++ [e] else Event.about l events := by
  simp only [Event.about]
  rw [List.filter_append]
  by_cases hl : e.locale = l <;> simp [hl]

/-- What a step tells goes on with the lives of a locale. -/
theorem Told.lives {c c' : Cache δ} {events es : List Event} {l : Locale} {open? : Option Nat}
    (h : Told c c' es) (hlocale : ∀ i, i < c.slots.length → c'.localeOf i = c.localeOf i)
    (hlives : Lives open? (Event.about l events)) (hshows : c.Shows l open?) :
    ∃ open?, Lives open? (Event.about l (events ++ es)) ∧ c'.Shows l open? := by
  have hheld : ∀ {i}, c.Holds i → c'.localeOf i = c.localeOf i := by
    intro i hi
    exact hlocale _ hi.lt
  -- a dictionary that is open before and after stays in its place
  have hstays : (∀ j, c'.Holds j ↔ c.Holds j) → c'.Shows l open? := by
    intro hsame i
    rw [hshows i, hsame i]
    exact and_congr_right fun hi => by rw [hheld hi]
  cases h with
  | nothing hsame => exact ⟨open?, by rwa [List.append_nil], hstays hsame⟩
  | @opened k o success hk hnone hadds =>
      rw [about_append_singleton]
      by_cases hl : c.localeOf k = l
      · subst hl
        have hno : open? = none := by
          cases open? with
          | none => rfl
          | some i =>
              obtain ⟨hi, hil⟩ := (hshows i).mp rfl
              exact absurd hi (hnone i hil)
        subst hno
        rw [if_pos rfl]
        cases success with
        | true =>
            have hlife := hlives.opened (e := ⟨c.label, k, c.localeOf k, .opened o true⟩) rfl
            refine ⟨some k, hlife, ?_⟩
            intro i
            rw [Option.some.injEq, hadds i]
            constructor
            · rintro rfl
              exact ⟨.inr ⟨rfl, rfl⟩, hlocale k hk⟩
            · rintro ⟨hi | ⟨rfl, -⟩, hil⟩
              · exact absurd hi (hnone i (hheld hi ▸ hil))
              · rfl
        | false =>
            refine ⟨none, .refused hlives rfl, hstays ?_⟩
            intro j
            simp [hadds j]
      · rw [if_neg hl]
        refine ⟨open?, hlives, ?_⟩
        intro i
        rw [hshows i, hadds i]
        constructor
        · rintro ⟨hi, hil⟩
          exact ⟨.inl hi, hheld hi ▸ hil⟩
        · rintro ⟨hi | ⟨rfl, -⟩, hil⟩
          · exact ⟨hi, hheld hi ▸ hil⟩
          · exact absurd (hlocale i hk ▸ hil) hl
  | @used i deed huses hi hsame =>
      rw [about_append_singleton]
      by_cases hl : c.localeOf i = l
      · rw [if_pos hl]
        have hopen := (hshows i).mpr ⟨hi, hl⟩
        subst hopen
        have hlife := Lives.used (e := ⟨c.label, i, c.localeOf i, deed⟩) hlives huses
        exact ⟨some i, hlife, hstays hsame⟩
      · rw [if_neg hl]
        exact ⟨open?, hlives, hstays hsame⟩
  | @closed i hi hdrops =>
      rw [about_append_singleton]
      by_cases hl : c.localeOf i = l
      · rw [if_pos hl]
        have hopen := (hshows i).mpr ⟨hi, hl⟩
        subst hopen
        have hlife := Lives.closed (e := ⟨c.label, i, c.localeOf i, .closed⟩) hlives rfl
        refine ⟨none, hlife, ?_⟩
        intro j
        rw [hdrops j]
        refine ⟨nofun, ?_⟩
        rintro ⟨⟨hj, hne⟩, hjl⟩
        have hsame := (hshows j).mpr ⟨hj, hheld hj ▸ hjl⟩
        exact absurd (Option.some.inj hsame).symm hne
      · rw [if_neg hl]
        refine ⟨open?, hlives, ?_⟩
        intro j
        rw [hshows j, hdrops j]
        constructor
        · rintro ⟨hj, hjl⟩
          refine ⟨⟨hj, ?_⟩, hheld hj ▸ hjl⟩
          rintro rfl
          exact hl hjl
        · rintro ⟨⟨hj, -⟩, hjl⟩
          exact ⟨hj, hheld hj ▸ hjl⟩

namespace Crowd

/-- The events of every locale are lives, and the open dictionaries are where they say. -/
def Living (c : Crowd σ δ) : Prop :=
  ∀ l, ∃ open?, Lives open? (Event.about l c.state.world.events) ∧
    c.state.cache.Shows l open?

theorem living_ofCapacity {label capacity : Nat} {o : Options} {st : σ} :
    (ofCapacity label capacity o st : Crowd σ δ).Living := by
  refine fun l => ⟨none, .nil, fun i => ⟨nofun, ?_⟩⟩
  rintro ⟨hi, -⟩
  exact absurd hi.lt (Nat.not_lt_zero i)

theorem living_act {c : Crowd σ δ} (hc : c.Sound) (hlives : c.Living) (a : Happening) :
    (c.act b a).Living := by
  have hhappens := happens_of_act (b := b) c a
  generalize c.act b a = c' at hhappens
  cases hhappens with
  | arrival => exact hlives
  | nothing => exact hlives
  | turn hx hturn =>
      have hmem := List.mem_of_getElem? hx
      have hopens := fun k => hc.isOpening hmem (k := k)
      obtain ⟨-, hlater, -⟩ := hturn.keeps hc.lineage (hc.fits _ hmem) hopens
      obtain ⟨es, hevents, htold⟩ := hturn.told hc.lineage (hc.fits _ hmem) hopens
      intro l
      obtain ⟨open?, hl, hshows⟩ := hlives l
      rw [hevents]
      exact htold.lives hlater.localeOf hl hshows

theorem living_run {c : Crowd σ δ} (hc : c.Sound) (hlives : c.Living) (acts : List Happening) :
    (c.run b acts).Living := by
  induction acts generalizing c with
  | nil => exact hlives
  | cons a acts ih => exact ih (hc.act a) (living_act hc hlives a)

/-- **One dictionary of a locale at a time.**  Whoever calls a cache and steps on in whatever order,
and whatever openings fail or break off: the events of every locale are lives, one after another,
and an open dictionary is where the last of them left it, so that there is one at most; a slot is
only opened while no slot of its locale has an open dictionary; and a question meets an open
dictionary or a stand-in, and a query that was started an open dictionary, until its end. -/
theorem one_dictionary_at_a_time (b : Backend σ δ) (st : σ) (label capacity : Nat) (o : Options)
    (acts : List Happening) :
    let c := (ofCapacity label capacity o st).run b acts
    (∀ l, ∃ open?, Lives open? (Event.about l c.state.world.events) ∧
      ∀ i, open? = some i ↔ c.state.cache.Holds i ∧ c.state.cache.localeOf i = l) ∧
    (∀ k on w, .opening k on w ∈ c.callers →
      ∀ i, c.state.cache.localeOf i = c.state.cache.localeOf k → ¬ c.state.cache.Holds i) ∧
    (∀ i a, .asking i a ∈ c.callers → ∃ r, c.state.cache.phase i = .ready r) ∧
    (∀ i q session, .answering i q session ∈ c.callers → c.state.cache.Holds i) := by
  intro c
  have hstart : (ofCapacity label capacity o st : Crowd σ δ).Living := by
    refine fun l => ⟨none, .nil, fun i => ⟨nofun, ?_⟩⟩
    rintro ⟨hi, -⟩
    exact absurd hi.lt (Nat.not_lt_zero i)
  have hsound : (ofCapacity label capacity o st : Crowd σ δ).Sound :=
    sound_ofCapacity label capacity o st
  have hc : c.Sound := hsound.run acts
  refine ⟨living_run hsound hstart acts, ?_, fun i a => hc.fits _, fun i q session => hc.fits _⟩
  intro k on w hmem i hil
  exact Heir.not_holds hc.lineage (hc.fits _ hmem) (hc.isOpening hmem rfl) hil

end Crowd

end Cache

end Spelling
