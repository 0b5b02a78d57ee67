import Spelling.Proofs.Cache.Answers
import Spelling.Proofs.Cache.Turn

/-!
# What the slots of a cache hold

A slot is up to date when what it holds, if it holds anything, was kept for its locale with the
contacts as they are now.  The slots of residents are up to date and have their locale (`Content`).

`Grows` is what the work of queries and of closing does: slots come, and no slot stops being up to
date.  Turning the contacts on or off is the only work that does otherwise.
-/

namespace Spelling.Cache

variable {σ δ : Type} {b : Backend σ δ} {fresh : Locale → Options → Loaded δ}

/-- What a slot holds, if anything, was kept with the contacts on or off. -/
def Current (b : Backend σ δ) (fresh : Locale → Options → Loaded δ) (on : Bool) (c : Cache δ)
    (i : Nat) : Prop :=
  ∀ r, c.phase i = .ready r → Kept b fresh (c.localeOf i) c.sessions on r

/-- A slot is there, has its locale and is up to date. -/
structure Right (b : Backend σ δ) (fresh : Locale → Options → Loaded δ) (c : Cache δ) (l : Locale)
    (i : Nat) : Prop where
  lt : i < c.slots.length
  locale : c.localeOf i = l
  current : c.Current b fresh c.useContacts i

/-- The slots of residents are up to date. -/
structure Content (b : Backend σ δ) (fresh : Locale → Options → Loaded δ) (n : Nat) (on : Bool)
    (c : Cache δ) : Prop where
  sessions : c.sessions = n
  useContacts : c.useContacts = on
  resident : ∀ l i, (l, i) ∈ c.resident → c.Right b fresh l i

/-- What the work of queries and of closing does. -/
structure Grows (b : Backend σ δ) (fresh : Locale → Options → Loaded δ) (c c' : Cache δ) :
    Prop where
  sessions : c'.sessions = c.sessions
  useContacts : c'.useContacts = c.useContacts
  right : ∀ l i, c.Right b fresh l i → c'.Right b fresh l i
  place : ∀ i, i < c.slots.length → i < c'.slots.length ∧ c'.localeOf i = c.localeOf i
  resident : ∀ l i, (l, i) ∈ c'.resident → (l, i) ∈ c.resident ∨ c'.Right b fresh l i

theorem content_ofCapacity (label capacity n : Nat) (on : Bool) :
    (ofCapacity label capacity ⟨on, n⟩ : Cache δ).Content b fresh n on :=
  ⟨rfl, rfl, nofun⟩

theorem Content.grows {n : Nat} {on : Bool} {c c' : Cache δ} (h : c.Content b fresh n on)
    (hs : c.Grows b fresh c') : c'.Content b fresh n on := by
  refine ⟨hs.sessions.trans h.sessions, hs.useContacts.trans h.useContacts, ?_⟩
  intro l i hi
  rcases hs.resident l i hi with hwas | hright
  · exact hs.right l i (h.resident l i hwas)
  · exact hright

theorem Grows.refl (c : Cache δ) : c.Grows b fresh c :=
  ⟨rfl, rfl, fun _ _ h => h, fun _ h => ⟨h, rfl⟩, fun _ _ h => .inl h⟩

theorem Grows.trans {c c' c'' : Cache δ} (h : c.Grows b fresh c') (h' : c'.Grows b fresh c'') :
    c.Grows b fresh c'' := by
  refine ⟨h'.sessions.trans h.sessions, h'.useContacts.trans h.useContacts,
    fun l i hi => h'.right l i (h.right l i hi), ?_, ?_⟩
  · intro i hi
    obtain ⟨hlt, hlocale⟩ := h.place i hi
    obtain ⟨hlt', hlocale'⟩ := h'.place i hlt
    exact ⟨hlt', hlocale'.trans hlocale⟩
  · intro l i hi
    rcases h'.resident l i hi with hwas | hright
    · rcases h.resident l i hwas with hwas | hright
      · exact .inl hwas
      · exact .inr (h'.right l i hright)
    · exact .inr hright

/-! ## Work that changes no slot but what is said of it -/

section Work

variable {c c' : Cache δ}

/-- Work that leaves what slots hold, and takes no slot among the residents. -/
theorem Grows.of_phase (hsessions : c'.sessions = c.sessions)
    (hcontacts : c'.useContacts = c.useContacts) (hlength : c'.slots.length = c.slots.length)
    (hlocale : ∀ i, c'.localeOf i = c.localeOf i)
    (hphase : ∀ i r, c'.phase i = .ready r → c.phase i = .ready r)
    (hresident : ∀ e, e ∈ c'.resident → e ∈ c.resident) : c.Grows b fresh c' := by
  refine ⟨hsessions, hcontacts, ?_, fun i hi => ⟨hlength.symm ▸ hi, hlocale i⟩,
    fun l i hi => .inl (hresident _ hi)⟩
  intro l i hi
  refine ⟨hlength.symm ▸ hi.lt, (hlocale i).trans hi.locale, ?_⟩
  intro r hr
  rw [hlocale, hsessions, hcontacts]
  exact hi.current r (hphase i r hr)

/-- Work on the lists of slots only. -/
theorem Grows.of_slots (hslots : c'.slots = c.slots) (hsessions : c'.sessions = c.sessions)
    (hcontacts : c'.useContacts = c.useContacts)
    (hresident : ∀ e, e ∈ c'.resident → e ∈ c.resident) : c.Grows b fresh c' := by
  refine .of_phase hsessions hcontacts (congrArg List.length hslots) ?_
    ?_ hresident
  · intro i
    rw [localeOf_eq, localeOf_eq, hslots]
  · intro i r hr
    rwa [phase_eq, hslots, ← phase_eq] at hr

theorem grows_lockRead (i : Nat) : c.Grows b fresh (c.lockRead i) :=
  .of_phase rfl rfl (length_modifySlot ..) (localeOf_lockRead c i)
    (fun j r hr => by rwa [phase_lockRead] at hr) fun _ h => h

theorem grows_unlockRead (i : Nat) : c.Grows b fresh (c.unlockRead i) :=
  .of_phase rfl rfl (length_modifySlot ..) (localeOf_unlockRead c i)
    (fun j r hr => by rwa [phase_unlockRead] at hr) fun _ h => h

theorem grows_settled (i : Nat) : c.Grows b fresh (c.settled i) :=
  .of_slots rfl rfl rfl fun _ h => h

theorem grows_forget (i : Nat) : c.Grows b fresh (c.forget i) :=
  .of_slots rfl rfl rfl fun _ h => (List.mem_filter.mp h).1

theorem grows_drain : c.Grows b fresh c.drain.2 :=
  .of_slots rfl rfl rfl fun _ h => absurd h List.not_mem_nil

/-- A resident that is asked for again stays where it is. -/
theorem grows_hit {l : Locale} {i : Nat} (hi : c.resident.lookup l = some i) (stats : CacheStats) :
    c.Grows b fresh { c with resident := put c.resident l i, stats } := by
  refine .of_slots rfl rfl rfl ?_
  intro e he
  rcases mem_put.mp he with rfl | ⟨he, -⟩
  · exact mem_of_lookup hi
  · exact he

/-- A new slot holds nothing yet. -/
theorem grows_enroll (l : Locale) : c.Grows b fresh (c.enroll l).2 := by
  have hplace : ∀ i, i < c.slots.length → i < (c.enroll l).2.slots.length ∧
      (c.enroll l).2.localeOf i = c.localeOf i := by
    intro i hi
    exact ⟨by simpa using Nat.lt_succ_of_lt hi, by rw [localeOf_enroll, if_neg (Nat.ne_of_lt hi)]⟩
  refine ⟨rfl, rfl, ?_, hplace, ?_⟩
  · intro m i hi
    obtain ⟨hlt, hlocale⟩ := hplace i hi.lt
    refine ⟨hlt, hlocale.trans hi.locale, ?_⟩
    intro r hr
    rw [phase_enroll, if_neg (Nat.ne_of_lt hi.lt)] at hr
    rw [hlocale]
    exact hi.current r hr
  · intro m i hi
    rcases List.mem_cons.mp hi with heq | hi
    · cases heq
      refine .inr ⟨by simp, by rw [localeOf_enroll, if_pos rfl], ?_⟩
      intro r hr
      rw [phase_enroll, if_pos rfl] at hr
      cases hr
    · refine .inl ?_
      split at hi
      · exact List.dropLast_subset _ hi
      · exact hi

variable {s : CacheState σ δ}

theorem grows_shut (i : Nat) : s.cache.Grows b fresh (s.shut b i).cache := by
  refine .of_phase ?_ ?_ (CacheState.length_shut ..) (CacheState.localeOf_shut b s i)
    ?_ (fun e he => by rwa [CacheState.resident_shut] at he)
  · rw [CacheState.cache_shut]
    rfl
  · rw [CacheState.cache_shut]
    rfl
  · intro j r hr
    rw [CacheState.phase_shut] at hr
    split at hr
    · cases hr
    · exact hr

/-- What an opening gives is kept for the locale of the slot. -/
theorem kept_loads {broke : σ → List String} (hb : b.Counted fresh broke) {k : Nat} {on : Bool}
    {r : Resource δ} (h : (s.loads b k on).phase (s.cache.localeOf k) = .ready r) :
    Kept b fresh (s.cache.localeOf k) s.cache.sessions on r := by
  rcases hb.load s.world.backend (s.cache.localeOf k) ⟨on, s.cache.sessions⟩ with
    ⟨hvalue, -⟩ | ⟨message, hvalue, -⟩
  · cases hloads : s.loads b k on with
    | opened d =>
        rw [hloads] at h
        cases h
        exact .opened (hvalue.symm.trans hloads)
    | failed e =>
        rw [hloads] at h
        cases h
        exact .failed (hvalue.symm.trans hloads)
    | broken message =>
        rw [hloads] at h
        cases h
  · rw [show s.loads b k on = .broken message from hvalue] at h
    cases h

theorem sessions_fill (k : Nat) (on : Bool) :
    (s.fill b k on).2.cache.sessions = s.cache.sessions := by
  rw [CacheState.cache_fill]
  rfl

theorem useContacts_fill (k : Nat) (on : Bool) :
    (s.fill b k on).2.cache.useContacts = s.cache.useContacts := by
  rw [CacheState.cache_fill]
  rfl

/-- A slot that was opened with the contacts as they are is up to date. -/
theorem right_fill {broke : σ → List String} (hb : b.Counted fresh broke) {k : Nat}
    (hk : k < s.cache.slots.length) :
    (s.fill b k s.cache.useContacts).2.cache.Right b fresh (s.cache.localeOf k) k := by
  refine ⟨by simpa using hk, CacheState.localeOf_fill .., ?_⟩
  intro r hr
  rw [CacheState.phase_fill b s _ hk, if_pos rfl] at hr
  rw [CacheState.localeOf_fill, sessions_fill, useContacts_fill]
  exact kept_loads hb hr

theorem grows_fill {broke : σ → List String} (hb : b.Counted fresh broke) {k : Nat}
    (hk : k < s.cache.slots.length) :
    s.cache.Grows b fresh (s.fill b k s.cache.useContacts).2.cache := by
  refine ⟨sessions_fill .., useContacts_fill .., ?_,
    fun i hi => ⟨by simpa using hi, CacheState.localeOf_fill ..⟩,
    fun l i hi => .inl (by rwa [CacheState.resident_fill] at hi)⟩
  intro l i hi
  by_cases hki : k = i
  · subst hki
    exact hi.locale ▸ right_fill hb hk
  · refine ⟨by simpa using hi.lt, (CacheState.localeOf_fill ..).trans hi.locale, ?_⟩
    intro r hr
    rw [CacheState.phase_fill b s _ hk, if_neg hki] at hr
    rw [CacheState.localeOf_fill, sessions_fill, useContacts_fill]
    exact hi.current r hr

end Work

/-! ## Turning the contacts on or off -/

section Contacts

variable {s : CacheState σ δ}

@[simp] theorem sessions_switchContacts (on : Bool) (i : Nat) :
    (s.switchContacts b on i).cache.sessions = s.cache.sessions := by
  rw [CacheState.cache_switchContacts]
  rfl

@[simp] theorem useContacts_switchContacts (on : Bool) (i : Nat) :
    (s.switchContacts b on i).cache.useContacts = s.cache.useContacts := by
  rw [CacheState.cache_switchContacts]
  rfl

/-- A slot whose contacts are turned on or off is up to date with that. -/
theorem current_switchContacts {was : Bool} (on : Bool) {i : Nat}
    (h : s.cache.Current b fresh was i) :
    (s.switchContacts b on i).cache.Current b fresh on i := by
  intro r hr
  rw [CacheState.phase_switchContacts, if_pos rfl] at hr
  rw [CacheState.localeOf_switchContacts, sessions_switchContacts]
  simp only [CacheState.switched] at hr
  split at hr
  · next d hd =>
    cases hr
    exact .switched (h _ hd)
  · next hother =>
    cases r with
    | dictionary d => exact absurd hr (hother d)
    | unavailable u => exact .unswitched (h _ hr)

theorem current_switchContacts_of_ne {was : Bool} (on : Bool) {i j : Nat} (hij : i ≠ j)
    (h : s.cache.Current b fresh was j) :
    (s.switchContacts b on i).cache.Current b fresh was j := by
  intro r hr
  rw [CacheState.phase_switchContacts, if_neg hij] at hr
  rw [CacheState.localeOf_switchContacts, sessions_switchContacts]
  exact h r hr

/-- Contacts are being turned on or off: the slots of residents are up to date but for some that are
still to be changed. -/
structure Turning (b : Backend σ δ) (fresh : Locale → Options → Loaded δ) (n : Nat) (on : Bool)
    (slots : List Nat) (c : Cache δ) : Prop where
  sessions : c.sessions = n
  useContacts : c.useContacts = on
  place : ∀ l i, (l, i) ∈ c.resident → i < c.slots.length ∧ c.localeOf i = l
  known : ∀ l i, (l, i) ∈ c.resident → ∃ was, c.Current b fresh was i
  current : ∀ l i, (l, i) ∈ c.resident → i ∈ slots ∨ c.Current b fresh on i

theorem Content.turning {n : Nat} {was : Bool} {c : Cache δ} (h : c.Content b fresh n was)
    (on : Bool) : Turning b fresh n on c.residentSlots { c with useContacts := on } :=
  ⟨h.sessions, rfl, fun l i hi => ⟨(h.resident l i hi).lt, (h.resident l i hi).locale⟩,
    fun l i hi => ⟨c.useContacts, (h.resident l i hi).current⟩,
    fun _ _ hi => .inl (List.mem_map_of_mem hi)⟩

theorem Turning.switch {n : Nat} {on : Bool} {i : Nat} {rest : List Nat}
    (h : Turning b fresh n on (i :: rest) s.cache) :
    Turning b fresh n on rest (s.switchContacts b on i).cache := by
  have hresident : ∀ {e}, e ∈ (s.switchContacts b on i).cache.resident → e ∈ s.cache.resident :=
    fun he => by rwa [CacheState.resident_switchContacts] at he
  refine ⟨(sessions_switchContacts ..).trans h.sessions,
    (useContacts_switchContacts ..).trans h.useContacts, ?_, ?_, ?_⟩
  · intro l j hj
    simpa using h.place l j (hresident hj)
  · intro l j hj
    obtain ⟨was, hwas⟩ := h.known l j (hresident hj)
    by_cases hij : i = j
    · subst hij
      exact ⟨on, current_switchContacts on hwas⟩
    · exact ⟨was, current_switchContacts_of_ne on hij hwas⟩
  · intro l j hj
    obtain ⟨was, hwas⟩ := h.known l j (hresident hj)
    by_cases hij : i = j
    · subst hij
      exact .inr (current_switchContacts on hwas)
    · rcases h.current l j (hresident hj) with hmem | hnow
      · exact .inl ((List.mem_cons.mp hmem).resolve_left (Ne.symm hij))
      · exact .inr (current_switchContacts_of_ne on hij hnow)

theorem Turning.content {n : Nat} {on : Bool} {c : Cache δ} (h : Turning b fresh n on [] c) :
    c.Content b fresh n on := by
  refine ⟨h.sessions, h.useContacts, ?_⟩
  intro l i hi
  obtain ⟨hlt, hlocale⟩ := h.place l i hi
  refine ⟨hlt, hlocale, ?_⟩
  rw [h.useContacts]
  exact (h.current l i hi).resolve_left List.not_mem_nil

end Contacts

end Spelling.Cache
