import Spelling.Proofs.Cache.Content

/-!
# Callers of a cache in which others are at work

A caller that asks the dictionary of a locale is on its way to the answer that is owed (`Asks`), and
stays so whatever other callers do that ask or close.  A caller that closes everything has nothing
to know (`Closes`).  A caller that turns the contacts on or off is alone (`Sets`).
-/

namespace Spelling.Cache

variable {σ δ : Type} {b : Backend σ δ} {fresh : Locale → Options → Loaded δ}

/-- What a question about a locale should be answered now. -/
def owes (b : Backend σ δ) (fresh : Locale → Options → Loaded δ) (c : Cache δ) (l : Locale)
    (a : Ask) : Outcome Reply :=
  (fresh l ⟨c.useContacts, c.sessions⟩).reply b a

namespace Caller

/-- A caller asks the dictionary of a locale something, or has been answered. -/
inductive Asks (b : Backend σ δ) (fresh : Locale → Options → Loaded δ) (c : Cache δ) (l : Locale)
    (a : Ask) : Caller → Prop
  | finding : Asks b fresh c l a (finding l (.ask a))
  | evicting {k j : Nat} {p? : Option Nat} : k < c.slots.length → c.localeOf k = l →
      Asks b fresh c l a (evicting k j p? (.ask a))
  | evicted {k j : Nat} {p? : Option Nat} : k < c.slots.length → c.localeOf k = l →
      Asks b fresh c l a (evicted k j p? (.ask a))
  | retiring {k p : Nat} : k < c.slots.length → c.localeOf k = l →
      Asks b fresh c l a (retiring k p (.ask a))
  | retired {k p : Nat} : k < c.slots.length → c.localeOf k = l →
      Asks b fresh c l a (retired k p (.ask a))
  | choosing {k : Nat} : k < c.slots.length → c.localeOf k = l →
      Asks b fresh c l a (choosing k (.ask a))
  | opening {k : Nat} : k < c.slots.length → c.localeOf k = l →
      Asks b fresh c l a (opening k c.useContacts (.ask a))
  | entering {i : Nat} : c.Right b fresh l i → Asks b fresh c l a (entering i a .retry)
  | asking {i : Nat} {a' : Ask} : c.Right b fresh l i →
      c.owes b fresh l a' = c.owes b fresh l a → Asks b fresh c l a (asking i a')
  | answering {i session : Nat} {q : Query} : c.Right b fresh l i →
      c.owes b fresh l (.suggest q session) = c.owes b fresh l a →
      Asks b fresh c l a (answering i q session)
  | forgetting {i : Nat} : i < c.slots.length → c.localeOf i = l →
      Asks b fresh c l a (forgetting i a)
  | retrying {i : Nat} : i < c.slots.length → c.localeOf i = l →
      Asks b fresh c l a (retrying i a)
  | leaving {i : Nat} : Asks b fresh c l a (leaving i (.ofOutcome .reply (c.owes b fresh l a)))
  | done : Asks b fresh c l a (done (.ofOutcome .reply (c.owes b fresh l a)))

variable {c c' : Cache δ} {l : Locale} {a : Ask} {x : Caller}

theorem owes_grows (hs : c.Grows b fresh c') (l : Locale) (a : Ask) :
    c'.owes b fresh l a = c.owes b fresh l a := by
  rw [owes, owes, hs.useContacts, hs.sessions]

/-- Other callers that ask or close do not lead a caller astray. -/
theorem Asks.grows (h : Asks b fresh c l a x) (hs : c.Grows b fresh c') :
    Asks b fresh c' l a x := by
  have hplace : ∀ {k}, k < c.slots.length → c.localeOf k = l →
      k < c'.slots.length ∧ c'.localeOf k = l := by
    intro k hk hl
    exact ⟨(hs.place _ hk).1, (hs.place _ hk).2.trans hl⟩
  cases h with
  | finding => exact .finding
  | evicting hk hl => exact .evicting (hplace hk hl).1 (hplace hk hl).2
  | evicted hk hl => exact .evicted (hplace hk hl).1 (hplace hk hl).2
  | retiring hk hl => exact .retiring (hplace hk hl).1 (hplace hk hl).2
  | retired hk hl => exact .retired (hplace hk hl).1 (hplace hk hl).2
  | choosing hk hl => exact .choosing (hplace hk hl).1 (hplace hk hl).2
  | opening hk hl =>
      rw [← hs.useContacts]
      exact .opening (hplace hk hl).1 (hplace hk hl).2
  | entering hi => exact .entering (hs.right _ _ hi)
  | asking hi howes =>
      refine .asking (hs.right _ _ hi) ?_
      rw [owes_grows hs, owes_grows hs]
      exact howes
  | answering hi howes =>
      refine .answering (hs.right _ _ hi) ?_
      rw [owes_grows hs, owes_grows hs]
      exact howes
  | forgetting hi hl => exact .forgetting (hplace hi hl).1 (hplace hi hl).2
  | retrying hi hl => exact .retrying (hplace hi hl).1 (hplace hi hl).2
  | leaving =>
      rw [← owes_grows hs]
      exact .leaving
  | done =>
      rw [← owes_grows hs]
      exact .done

/-- What a slot that is up to date answers is owed. -/
theorem reply_of_right (hb : b.Dependable fresh) {i : Nat} (hi : c.Right b fresh l i)
    {r : Resource δ} (hr : c.phase i = .ready r) (a : Ask) :
    r.reply b a = c.owes b fresh l a := by
  have hkept := hi.current r hr
  rw [hi.locale] at hkept
  exact hb.kept l c.sessions c.useContacts r hkept a

section Steps

variable {s t : CacheState σ δ} {y : Caller} {n : Nat}

theorem asks_afterEviction {k : Nat} (hk : k < c.slots.length) (hl : c.localeOf k = l)
    (p? : Option Nat) : Asks b fresh c l a (afterEviction k p? (.ask a)) := by
  cases p? with
  | none => exact .choosing hk hl
  | some p => exact .retiring hk hl

theorem asks_begin {k : Nat} (hk : k < c.slots.length) (hl : c.localeOf k = l)
    (e? p? : Option Nat) : Asks b fresh c l a (begin k e? p? (.ask a)) := by
  cases e? with
  | some j => exact .evicting hk hl
  | none =>
      cases p? with
      | none => exact .choosing hk hl
      | some p => exact .retiring hk hl

/-- Inside the lock on the residents, a caller finds the slot of its locale or gets a new one. -/
theorem Asks.visit (h : Asks b fresh s.cache l a x) {m : Nat} {on : Bool}
    (hc : s.cache.Content b fresh m on) (hv : Visit s x t y) :
    s.cache.Grows b fresh t.cache ∧ Asks b fresh t.cache l a y := by
  cases hv with
  | hit hi =>
      cases h
      have hgrows : s.cache.Grows b fresh _ :=
        grows_hit hi { s.cache.stats with hits := s.cache.stats.hits + 1 }
      have hmem : (l, _) ∈ s.cache.resident := mem_of_lookup hi
      exact ⟨hgrows, .entering (hgrows.right _ _ (hc.resident _ _ hmem))⟩
  | miss hnone =>
      cases h
      rw [CacheState.cache_reportFirst]
      refine ⟨grows_enroll _, asks_begin (by simp) ?_ _ _⟩
      rw [CacheState.cache_onCache, localeOf_enroll, if_pos rfl]
  | @evicted k j p? w =>
      rw [CacheState.cache_reportPrevious?]
      have hgrows : s.cache.Grows b fresh (s.cache.settled j).countEviction :=
        .of_slots rfl rfl rfl fun _ he => he
      cases h.grows hgrows with
      | evicted hk hl => exact ⟨hgrows, asks_afterEviction hk hl p?⟩
  | retired =>
      cases h with
      | retired hk hl => exact ⟨grows_settled _, .choosing hk hl⟩
  | forgetting =>
      cases h with
      | forgetting hi hl => exact ⟨grows_forget _, .retrying hi hl⟩
  | draining | closed | collecting | peeking => cases h

/-- What a caller asks next, or is answered, when it finds a slot ready. -/
theorem Asks.entered {i : Nat} (hi : s.cache.Right b fresh l i)
    (hgrows : s.cache.Grows b fresh (s.cache.lockRead i)) :
    Asks b fresh (s.cache.lockRead i) l a (entered s i a .retry) := by
  have hright := hgrows.right l i hi
  simp only [Caller.entered]
  cases s.cache.phase i with
  | ready r => exact .asking hright rfl
  | loading => exact .forgetting hright.lt hright.locale
  | closed => exact .retrying hright.lt hright.locale

theorem asks_leaving {o : Outcome Reply} (h : c.owes b fresh l a = o) (i : Nat) :
    Asks b fresh c l a (leaving i (.ofOutcome .reply o)) :=
  h ▸ .leaving

theorem asks_done {o : Outcome Reply} (h : c.owes b fresh l a = o) :
    Asks b fresh c l a (done (.ofOutcome .reply o)) :=
  h ▸ .done

/-- Outside of the lock on the residents, a caller comes closer to what is owed. -/
theorem Asks.stride (hb : b.Dependable fresh) (h : Asks b fresh s.cache l a x)
    (hs : Stride b s x t y) :
    s.cache.Grows b fresh t.cache ∧ Asks b fresh t.cache l a y := by
  cases hs with
  | @evicting k j p? w _ =>
      have hgrows : s.cache.Grows b fresh (s.shut b j).cache := grows_shut j
      cases h.grows hgrows with
      | evicting hk hl => exact ⟨hgrows, .evicted hk hl⟩
  | @retiring k p w _ =>
      have hgrows : s.cache.Grows b fresh (s.shut b p).cache := grows_shut p
      cases h.grows hgrows with
      | retiring hk hl => exact ⟨hgrows, .retired hk hl⟩
  | choosing =>
      cases h with
      | choosing hk hl => exact ⟨.refl _, .opening hk hl⟩
  | @opened k on w hnone =>
      cases h with
      | opening hk hl =>
          exact ⟨grows_fill hb.counted hk, .entering (hl ▸ right_fill hb.counted hk)⟩
  | @broken k on w message hsome =>
      cases h with
      | opening hk hl =>
          have hgrows := grows_fill (s := s) hb.counted hk
          refine ⟨hgrows, asks_done (o := .broken message) ?_⟩
          have hloads : s.loads b k s.cache.useContacts =
              fresh l ⟨s.cache.useContacts, s.cache.sessions⟩ := hl ▸ hb.sure _ _ _
          rw [owes_grows hgrows, owes, ← hloads]
          cases hvalue : s.loads b k s.cache.useContacts with
          | opened _ | failed _ =>
              rw [hvalue] at hsome
              cases hsome
          | broken m =>
              rw [hvalue] at hsome
              cases hsome
              rfl
  | @entering i a' f hcan =>
      cases h with
      | entering hi => exact ⟨grows_lockRead _, .entered hi (grows_lockRead _)⟩
  | exhausted hd =>
      cases h with
      | asking hi howes =>
          refine ⟨.refl _, asks_leaving (o := .returned (.flag false)) ?_ _⟩
          rw [← howes, ← reply_of_right hb hi hd]
          rfl
  | @found i word rest d hd hword =>
      cases h with
      | asking hi howes =>
          refine ⟨.refl _, asks_leaving (o := .ofFlag (b.contains d word)) ?_ _⟩
          rw [CacheState.cache_note, ← howes, ← reply_of_right hb hi hd]
          exact congrArg Outcome.ofFlag (Backend.containsAny_of_stops rest hword)
  | @missed i word rest d hd hword =>
      cases h with
      | asking hi howes =>
          refine ⟨.refl _, .asking hi ?_⟩
          rw [CacheState.cache_note, ← howes, ← reply_of_right hb hi hd,
            ← reply_of_right hb hi hd]
          simp only [Resource.reply, Backend.reply, Backend.containsAny, hword]
  | starting hd =>
      cases h with
      | asking hi howes => exact ⟨.refl _, .answering hi howes⟩
  | @main i d hd =>
      cases h with
      | asking hi howes =>
          refine ⟨.refl _, asks_leaving (o := .ofFlag (b.hasMain d)) ?_ _⟩
          rw [← howes, ← reply_of_right hb hi hd]
          rfl
  | @standIn i a' u hu =>
      cases h with
      | asking hi howes =>
          refine ⟨.refl _, asks_leaving (o := .returned a'.ofUnavailable) ?_ _⟩
          rw [← howes, ← reply_of_right hb hi hu]
          rfl
  | answering hd =>
      cases h with
      | answering hi howes =>
          refine ⟨.refl _, asks_leaving ?_ _⟩
          rw [← howes, ← reply_of_right hb hi hd]
          rfl
  | @retrying i a' =>
      cases h with
      | retrying hi hl => exact ⟨grows_unlockRead _, hl ▸ .finding⟩
  | @leaving i answer =>
      have hgrows : s.cache.Grows b fresh (s.cache.unlockRead i) := grows_unlockRead i
      cases h.grows hgrows with
      | leaving => exact ⟨hgrows, .done⟩
  | inspecting | closing | closedAll | switching | applying | appliedAll => cases h

theorem grows_relock (holder? : Option Nat) (s : CacheState σ δ) :
    s.cache.Grows b fresh (relock holder? s).cache :=
  .of_slots rfl rfl rfl fun _ he => he

/-- One step of a caller that asks, among others that ask or close. -/
theorem Asks.turn (hb : b.Dependable fresh) (h : Asks b fresh s.cache l a x) {m : Nat} {on : Bool}
    (hc : s.cache.Content b fresh m on) (ht : Turn b n s x t y) :
    s.cache.Grows b fresh t.cache ∧ Asks b fresh t.cache l a y := by
  cases ht with
  | lock _ _ => exact ⟨grows_relock _ s, h.grows (grows_relock _ s)⟩
  | visit _ hv =>
      obtain ⟨hgrows, hy⟩ := h.visit hc hv
      exact ⟨hgrows.trans (grows_relock _ _), hy.grows (grows_relock _ _)⟩
  | stride hs => exact h.stride hb hs

/-! ## Closing everything -/

/-- A caller closes every dictionary, or has done so. -/
inductive Closes : Caller → Prop
  | draining : Closes draining
  | closing {slots : List Nat} : Closes (closing slots)
  | closed {i : Nat} {rest : List Nat} : Closes (closed i rest)
  | done : Closes (done .nothing)

theorem closes_closeNext (slots : List Nat) : Closes (closeNext slots) := by
  cases slots with
  | nil => exact .done
  | cons i rest => exact .closing

theorem Closes.turn (h : Closes x) (ht : Turn b n s x t y) :
    s.cache.Grows b fresh t.cache ∧ Closes y := by
  cases ht with
  | lock _ _ => exact ⟨grows_relock _ s, h⟩
  | visit _ hv =>
      cases hv with
      | draining =>
          refine ⟨.trans ?_ (grows_relock _ _), closes_closeNext _⟩
          rw [CacheState.cache_reportDrain]
          exact grows_drain
      | @closed i rest =>
          have hgrows : s.cache.Grows b fresh (relock none (s.onCache (·.settled i))).cache :=
            (grows_settled i).trans (grows_relock none (s.onCache (·.settled i)))
          exact ⟨hgrows, closes_closeNext _⟩
      | hit | miss | evicted | retired | forgetting | collecting | peeking => cases h
  | stride hs =>
      cases hs with
      | closing _ => exact ⟨grows_shut _, .closed⟩
      | closedAll => exact ⟨.refl _, .done⟩
      | evicting | retiring | choosing | opened | broken | entering | exhausted | found | missed
      | starting | main | standIn | answering | retrying | leaving | inspecting | switching
      | applying | appliedAll => cases h

/-! ## Turning the contacts on or off -/

/-- A caller turns the contacts on or off while nobody else is at work, or has done so. -/
inductive Sets (b : Backend σ δ) (fresh : Locale → Options → Loaded δ) (m : Nat) (was on : Bool)
    (c : Cache δ) : Caller → Prop
  | switching : c.Content b fresh m was → Sets b fresh m was on c (switching on)
  | collecting : Turning b fresh m on c.residentSlots c → Sets b fresh m was on c (collecting on)
  | applying {slots : List Nat} : Turning b fresh m on slots c →
      Sets b fresh m was on c (applying on slots)
  | done : c.Content b fresh m on → Sets b fresh m was on c (done .nothing)

variable {m : Nat} {was on : Bool}

theorem sets_applyNext {slots : List Nat} (h : Turning b fresh m on slots c) :
    Sets b fresh m was on c (applyNext on slots) := by
  cases slots with
  | nil => exact .done h.content
  | cons i rest => exact .applying h

theorem turning_relock {slots : List Nat} (h : Turning b fresh m on slots s.cache)
    (holder? : Option Nat) : Turning b fresh m on slots (relock holder? s).cache :=
  ⟨h.sessions, h.useContacts, h.place, h.known, h.current⟩

theorem Sets.turn (h : Sets b fresh m was on s.cache x) (ht : Turn b n s x t y) :
    Sets b fresh m was on t.cache y := by
  cases ht with
  | lock hvisits _ =>
      cases h with
      | collecting h => exact .collecting (turning_relock h _)
      | switching | applying | done => cases hvisits
  | visit _ hv =>
      cases hv with
      | collecting =>
          cases h with
          | collecting h => exact sets_applyNext (turning_relock h _)
      | hit | miss | evicted | retired | forgetting | draining | closed | peeking => cases h
  | stride hs =>
      cases hs with
      | switching =>
          cases h with
          | switching h => exact .collecting (h.turning _)
      | applying _ =>
          cases h with
          | applying h => exact sets_applyNext h.switch
      | appliedAll =>
          cases h with
          | applying h => exact .done h.content
      | evicting | retiring | choosing | opened | broken | entering | exhausted | found | missed
      | starting | main | standIn | answering | retrying | leaving | inspecting | closing
      | closedAll => cases h

end Steps

end Caller

end Spelling.Cache
