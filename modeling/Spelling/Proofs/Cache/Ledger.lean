import Mathlib.Data.List.Nodup
import Spelling.Proofs.Cache.Lives

/-!
# The ledger of a cache

Every opening that gave a dictionary and every close of one is an event, and a slot is given a
dictionary once at most.  So the events of a cache are a ledger of slots:

    `openedIn`      the slots that were given a dictionary
    `closedIn`      the slots whose dictionary was closed
    `unclosedIn`    the slots that were given one which was not closed

`Ledger` holds this ledger against the cache itself: no slot stands twice on either side, none is
closed that was not opened, and the difference is exactly what the cache still holds.  Events of
other caches are not its business, since several caches share one world.
-/

namespace Spelling

variable {σ δ : Type} {b : Backend σ δ}

namespace Deed

/-- Whether a deed gives a slot a dictionary. -/
def opens : Deed → Bool
  | opened _ success => success
  | lookedUp _ | queried .. | contactsSet _ | closed => false

/-- Whether a deed closes a dictionary. -/
def closes : Deed → Bool
  | closed => true
  | opened .. | lookedUp _ | queried .. | contactsSet _ => false

theorem eq_opened_of_opens {deed : Deed} (h : deed.opens = true) : ∃ o, deed = opened o true := by
  cases deed with
  | opened o success =>
      obtain rfl : success = true := h
      exact ⟨o, rfl⟩
  | lookedUp | queried | contactsSet | closed => cases h

theorem opens_of_uses {deed : Deed} (h : deed.uses = true) : deed.opens = false := by
  cases deed with
  | lookedUp _ | queried _ _ | contactsSet _ => rfl
  | opened _ _ | closed => cases h

theorem closes_of_uses {deed : Deed} (h : deed.uses = true) : deed.closes = false := by
  cases deed with
  | lookedUp _ | queried _ _ | contactsSet _ => rfl
  | opened _ _ | closed => cases h

end Deed

namespace Event

/-- The slots of a cache to which a deed of some kind was done, in the order of the events. -/
def slotsOf (kind : Deed → Bool) (cache : Nat) (events : List Event) : List Nat :=
  (events.filter fun e => e.cache == cache && kind e.deed).map (·.slot)

/-- The slots of a cache that were given a dictionary. -/
def openedIn (cache : Nat) (events : List Event) : List Nat := slotsOf Deed.opens cache events

/-- The slots of a cache whose dictionary was closed. -/
def closedIn (cache : Nat) (events : List Event) : List Nat := slotsOf Deed.closes cache events

/-- The slots of a cache that were given a dictionary which was not closed. -/
def unclosedIn (cache : Nat) (events : List Event) : List Nat :=
  (openedIn cache events).filter (· ∉ closedIn cache events)

section Slots

variable {kind : Deed → Bool} {cache : Nat} {events : List Event} {e : Event}

theorem slotsOf_concat (hcache : e.cache = cache) (hkind : kind e.deed = true) :
    slotsOf kind cache (events ++ [e]) = slotsOf kind cache events ++ [e.slot] := by
  simp [slotsOf, hcache, hkind]

theorem slotsOf_concat_of_kind (hkind : kind e.deed = false) :
    slotsOf kind cache (events ++ [e]) = slotsOf kind cache events := by
  simp [slotsOf, hkind]

theorem slotsOf_append (events events' : List Event) :
    slotsOf kind cache (events ++ events') =
      slotsOf kind cache events ++ slotsOf kind cache events' := by
  rw [slotsOf, List.filter_append, List.map_append]
  rfl

/-- Events of other caches are none of this one. -/
theorem slotsOf_append_of_ne {es : List Event} (hes : ∀ e ∈ es, e.cache ≠ cache) :
    slotsOf kind cache (events ++ es) = slotsOf kind cache events := by
  have hnone : (es.filter fun e => e.cache == cache && kind e.deed) = [] := by
    refine List.filter_eq_nil_iff.mpr ?_
    intro e he
    simp [hes e he]
  rw [slotsOf_append, slotsOf, slotsOf, hnone, List.map_nil, List.append_nil]

theorem mem_slotsOf {i : Nat} : i ∈ slotsOf kind cache events ↔
    ∃ e ∈ events, e.cache = cache ∧ kind e.deed = true ∧ e.slot = i := by
  simp [slotsOf, and_assoc]

theorem mem_unclosedIn {i : Nat} : i ∈ unclosedIn cache events ↔
    i ∈ openedIn cache events ∧ i ∉ closedIn cache events := by
  simp [unclosedIn]

end Slots

end Event

namespace Cache

/-- The events of a cache as a ledger of its dictionaries. -/
structure Ledger (label : Nat) (events : List Event) (c : Cache δ) : Prop where
  opened_nodup : (Event.openedIn label events).Nodup
  closed_nodup : (Event.closedIn label events).Nodup
  opened_of_closed : ∀ i ∈ Event.closedIn label events, i ∈ Event.openedIn label events
  holds_iff : ∀ i, c.Holds i ↔ i ∈ Event.unclosedIn label events
  opened : ∀ i ∈ Event.openedIn label events, i < c.slots.length ∧ c.isOpening i = false

theorem ledger_nil (label : Nat) {c : Cache δ} (hslots : c.slots = []) : c.Ledger label [] where
  opened_nodup := List.nodup_nil
  closed_nodup := List.nodup_nil
  opened_of_closed := nofun
  holds_iff i := by
    refine ⟨?_, nofun⟩
    intro hi
    have hlt := hi.lt
    rw [hslots] at hlt
    exact absurd hlt (Nat.not_lt_zero i)
  opened := nofun

section Ledger

variable {label : Nat} {events es : List Event} {c c' : Cache δ}

/-- Whatever was opened is held or was closed. -/
theorem Ledger.closed_of_opened (h : c.Ledger label events) {i : Nat}
    (hi : i ∈ Event.openedIn label events) (hheld : ¬ c.Holds i) :
    i ∈ Event.closedIn label events := by
  refine Decidable.byContradiction ?_
  intro hclosed
  exact hheld ((h.holds_iff i).mpr (Event.mem_unclosedIn.mpr ⟨hi, hclosed⟩))

/-- Whatever was opened and is not held any more was closed once. -/
theorem Ledger.count_closed (h : c.Ledger label events) {i : Nat}
    (hi : i ∈ Event.openedIn label events) (hheld : ¬ c.Holds i) :
    (Event.closedIn label events).count i = 1 :=
  List.count_eq_one_of_mem h.closed_nodup (h.closed_of_opened hi hheld)

theorem Ledger.unclosed_nodup (h : c.Ledger label events) :
    (Event.unclosedIn label events).Nodup :=
  h.opened_nodup.filter _

/-- What a slot was once, it stays to the ledger while other work goes on. -/
structure Settling (c c' : Cache δ) : Prop where
  length_le : c.slots.length ≤ c'.slots.length
  unopened : ∀ i, i < c.slots.length → c.isOpening i = false → c'.isOpening i = false
  comes : ∀ i, c'.Holds i → ¬ c.Holds i → c.isOpening i = true ∧ c'.isOpening i = false

/-- Nothing is booked, and the same dictionaries are held. -/
theorem Ledger.same (h : c.Ledger label events) (hs : c.Settling c')
    (hopened : Event.openedIn label (events ++ es) = Event.openedIn label events)
    (hclosed : Event.closedIn label (events ++ es) = Event.closedIn label events)
    (hholds : ∀ i, c'.Holds i ↔ c.Holds i) : c'.Ledger label (events ++ es) := by
  refine ⟨hopened ▸ h.opened_nodup, hclosed ▸ h.closed_nodup, ?_, ?_, ?_⟩
  · rw [hopened, hclosed]
    exact h.opened_of_closed
  · intro i
    rw [hholds, h.holds_iff, Event.mem_unclosedIn, Event.mem_unclosedIn, hopened, hclosed]
  · intro i hi
    rw [hopened] at hi
    obtain ⟨hlt, hopen⟩ := h.opened i hi
    exact ⟨Nat.lt_of_lt_of_le hlt hs.length_le, hs.unopened i hlt hopen⟩

/-- What some work tells is booked. -/
theorem Ledger.told (h : c.Ledger label events) (hlabel : c.label = label) (hs : c.Settling c')
    (htold : Told c c' es) : c'.Ledger label (events ++ es) := by
  cases htold with
  | nothing hholds => exact h.same hs (by rw [List.append_nil]) (by rw [List.append_nil]) hholds
  | used huses _ hholds =>
      exact h.same hs (Event.slotsOf_concat_of_kind (Deed.opens_of_uses huses))
        (Event.slotsOf_concat_of_kind (Deed.closes_of_uses huses)) hholds
  | @opened k o success hk hnone hadds =>
      have hclosed : Event.closedIn label
          (events ++ [⟨c.label, k, c.localeOf k, .opened o success⟩]) =
            Event.closedIn label events := Event.slotsOf_concat_of_kind rfl
      cases success with
      | false =>
          refine h.same hs (Event.slotsOf_concat_of_kind rfl) hclosed ?_
          intro i
          simp [hadds i]
      | true =>
          have hopened : Event.openedIn label
              (events ++ [⟨c.label, k, c.localeOf k, .opened o true⟩]) =
                Event.openedIn label events ++ [k] := Event.slotsOf_concat hlabel rfl
          have hgets : c'.Holds k := (hadds k).mpr (.inr ⟨rfl, rfl⟩)
          obtain ⟨hwas, hopen⟩ := hs.comes k hgets (hnone k rfl)
          -- a slot that somebody opens was not given a dictionary before
          have hnew : k ∉ Event.openedIn label events := by
            intro hmem
            rw [(h.opened k hmem).2] at hwas
            cases hwas
          refine ⟨?_, hclosed ▸ h.closed_nodup, ?_, ?_, ?_⟩
          · rw [hopened]
            refine List.nodup_append.mpr ⟨h.opened_nodup, by simp, ?_⟩
            rintro i hi j hj rfl
            cases List.mem_singleton.mp hj
            exact hnew hi
          · rw [hopened, hclosed]
            intro i hi
            exact List.mem_append_left _ (h.opened_of_closed i hi)
          · intro i
            rw [hadds, h.holds_iff, Event.mem_unclosedIn, Event.mem_unclosedIn, hopened, hclosed,
              List.mem_append, List.mem_singleton]
            constructor
            · rintro (⟨hi, hi'⟩ | ⟨rfl, -⟩)
              · exact ⟨.inl hi, hi'⟩
              · exact ⟨.inr rfl, fun hi => hnew (h.opened_of_closed _ hi)⟩
            · rintro ⟨hi | rfl, hi'⟩
              · exact .inl ⟨hi, hi'⟩
              · exact .inr ⟨rfl, rfl⟩
          · intro i hi
            rw [hopened] at hi
            rcases List.mem_append.mp hi with hi | hi
            · obtain ⟨hlt, hopen⟩ := h.opened i hi
              exact ⟨Nat.lt_of_lt_of_le hlt hs.length_le, hs.unopened i hlt hopen⟩
            · cases List.mem_singleton.mp hi
              exact ⟨Nat.lt_of_lt_of_le hk hs.length_le, hopen⟩
  | @closed i hi hdrops =>
      have hopened : Event.openedIn label
          (events ++ [⟨c.label, i, c.localeOf i, .closed⟩]) = Event.openedIn label events :=
        Event.slotsOf_concat_of_kind rfl
      have hclosed : Event.closedIn label
          (events ++ [⟨c.label, i, c.localeOf i, .closed⟩]) = Event.closedIn label events ++ [i] :=
        Event.slotsOf_concat hlabel rfl
      obtain ⟨hmem, hnew⟩ := Event.mem_unclosedIn.mp ((h.holds_iff i).mp hi)
      refine ⟨hopened ▸ h.opened_nodup, ?_, ?_, ?_, ?_⟩
      · rw [hclosed]
        refine List.nodup_append.mpr ⟨h.closed_nodup, by simp, ?_⟩
        rintro j hj k hk rfl
        cases List.mem_singleton.mp hk
        exact hnew hj
      · rw [hopened, hclosed]
        intro j hj
        rcases List.mem_append.mp hj with hj | hj
        · exact h.opened_of_closed j hj
        · cases List.mem_singleton.mp hj
          exact hmem
      · intro j
        rw [hdrops, h.holds_iff, Event.mem_unclosedIn, Event.mem_unclosedIn, hopened, hclosed,
          List.mem_append, List.mem_singleton, not_or, and_assoc]
      · intro j hj
        rw [hopened] at hj
        obtain ⟨hlt, hopen⟩ := h.opened j hj
        exact ⟨Nat.lt_of_lt_of_le hlt hs.length_le, hs.unopened j hlt hopen⟩

end Ledger

/-! ## One step -/

section Step

variable {s t : CacheState σ δ} {x y : Caller} {n : Nat}

/-- Work that opens no slot and gives none a dictionary. -/
theorem Settling.of_le {c c' : Cache δ} (hlength : c.slots.length ≤ c'.slots.length)
    (hopening : ∀ i, i < c.slots.length → c'.isOpening i = c.isOpening i)
    (hholds : ∀ i, c'.Holds i → c.Holds i) : c.Settling c' :=
  ⟨hlength, fun i hi h => (hopening i hi).trans h, fun i hi hno => absurd (hholds i hi) hno⟩

theorem Settling.of_slots {c c' : Cache δ} (h : c'.slots = c.slots) : c.Settling c' :=
  .of_le (Nat.le_of_eq (congrArg List.length h).symm) (fun i _ => isOpening_of_slots h i)
    fun i => (holds_of_slots h i).mp

theorem settling_shut (i : Nat) : s.cache.Settling (s.shut b i).cache := by
  refine .of_le (Nat.le_of_eq (CacheState.length_shut ..).symm)
    (fun j _ => CacheState.isOpening_shut ..) ?_
  rintro j ⟨d, hd⟩
  rw [CacheState.phase_shut] at hd
  split at hd
  · cases hd
  · exact ⟨d, hd⟩

theorem settling_switchContacts (on : Bool) (i : Nat) :
    s.cache.Settling (s.switchContacts b on i).cache := by
  refine .of_le (Nat.le_of_eq (CacheState.length_switchContacts ..).symm)
    (fun j _ => CacheState.isOpening_switchContacts ..) ?_
  rintro j ⟨d, hd⟩
  rw [CacheState.phase_switchContacts] at hd
  split at hd
  · simp only [CacheState.switched] at hd
    split at hd
    · next d' hd' => exact ⟨d', hd'⟩
    · exact ⟨d, hd⟩
  · exact ⟨d, hd⟩

theorem settling_fill {k : Nat} (on : Bool) (hlt : k < s.cache.slots.length)
    (hopen : s.cache.isOpening k = true) : s.cache.Settling (s.fill b k on).2.cache := by
  refine ⟨Nat.le_of_eq (CacheState.length_fill ..).symm, ?_, ?_⟩
  · intro i _ hi
    rw [CacheState.isOpening_fill]
    split
    · rfl
    · exact hi
  · rintro i ⟨d, hd⟩ hno
    rw [CacheState.phase_fill b s on hlt] at hd
    by_cases hki : k = i
    · subst hki
      rw [CacheState.isOpening_fill, if_pos rfl]
      exact ⟨hopen, rfl⟩
    · rw [if_neg hki] at hd
      exact absurd ⟨d, hd⟩ hno

theorem settling_enroll (c : Cache δ) (l : Locale) : c.Settling (c.enroll l).2 := by
  refine .of_le (by simp) ?_ ?_
  · intro i hi
    rw [isOpening_enroll, if_neg (Nat.ne_of_lt hi)]
  · rintro i ⟨d, hd⟩
    rw [phase_enroll] at hd
    split at hd
    · cases hd
    · exact ⟨d, hd⟩

namespace Caller

theorem Visit.settling (h : Visit s x t y) : s.cache.Settling t.cache := by
  cases h with
  | miss _ =>
      rw [CacheState.cache_reportFirst]
      exact settling_enroll ..
  | evicted =>
      rw [CacheState.cache_reportPrevious?]
      exact .of_slots rfl
  | draining =>
      rw [CacheState.cache_reportDrain]
      exact .of_slots rfl
  | hit | retired | forgetting | closed | collecting | peeking => exact .of_slots rfl

theorem Stride.settling (h : Stride b s x t y)
    (hopens : ∀ k, x.opens? = some k → s.cache.isOpening k = true) :
    s.cache.Settling t.cache := by
  have hlt : ∀ k, s.cache.isOpening k = true → k < s.cache.slots.length := by
    intro k hk
    refine Nat.lt_of_not_le ?_
    intro hle
    rw [isOpening_of_length_le _ hle] at hk
    cases hk
  cases h with
  | evicting _ | retiring _ | closing _ => exact settling_shut _
  | opened _ | broken _ =>
      have hopen := hopens _ rfl
      exact settling_fill _ (hlt _ hopen) hopen
  | applying _ => exact settling_switchContacts ..
  | entering _ =>
      exact .of_le (Nat.le_of_eq (length_modifySlot ..).symm)
        (fun i _ => isOpening_lockRead ..) fun i => (holds_of_phase (phase_lockRead _ _) i).mp
  | retrying | leaving =>
      exact .of_le (Nat.le_of_eq (length_modifySlot ..).symm)
        (fun i _ => isOpening_unlockRead ..) fun i => (holds_of_phase (phase_unlockRead _ _) i).mp
  | choosing | exhausted | found | missed | starting | main | standIn | answering | inspecting
  | closedAll | switching | appliedAll => exact .of_slots rfl

theorem Turn.settling (h : Turn b n s x t y)
    (hopens : ∀ k, x.opens? = some k → s.cache.isOpening k = true) :
    s.cache.Settling t.cache := by
  cases h with
  | lock _ _ => exact .of_slots rfl
  | visit _ h =>
      have hsettling := h.settling
      exact ⟨hsettling.length_le, hsettling.unopened, hsettling.comes⟩
  | stride h => exact h.settling hopens

/-- Work on a cache leaves what it was made with. -/
theorem Turn.made (h : Turn b n s x t y) : t.cache.label = s.cache.label ∧
    t.cache.capacity = s.cache.capacity ∧ t.cache.sessions = s.cache.sessions := by
  cases h with
  | lock _ _ => exact ⟨rfl, rfl, rfl⟩
  | visit _ h =>
      simp only [relock, CacheState.cache_onCache]
      cases h with
      | miss _ =>
          rw [CacheState.cache_reportFirst]
          exact ⟨rfl, rfl, rfl⟩
      | evicted =>
          rw [CacheState.cache_reportPrevious?]
          exact ⟨rfl, rfl, rfl⟩
      | draining =>
          rw [CacheState.cache_reportDrain]
          exact ⟨rfl, rfl, rfl⟩
      | hit | retired | forgetting | closed | collecting | peeking => exact ⟨rfl, rfl, rfl⟩
  | stride h =>
      cases h with
      | evicting _ | retiring _ | closing _ =>
          rw [CacheState.cache_shut]
          exact ⟨rfl, rfl, rfl⟩
      | opened _ | broken _ =>
          rw [CacheState.cache_fill]
          exact ⟨rfl, rfl, rfl⟩
      | applying _ =>
          rw [CacheState.cache_switchContacts]
          exact ⟨rfl, rfl, rfl⟩
      | choosing | entering | exhausted | found | missed | starting | main | standIn | answering
      | retrying | leaving | inspecting | closedAll | switching | appliedAll =>
          exact ⟨rfl, rfl, rfl⟩

end Caller

end Step

end Cache

end Spelling
