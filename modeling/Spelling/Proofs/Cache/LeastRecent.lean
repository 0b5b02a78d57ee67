import Mathlib.Data.List.Induction
import Spelling.Proofs.Cache.Ledger
import Spelling.Proofs.Cache.Recency
import Spelling.Proofs.Distinct
import Spelling.Proofs.WordList.Steady

/-!
# The cache keeps the locales that were asked for last

One caller at a time, and no opening breaks off.  The residents, the one used last first, are the
first distinct locales of those that were asked for since the residents were last drained, read
backwards; as many of them as there is room for.

What the cache counts is what happened:

    hits + misses     calls that asked for a locale
    misses            openings
                      = evictions + slots closed by draining + residents
-/

namespace Spelling

/-! ## Openings -/

/-- Whether a deed is an opening, whatever came of it. -/
def Deed.isOpening : Deed → Bool
  | opened .. => true
  | lookedUp _ | queried .. | contactsSet _ | closed => false

theorem Deed.not_isOpening_of_uses {deed : Deed} (h : deed.uses = true) :
    deed.isOpening = false := by
  cases deed with
  | opened o success => cases h
  | lookedUp | queried | contactsSet | closed => rfl

/-- How many of some events are openings. -/
def Event.openings (events : List Event) : Nat :=
  events.countP fun e => e.deed.isOpening

theorem Event.openings_append (es es' : List Event) :
    openings (es ++ es') = openings es + openings es' :=
  List.countP_append

theorem Event.openings_append_of_other {events es : List Event}
    (h : ∀ e ∈ es, e.deed.isOpening = false) : openings (events ++ es) = openings events := by
  have hnone : openings es = 0 := by
    rw [openings, List.countP_eq_zero]
    intro e he
    rw [h e he]
    exact Bool.false_ne_true
  rw [openings_append, hnone, Nat.add_zero]

theorem Event.openings_append_uses {events uses : List Event}
    (h : ∀ e ∈ uses, e.deed.uses = true) : openings (events ++ uses) = openings events :=
  openings_append_of_other fun e he => Deed.not_isOpening_of_uses (h e he)

variable {σ δ : Type} {b : Backend σ δ}

namespace Cache

/-! ## Calls by what they do -/

/-- The locale that a call asks for, if it asks for one. -/
def Call.asked? : Call → Option Locale
  | resolve l | ask l _ => some l
  | askSlot .. | isClosed _ | closeAll | setContacts _ | contains _ => none

/-- Whether a call drains the residents. -/
def Call.drains : Call → Bool
  | closeAll => true
  | resolve _ | ask .. | askSlot .. | isClosed _ | setContacts _ | contains _ => false

/-- The locales that some calls asked for since the residents were last drained, the last one
first. -/
def Call.recent (calls : List Call) : List Locale :=
  (calls.reverse.takeWhile fun call => !call.drains).filterMap asked?

theorem Call.recent_concat (calls : List Call) (call : Call) :
    recent (calls ++ [call]) =
      if call.drains then [] else call.asked?.toList ++ recent calls := by
  rw [recent, recent, List.reverse_append, List.reverse_singleton, List.singleton_append]
  cases hdrains : call.drains with
  | true => simp [hdrains]
  | false =>
      rw [List.takeWhile_cons_of_pos (by simp [hdrains])]
      cases hasked : call.asked? with
      | none => simp [List.filterMap_cons_none hasked]
      | some l => simp [List.filterMap_cons_some hasked]

/-- What a call does. -/
inductive Call.Does (call : Call) (s t : CacheState σ δ) : Prop
  | asked {l : Locale} : call.asked? = some l → call.drains = false → s.Asked l t → Does call s t
  | drains : call.asked? = none → call.drains = true → s.Drains t → Does call s t
  | keeps : call.asked? = none → call.drains = false → s.Keeps t → Does call s t

theorem Call.does {s : CacheState σ δ} (hb : b.Unbroken s.cache.sessions) (h : s.cache.Settled)
    (call : Call) : call.Does s (call.run b s).2 := by
  cases call with
  | resolve l => exact .asked rfl rfl (CacheState.asked_resolve hb h l)
  | ask l a => exact .asked rfl rfl (CacheState.asked_ask hb h l a)
  | askSlot i a => exact .keeps rfl rfl (CacheState.keeps_askSlot i a)
  | isClosed i => exact .keeps rfl rfl (.refl s)
  | closeAll => exact .drains rfl rfl (CacheState.drains_closeAll h.tidy)
  | setContacts on => exact .keeps rfl rfl (CacheState.keeps_setContacts on)
  | contains l => exact .keeps rfl rfl (.refl s)

theorem Call.Does.settled {call : Call} {s t : CacheState σ δ} (h : s.cache.Settled)
    (hdoes : call.Does s t) : t.cache.Settled := by
  cases hdoes with
  | asked _ _ hasked => exact (hasked.recent h).1
  | drains _ _ hdrains => exact hdrains.settled h
  | keeps _ _ hkeeps => exact hkeeps.settled h

end Cache

namespace CacheState

/-- A cache after some calls, one after another. -/
def afterAll (b : Backend σ δ) (s : CacheState σ δ) (calls : List Cache.Call) : CacheState σ δ :=
  calls.foldl (fun s call => (call.run b s).2) s

theorem afterAll_concat (s : CacheState σ δ) (calls : List Cache.Call) (call : Cache.Call) :
    s.afterAll b (calls ++ [call]) = (call.run b (s.afterAll b calls)).2 :=
  List.foldl_concat _ _ _ _

/-- How many slots are closed by what leads from one state to another. -/
def newlyClosed (s t : CacheState σ δ) : Nat :=
  (List.range s.cache.slots.length).countP fun i => t.isClosed i && !s.isClosed i

/-- How many slots are closed by those of some calls that drain the residents. -/
def drained (b : Backend σ δ) : CacheState σ δ → List Cache.Call → Nat
  | _, [] => 0
  | s, call :: calls =>
    (if call.drains then s.newlyClosed (call.run b s).2 else 0) + drained b (call.run b s).2 calls

theorem drained_concat (s : CacheState σ δ) (calls : List Cache.Call) (call : Cache.Call) :
    s.drained b (calls ++ [call]) = s.drained b calls +
      if call.drains then
        (s.afterAll b calls).newlyClosed (s.afterAll b (calls ++ [call]))
      else 0 := by
  induction calls generalizing s with
  | nil => simp [drained, afterAll]
  | cons first calls ih =>
      rw [List.cons_append, drained, drained, ih, Nat.add_assoc]
      rfl

theorem isClosed_iff {s : CacheState σ δ} {i : Nat} :
    s.isClosed i = true ↔ s.cache.phase i = .closed := by
  rw [isClosed]
  cases s.cache.phase i <;> simp

/-- Draining closes the slots of the residents and no other. -/
theorem Drains.newlyClosed {s t : CacheState σ δ} (h : s.cache.Settled) (ht : Drains s t) :
    s.newlyClosed t = s.cache.resident.length := by
  have hclosed : ∀ i, (t.isClosed i && !s.isClosed i) = decide (i ∈ s.cache.residentSlots) := by
    intro i
    by_cases hi : i ∈ s.cache.residentSlots
    · obtain ⟨e, he, rfl⟩ := List.mem_map.mp hi
      obtain ⟨r, hr⟩ := h.ready e.1 e.2 he
      have hnow : t.isClosed e.2 = true := isClosed_iff.mpr (by rw [ht.phase, if_pos hi])
      have hbefore : s.isClosed e.2 = false := by
        rw [isClosed, hr]
      simp [hnow, hbefore, hi]
    · have hbefore : s.isClosed i = true := isClosed_iff.mpr (h.shut i hi)
      simp [hbefore, hi]
  have hperm : ((List.range s.cache.slots.length).filter
      fun i => decide (i ∈ s.cache.residentSlots)).Perm s.cache.residentSlots := by
    refine (List.perm_ext_iff_of_nodup (List.nodup_range.filter _) h.nodup_slots).mpr ?_
    intro i
    rw [List.mem_filter, List.mem_range, decide_eq_true_eq, and_iff_right_iff_imp]
    intro hi
    obtain ⟨e, he, rfl⟩ := List.mem_map.mp hi
    exact h.lt he
  rw [CacheState.newlyClosed, List.countP_eq_length_filter]
  simp only [hclosed]
  rw [hperm.length_eq, Cache.residentSlots, List.length_map]

/-! ## Along some calls -/

/-- What holds of a cache after some calls from a new one. -/
structure Follows (b : Backend σ δ) (start : CacheState σ δ) (calls : List Cache.Call)
    (s : CacheState σ δ) : Prop where
  settled : s.cache.Settled
  label : s.cache.label = start.cache.label
  capacity : s.cache.capacity = start.cache.capacity
  sessions : s.cache.sessions = start.cache.sessions
  recent : s.cache.resident.map Prod.fst =
    (Cache.Call.recent calls).eraseDups.take start.cache.capacity
  asked : s.cache.stats.hits + s.cache.stats.misses =
    (calls.filterMap Cache.Call.asked?).length
  opened : s.cache.stats.misses = Event.openings s.world.events
  closed : s.cache.stats.misses =
    s.cache.stats.evictions + start.drained b calls + s.cache.resident.length

theorem follows_new {label capacity : Nat} (h : 0 < capacity) (o : Options) (st : σ) :
    Follows b ⟨.ofCapacity label capacity o, { backend := st }⟩ []
      (⟨.ofCapacity label capacity o, { backend := st }⟩ : CacheState σ δ) :=
  ⟨Cache.settled_ofCapacity label h o, rfl, rfl, rfl, List.take_nil.symm, rfl, rfl, rfl⟩

/-- A locale that is not resident brings one opening. -/
theorem Misses.openings {l : Locale} {s t : CacheState σ δ} (ht : Misses l s t) :
    Event.openings t.world.events = Event.openings s.world.events + 1 := by
  obtain ⟨o, success, hevents⟩ := ht.events
  have hcloses : ∀ e ∈ s.cache.victim?.toList.flatMap fun e => s.cache.farewell e.2,
      e.deed.isOpening = false := by
    intro e he
    obtain ⟨v, -, hv⟩ := List.mem_flatMap.mp he
    rw [Cache.closed_of_mem_farewell hv]
    rfl
  rw [hevents, Event.openings_append, Event.openings_append_of_other hcloses]
  rfl

/-- What asking for a locale adds to the counts: a hit, or a miss with its opening, which makes one
resident more or evicts one. -/
theorem Asked.counts {l : Locale} {s t : CacheState σ δ} (h : s.cache.Settled)
    (ht : Asked l s t) : ∃ hits misses evictions,
    t.cache.books = (s.cache.label, s.cache.capacity, s.cache.sessions,
      ⟨s.cache.stats.hits + hits, s.cache.stats.misses + misses,
        s.cache.stats.evictions + evictions⟩) ∧
      hits + misses = 1 ∧
      Event.openings t.world.events = Event.openings s.world.events + misses ∧
      evictions + t.cache.resident.length = s.cache.resident.length + misses := by
  cases ht with
  | hit hi hcache hevents huses =>
      refine ⟨1, 0, 0, by rw [hcache]; rfl, rfl, ?_, ?_⟩
      · exact hevents ▸ Event.openings_append_uses huses
      · rw [hcache, Nat.zero_add]
        exact (perm_put h hi).length_eq
  | @miss u uses hnone hmiss hcache hevents huses =>
      refine ⟨0, 1, s.cache.victim?.toList.length, ?_, rfl, ?_, ?_⟩
      · rw [hcache]
        exact hmiss.books
      · rw [hevents, Event.openings_append_uses huses, hmiss.openings]
      · have hstaying := h.length_staying_add
        rw [hcache, hmiss.resident, List.length_cons]
        omega

/-- What any call adds to the counts. -/
theorem counts_of_does {s t : CacheState σ δ} {call : Cache.Call} (h : s.cache.Settled)
    (hdoes : call.Does s t) : ∃ hits misses evictions,
    t.cache.books = (s.cache.label, s.cache.capacity, s.cache.sessions,
      ⟨s.cache.stats.hits + hits, s.cache.stats.misses + misses,
        s.cache.stats.evictions + evictions⟩) ∧
      hits + misses = call.asked?.toList.length ∧
      Event.openings t.world.events = Event.openings s.world.events + misses ∧
      evictions + (if call.drains then s.newlyClosed t else 0) + t.cache.resident.length =
        s.cache.resident.length + misses := by
  cases hdoes with
  | asked hl hdrains ht =>
      obtain ⟨hits, misses, evictions, hbooks, hone, hopenings, hbalance⟩ := ht.counts h
      refine ⟨hits, misses, evictions, hbooks, by rw [hl]; exact hone, hopenings, ?_⟩
      rw [hdrains, if_neg Bool.false_ne_true]
      exact hbalance
  | drains hnone hdrains ht =>
      obtain ⟨es, hes, hclose⟩ := ht.events
      refine ⟨0, 0, 0, ht.books, by rw [hnone]; rfl, ?_, ?_⟩
      · rw [hes, Event.openings_append_of_other fun e he => by rw [hclose e he]; rfl]
        rfl
      · rw [hdrains, if_pos rfl, ht.newlyClosed h, ht.resident, Nat.zero_add]
        rfl
  | keeps hnone hdrains ht =>
      obtain ⟨es, hes, huses⟩ := ht.events
      refine ⟨0, 0, 0, ht.books, by rw [hnone]; rfl, ?_, ?_⟩
      · rw [hes, Event.openings_append_uses huses]
        rfl
      · rw [hdrains, if_neg Bool.false_ne_true, ht.resident, Nat.zero_add]
        rfl

/-- The locales of the residents after any call. -/
theorem recent_of_does {s t : CacheState σ δ} {calls : List Cache.Call} {call : Cache.Call}
    (h : s.cache.Settled) (hdoes : call.Does s t)
    (hrecent : s.cache.resident.map Prod.fst =
      (Cache.Call.recent calls).eraseDups.take s.cache.capacity) :
    t.cache.resident.map Prod.fst =
      (Cache.Call.recent (calls ++ [call])).eraseDups.take s.cache.capacity := by
  rw [Cache.Call.recent_concat]
  cases hdoes with
  | @asked l hl hdrains ht =>
      rw [(ht.recent h).2, hrecent, hdrains, if_neg Bool.false_ne_true, hl, Option.toList_some,
        List.singleton_append, take_eraseDups_cons l _ h.room]
  | drains hnone hdrains ht =>
      rw [ht.resident, hdrains, if_pos rfl]
      exact List.take_nil.symm
  | keeps hnone hdrains ht =>
      rw [ht.resident, hdrains, if_neg Bool.false_ne_true, hnone]
      exact hrecent

theorem Follows.call {start : CacheState σ δ} {calls : List Cache.Call}
    (hb : b.Unbroken start.cache.sessions) (call : Cache.Call)
    (h : Follows b start calls (start.afterAll b calls)) :
    Follows b start (calls ++ [call]) (start.afterAll b (calls ++ [call])) := by
  have hdoes := call.does (h.sessions ▸ hb) h.settled
  have hdrained := start.drained_concat (b := b) calls call
  have hasked : ((calls ++ [call]).filterMap Cache.Call.asked?).length =
      (calls.filterMap Cache.Call.asked?).length + call.asked?.toList.length := by
    rw [List.filterMap_append, List.length_append]
    cases hc : call.asked? <;> simp [hc]
  rw [afterAll_concat] at hdrained ⊢
  have hcounted := h.asked
  have hclosed := h.closed
  obtain ⟨hits, misses, evictions, hbooks, hone, hopenings, hbalance⟩ :=
    counts_of_does h.settled hdoes
  simp only [Cache.books, Prod.mk.injEq] at hbooks
  obtain ⟨hlabel, hcapacity, hsessions, hstats⟩ := hbooks
  refine ⟨hdoes.settled h.settled, hlabel.trans h.label, hcapacity.trans h.capacity,
    hsessions.trans h.sessions, ?_, ?_, ?_, ?_⟩
  · rw [← h.capacity]
    exact recent_of_does h.settled hdoes (h.capacity ▸ h.recent)
  · rw [hstats, hasked]
    dsimp only
    omega
  · rw [hstats, hopenings, ← h.opened]
  · rw [hstats, hdrained]
    dsimp only
    omega

theorem follows_afterAll {start : CacheState σ δ} (hb : b.Unbroken start.cache.sessions)
    (hstart : Follows b start [] start) (calls : List Cache.Call) :
    Follows b start calls (start.afterAll b calls) := by
  induction calls using List.reverseRecOn with
  | nil => exact hstart
  | append_singleton calls call ih => exact ih.call hb call

/-! ## One more call -/

/-- A locale that is resident is used, and nothing is opened or closed. -/
theorem Asked.of_mem {l : Locale} {s t : CacheState σ δ} (ht : Asked l s t)
    (hl : l ∈ s.cache.resident.map Prod.fst) :
    (∀ i, t.isClosed i = s.isClosed i) ∧
      ∃ uses, t.world.events = s.world.events ++ uses ∧ ∀ e ∈ uses, e.deed.uses = true := by
  cases ht with
  | hit hi hcache hevents huses =>
      refine ⟨fun i => ?_, _, hevents, huses⟩
      rw [isClosed, hcache]
      rfl
  | miss hnone _ _ _ _ =>
      obtain ⟨e, he, rfl⟩ := List.mem_map.mp hl
      exact absurd he (Cache.not_mem_of_lookup hnone e.2)

/-- A locale that is not resident is opened.  If there is no room for it, the resident used longest
ago was closed before that, and no other slot is. -/
theorem Asked.of_not_mem {l : Locale} {s t : CacheState σ δ} (h : s.cache.Settled)
    (ht : Asked l s t) (hl : l ∉ s.cache.resident.map Prod.fst) :
    ∃ closes o success uses, t.world.events = s.world.events ++ closes ++
        [⟨s.cache.label, s.cache.slots.length, l, .opened o success⟩] ++ uses ∧
      (∀ e ∈ uses, e.deed.uses = true) ∧
      (s.cache.resident.length < s.cache.capacity → closes = [] ∧
        ∀ i < s.cache.slots.length, t.isClosed i = s.isClosed i) ∧
      ∀ kept m j, s.cache.resident = kept ++ [(m, j)] →
        s.cache.resident.length = s.cache.capacity →
        (s.cache.Holds j → closes = [⟨s.cache.label, j, m, .closed⟩]) ∧
          (¬ s.cache.Holds j → closes = []) ∧
          ∀ i < s.cache.slots.length, t.isClosed i = (s.isClosed i || i == j) := by
  cases ht with
  | hit hi _ _ _ => exact absurd (List.mem_map_of_mem (Cache.mem_of_lookup hi)) hl
  | @miss u uses hnone hmiss hcache hevents huses =>
      obtain ⟨o, success, hopened⟩ := hmiss.events
      have hphase : ∀ i < s.cache.slots.length, t.cache.phase i =
          if s.cache.victim?.map Prod.snd = some i then .closed else s.cache.phase i := by
        intro i hi
        rw [hcache]
        exact hmiss.phase i (Nat.ne_of_lt hi)
      refine ⟨_, o, success, uses, hevents.trans (by rw [hopened]), huses, ?_, ?_⟩
      · intro hroom
        have hvictim : s.cache.victim? = none := by rw [Cache.victim?, if_pos hroom]
        rw [hvictim] at hphase ⊢
        refine ⟨rfl, fun i hi => ?_⟩
        rw [isClosed, hphase i hi, if_neg (by simp), isClosed]
      · intro kept m j hsplit hfull
        have hvictim : s.cache.victim? = some (m, j) := by
          rw [Cache.victim?, if_neg (Nat.not_lt.mpr (Nat.le_of_eq hfull.symm)), hsplit,
            List.getLast?_concat]
        have hlocale : s.cache.localeOf j = m := h.locale m j (by simp [hsplit])
        rw [hvictim] at hphase ⊢
        rw [Option.toList_some, List.flatMap_singleton]
        refine ⟨?_, ?_, fun i hi => ?_⟩
        · rintro ⟨d, hd⟩
          rw [Cache.farewell, hd, hlocale]
        · intro hnot
          rw [Cache.farewell]
          split
          · next d hd => exact absurd ⟨d, hd⟩ hnot
          all_goals rfl
        · rw [isClosed, hphase i hi]
          by_cases hij : i = j
          · simp [hij]
          · rw [if_neg (by simpa using Ne.symm hij), beq_eq_false_iff_ne.mpr hij, Bool.or_false,
              isClosed]

/-- **A cache of the locales used last.**  Whatever calls a new cache gets, one after another, and
no opening breaks off.  The residents, the one used last first, are the first distinct locales of
those that were asked for since the last draining, read backwards, as many as there is room for.  A
call that asks for a resident opens and closes nothing.  A call that asks for another locale opens
it; if there is room that is all, and otherwise the resident used longest ago is closed before that,
and no other.  A call that neither asks for a locale nor drains leaves the residents in their order.
The hits and misses are the calls that asked, the misses are the openings, and they are the
evictions, the slots closed by draining and the residents together. -/
theorem residents_are_used_last (label : Nat) {capacity : Nat} (hroom : 0 < capacity) (o : Options)
    (hb : b.Unbroken o.sessions) (st : σ) (calls : List Cache.Call) :
    let start : CacheState σ δ := ⟨.ofCapacity label capacity o, { backend := st }⟩
    let s := start.afterAll b calls
    s.cache.resident.map Prod.fst = (Cache.Call.recent calls).eraseDups.take capacity ∧
      s.cache.stats.hits + s.cache.stats.misses =
        (calls.filterMap Cache.Call.asked?).length ∧
      s.cache.stats.misses = Event.openings s.world.events ∧
      s.cache.stats.misses =
        s.cache.stats.evictions + start.drained b calls + s.cache.resident.length ∧
      ∀ call : Cache.Call, let t := (call.run b s).2
        (∀ l, call.asked? = some l → l ∈ s.cache.resident.map Prod.fst →
          (∀ i, t.isClosed i = s.isClosed i) ∧
            ∃ uses, t.world.events = s.world.events ++ uses ∧ ∀ e ∈ uses, e.deed.uses = true) ∧
        (∀ l, call.asked? = some l → l ∉ s.cache.resident.map Prod.fst →
          ∃ closes o success uses, t.world.events = s.world.events ++ closes ++
              [⟨label, s.cache.slots.length, l, .opened o success⟩] ++ uses ∧
            (∀ e ∈ uses, e.deed.uses = true) ∧
            (s.cache.resident.length < capacity → closes = [] ∧
              ∀ i < s.cache.slots.length, t.isClosed i = s.isClosed i) ∧
            ∀ kept m j, s.cache.resident = kept ++ [(m, j)] →
              s.cache.resident.length = capacity →
              (s.cache.Holds j → closes = [⟨label, j, m, .closed⟩]) ∧
                (¬ s.cache.Holds j → closes = []) ∧
                ∀ i < s.cache.slots.length, t.isClosed i = (s.isClosed i || i == j)) ∧
        (call.asked? = none → call.drains = false →
          t.cache.resident = s.cache.resident ∧ t.cache.stats = s.cache.stats) := by
  intro start s
  have hs : Follows b start calls s := follows_afterAll hb (follows_new hroom o st) calls
  refine ⟨hs.recent, hs.asked, hs.opened, hs.closed, ?_⟩
  intro call t
  have hdoes : call.Does s t := call.does (hs.sessions ▸ hb) hs.settled
  refine ⟨fun l hl hmem => ?_, fun l hl hmem => ?_, fun hnone hdrains => ?_⟩
  · cases hdoes with
    | asked hl' _ hasked =>
        cases hl'.symm.trans hl
        exact hasked.of_mem hmem
    | drains hnone | keeps hnone => cases hnone.symm.trans hl
  · cases hdoes with
    | asked hl' _ hasked =>
        cases hl'.symm.trans hl
        have hopens := hasked.of_not_mem hs.settled hmem
        rw [hs.label, hs.capacity] at hopens
        exact hopens
    | drains hnone | keeps hnone => cases hnone.symm.trans hl
  · cases hdoes with
    | asked hl _ _ => cases hl.symm.trans hnone
    | drains _ hdrains' _ => cases hdrains'.symm.trans hdrains
    | keeps _ _ hkeeps =>
        have hbooks := hkeeps.books
        simp only [Cache.books, Prod.mk.injEq] at hbooks
        exact ⟨hkeeps.resident, hbooks.2.2.2⟩

/-- With room for two, German is used once more before French comes, so English is closed. -/
theorem residents_are_used_last_of_three :
    let en := Locale.ofLanguage "en"
    let de := Locale.ofLanguage "de"
    let fr := Locale.ofLanguage "fr"
    let source : WordList.Source := .memory [(en, "1\nhello"), (de, "1\nhallo"), (fr, "0")] none
    let start : CacheState Unit WordList.Dictionary := ⟨.ofCapacity 0 2 {}, { backend := () }⟩
    let calls : List Cache.Call := [.resolve de, .resolve en, .contains en, .ask de .hasMain]
    let s := start.afterAll (.ofKind source.kind) calls
    0 < 2 ∧ (Backend.ofKind source.kind).Unbroken 2 ∧ s.cache.resident = [(de, 0), (en, 1)] ∧
      ∃ o success uses, ((Cache.Call.resolve fr).run (.ofKind source.kind) s).2.world.events =
        s.world.events ++ [⟨0, 1, en, .closed⟩] ++ [⟨0, 2, fr, .opened o success⟩] ++ uses := by
  intro en de fr source start calls s
  have hb : (Backend.ofKind source.kind).Unbroken 2 := by
    intro st l on message
    have hroom : layList 2 WordList.Dictionary.scratchBytes = .ok () := by decide
    exact WordList.Source.fresh_ne_broken_of_room hroom message
  have hresident : s.cache.resident = [(de, 0), (en, 1)] := by decide +kernel
  have hclosing : s.cache.farewell 1 = [⟨0, 1, en, .closed⟩] := by decide +kernel
  have hopen : s.cache.Holds 1 := Cache.holds_of_mem_farewell (hclosing ▸ List.mem_cons_self)
  have hslots : s.cache.slots.length = 2 := by decide +kernel
  have hfull : s.cache.resident.length = 2 := congrArg List.length hresident
  have hnew : fr ∉ s.cache.resident.map Prod.fst := by
    rw [hresident]
    decide
  have hall := residents_are_used_last 0 Nat.zero_lt_two {} hb () calls
  extract_lets at hall
  clear_value s
  have hcall := hall.2.2.2.2 (.resolve fr)
  extract_lets t at hcall
  obtain ⟨closes, o, success, uses, hevents, -, -, hevict⟩ := hcall.2.1 fr rfl hnew
  have hcloses := (hevict [(de, 0)] en 1 hresident hfull).1 hopen
  rw [hcloses, hslots] at hevents
  exact ⟨Nat.zero_lt_two, hb, hresident, o, success, uses, hevents⟩

end CacheState

end Spelling
