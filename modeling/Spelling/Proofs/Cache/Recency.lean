import Spelling.Proofs.Cache.Answers
import Spelling.Proofs.Cache.Settled

/-!
# What calls do to the residents

One caller at a time, and no opening breaks off.  A call on a settled cache does one of three
things:

    Asked     its locale becomes the one used last; if it was not resident, it is opened, and the
              one used longest ago is closed when there is no room otherwise
    Drains    every resident is closed
    Keeps     the residents and their order stay, and nothing is opened or closed
-/

namespace Spelling.CacheState

variable {σ δ : Type} {b : Backend σ δ} {s : CacheState σ δ} {l : Locale}

/-! ## Asking a dictionary -/

theorem events_lookUp (i : Nat) (d : δ) (words : List String) (s : CacheState σ δ) :
    ∃ es, (s.lookUp b i d words).2.world.events = s.world.events ++ es ∧
      ∀ e ∈ es, e.deed.uses = true := by
  induction words generalizing s with
  | nil => exact ⟨[], (List.append_nil _).symm, List.forall_mem_nil _⟩
  | cons word rest ih =>
      rw [lookUp]
      rcases b.contains d word with message | (_ | _)
      · exact ⟨_, rfl, by simp [Deed.uses]⟩
      · obtain ⟨es, hes, huses⟩ := ih (s.note i (.lookedUp word))
        rw [events_note, List.append_assoc] at hes
        refine ⟨_, hes, ?_⟩
        intro e he
        rcases List.mem_append.mp he with he | he
        · obtain rfl := List.mem_singleton.mp he
          rfl
        · exact huses e he
      · exact ⟨_, rfl, by simp [Deed.uses]⟩

/-- Asking uses a dictionary and neither opens nor closes one. -/
theorem events_askResource (i : Nat) (r : Resource δ) (a : Ask) (s : CacheState σ δ) :
    ∃ es, (s.askResource b i r a).2.world.events = s.world.events ++ es ∧
      ∀ e ∈ es, e.deed.uses = true := by
  cases r with
  | unavailable u => exact ⟨[], (List.append_nil _).symm, List.forall_mem_nil _⟩
  | dictionary d =>
      cases a with
      | contains words => exact events_lookUp i d words s
      | suggest q session => exact ⟨_, rfl, by simp [Deed.uses]⟩
      | hasMain => exact ⟨[], (List.append_nil _).symm, List.forall_mem_nil _⟩

/-- A slot that is handed out is open, and its dictionary answers at once. -/
theorem ask_of_resolve {i : Nat} {t : CacheState σ δ} {r : Resource δ} (a : Ask)
    (h : s.resolve b l = (.returned i, t)) (hr : t.cache.phase i = .ready r) :
    s.ask b l a = t.askResource b i r a :=
  askWithin_of_resolve h hr a 1

/-! ## Calls -/

/-- What a call that asks for a locale does: the locale is resident and becomes the one used last,
or it gets a slot and is opened.  Its dictionary may be used after that. -/
inductive Asked (l : Locale) (s t : CacheState σ δ) : Prop
  | hit {i : Nat} {uses : List Event} : s.cache.resident.lookup l = some i →
      t.cache = { s.cache with
        resident := Cache.put s.cache.resident l i
        stats := { s.cache.stats with hits := s.cache.stats.hits + 1 } } →
      t.world.events = s.world.events ++ uses → (∀ e ∈ uses, e.deed.uses = true) → Asked l s t
  | miss {u : CacheState σ δ} {uses : List Event} : s.cache.resident.lookup l = none →
      Misses l s u → t.cache = u.cache → t.world.events = u.world.events ++ uses →
      (∀ e ∈ uses, e.deed.uses = true) → Asked l s t

theorem asked_resolve (hb : b.Unbroken s.cache.sessions)
    (h : s.cache.Settled) (l : Locale) : Asked l s (s.resolve b l).2 := by
  cases hlookup : s.cache.resident.lookup l with
  | some i =>
      rw [resolve_hit hlookup]
      exact .hit hlookup rfl (List.append_nil _).symm (List.forall_mem_nil _)
  | none =>
      obtain ⟨-, hmisses⟩ := resolve_misses hb h hlookup
      exact .miss hlookup hmisses rfl (List.append_nil _).symm (List.forall_mem_nil _)

theorem asked_ask (hb : b.Unbroken s.cache.sessions)
    (h : s.cache.Settled) (l : Locale) (a : Ask) : Asked l s (s.ask b l a).2 := by
  cases hlookup : s.cache.resident.lookup l with
  | some i =>
      obtain ⟨r, hr⟩ := h.ready l i (Cache.mem_of_lookup hlookup)
      rw [ask_of_resolve a (resolve_hit hlookup) hr]
      obtain ⟨hcache, -⟩ := askResource_snd (b := b) (s.onCache fun c =>
        { c with resident := Cache.put c.resident l i, stats := { c.stats with
          hits := c.stats.hits + 1 } }) i r a
      obtain ⟨uses, hevents, huses⟩ := events_askResource (b := b) i r a (s.onCache fun c =>
        { c with resident := Cache.put c.resident l i, stats := { c.stats with
          hits := c.stats.hits + 1 } })
      exact .hit hlookup hcache hevents huses
  | none =>
      obtain ⟨hslot, hmiss⟩ := resolve_misses hb h hlookup
      obtain ⟨r, hr⟩ := hmiss.ready
      rw [ask_of_resolve a (Prod.ext hslot rfl) hr]
      obtain ⟨uses, hevents, huses⟩ := events_askResource (b := b) s.cache.slots.length r a
        (s.resolve b l).2
      exact .miss hlookup hmiss (askResource_snd _ _ r a).1 hevents huses

/-- **After a locale was asked for**, the residents are settled, it is the one used last, and as
many of the others follow as there is room for. -/
theorem Asked.recent {t : CacheState σ δ} (h : s.cache.Settled) (ht : Asked l s t) :
    t.cache.Settled ∧ t.cache.resident.map Prod.fst =
      (l :: (s.cache.resident.map Prod.fst).filter (· != l)).take s.cache.capacity := by
  cases ht with
  | hit hi hcache _ _ =>
      rw [hcache]
      exact settled_hit h hi _
  | miss hnone hmiss hcache _ _ =>
      rw [hcache]
      exact ⟨hmiss.settled h hnone, hmiss.recent h hnone⟩

/-- Work that closes every resident and leaves nobody resident. -/
structure Drains (s t : CacheState σ δ) : Prop where
  resident : t.cache.resident = []
  closing : t.cache.closing = []
  books : t.cache.books = s.cache.books
  length : t.cache.slots.length = s.cache.slots.length
  phase : ∀ i, t.cache.phase i = if i ∈ s.cache.residentSlots then .closed else s.cache.phase i
  events : ∃ es, t.world.events = s.world.events ++ es ∧ ∀ e ∈ es, e.deed = .closed

theorem foldl_shut_slots (drained : List Nat) (s : CacheState σ δ) :
    let t := drained.foldl (fun s i => (s.shut b i).onCache (·.settled i)) s
    t.cache.books = s.cache.books ∧ t.cache.slots.length = s.cache.slots.length ∧
      (∀ i, t.cache.phase i = if i ∈ drained then .closed else s.cache.phase i) ∧
      ∃ es, t.world.events = s.world.events ++ es ∧ ∀ e ∈ es, e.deed = .closed := by
  induction drained generalizing s with
  | nil => exact ⟨rfl, rfl, fun _ => rfl, [], (List.append_nil _).symm, List.forall_mem_nil _⟩
  | cons j rest ih =>
      obtain ⟨hbooks, hlength, hphase, es, hes, hclosed⟩ := ih ((s.shut b j).onCache (·.settled j))
      refine ⟨hbooks.trans (books_shut j), hlength.trans (length_shut b s j), ?_,
        s.cache.farewell j ++ es, ?_, ?_⟩
      · intro i
        rw [List.foldl_cons, hphase i]
        show (if i ∈ rest then .closed else (s.shut b j).cache.phase i) = _
        rw [phase_shut]
        by_cases hij : j = i
        · simp [hij]
        · simp [hij, Ne.symm hij]
      · rw [List.foldl_cons, hes, ← List.append_assoc, ← events_shut]
        rfl
      · intro e he
        rcases List.mem_append.mp he with he | he
        · exact Cache.closed_of_mem_farewell he
        · exact hclosed e he

theorem drains_closeAll (h : s.cache.Tidy) : Drains s (s.closeAll b) := by
  let t := (s.onCache fun c => c.drain.2).reportDrain s.cache.drain.1
  have htcache : t.cache = s.cache.drain.2 := cache_reportDrain ..
  obtain ⟨hbooks, hlength, hphase, es, hes, hclosed⟩ := foldl_shut_slots (b := b) s.cache.drain.1 t
  refine ⟨resident_closeAll s, closing_closeAll h, ?_, ?_, ?_, es, ?_, hclosed⟩
  · exact hbooks.trans (by rw [htcache]; rfl)
  · exact hlength.trans (by rw [htcache]; rfl)
  · intro i
    refine (hphase i).trans ?_
    have hdrained : i ∈ s.cache.drain.1 ↔ i ∈ s.cache.residentSlots := by
      simp [Cache.drain, Cache.residentSlots]
    have hsame : t.cache.phase i = s.cache.phase i := by
      rw [htcache]
      rfl
    simp only [hdrained, hsame]
  · refine hes.trans ?_
    rw [events_reportDrain]
    rfl

theorem Drains.settled {t : CacheState σ δ} (h : s.cache.Settled) (ht : Drains s t) :
    t.cache.Settled := by
  have hcapacity : t.cache.capacity = s.cache.capacity := congrArg (fun x => x.2.1) ht.books
  refine ⟨hcapacity ▸ h.room, ?_, ?_, ?_, ?_, ?_, ht.closing⟩
  · rw [ht.resident]
    exact Nat.zero_le _
  · rw [ht.resident]
    exact List.nodup_nil
  · rw [ht.resident]
    exact nofun
  · rw [ht.resident]
    exact nofun
  · intro i _
    rw [ht.phase i]
    split
    · rfl
    · next hi => exact h.shut i hi

/-- Work that leaves the residents, their order and the counts as they are, and opens and closes
nothing. -/
structure Keeps (s t : CacheState σ δ) : Prop where
  resident : t.cache.resident = s.cache.resident
  closing : t.cache.closing = s.cache.closing
  books : t.cache.books = s.cache.books
  length : t.cache.slots.length = s.cache.slots.length
  locale : ∀ i, t.cache.localeOf i = s.cache.localeOf i
  ready : ∀ i r, s.cache.phase i = .ready r → ∃ r', t.cache.phase i = .ready r'
  shut : ∀ i, s.cache.phase i = .closed → t.cache.phase i = .closed
  events : ∃ es, t.world.events = s.world.events ++ es ∧ ∀ e ∈ es, e.deed.uses = true

theorem Keeps.refl (s : CacheState σ δ) : Keeps s s :=
  ⟨rfl, rfl, rfl, rfl, fun _ => rfl, fun _ r hr => ⟨r, hr⟩, fun _ hi => hi, [],
    (List.append_nil _).symm, List.forall_mem_nil _⟩

theorem Keeps.trans {t u : CacheState σ δ} (h : Keeps s t) (h' : Keeps t u) : Keeps s u := by
  obtain ⟨es, hes, huses⟩ := h.events
  obtain ⟨es', hes', huses'⟩ := h'.events
  refine ⟨h'.resident.trans h.resident, h'.closing.trans h.closing, h'.books.trans h.books,
    h'.length.trans h.length, fun i => (h'.locale i).trans (h.locale i), ?_,
    fun i hi => h'.shut i (h.shut i hi), es ++ es', ?_, ?_⟩
  · intro i r hr
    obtain ⟨r', hr'⟩ := h.ready i r hr
    exact h'.ready i r' hr'
  · rw [hes', hes, List.append_assoc]
  · exact fun e he => (List.mem_append.mp he).elim (huses e) (huses' e)

theorem Keeps.settled {t : CacheState σ δ} (h : s.cache.Settled) (ht : Keeps s t) :
    t.cache.Settled :=
  h.same ht.books ht.resident ht.closing ht.locale ht.ready ht.shut

theorem keeps_switchContacts (on : Bool) (i : Nat) : Keeps s (s.switchContacts b on i) := by
  refine ⟨resident_switchContacts .., closing_switchContacts .., books_switchContacts ..,
    length_switchContacts .., localeOf_switchContacts b s on i, ?_, ?_, ?_⟩
  · intro j r hr
    rw [phase_switchContacts, hr]
    split
    · cases r with
      | dictionary d => exact ⟨_, rfl⟩
      | unavailable u => exact ⟨_, rfl⟩
    · exact ⟨r, rfl⟩
  · intro j hj
    rw [phase_switchContacts, hj]
    split <;> rfl
  · rw [switchContacts]
    split
    · exact ⟨_, rfl, by simp [Deed.uses]⟩
    · exact ⟨[], (List.append_nil _).symm, List.forall_mem_nil _⟩

theorem keeps_setContacts (on : Bool) : Keeps s (s.setContacts b on) := by
  have hfoldl : ∀ (slots : List Nat) (t : CacheState σ δ), Keeps s t →
      Keeps s (slots.foldl (fun s i => s.switchContacts b on i) t) := by
    intro slots
    induction slots with
    | nil => exact fun t ht => ht
    | cons i slots ih => exact fun t ht => ih _ (ht.trans (keeps_switchContacts on i))
  exact hfoldl _ _ ⟨rfl, rfl, rfl, rfl, fun _ => rfl, fun _ r hr => ⟨r, hr⟩, fun _ hi => hi, [],
    (List.append_nil _).symm, List.forall_mem_nil _⟩

theorem keeps_askSlot (i : Nat) (a : Ask) : Keeps s (s.askSlot b i a).2 := by
  rw [askSlot]
  split
  · next r hr =>
    obtain ⟨hcache, -⟩ := askResource_snd (b := b) s i r a
    refine ⟨by rw [hcache], by rw [hcache], by rw [hcache], by rw [hcache], fun j => by rw [hcache],
      fun j r hj => ⟨r, by rw [hcache, hj]⟩, fun j hj => by rw [hcache, hj],
      events_askResource i r a s⟩
  · exact .refl s
  · exact .refl s

end Spelling.CacheState
