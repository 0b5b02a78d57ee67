import Mathlib.Data.List.Nodup
import Spelling.Proofs.Cache.Newcomer

/-!
# A cache that nobody is calling

One caller at a time.  Between two calls a cache is `Tidy`, whatever came of its openings: each
resident has a locale of its own and a slot that is not closed, and nothing is left to be closed.

Asking for a locale keeps the cache tidy.  A resident becomes the one used last.  Any other locale
gets a slot, for which the resident used longest ago may have to make room (`MakesRoom`), and is
opened there; whether the call breaks off is the opening's affair (`resolve_miss`).
-/

namespace Spelling

variable {σ δ : Type} {b : Backend σ δ}

namespace Cache

/-- What stays as it is when slots are closed, filled or changed: the cache's number, its room, the
number of sessions and what the cache counts. -/
def books (c : Cache δ) : Nat × Nat × Nat × CacheStats :=
  (c.label, c.capacity, c.sessions, c.stats)

/-- What holds of a cache that nobody is calling, whatever came of its openings. -/
structure Tidy (c : Cache δ) : Prop where
  nodup : (c.resident.map Prod.fst).Nodup
  locale : ∀ l i, (l, i) ∈ c.resident → c.localeOf i = l
  unclosed : ∀ l i, (l, i) ∈ c.resident → c.phase i ≠ .closed
  closing : c.closing = []

variable {c : Cache δ} {l m : Locale} {i j : Nat}

theorem tidy_ofCapacity (label capacity : Nat) (o : Options) :
    (ofCapacity label capacity o : Cache δ).Tidy :=
  ⟨List.nodup_nil, nofun, nofun, rfl⟩

theorem Tidy.lt (h : c.Tidy) (hi : (l, i) ∈ c.resident) : i < c.slots.length :=
  lt_of_unclosed (h.unclosed l i hi)

/-- Slots of two residents differ. -/
theorem Tidy.slots_ne (h : c.Tidy) (hi : (l, i) ∈ c.resident) (hj : (m, j) ∈ c.resident)
    (hlm : l ≠ m) : i ≠ j := by
  rintro rfl
  exact hlm ((h.locale l i hi).symm.trans (h.locale m i hj))

/-- Work that brings no resident, closes the slot of none that stays, and leaves nothing to be
closed. -/
theorem Tidy.fewer {c' : Cache δ} (h : c.Tidy) (hnodup : (c'.resident.map Prod.fst).Nodup)
    (hmem : ∀ e ∈ c'.resident, e ∈ c.resident) (hlocale : ∀ i, c'.localeOf i = c.localeOf i)
    (hphase : ∀ l i, (l, i) ∈ c'.resident → c'.phase i = .closed → c.phase i = .closed)
    (hclosing : c'.closing = []) : c'.Tidy := by
  refine ⟨hnodup, ?_, ?_, hclosing⟩
  · intro m j hj
    rw [hlocale]
    exact h.locale m j (hmem _ hj)
  · exact fun m j hj hclosed => h.unclosed m j (hmem _ hj) (hphase m j hj hclosed)

theorem Tidy.hit (h : c.Tidy) (hi : c.resident.lookup l = some i) (stats : CacheStats) :
    Tidy { c with resident := put c.resident l i, stats } := by
  refine h.fewer ?_ ?_ (fun _ => rfl) (fun _ _ _ hclosed => hclosed) h.closing
  · rw [put, List.map_cons, List.nodup_cons]
    refine ⟨?_, h.nodup.sublist (List.filter_sublist.map _)⟩
    intro hmem
    obtain ⟨e, he, hel⟩ := List.mem_map.mp hmem
    simp [hel] at he
  · intro e he
    rcases mem_put.mp he with rfl | ⟨he, -⟩
    · exact mem_of_lookup hi
    · exact he

theorem Tidy.forget (h : c.Tidy) (i : Nat) : (c.forget i).Tidy :=
  h.fewer (h.nodup.sublist (List.filter_sublist.map _)) (fun _ he => (List.mem_filter.mp he).1)
    (fun _ => rfl) (fun _ _ _ hclosed => hclosed) h.closing

/-- A locale that was found and then forgotten is not resident. -/
theorem lookup_forget_put {stats : CacheStats} (hlocale : c.localeOf i = l) :
    (forget { c with resident := put c.resident l i, stats } i).resident.lookup l = none := by
  rw [List.lookup_eq_none_iff]
  intro e he
  obtain ⟨he, hne⟩ := List.mem_filter.mp he
  change e ∈ put c.resident l i at he
  change (e != (c.localeOf i, i)) = true at hne
  rw [hlocale] at hne
  rcases List.mem_cons.mp he with rfl | he
  · simp at hne
  · rw [bne_comm]
    exact (List.mem_filter.mp he).2

/-! ## Who stays -/

theorem staying_sublist : c.staying.Sublist c.resident := by
  rw [staying]
  split
  · exact List.dropLast_sublist _
  · exact List.Sublist.refl _

/-- The evicted resident and those that stay have different slots. -/
theorem Tidy.victim_ne (h : c.Tidy) (hi : (l, i) ∈ c.staying) :
    ¬ c.victim?.map Prod.snd = some i := by
  cases hv : c.victim? with
  | none => simp
  | some e =>
      obtain ⟨m, j⟩ := e
      have hlast : c.resident.getLast? = some (m, j) := by
        rw [victim?] at hv
        split at hv
        · cases hv
        · exact hv
      obtain ⟨kept, hsplit⟩ := List.getLast?_eq_some_iff.mp hlast
      have hkept : (l, i) ∈ kept := by simpa [staying, hv, hsplit] using hi
      have hlm : m ≠ l := by
        rintro rfl
        have hnodup := h.nodup
        rw [hsplit, List.map_append, List.nodup_append] at hnodup
        exact hnodup.2.2 _ (List.mem_map_of_mem hkept) m (by simp) rfl
      rw [Option.map_some, Option.some.injEq]
      exact h.slots_ne (by simp [hsplit]) (by simp [hsplit, hkept]) hlm

end Cache

namespace CacheState

variable {s t : CacheState σ δ} {l : Locale}

@[simp] theorem books_shut (i : Nat) : (s.shut b i).cache.books = s.cache.books := by
  rw [cache_shut]; rfl

@[simp] theorem books_fill (i : Nat) (on : Bool) :
    (s.fill b i on).2.cache.books = s.cache.books := by
  rw [cache_fill]; rfl

@[simp] theorem books_switchContacts (on : Bool) (i : Nat) :
    (s.switchContacts b on i).cache.books = s.cache.books := by
  rw [cache_switchContacts]; rfl

/-! ## A resident -/

theorem resolve_hit {i : Nat} (hi : s.cache.resident.lookup l = some i) :
    s.resolve b l = (.returned i, s.onCache fun c =>
      { c with resident := Cache.put c.resident l i, stats := { c.stats with
        hits := c.stats.hits + 1 } }) := by
  simp only [resolve, Cache.find, hi]
  rfl

/-! ## Room for a new slot -/

section Evicted

variable (evicted? : Option Nat) (newcomer : Nat)

@[simp] theorem backend_closeEvicted :
    (s.closeEvicted b evicted? newcomer).world.backend = s.world.backend := by
  cases evicted? with
  | none => rfl
  | some j => exact backend_shut b _ j

@[simp] theorem useContacts_closeEvicted :
    (s.closeEvicted b evicted? newcomer).cache.useContacts = s.cache.useContacts := by
  cases evicted? with
  | none => rfl
  | some j =>
      show (CacheState.shut b j _).cache.useContacts = _
      rw [cache_shut]
      rfl

@[simp] theorem resident_closeEvicted :
    (s.closeEvicted b evicted? newcomer).cache.resident = s.cache.resident := by
  cases evicted? with
  | none => rfl
  | some j => exact resident_shut b _ j

@[simp] theorem length_closeEvicted :
    (s.closeEvicted b evicted? newcomer).cache.slots.length = s.cache.slots.length := by
  cases evicted? with
  | none => rfl
  | some j => exact length_shut b _ j

@[simp] theorem localeOf_closeEvicted (i : Nat) :
    (s.closeEvicted b evicted? newcomer).cache.localeOf i = s.cache.localeOf i := by
  cases evicted? with
  | none => rfl
  | some j => exact localeOf_shut b _ j i

theorem phase_closeEvicted (i : Nat) : (s.closeEvicted b evicted? newcomer).cache.phase i =
    if evicted? = some i then .closed else s.cache.phase i := by
  cases evicted? with
  | none => rfl
  | some j =>
      simp only [Option.some.injEq]
      exact phase_shut b (s.reportEviction j newcomer) j i

/-- The evicted slot is no longer to be closed. -/
theorem closing_closeEvicted : (s.closeEvicted b evicted? newcomer).cache.closing =
    s.cache.closing.filter fun e => evicted?.all fun j => e != (s.cache.localeOf j, j) := by
  cases evicted? with
  | none => simp [closeEvicted]
  | some j =>
      have hlocale := localeOf_shut b (s.reportEviction j newcomer) j j
      have hclosing := closing_shut b (s.reportEviction j newcomer) j
      show ((s.reportEviction j newcomer).shut b j).cache.closing.filter
        (· != (((s.reportEviction j newcomer).shut b j).cache.localeOf j, j)) = _
      rw [hlocale, hclosing]
      rfl

/-- An eviction is counted. -/
theorem books_closeEvicted : (s.closeEvicted b evicted? newcomer).cache.books =
    (s.cache.label, s.cache.capacity, s.cache.sessions,
      { s.cache.stats with evictions := s.cache.stats.evictions + evicted?.toList.length }) := by
  cases evicted? with
  | none => rfl
  | some j =>
      have hbooks : ((s.reportEviction j newcomer).shut b j).cache.books = s.cache.books :=
        books_shut j
      simp only [Cache.books, Prod.mk.injEq] at hbooks
      obtain ⟨hlabel, hcapacity, hsessions, hstats⟩ := hbooks
      rw [closeEvicted, Cache.books]
      refine Prod.ext hlabel (Prod.ext hcapacity (Prod.ext hsessions ?_))
      exact congrArg (fun stats : CacheStats => { stats with evictions := stats.evictions + 1 })
        hstats

end Evicted

/-- A locale's new slot is there, and the resident that made room for it is closed. -/
def room (b : Backend σ δ) (l : Locale) (s : CacheState σ δ) : CacheState σ δ :=
  (s.onCache fun c => (c.enroll l).2).closeEvicted b (s.cache.victim?.map (·.2))
    s.cache.slots.length

@[simp] theorem backend_room : (s.room b l).world.backend = s.world.backend :=
  backend_closeEvicted ..

@[simp] theorem useContacts_room : (s.room b l).cache.useContacts = s.cache.useContacts :=
  useContacts_closeEvicted ..

/-- What making room for the slot of a locale does. -/
structure MakesRoom (l : Locale) (s t : CacheState σ δ) : Prop where
  resident : t.cache.resident = (l, s.cache.slots.length) :: s.cache.staying
  length : t.cache.slots.length = s.cache.slots.length + 1
  locale : ∀ j, t.cache.localeOf j = if j = s.cache.slots.length then l else s.cache.localeOf j
  phase : ∀ j, j ≠ s.cache.slots.length → t.cache.phase j =
    if s.cache.victim?.map Prod.snd = some j then .closed else s.cache.phase j
  closing : t.cache.closing = []
  books : t.cache.books = (s.cache.label, s.cache.capacity, s.cache.sessions,
    { s.cache.stats with
      misses := s.cache.stats.misses + 1
      evictions := s.cache.stats.evictions + s.cache.victim?.toList.length })

theorem makesRoom (h : s.cache.Tidy) (l : Locale) : MakesRoom l s (s.room b l) := by
  refine ⟨?_, ?_, ?_, ?_, ?_, ?_⟩
  · exact resident_closeEvicted ..
  · exact (length_closeEvicted ..).trans (Cache.length_enroll s.cache l)
  · exact fun j => (localeOf_closeEvicted ..).trans (Cache.localeOf_enroll s.cache l j)
  · intro j hj
    have hphase : (s.cache.enroll l).2.phase j = s.cache.phase j :=
      (Cache.phase_enroll s.cache l j).trans (if_neg hj)
    rw [room, phase_closeEvicted, cache_onCache, hphase]
  · rw [room, closing_closeEvicted, cache_onCache, Cache.closing_enroll, h.closing]
    cases hv : s.cache.victim? with
    | none => rfl
    | some e =>
        -- the evicted resident is all that was to be closed
        obtain ⟨m, j⟩ := e
        have hmem : (m, j) ∈ s.cache.resident := (Cache.mem_resident_iff _).mpr (.inr hv)
        have hlocale : (s.cache.enroll l).2.localeOf j = m :=
          (Cache.localeOf_enroll_of_lt (h.lt hmem)).trans (h.locale m j hmem)
        simp [Cache.put, hlocale]
  · rw [room, books_closeEvicted, Option.toList_map, List.length_map]
    rfl

theorem MakesRoom.lt (ht : MakesRoom l s t) : s.cache.slots.length < t.cache.slots.length :=
  ht.length ▸ Nat.lt_succ_self _

theorem MakesRoom.label (ht : MakesRoom l s t) : t.cache.label = s.cache.label :=
  congrArg Prod.fst ht.books

theorem MakesRoom.sessions (ht : MakesRoom l s t) : t.cache.sessions = s.cache.sessions :=
  congrArg (fun x => x.2.2.1) ht.books

theorem MakesRoom.locale_self (ht : MakesRoom l s t) :
    t.cache.localeOf s.cache.slots.length = l := by
  rw [ht.locale, if_pos rfl]

/-- With a slot more that is not closed, a cache is as tidy as before. -/
theorem MakesRoom.tidy (h : s.cache.Tidy) (hnone : s.cache.resident.lookup l = none)
    (ht : MakesRoom l s t) (hnew : t.cache.phase s.cache.slots.length ≠ .closed) :
    t.cache.Tidy := by
  have hstays : ∀ e, e ∈ s.cache.staying → e ∈ s.cache.resident := fun e he =>
    (Cache.mem_resident_iff e).mpr (.inl he)
  refine ⟨?_, ?_, ?_, ht.closing⟩
  · rw [ht.resident, List.map_cons, List.nodup_cons]
    constructor
    · intro hmem
      obtain ⟨e, he, rfl⟩ := List.mem_map.mp hmem
      exact Cache.not_mem_of_lookup hnone e.2 (hstays e he)
    · exact h.nodup.sublist (Cache.staying_sublist.map _)
  · intro m i hi
    rw [ht.resident] at hi
    rw [ht.locale]
    rcases List.mem_cons.mp hi with heq | hi
    · cases heq
      rw [if_pos rfl]
    · rw [if_neg (Nat.ne_of_lt (h.lt (hstays _ hi)))]
      exact h.locale m i (hstays _ hi)
  · intro m i hi
    rw [ht.resident] at hi
    rcases List.mem_cons.mp hi with heq | hi
    · cases heq
      exact hnew
    · rw [ht.phase i (Nat.ne_of_lt (h.lt (hstays _ hi))), if_neg (h.victim_ne hi)]
      exact h.unclosed m i (hstays _ hi)

/-! ## Opening -/

/-- What opening the dictionary of a locale gives now. -/
def opens (b : Backend σ δ) (l : Locale) (s : CacheState σ δ) : Loaded δ :=
  (b.load s.world.backend l s.cache.options).2.value

/-- Making room and opening a dictionary in the new slot. -/
def enter (b : Backend σ δ) (l : Locale) (s : CacheState σ δ) : CacheState σ δ :=
  ((s.room b l).fill b s.cache.slots.length s.cache.useContacts).2

theorem loads_room (h : s.cache.Tidy) (l : Locale) :
    (s.room b l).loads b s.cache.slots.length s.cache.useContacts = s.opens b l := by
  have hroom := makesRoom (b := b) h l
  rw [loads, backend_room, hroom.locale_self, hroom.sessions]
  rfl

theorem backend_enter (h : s.cache.Tidy) (l : Locale) : (s.enter b l).world.backend =
    (b.load s.world.backend l s.cache.options).1 := by
  have hroom := makesRoom (b := b) h l
  rw [enter, backend_fill, backend_room, hroom.locale_self, hroom.sessions]
  rfl

theorem makesRoom_enter (h : s.cache.Tidy) (l : Locale) : MakesRoom l s (s.enter b l) := by
  have hroom := makesRoom (b := b) h l
  refine ⟨?_, ?_, ?_, ?_, ?_, ?_⟩
  · exact (resident_fill ..).trans hroom.resident
  · exact (length_fill ..).trans hroom.length
  · exact fun j => (localeOf_fill ..).trans (hroom.locale j)
  · intro j hj
    rw [enter, phase_fill b _ _ hroom.lt, if_neg (Ne.symm hj)]
    exact hroom.phase j hj
  · exact (closing_fill ..).trans hroom.closing
  · exact (books_fill ..).trans hroom.books

/-- The new slot holds what the opening gave. -/
theorem phase_enter (h : s.cache.Tidy) (l : Locale) :
    (s.enter b l).cache.phase s.cache.slots.length = (s.opens b l).phase l := by
  have hroom := makesRoom (b := b) h l
  rw [enter, phase_fill b _ _ hroom.lt, if_pos rfl, loads_room h, hroom.locale_self]

theorem tidy_enter (h : s.cache.Tidy) (hnone : s.cache.resident.lookup l = none) :
    (s.enter b l).cache.Tidy := by
  refine (makesRoom_enter h l).tidy h hnone ?_
  rw [phase_enter h]
  cases s.opens b l with
  | opened d | failed e | broken message => exact nofun

/-- A locale that is not resident gets a slot and is opened there.  The call breaks off if the
opening does. -/
theorem resolve_miss (h : s.cache.Tidy) (hnone : s.cache.resident.lookup l = none) :
    s.resolve b l =
      (match (s.opens b l).message? with
        | none => .returned s.cache.slots.length
        | some message => .broken message, s.enter b l) := by
  have hclosing : s.cache.closing.lookup l = none := by
    rw [h.closing]
    rfl
  have hroom : ∀ r, (s.room b l).fill b s.cache.slots.length (s.room b l).cache.useContacts = r →
      (s.room b l).fill b s.cache.slots.length s.cache.useContacts = r := by
    intro r hr
    rwa [useContacts_room] at hr
  rw [← loads_room h, ← fill_fst, enter]
  simp only [resolve, Cache.find, hnone, Cache.enroll, hclosing]
  split <;> next hfill => rw [hroom _ hfill]

/-! ## Closing everything -/

/-- The residents stay, and none of the slots is still to be closed then. -/
theorem foldl_shut_entries (drained : List Nat) (s : CacheState σ δ) :
    let t := drained.foldl (fun s i => (s.shut b i).onCache (·.settled i)) s
    t.cache.resident = s.cache.resident ∧
      ∀ e, e ∈ t.cache.closing →
        e ∈ s.cache.closing ∧ ∀ i, i ∈ drained → e ≠ (s.cache.localeOf i, i) := by
  induction drained generalizing s with
  | nil => exact ⟨rfl, fun e he => ⟨he, nofun⟩⟩
  | cons j rest ih =>
      let u := (s.shut b j).onCache (·.settled j)
      have hlocale : ∀ i, u.cache.localeOf i = s.cache.localeOf i := localeOf_shut b s j
      obtain ⟨hresident, hclosing⟩ := ih u
      refine ⟨hresident.trans (resident_shut b s j), ?_⟩
      intro e he
      obtain ⟨he, hrest⟩ := hclosing e he
      obtain ⟨he, hne⟩ := (Cache.mem_closing_settled e).mp he
      rw [closing_shut] at he
      rw [localeOf_shut] at hne
      refine ⟨he, ?_⟩
      intro i hi
      rcases List.mem_cons.mp hi with rfl | hi
      · exact hne
      · exact hlocale i ▸ hrest i hi

/-- Once every resident is closed, nothing is left to be closed. -/
theorem closing_closeAll (h : s.cache.Tidy) : (s.closeAll b).cache.closing = [] := by
  let t := (s.onCache fun c => c.drain.2).reportDrain s.cache.drain.1
  have htcache : t.cache = s.cache.drain.2 := cache_reportDrain ..
  obtain ⟨-, hclosing⟩ := foldl_shut_entries (b := b) s.cache.drain.1 t
  refine List.eq_nil_iff_forall_not_mem.mpr ?_
  intro e he
  obtain ⟨he, hother⟩ := hclosing e he
  rw [htcache] at he hother
  have hmem : e ∈ s.cache.resident := by
    have hunique : ∀ l i j, (l, i) ∈ s.cache.resident.reverse →
        (l, j) ∈ s.cache.resident.reverse → i = j := by
      intro l i j hi hj
      exact congrArg Prod.snd (List.inj_on_of_nodup_map h.nodup (List.mem_reverse.mp hi)
        (List.mem_reverse.mp hj) rfl)
    have hput := (Cache.mem_foldl_put hunique s.cache.closing e).mp he
    rw [h.closing] at hput
    simpa using hput
  refine hother e.2 (List.mem_map_of_mem (List.mem_reverse.mpr hmem)) ?_
  rw [show s.cache.drain.2.localeOf e.2 = s.cache.localeOf e.2 from rfl,
    h.locale e.1 e.2 hmem]

theorem resident_closeAll (s : CacheState σ δ) : (s.closeAll b).cache.resident = [] := by
  refine (foldl_shut_entries s.cache.drain.1 _).1.trans ?_
  rw [cache_reportDrain]

theorem tidy_closeAll (h : s.cache.Tidy) : (s.closeAll b).cache.Tidy := by
  have hnone := resident_closeAll (b := b) s
  refine ⟨?_, ?_, ?_, closing_closeAll h⟩
  · rw [hnone]
    exact List.nodup_nil
  · intro l i hi
    rw [hnone] at hi
    exact absurd hi List.not_mem_nil
  · intro l i hi
    rw [hnone] at hi
    exact absurd hi List.not_mem_nil

end CacheState

end Spelling
