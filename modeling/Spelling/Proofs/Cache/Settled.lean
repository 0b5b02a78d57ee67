import Spelling.Proofs.Cache.Lives
import Spelling.Proofs.Cache.Tidy

/-!
# A cache between two calls

One caller at a time, and no opening breaks off.  Then the cache is `Settled` between two calls:
it is tidy, each resident is open, and every other slot is closed.

Asking for a locale keeps the cache settled.  A resident becomes the one used last (`settled_hit`).
Any other locale gets a slot, for which the resident used longest ago is closed when there is no
room otherwise, and is opened (`Misses`).  The residents are told by their locales: the
one that was asked for, then the others as they were, up to the room that there is.
-/

namespace Spelling

variable {σ δ : Type} {b : Backend σ δ}

/-! ## A cache whose openings come to an end -/

/-- No opening for a number of sessions breaks off. -/
def Backend.Unbroken (b : Backend σ δ) (n : Nat) : Prop :=
  ∀ st l on message, (b.load st l ⟨on, n⟩).2.value ≠ .broken message

namespace Cache

/-- What holds of a cache that nobody is calling, if no opening breaks off: the residents are open
and have a locale each, and every other slot is closed. -/
structure Settled (c : Cache δ) : Prop where
  room : 0 < c.capacity
  bounded : c.resident.length ≤ c.capacity
  nodup : (c.resident.map Prod.fst).Nodup
  locale : ∀ l i, (l, i) ∈ c.resident → c.localeOf i = l
  ready : ∀ l i, (l, i) ∈ c.resident → ∃ r, c.phase i = .ready r
  shut : ∀ i, i ∉ c.residentSlots → c.phase i = .closed
  closing : c.closing = []

variable {c : Cache δ}

theorem settled_ofCapacity (label : Nat) {capacity : Nat} (h : 0 < capacity) (o : Options) :
    (ofCapacity label capacity o : Cache δ).Settled :=
  ⟨h, Nat.zero_le _, List.nodup_nil, nofun, nofun, fun _ _ => rfl, rfl⟩

theorem Settled.tidy (h : c.Settled) : c.Tidy := by
  refine ⟨h.nodup, h.locale, ?_, h.closing⟩
  intro l i hi
  obtain ⟨r, hr⟩ := h.ready l i hi
  exact hr ▸ nofun

theorem Settled.lt (h : c.Settled) {l : Locale} {i : Nat} (hi : (l, i) ∈ c.resident) :
    i < c.slots.length :=
  h.tidy.lt hi

/-- The slots of the residents have their locales, so no two residents share a slot. -/
theorem Settled.nodup_slots (h : c.Settled) : c.residentSlots.Nodup := by
  refine List.Nodup.of_map c.localeOf ?_
  have hlocales : c.residentSlots.map c.localeOf = c.resident.map Prod.fst := by
    rw [residentSlots, List.map_map]
    exact List.map_congr_left fun e he => h.locale e.1 e.2 he
  rw [hlocales]
  exact h.nodup

/-- Either there is room for one more, or the resident used longest ago has to make room. -/
theorem Settled.victim_cases (h : c.Settled) :
    (c.victim? = none ∧ c.resident.length < c.capacity ∧ c.staying = c.resident) ∨
      ∃ m j, c.victim? = some (m, j) ∧ c.resident.length = c.capacity ∧
        c.resident = c.staying ++ [(m, j)] := by
  rw [staying, victim?]
  by_cases hfull : c.resident.length < c.capacity
  · rw [if_pos hfull]
    exact .inl ⟨rfl, hfull, rfl⟩
  · have hlength : c.resident.length = c.capacity :=
      Nat.le_antisymm h.bounded (Nat.le_of_not_lt hfull)
    rw [if_neg hfull]
    rcases List.eq_nil_or_concat c.resident with hnil | ⟨kept, ⟨m, j⟩, hsplit⟩
    · rw [hnil] at hlength
      exact absurd hlength (Nat.ne_of_lt h.room)
    · refine .inr ⟨m, j, ?_⟩
      rw [hsplit] at hlength ⊢
      simpa using hlength

theorem Settled.length_staying_add (h : c.Settled) :
    c.staying.length + c.victim?.toList.length = c.resident.length := by
  rcases h.victim_cases with ⟨hv, -, hstay⟩ | ⟨m, j, hv, -, hsplit⟩
  · rw [hv, hstay]
    rfl
  · rw [hv, hsplit, List.length_append]
    rfl

theorem Settled.length_staying (h : c.Settled) : c.staying.length < c.capacity := by
  rcases h.victim_cases with ⟨-, hlength, hstay⟩ | ⟨m, j, -, hlength, hsplit⟩
  · rwa [hstay]
  · rw [hsplit, List.length_append] at hlength
    exact hlength ▸ Nat.lt_succ_self _

/-- Work that changes neither the residents nor what is open. -/
theorem Settled.same {c' : Cache δ} (h : c.Settled) (hbooks : c'.books = c.books)
    (hresident : c'.resident = c.resident) (hclosing : c'.closing = c.closing)
    (hlocale : ∀ i, c'.localeOf i = c.localeOf i)
    (hready : ∀ i r, c.phase i = .ready r → ∃ r', c'.phase i = .ready r')
    (hshut : ∀ i, c.phase i = .closed → c'.phase i = .closed) : c'.Settled := by
  have hcapacity : c'.capacity = c.capacity := congrArg (fun x => x.2.1) hbooks
  refine ⟨hcapacity ▸ h.room, hcapacity ▸ hresident ▸ h.bounded, hresident ▸ h.nodup, ?_, ?_, ?_,
    hclosing.trans h.closing⟩
  · intro l i hi
    rw [hlocale i]
    exact h.locale l i (hresident ▸ hi)
  · intro l i hi
    obtain ⟨r, hr⟩ := h.ready l i (hresident ▸ hi)
    exact hready i r hr
  · intro i hi
    rw [residentSlots, hresident] at hi
    exact hshut i (h.shut i hi)

/-- The event of closing a slot, which there is only for an open dictionary. -/
def farewell (c : Cache δ) (i : Nat) : List Event :=
  match c.phase i with
  | .ready (.dictionary _) => [⟨c.label, i, c.localeOf i, .closed⟩]
  | .ready (.unavailable _) | .loading | .closed => []

theorem holds_of_mem_farewell {i : Nat} {e : Event} (h : e ∈ c.farewell i) : c.Holds i := by
  rw [farewell] at h
  split at h
  · next d hd => exact ⟨d, hd⟩
  all_goals cases h

theorem closed_of_mem_farewell {i : Nat} {e : Event} (h : e ∈ c.farewell i) :
    e.deed = .closed := by
  rw [farewell] at h
  split at h
  · obtain rfl := List.mem_singleton.mp h
    rfl
  all_goals cases h

end Cache

namespace CacheState

variable {s : CacheState σ δ} {l : Locale}

theorem events_shut (i : Nat) :
    (s.shut b i).world.events = s.world.events ++ s.cache.farewell i := by
  rw [shut, Cache.farewell]
  cases s.cache.phase i with
  | loading | closed => exact (List.append_nil _).symm
  | ready r =>
      cases r with
      | dictionary d =>
          let closed := s.cache.modifySlot i fun slot => { slot with phase := .closed }
          have hlocale : closed.localeOf i = s.cache.localeOf i :=
            Cache.localeOf_modifySlot _ _ _ _ fun _ => rfl
          show s.world.events ++ [⟨s.cache.label, i, closed.localeOf i, .closed⟩] = _
          rw [hlocale]
      | unavailable u => exact (List.append_nil _).symm

/-! ### Room for a new slot -/

theorem farewell_enroll {c : Cache δ} {j : Nat} (hj : j < c.slots.length) :
    (c.enroll l).2.farewell j = c.farewell j := by
  rw [Cache.farewell, Cache.farewell, Cache.phase_enroll, if_neg (Nat.ne_of_lt hj),
    Cache.localeOf_enroll_of_lt hj]
  rfl

/-- The resident that makes room is closed. -/
theorem events_room (h : s.cache.Tidy) (l : Locale) : (s.room b l).world.events =
    s.world.events ++ s.cache.victim?.toList.flatMap fun e => s.cache.farewell e.2 := by
  rw [room]
  cases hv : s.cache.victim? with
  | none => exact (List.append_nil _).symm
  | some e =>
      have hj : e.2 < s.cache.slots.length :=
        h.lt ((Cache.mem_resident_iff e).mpr (.inr hv))
      let t := (s.onCache fun c => (c.enroll l).2).reportEviction e.2 s.cache.slots.length
      show (t.shut b e.2).world.events = _
      rw [events_shut, show t.cache.farewell e.2 = _ from farewell_enroll hj]
      simp [t, reportEviction, debug, World.report]

/-! ### Asking for a locale -/

/-- What asking for a locale that is not resident does. -/
structure Misses (l : Locale) (s t : CacheState σ δ) : Prop extends MakesRoom l s t where
  ready : ∃ r, t.cache.phase s.cache.slots.length = .ready r
  events : ∃ o success, t.world.events = s.world.events ++
    (s.cache.victim?.toList.flatMap fun e => s.cache.farewell e.2) ++
      [⟨s.cache.label, s.cache.slots.length, l, .opened o success⟩]

theorem resolve_misses (hb : b.Unbroken s.cache.sessions)
    (h : s.cache.Settled) (hnone : s.cache.resident.lookup l = none) :
    (s.resolve b l).1 = .returned s.cache.slots.length ∧ Misses l s (s.resolve b l).2 := by
  have hroom := makesRoom (b := b) h.tidy l
  have hunbroken : ∀ message, s.opens b l ≠ .broken message := hb _ _ _
  have hmessage : (s.opens b l).message? = none := by
    cases hopens : s.opens b l with
    | opened d | failed e => rfl
    | broken message => exact absurd hopens (hunbroken message)
  have hready : ∃ r, (s.opens b l).phase l = .ready r := by
    cases hopens : s.opens b l with
    | opened d => exact ⟨_, rfl⟩
    | failed e => exact ⟨_, rfl⟩
    | broken message => exact absurd hopens (hunbroken message)
  rw [resolve_miss h.tidy hnone, hmessage]
  refine ⟨rfl, makesRoom_enter h.tidy l, ?_, ?_⟩
  · rw [phase_enter h.tidy]
    exact hready
  · have hopened := events_fill b (s.room b l) s.cache.slots.length s.cache.useContacts
    rw [events_room h.tidy, hroom.label, hroom.locale_self] at hopened
    exact ⟨_, _, hopened⟩

theorem Misses.settled {t : CacheState σ δ} (h : s.cache.Settled)
    (hnone : s.cache.resident.lookup l = none) (ht : Misses l s t) : t.cache.Settled := by
  have hcapacity : t.cache.capacity = s.cache.capacity := congrArg (fun x => x.2.1) ht.books
  obtain ⟨r, hr⟩ := ht.ready
  have htidy : t.cache.Tidy := ht.tidy h.tidy hnone (hr ▸ nofun)
  refine ⟨hcapacity ▸ h.room, ?_, htidy.nodup, htidy.locale, ?_, ?_, htidy.closing⟩
  · rw [hcapacity, ht.resident, List.length_cons]
    exact h.length_staying
  · intro m i hi
    rw [ht.resident] at hi
    rcases List.mem_cons.mp hi with heq | hi
    · cases heq
      exact ⟨r, hr⟩
    · have hstay := (Cache.mem_resident_iff _).mpr (.inl hi)
      rw [ht.phase i (Nat.ne_of_lt (h.lt hstay)), if_neg (h.tidy.victim_ne hi)]
      exact h.ready m i hstay
  · intro i hi
    rw [Cache.residentSlots, ht.resident, List.map_cons, List.mem_cons, not_or] at hi
    rw [ht.phase i hi.1]
    split
    · rfl
    · next hvictim =>
      refine h.shut i fun hmem => ?_
      obtain ⟨e, he, rfl⟩ := List.mem_map.mp hmem
      rcases (Cache.mem_resident_iff e).mp he with hstay | hv
      · exact hi.2 (List.mem_map_of_mem hstay)
      · exact hvictim (by rw [hv]; rfl)

/-- The locale that was asked for last comes first, and as many others stay as there is room for. -/
theorem Misses.recent {t : CacheState σ δ} (h : s.cache.Settled)
    (hnone : s.cache.resident.lookup l = none) (ht : Misses l s t) :
    t.cache.resident.map Prod.fst =
      (l :: (s.cache.resident.map Prod.fst).filter (· != l)).take s.cache.capacity := by
  have hothers : (s.cache.resident.map Prod.fst).filter (· != l) =
      s.cache.resident.map Prod.fst := by
    rw [List.filter_eq_self]
    intro m hm
    obtain ⟨e, he, rfl⟩ := List.mem_map.mp hm
    rw [bne_iff_ne]
    rintro rfl
    exact Cache.not_mem_of_lookup hnone e.2 he
  obtain ⟨n, hn⟩ := Nat.exists_eq_add_of_lt h.room
  rw [Nat.zero_add] at hn
  rw [ht.resident, hothers, List.map_cons, hn, List.take_succ_cons]
  rcases h.victim_cases with ⟨-, hlength, hstay⟩ | ⟨m, j, -, hlength, hsplit⟩
  · rw [hstay, List.take_of_length_le (by rw [List.length_map]; omega)]
  · have hkept : s.cache.staying.length = n := by
      rw [hsplit, List.length_append, List.length_singleton] at hlength
      omega
    conv_rhs => rw [hsplit, List.map_append, List.take_left' (by rw [List.length_map, hkept])]

/-- A hit changes the order of the residents only. -/
theorem perm_put {i : Nat} (h : s.cache.Settled) (hi : s.cache.resident.lookup l = some i) :
    (Cache.put s.cache.resident l i).Perm s.cache.resident := by
  have hmem : (l, i) ∈ s.cache.resident := Cache.mem_of_lookup hi
  have hothers : s.cache.resident.filter (· != (l, i)) = s.cache.resident.filter (·.1 != l) := by
    refine List.filter_congr ?_
    intro e he
    rw [Bool.eq_iff_iff, bne_iff_ne, bne_iff_ne, not_iff_not]
    exact ⟨fun heq => congrArg Prod.fst heq,
      fun heq => List.inj_on_of_nodup_map h.nodup he hmem heq⟩
  rw [Cache.put, ← hothers, ← List.Nodup.erase_eq_filter (List.Nodup.of_map _ h.nodup)]
  exact (List.perm_cons_erase hmem).symm

theorem settled_hit {i : Nat} (h : s.cache.Settled) (hi : s.cache.resident.lookup l = some i)
    (stats : CacheStats) :
    Cache.Settled { s.cache with resident := Cache.put s.cache.resident l i, stats } ∧
      (Cache.put s.cache.resident l i).map Prod.fst =
        (l :: (s.cache.resident.map Prod.fst).filter (· != l)).take s.cache.capacity := by
  have hperm := perm_put h hi
  have hlocales : (Cache.put s.cache.resident l i).map Prod.fst =
      l :: (s.cache.resident.map Prod.fst).filter (· != l) := by
    rw [Cache.put, List.map_cons, List.filter_map]
    rfl
  have hlength : (Cache.put s.cache.resident l i).length ≤ s.cache.capacity :=
    hperm.length_eq ▸ h.bounded
  refine ⟨⟨h.room, hlength, (hperm.map Prod.fst).nodup_iff.mpr h.nodup, ?_, ?_, ?_, h.closing⟩, ?_⟩
  · exact fun m j hj => h.locale m j (hperm.mem_iff.mp hj)
  · exact fun m j hj => h.ready m j (hperm.mem_iff.mp hj)
  · exact fun j hj => h.shut j fun hmem => hj ((hperm.map Prod.snd).mem_iff.mpr hmem)
  · rw [hlocales, List.take_of_length_le]
    rwa [← hlocales, List.length_map]

end CacheState

end Spelling
