import Spelling.Proofs.Cache.Content
import Spelling.Proofs.Cache.Tidy

/-!
# A cache that is called by one caller at a time

Between two calls a cache is `Quiet`: it is tidy, and its residents are up to date.  Then a question
is answered as by a dictionary that is opened afresh, unless an opening breaks off (`Ended`).
-/

namespace Spelling

/-- A call came to what is owed, or an opening broke off, which the messages tell, and so did the
call. -/
def Ended {α : Type} (broken : String → α) (before after : List String) (owed a : α) : Prop :=
  after = before ∧ a = owed ∨ ∃ message, after = message :: before ∧ a = broken message

theorem Ended.imp {α β : Type} {broken : String → α} {broken' : String → β}
    {before after : List String} {owed a : α} (f : α → β)
    (hbroken : ∀ message, f (broken message) = broken' message)
    (h : Ended broken before after owed a) : Ended broken' before after (f owed) (f a) := by
  rcases h with ⟨hsame, rfl⟩ | ⟨message, htold, rfl⟩
  · exact .inl ⟨hsame, rfl⟩
  · exact .inr ⟨message, htold, hbroken message⟩

/-- What did not break off came to what is owed. -/
theorem Ended.returned {α : Type} {before after : List String} {owed : Outcome α} {a : α}
    (h : Ended .broken before after owed (.returned a)) : after = before ∧ owed = .returned a := by
  rcases h with ⟨hsame, howed⟩ | ⟨message, -, hbroken⟩
  · exact ⟨hsame, howed.symm⟩
  · cases hbroken

theorem Ended.endless {α : Type} {before after : List String} {owed : Outcome α}
    (h : Ended .broken before after owed .endless) : after = before ∧ owed = .endless := by
  rcases h with ⟨hsame, howed⟩ | ⟨message, -, hbroken⟩
  · exact ⟨hsame, howed.symm⟩
  · cases hbroken

/-- With no message of an opening that broke off, a call came to what is owed. -/
theorem Ended.eq_owed {α : Type} {broken : String → α} {told : List String} {owed a : α}
    (h : Ended broken told told owed a) : a = owed := by
  rcases h with ⟨-, howed⟩ | ⟨message, htold, -⟩
  · exact howed
  · exact absurd htold (List.cons_ne_self message told).symm

namespace Cache

variable {σ δ : Type} {b : Backend σ δ} {fresh : Locale → Options → Loaded δ}

/-- What holds of a cache that nobody is calling. -/
structure Quiet (b : Backend σ δ) (fresh : Locale → Options → Loaded δ) (n : Nat) (on : Bool)
    (c : Cache δ) : Prop extends c.Content b fresh n on where
  unclosed : ∀ l i, (l, i) ∈ c.resident → c.phase i ≠ .closed
  nodup : (c.resident.map Prod.fst).Nodup
  closing : c.closing = []

theorem quiet_ofCapacity (label capacity n : Nat) (on : Bool) :
    (ofCapacity label capacity ⟨on, n⟩ : Cache δ).Quiet b fresh n on :=
  ⟨content_ofCapacity label capacity n on, nofun, List.nodup_nil, rfl⟩

section Quiet

variable {n : Nat} {on : Bool} {c : Cache δ}

theorem Quiet.tidy (h : c.Quiet b fresh n on) : c.Tidy :=
  ⟨h.nodup, fun l i hi => (h.resident l i hi).locale, h.unclosed, h.closing⟩

theorem Tidy.quiet (h : c.Tidy) (hc : c.Content b fresh n on) : c.Quiet b fresh n on :=
  ⟨hc, h.unclosed, h.nodup, h.closing⟩

theorem Quiet.forget (h : c.Quiet b fresh n on) (i : Nat) : (c.forget i).Quiet b fresh n on :=
  (h.tidy.forget i).quiet (h.toContent.grows (grows_forget i))

theorem Quiet.hit (h : c.Quiet b fresh n on) {l : Locale} {i : Nat}
    (hi : c.resident.lookup l = some i) (stats : CacheStats) :
    Quiet b fresh n on { c with resident := put c.resident l i, stats } :=
  (h.tidy.hit hi stats).quiet (h.toContent.grows (grows_hit hi stats))

/-- What a resident holds was kept for its locale. -/
theorem Quiet.kept (h : c.Quiet b fresh n on) {l : Locale} {i : Nat} (hi : (l, i) ∈ c.resident)
    {r : Resource δ} (hr : c.phase i = .ready r) : Kept b fresh l n on r := by
  have hright := h.resident l i hi
  rw [← h.sessions, ← h.useContacts, ← hright.locale]
  exact hright.current r hr

end Quiet

end Cache

namespace CacheState

variable {σ δ : Type} {b : Backend σ δ} {fresh : Locale → Options → Loaded δ}
  {n : Nat} {on : Bool} {s : CacheState σ δ} {l : Locale}

/-- What the dictionary of a locale would be opened with now. -/
theorem options_eq (h : s.cache.Quiet b fresh n on) : s.cache.options = ⟨on, n⟩ := by
  rw [Cache.options, h.useContacts, h.sessions]

theorem grows_room (l : Locale) (s : CacheState σ δ) :
    s.cache.Grows b fresh (s.room b l).cache := by
  have henroll : s.cache.Grows b fresh (s.cache.enroll l).2 := Cache.grows_enroll l
  rw [room]
  cases s.cache.victim? with
  | none => exact henroll
  | some e =>
      let t := (s.onCache fun c => (c.enroll l).2).reportEviction e.2 s.cache.slots.length
      have hshut : t.cache.Grows b fresh (t.shut b e.2).cache := Cache.grows_shut e.2
      have hdone : (t.shut b e.2).cache.Grows b fresh
          ((t.shut b e.2).cache.settled e.2).countEviction :=
        .of_slots rfl rfl rfl fun _ he => he
      exact (henroll.trans hshut).trans hdone

variable {broke : σ → List String}

/-- What a question comes to: the cache is quiet again, and the answer is the one that is owed or
says which opening broke off. -/
def Settles (b : Backend σ δ) (fresh : Locale → Options → Loaded δ) (broke : σ → List String)
    (n : Nat) (on : Bool) (s : CacheState σ δ) (owed : Outcome Reply)
    (r : Outcome Reply × CacheState σ δ) : Prop :=
  r.2.cache.Quiet b fresh n on ∧
    Ended .broken (broke s.world.backend) (broke r.2.world.backend) owed r.1

/-- A locale that is not resident is opened, and the cache is quiet again. -/
theorem quiet_enter (hb : b.Counted fresh broke) (h : s.cache.Quiet b fresh n on)
    (hnone : s.cache.resident.lookup l = none) : (s.enter b l).cache.Quiet b fresh n on := by
  refine (tidy_enter h.tidy hnone).quiet (h.toContent.grows ((grows_room l s).trans ?_))
  have hgrows := Cache.grows_fill (s := s.room b l) hb (makesRoom h.tidy l).lt
  rwa [useContacts_room] at hgrows

/-- A locale that is not resident answers as opened. -/
theorem askWithin_miss (hb : b.Counted fresh broke) (h : s.cache.Quiet b fresh n on)
    (hnone : s.cache.resident.lookup l = none) (a : Ask) (rounds : Nat) :
    Settles b fresh broke n on s ((fresh l ⟨on, n⟩).reply b a)
      (s.askWithin b l a (rounds + 1)) := by
  have hquiet := quiet_enter hb h hnone
  have hload := hb.load s.world.backend l ⟨on, n⟩
  have hopens : s.opens b l = (b.load s.world.backend l ⟨on, n⟩).2.value := by
    rw [opens, options_eq h]
  have hbackend : (s.enter b l).world.backend = (b.load s.world.backend l ⟨on, n⟩).1 := by
    rw [backend_enter h.tidy, options_eq h]
  rw [← hopens, ← hbackend] at hload
  have hphase := phase_enter (b := b) h.tidy l
  rw [askWithin, resolve_miss h.tidy hnone]
  cases hvalue : s.opens b l with
  | broken message =>
      refine ⟨hquiet, ?_⟩
      rcases hload with ⟨hfresh, hsame⟩ | ⟨m, hbroken, htold⟩
      · refine .inl ⟨hsame, ?_⟩
        rw [← hfresh, hvalue]
        rfl
      · rw [hvalue] at hbroken
        cases hbroken
        exact .inr ⟨message, htold, rfl⟩
  | opened d | failed e =>
      rw [hvalue] at hphase hload
      simp only [Loaded.message?, hphase, Loaded.phase]
      obtain ⟨hfresh, hsame⟩ := hload.resolve_right (by rintro ⟨m, hm, -⟩; cases hm)
      obtain ⟨hcache, hworld⟩ := askResource_snd (b := b)
        (s.enter b l) s.cache.slots.length _ a
      refine ⟨hcache ▸ hquiet, .inl ⟨by rw [hworld, hsame], ?_⟩⟩
      rw [askResource_fst, ← hfresh]
      rfl

/-- A question is answered as by a dictionary that is opened afresh, or an opening breaks off. -/
theorem settles_ask (hb : b.Counted fresh broke) (h : s.cache.Quiet b fresh n on) (a : Ask) :
    Settles b fresh broke n on s ((fresh l ⟨on, n⟩).reply b a) (s.ask b l a) := by
  cases hlookup : s.cache.resident.lookup l with
  | none => exact askWithin_miss hb h hlookup a 1
  | some i =>
      have hmem := Cache.mem_of_lookup hlookup
      have hright := h.resident l i hmem
      obtain ⟨t, ht⟩ : ∃ t, s.resolve b l = (.returned i, t) := ⟨_, resolve_hit hlookup⟩
      have hcache : t.cache = { s.cache with
          resident := Cache.put s.cache.resident l i
          stats := { s.cache.stats with hits := s.cache.stats.hits + 1 } } := by
        rw [resolve_hit hlookup] at ht
        cases ht
        rfl
      have hworld : t.world = s.world := by
        rw [resolve_hit hlookup] at ht
        cases ht
        rfl
      have hquiet : t.cache.Quiet b fresh n on := hcache ▸ h.hit hlookup _
      have hphase : t.cache.phase i = s.cache.phase i := by
        rw [hcache]
        rfl
      rw [ask, roundLimit, askWithin, ht]
      cases hslot : s.cache.phase i with
      | ready r =>
          have hkept : Kept b fresh l n on r := h.kept hmem hslot
          obtain ⟨hsame, hbackend⟩ := askResource_snd (b := b) t i r a
          simp only [hphase, hslot]
          refine ⟨hsame ▸ hquiet, .inl ⟨by rw [hbackend, hworld], ?_⟩⟩
          rw [askResource_fst, hb.kept l n on r hkept a]
      | loading =>
          -- an opening broke off here before: the slot is forgotten, and the locale has none
          have hnone : (t.cache.forget i).resident.lookup l = none := by
            rw [hcache]
            exact Cache.lookup_forget_put hright.locale
          simp only [hphase, hslot]
          have hagain := askWithin_miss hb
            (s := (t.onCache (·.forget i)).reportRetry l) (hquiet.forget i) hnone a 0
          rw [Settles, show ((t.onCache (·.forget i)).reportRetry l).world.backend =
            s.world.backend by rw [← hworld]; rfl] at hagain
          exact hagain
      | closed => exact absurd hslot (h.unclosed l i hmem)

/-! ## Closing everything, and turning the contacts on or off -/

/-- Slots are closed one after another. -/
theorem foldl_shut (drained : List Nat) (s : CacheState σ δ) :
    let t := drained.foldl (fun s i => (s.shut b i).onCache (·.settled i)) s
    s.cache.Grows b fresh t.cache ∧ t.world.backend = s.world.backend := by
  induction drained generalizing s with
  | nil => exact ⟨.refl _, rfl⟩
  | cons j rest ih =>
      obtain ⟨hgrows, hbackend⟩ := ih ((s.shut b j).onCache (·.settled j))
      exact ⟨((Cache.grows_shut j).trans (Cache.grows_settled j)).trans hgrows,
        hbackend.trans (backend_shut b s j)⟩

theorem quiet_closeAll (h : s.cache.Quiet b fresh n on) :
    (s.closeAll b).cache.Quiet b fresh n on ∧
      (s.closeAll b).world.backend = s.world.backend := by
  let t := (s.onCache fun c => c.drain.2).reportDrain s.cache.drain.1
  have htcache : t.cache = s.cache.drain.2 := cache_reportDrain ..
  have htworld : t.world.backend = s.world.backend := by
    show ((s.onCache fun c => c.drain.2).reportDrain s.cache.drain.1).world.backend = _
    rw [reportDrain]
    split <;> rfl
  obtain ⟨hgrows, hbackend⟩ : Cache.Grows b fresh t.cache _ ∧ _ := foldl_shut s.cache.drain.1 t
  have hdrain : s.cache.Grows b fresh t.cache := htcache ▸ Cache.grows_drain
  exact ⟨(tidy_closeAll h.tidy).quiet (h.toContent.grows (hdrain.trans hgrows)),
    hbackend.trans htworld⟩

/-- The contacts are turned on or off in one slot after another. -/
theorem foldl_switchContacts (slots : List Nat) {s : CacheState σ δ}
    (h : Cache.Turning b fresh n on slots s.cache) :
    let t := slots.foldl (fun s i => s.switchContacts b on i) s
    Cache.Turning b fresh n on [] t.cache ∧ t.cache.resident = s.cache.resident ∧
      t.cache.closing = s.cache.closing ∧ t.world.backend = s.world.backend ∧
      ∀ i, t.cache.phase i = .closed → s.cache.phase i = .closed := by
  induction slots generalizing s with
  | nil => exact ⟨h, rfl, rfl, rfl, fun _ hi => hi⟩
  | cons j rest ih =>
      obtain ⟨hturning, hresident, hclosing, hbackend, hclosed⟩ := ih h.switch
      refine ⟨hturning, hresident.trans (resident_switchContacts ..),
        hclosing.trans (closing_switchContacts ..), hbackend.trans (backend_switchContacts ..), ?_⟩
      intro i hi
      have hi := hclosed i hi
      rw [phase_switchContacts] at hi
      split at hi
      · exact switched_closed b hi
      · exact hi

theorem quiet_setContacts (h : s.cache.Quiet b fresh n on) (now : Bool) :
    (s.setContacts b now).cache.Quiet b fresh n now ∧
      (s.setContacts b now).world.backend = s.world.backend := by
  obtain ⟨hturning, hresident, hclosing, hbackend, hclosed⟩ :=
    foldl_switchContacts (b := b) s.cache.residentSlots
      (s := s.onCache fun c => { c with useContacts := now }) (h.toContent.turning now)
  refine ⟨⟨hturning.content, ?_, ?_, hclosing.trans h.closing⟩, hbackend⟩
  · intro l i hi hphase
    exact h.unclosed l i (hresident ▸ hi) (hclosed i hphase)
  · exact (congrArg (List.map Prod.fst) hresident) ▸ h.nodup

end CacheState

end Spelling
