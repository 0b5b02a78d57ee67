import Spelling.Proofs.Cache.Rest
import Spelling.Proofs.Service.Housed

/-!
# A replacement of the enabled locales comes to its end

The caller who holds all permits to replace the enabled locales waits for nobody:

    waits for                          which is held by
    the lock on the enabled locales    a caller that replaces them, inside
    the lock on the residents          a caller that goes into a cache, inside
    a slot                             a caller that reads or opens it, inside

and nobody else is inside (`Fastened.free`).  So its own steps alone bring it to its end
(`refresh_ends`).
-/

namespace Spelling.Service

variable {σ δ : Type} {b : Backend σ δ}

/-! ## Who holds the locks -/

namespace Caller

variable {c c' : Crowd σ δ} {m k : Nat} {x y : Caller}

/-- A caller makes a step on one of the caches, or it is not going into any and locks none. -/
theorem Turn.latches (h : Turn b c m x c' y) :
    (∃ i z z' t after p, x = working i z after p ∧ y = working i z' after p ∧
      c'.service = c.service.withCache i t ∧
      Cache.Caller.Turn b m (c.service.cacheState i) z t z') ∨
    (∀ i, (x.atCache i).visits = false) ∧
      ∀ i k, (c'.service.cacheState i).cache.lockedBy? = some k →
        (c.service.cacheState i).cache.lockedBy? = some k := by
  have hstill : ∀ {s : Service σ δ}, s.caches = c.service.caches →
      ∀ i k, (s.cacheState i).cache.lockedBy? = some k →
        (c.service.cacheState i).cache.lockedBy? = some k := by
    intro s hs i k hk
    rwa [cacheState_of_caches hs] at hk
  cases h with
  | gate | begin | refused => exact .inr ⟨fun _ => rfl, fun _ _ hk => hk⟩
  | gone => exact .inr ⟨fun _ => rfl, hstill (unmoved_giveUp _ _).caches⟩
  | stride h =>
      cases h with
      | unlent | lent | same | differing | restoring | exiting | announcing =>
          exact .inr ⟨fun _ => rfl, fun _ _ hk => hk⟩
      | looking => exact .inr ⟨fun _ => rfl, hstill (goesOn_follow _).unmoved.caches⟩
      | working h => exact .inl ⟨_, _, _, _, _, _, rfl, rfl, rfl, h⟩
      | @concluding j a after p =>
          refine .inr ⟨?_, hstill (goesOn_conclude (i := j) _ _).unmoved.caches⟩
          intro i
          by_cases hj : j = i
          · subst hj
            rw [atCache_self]
            rfl
          · rw [atCache_of_ne hj]
            rfl
      | @replacing locales p =>
          refine .inr ⟨fun _ => rfl, ?_⟩
          intro i k hk
          rcases Nat.decEq i c.service.caches.length with hne | rfl
          · rwa [cacheState_enable_of_ne _ _ _ hne] at hk
          · rw [cacheState_enable_new] at hk
            cases hk

/-- The lock on the enabled locales is taken to replace them, and given back after that. -/
theorem Turn.fastens (h : Turn b c m x c' y) (hk : c'.lockedBy? = some k) :
    k = m ∧ y.replaces?.isSome = true ∨
      c.lockedBy? = some k ∧ (x.replaces?.isSome = true → y.replaces?.isSome = true) := by
  cases h with
  | gate | begin | gone | refused => exact .inr ⟨hk, nofun⟩
  | stride h =>
      cases h with
      | unlent | lent | looking | same | restoring | exiting | announcing =>
          exact .inr ⟨hk, nofun⟩
      | @working i z z' t after p _ =>
          refine .inr ⟨hk, ?_⟩
          cases after with
          | replace => exact id
          | flag | corrections | search | look | closed | contacts => exact nofun
      | @concluding i a after p =>
          refine .inr ⟨hk, ?_⟩
          cases after with
          | replace => exact fun _ => rfl
          | flag | corrections | search | look | closed | contacts => exact nofun
      | differing =>
          cases hk
          exact .inl ⟨rfl, rfl⟩
      | replacing => cases hk

end Caller

/-- The lock on the enabled locales is held by a caller that replaces them, and the lock on the
residents of a cache by one that goes into it. -/
structure Fastened (c : Crowd σ δ) : Prop where
  enabled : ∀ k, c.lockedBy? = some k →
    ∃ x, c.callers[k]? = some x ∧ x.replaces?.isSome = true
  caches : ∀ i, (c.service.crowdAt c.callers i).Locked

theorem fastened_ofSettings (settings : Settings) (st : σ) (locales : List Locale) :
    Fastened (Crowd.ofService (ofSettings settings st locales : Service σ δ)) where
  enabled := nofun
  caches i := by
    match i with
    | 0 | 1 | i + 2 => exact nofun

section Fastened

variable {settings : Settings} {calls : List Call} {gs : List Grant} {c c' : Crowd σ δ}
  {call? : Option Call} {g? : Option Grant} {m n : Nat} {x y : Caller} {locales : List Locale}
  {p : Permit}

theorem Fastened.turn (hf : Fastened c) (hb : Bounded settings calls gs c)
    (hx : c.callers[m]? = some x) (h : Caller.Turn b c m x c' y) :
    Fastened { c' with callers := c.callers.set m y } := by
  refine ⟨?_, ?_⟩
  · intro k hk
    rcases h.fastens hk with ⟨rfl, hy⟩ | ⟨hwas, hkept⟩
    · exact ⟨y, getElem?_set_of_some hx y, hy⟩
    · obtain ⟨z, hz, hreplaces⟩ := hf.enabled k hwas
      rcases getElem?_set_moved hx y hz with ⟨-, rfl, hmoved⟩ | ⟨-, hsame⟩
      · exact ⟨y, hmoved, hkept hreplaces⟩
      · exact ⟨z, hsame, hreplaces⟩
  · intro i
    have helsewhere : (x.atCache i).visits = false →
        (∀ k, (c'.service.cacheState i).cache.lockedBy? = some k →
          (c.service.cacheState i).cache.lockedBy? = some k) →
        (c'.service.crowdAt (c.callers.set m y) i).Locked := by
      intro hout hstill k hk
      obtain ⟨w, hw, hvisits⟩ := hf.caches i k (hstill k hk)
      refine ⟨w, ?_, hvisits⟩
      rw [crowdAt_set]
      rcases getElem?_set_moved (crowdAt_getElem? hx) (y.atCache i) hw with ⟨-, rfl, -⟩ | ⟨-, hsame⟩
      · rw [hout] at hvisits
        cases hvisits
      · exact hsame
    rcases h.latches with ⟨j, z, z', t, after, p, rfl, rfl, hservice, hturn⟩ | ⟨hout, hstill⟩
    · by_cases hij : j = i
      · subst hij
        have hlt := hb.booked.works _ (List.mem_of_getElem? hx) j Caller.mem_caches
        show (c'.service.crowdAt _ j).Locked
        rw [hservice, crowdAt_set, cacheState_withCache_self hlt, Caller.atCache_self]
        exact (hf.caches j).happens (.turn (crowdAt_working hx) hturn)
      · refine helsewhere (by rw [Caller.atCache_of_ne hij]; rfl) ?_
        intro k hk
        rwa [hservice, cacheState_withCache_of_ne _ _ _ _ hij] at hk
    · exact helsewhere (hout i) (hstill i)

theorem Fastened.happens (hf : Fastened c) (hb : Bounded settings calls gs c)
    (h : Happens b c call? g? c') : Fastened c' := by
  cases h with
  | nothing => exact hf
  | turn hx h => exact hf.turn hb hx h
  | @arrival call =>
      refine ⟨?_, ?_⟩
      · intro k hk
        obtain ⟨x, hx, hreplaces⟩ := hf.enabled k hk
        exact ⟨x, getElem?_append_of_some hx _, hreplaces⟩
      · intro i k hk
        obtain ⟨w, hw, hvisits⟩ := hf.caches i k hk
        refine ⟨w, ?_, hvisits⟩
        show (List.map _ (c.callers ++ _))[k]? = some w
        rw [List.map_append]
        exact getElem?_append_of_some hw _

theorem Fastened.run (hf : Fastened c) (hb : Bounded settings calls gs c)
    (acts : List Happening) : Fastened (c.run b acts) :=
  hb.run_keeps (P := fun _ c => Fastened c) (fun hb hf h => hf.happens hb h) hf acts

/-- Where nobody goes into a cache or replaces the enabled locales, all locks are free. -/
theorem Fastened.free (hf : Fastened c)
    (hnone : ∀ x ∈ c.callers, (∀ i, x.atCache i = .done .nothing) ∧ x.replaces? = none) :
    c.lockedBy? = none ∧ ∀ i, (c.service.cacheState i).cache.lockedBy? = none := by
  constructor
  · cases hlock : c.lockedBy? with
    | none => rfl
    | some k =>
        obtain ⟨x, hx, hreplaces⟩ := hf.enabled k hlock
        rw [(hnone x (List.mem_of_getElem? hx)).2] at hreplaces
        cases hreplaces
  · intro i
    cases hlock : (c.service.cacheState i).cache.lockedBy? with
    | none => rfl
    | some k =>
        obtain ⟨w, hw, hvisits⟩ := hf.caches i k hlock
        obtain ⟨x, hx, rfl⟩ := List.mem_map.mp (List.mem_of_getElem? hw)
        rw [(hnone x hx).1 i] at hvisits
        cases hvisits

end Fastened

/-! ## One caller alone -/

/-- The caller of some number comes to a place by steps of its own. -/
def Crowd.Comes (b : Backend σ δ) (n : Nat) (c : Crowd σ δ) (y : Caller) : Prop :=
  ∃ k, (c.run b (List.replicate k (.move n .go))).callers[n]? = some y

section Alone

variable {settings : Settings} {calls : List Call} {gs : List Grant} {c c₁ : Crowd σ δ}
  {n : Nat} {x y z : Caller} {locales : List Locale} {p : Permit}

theorem comes_of_eq (hx : c.callers[n]? = some x) : c.Comes b n x := ⟨0, hx⟩

/-- Where a step is possible, it is made. -/
theorem comes_of_step (hx : c.callers[n]? = some x) (hs : c.stepOf b n .go x = some (c₁, y))
    (h : ({ c₁ with callers := c₁.callers.set n y } : Crowd σ δ).Comes b n z) :
    c.Comes b n z := by
  obtain ⟨k, hk⟩ := h
  refine ⟨k + 1, ?_⟩
  have hact : c.act b (.move n .go) = { c₁ with callers := c₁.callers.set n y } := by
    simp [Crowd.act, Crowd.step, hx, hs]
  rw [List.replicate_succ]
  show ((c.act b (.move n .go)).run b _).callers[n]? = some z
  rwa [hact]

/-- On its way out, a caller waits for nobody. -/
theorem comes_of_exiting {a : Answer} (hx : c.callers[n]? = some (.exiting a p)) :
    c.Comes b n (.done a) := by
  refine comes_of_step hx rfl (comes_of_step (getElem?_set_of_some hx _) rfl (comes_of_eq ?_))
  exact getElem?_set_of_some (getElem?_set_of_some hx _) _

/-- When the old dictionaries are closed, the replacement waits for nobody. -/
theorem comes_of_emptied {i : Nat} {a : Cache.Answer}
    (hx : c.callers[n]? = some (.working i (.done a) (.replace locales) p)) :
    c.Comes b n (.done (.flag true)) := by
  refine comes_of_step hx rfl (comes_of_step (getElem?_set_of_some hx _) rfl ?_)
  exact comes_of_exiting (getElem?_set_of_some (getElem?_set_of_some hx _) _)

/-- A step on a cache is a step of the caller of the service. -/
theorem stepOf_working {i : Nat} {w w' : Cache.Caller} {t : CacheState σ δ} {after : After}
    (hs : w.step b n (c.service.cacheState i) = some (t, w')) :
    c.stepOf b n .go (.working i w after p) =
      some ({ c with service := c.service.withCache i t }, .working i w' after p) := by
  cases w with
  | done => cases hs
  | finding | evicting | evicted | retiring | retired | choosing | opening | entering | asking
  | answering | forgetting | retrying | leaving | inspecting | draining | closing | closed
  | switching | collecting | applying | peeking =>
      simp only [Crowd.stepOf, Crowd.stepInside, hs, Option.map_some]

/-- A caller that gets to the end of its work on a cache, seen from there, does so in the
service. -/
theorem comes_of_leads {i : Nat} {a : Cache.Answer} {d d' : Cache.Crowd σ δ}
    (h : Cache.Crowd.Leads b n d d') :
    ∀ {c : Crowd σ δ} {w : Cache.Caller}, c.service.crowdAt c.callers i = d →
      i < c.service.caches.length →
      c.callers[n]? = some (.working i w (.replace locales) p) →
      d'.callers[n]? = some (.done a) → c.Comes b n (.done (.flag true)) := by
  induction h with
  | refl =>
      rintro c w rfl _ hx hdone
      cases (crowdAt_working hx).symm.trans hdone
      exact comes_of_emptied hx
  | head _ ih =>
      rintro c w rfl hlt hx hdone
      have hw : (c.service.crowdAt c.callers i).callers[n]? = some w := crowdAt_working hx
      cases hs : w.step b n (c.service.cacheState i) with
      | none =>
          refine ih ?_ hlt hx hdone
          simp [Cache.Crowd.act, Cache.Crowd.step, hw, show (c.service.crowdAt c.callers i).state =
            c.service.cacheState i from rfl, hs]
      | some next =>
          obtain ⟨t, w'⟩ := next
          refine comes_of_step hx (stepOf_working hs)
            (ih ?_ ?_ (getElem?_set_of_some hx _) hdone)
          · show (c.service.withCache i t).crowdAt (c.callers.set n _) i = _
            rw [crowdAt_set, cacheState_withCache_self hlt, Caller.atCache_self]
            simp only [Cache.Crowd.act, Cache.Crowd.step, hw,
              show (c.service.crowdAt c.callers i).state = c.service.cacheState i from rfl, hs]
            rfl
          · show i < (c.service.withCache i t).caches.length
            rwa [withCache, List.length_set]

/-- Whoever closes the old dictionaries to replace them, alone, comes to its end. -/
theorem comes_of_draining {i : Nat} (hb : Bounded settings calls gs c)
    (hx : c.callers[n]? = some (.working i .draining (.replace locales) p))
    (hothers : ∀ m z, m ≠ n → c.callers[m]? = some z → z.atCache i = .done .nothing)
    (hfree : (c.service.cacheState i).cache.lockedBy? = none) :
    c.Comes b n (.done (.flag true)) := by
  have hlt := hb.booked.works _ (List.mem_of_getElem? hx) i Caller.mem_caches
  have hbooks := hb.booked.books i hlt
  have halone : (c.service.crowdAt c.callers i).Alone i
      (c.service.cacheState i).cache.capacity n .draining := by
    refine ⟨hbooks.accounts, crowdAt_working hx, ?_⟩
    intro m w hm hw
    obtain ⟨z, hz, rfl⟩ := Option.map_eq_some_iff.mp (List.getElem?_map.symm.trans hw)
    rw [hothers m z hm hz]
    rfl
  obtain ⟨d, hleads, hdone⟩ := halone.drains (b := b) hbooks.room hfree
  exact comes_of_leads hleads rfl hlt hx hdone

/-- Whoever compares the enabled locales to replace them, with all permits, comes to its end. -/
theorem comes_of_comparing (hb : Bounded settings calls gs c) (hf : Fastened c)
    (hcall : calls[n]? = some (.refresh locales))
    (hx : c.callers[n]? = some (.comparing locales p)) :
    c.Comes b n (.done (.flag (c.service.enabled.locales != locales))) := by
  have hothers : ∀ m z, m ≠ n → c.callers[m]? = some z →
      (∀ i, z.atCache i = .done .nothing) ∧ z.replaces? = none := by
    intro m z hm hz
    have hout := hb.admits.outside settings.maxReaders.2 hcall rfl hx rfl hz (Ne.symm hm)
    obtain ⟨-, hidle, -, hreplaces⟩ := Caller.idle_of_outside (e := c.service.enabled) hout
    exact ⟨hidle, hreplaces⟩
  obtain ⟨hfree, hcaches⟩ : c.lockedBy? = none ∧ _ := by
    refine hf.free ?_
    intro z hz
    obtain ⟨m, hm⟩ := List.getElem?_of_mem hz
    by_cases hmn : m = n
    · subst hmn
      cases hx.symm.trans hm
      exact ⟨fun _ => rfl, rfl⟩
    · exact hothers m z hmn hm
  by_cases hsame : c.service.enabled.locales = locales
  · have hstep : c.stepOf b n .go (.comparing locales p) = some (c, .exiting (.flag false) p) := by
      simp [Crowd.stepOf, Crowd.stepInside, hfree, hsame]
    rw [hsame, bne_self_eq_false]
    exact comes_of_step hx hstep (comes_of_exiting (getElem?_set_of_some hx _))
  · have hstep : c.stepOf b n .go (.comparing locales p) = some ({ c with lockedBy? := some n },
        .working c.service.enabled.cache .draining (.replace locales) p) := by
      simp [Crowd.stepOf, Crowd.stepInside, hfree, hsame, Cache.Call.start]
    have hnext := hb.happens (.turn hx (.stride (.differing (b := b) hfree hsame)))
    rw [bne_iff_ne.mpr hsame]
    refine comes_of_step hx hstep
      (comes_of_draining hnext (getElem?_set_of_some hx _) ?_ (hcaches _))
    intro m z hm hz
    exact (hothers m z hm ((List.getElem?_set_ne hm.symm).symm.trans hz)).1 _

/-- **A replacement comes to its end.**  A caller that holds the permits to replace the enabled
locales gets its answer by steps of its own, whether they change. -/
theorem refresh_ends (hb : Bounded settings calls gs c) (hf : Fastened c)
    (hcall : calls[n]? = some (.refresh locales))
    (hx : c.callers[n]? = some (.entering (.refresh locales) (.holding p))) :
    c.Comes b n (.done (.flag (c.service.enabled.locales != locales))) := by
  have hnext : Happens b c none _ _ := .turn hx .begin
  refine comes_of_step hx rfl
    (comes_of_comparing (hb.happens hnext) (hf.happens hb hnext) ?_ (getElem?_set_of_some hx _))
  exact getElem?_append_of_some hcall _

end Alone

end Spelling.Service
