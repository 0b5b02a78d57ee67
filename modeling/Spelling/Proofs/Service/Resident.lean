import Spelling.Proofs.Cache.LeastRecent
import Spelling.Proofs.Service.Housed

/-!
# The dictionaries of the enabled locales stay resident

While nobody empties their cache (`Crowd.Undisturbed`), whatever was opened in it stays ready and
resident, and a resident locale is not opened again (`Lasting`).

What is not so: an opening that breaks off leaves a slot that is not ready.  Its locale is asked for
anew, and opened once more.
-/

namespace Spelling

variable {σ δ : Type} {b : Backend σ δ}

/-- The locales whose opening was tried in a cache, in the order of the events. -/
def Event.triedIn (cache : Nat) (events : List Event) : List Locale :=
  (events.filter fun e => e.cache == cache && e.deed.isOpening).map (·.locale)

theorem Event.triedIn_append (cache : Nat) (events events' : List Event) :
    triedIn cache (events ++ events') = triedIn cache events ++ triedIn cache events' := by
  rw [triedIn, List.filter_append, List.map_append]
  rfl

theorem Event.mem_triedIn {cache : Nat} {events : List Event} {l : Locale} :
    l ∈ triedIn cache events ↔
      ∃ e ∈ events, e.cache = cache ∧ e.deed.isOpening = true ∧ e.locale = l := by
  simp [triedIn, and_assoc]

theorem Event.triedIn_singleton {cache : Nat} {e : Event} (hcache : e.cache = cache)
    (hopening : e.deed.isOpening = true) : triedIn cache [e] = [e.locale] := by
  simp [triedIn, hcache, hopening]

namespace Service

/-! ## While nobody empties the cache -/

/-- Whether an opening in a cache breaks off in something that happens. -/
def Crowd.breaks (b : Backend σ δ) (c : Crowd σ δ) (i : Nat) : Happening → Bool
  | .arrive _ => false
  | .move n _ =>
    match c.callers[n]? with
    | some (.working j (.opening k on _) _ _) =>
      j == i && ((c.service.cacheState i).loads b k on).message?.isSome
    | _ => false

/-- While some things happen, nobody empties a cache or replaces the enabled locales, and no opening
in the cache breaks off. -/
def Crowd.Undisturbed (b : Backend σ δ) (i : Nat) : Crowd σ δ → List Happening → Prop
  | c, [] => ∀ x ∈ c.callers, x.clears i = false
  | c, a :: acts =>
    (∀ x ∈ c.callers, x.clears i = false) ∧ c.breaks b i a = false ∧
      (c.act b a).Undisturbed b i acts

instance Crowd.Undisturbed.decidable (b : Backend σ δ) (i : Nat) : (c : Crowd σ δ) →
    (acts : List Happening) → Decidable (c.Undisturbed b i acts)
  | c, [] => inferInstanceAs (Decidable (∀ x ∈ c.callers, x.clears i = false))
  | c, a :: acts =>
    have := Undisturbed.decidable b i (c.act b a) acts
    inferInstanceAs (Decidable (_ ∧ _ ∧ _))

/-- What was opened in the cache of some enabled locales since some moment: nothing of it was
closed, every slot that was opened is ready, and no locale was opened twice. -/
structure Lasting (e : EnabledSet) (es : List Event) (s : Service σ δ) : Prop where
  enabled : s.enabled = e
  unclosed : ∀ ev ∈ es, ev.cache = e.cache → ev.deed ≠ .closed
  ready : ∀ ev ∈ es, ev.cache = e.cache → ev.deed.isOpening = true →
    (s.cacheState e.cache).cache.localeOf ev.slot = ev.locale ∧
      ∃ r, (s.cacheState e.cache).cache.phase ev.slot = .ready r
  once : (Event.triedIn e.cache es).Nodup

section Lasting

variable {settings : Settings} {calls : List Call} {gs : List Grant} {c c' : Crowd σ δ}
  {m : Nat} {x y : Caller} {s s' : Service σ δ} {e : EnabledSet} {es es' : List Event}

theorem lasting_nil (s : Service σ δ) : Lasting s.enabled [] s :=
  ⟨rfl, nofun, nofun, List.nodup_nil⟩

theorem Caller.clears_of_empties {i : Nat} (h : (x.atCache i).empties = true) :
    x.clears i = true := by
  cases x with
  | working j z after p =>
      by_cases hj : j = i
      · subst hj
        rw [atCache_self] at h
        simp [clears, h]
      · rw [atCache_of_ne hj] at h
        cases h
  | replacing => rfl
  | entering | leasing | looking | comparing | restoring | exiting | announcing | done => cases h

/-- A slot that is ready in one of the caches stays so. -/
def StayReady (i : Nat) (s s' : Service σ δ) : Prop :=
  ∀ k r, (s.cacheState i).cache.phase k = .ready r →
    (s'.cacheState i).cache.localeOf k = (s.cacheState i).cache.localeOf k ∧
      ∃ r', (s'.cacheState i).cache.phase k = .ready r'

theorem stayReady_of_cache {i : Nat} (h : (s'.cacheState i).cache = (s.cacheState i).cache) :
    StayReady i s s' := by
  intro k r hr
  rw [h]
  exact ⟨rfl, r, hr⟩

theorem Lasting.append (h : Lasting e es s) (henabled : s'.enabled = s.enabled)
    (hready : StayReady e.cache s s')
    (hunclosed : ∀ ev ∈ es', ev.cache = e.cache → ev.deed ≠ .closed)
    (hnew : ∀ ev ∈ es', ev.cache = e.cache → ev.deed.isOpening = true →
      (s'.cacheState e.cache).cache.localeOf ev.slot = ev.locale ∧
        ∃ r, (s'.cacheState e.cache).cache.phase ev.slot = .ready r)
    (honce : (Event.triedIn e.cache (es ++ es')).Nodup) : Lasting e (es ++ es') s' := by
  refine ⟨henabled.trans h.enabled, ?_, ?_, honce⟩
  · intro ev hev
    rcases List.mem_append.mp hev with hev | hev
    · exact h.unclosed ev hev
    · exact hunclosed ev hev
  · intro ev hev hcache hopening
    rcases List.mem_append.mp hev with hev | hev
    · obtain ⟨hlocale, r, hr⟩ := h.ready ev hev hcache hopening
      obtain ⟨hsame, hready⟩ := hready _ r hr
      exact ⟨hsame.trans hlocale, hready⟩
    · exact hnew ev hev hcache hopening

/-- All that is noted of the cache is that its dictionaries are used. -/
theorem Lasting.uses (h : Lasting e es s) (henabled : s'.enabled = s.enabled)
    (hready : StayReady e.cache s s')
    (huses : ∀ ev ∈ es', ev.cache = e.cache → ev.deed.uses = true) :
    Lasting e (es ++ es') s' := by
  have hno : ∀ ev ∈ es', ev.cache = e.cache → ev.deed.isOpening = false :=
    fun ev hev hcache => Deed.not_isOpening_of_uses (huses ev hev hcache)
  refine h.append henabled hready ?_ ?_ ?_
  · intro ev hev hcache hdeed
    have huse := huses ev hev hcache
    rw [hdeed] at huse
    cases huse
  · intro ev hev hcache hopening
    rw [hno ev hev hcache] at hopening
    cases hopening
  · have hnone : Event.triedIn e.cache es' = [] := by
      refine List.eq_nil_iff_forall_not_mem.mpr ?_
      intro l hl
      obtain ⟨ev, hev, hcache, hopening, -⟩ := Event.mem_triedIn.mp hl
      rw [hno ev hev hcache] at hopening
      cases hopening
    rw [Event.triedIn_append, hnone, List.append_nil]
    exact h.once

section Turn

variable (hb : Bounded settings calls gs c) (hc : Housed calls c.service c.callers)

include hb hc

/-- While nobody empties the cache, every slot is resident that may have a dictionary. -/
theorem Housed.resident (hclear : ∀ x ∈ c.callers, x.clears c.service.enabled.cache = false)
    {k : Nat} (hk : k < (c.service.cacheState c.service.enabled.cache).cache.slots.length)
    (hdead : ¬ (c.service.cacheState c.service.enabled.cache).cache.Dead k) :
    ((c.service.cacheState c.service.enabled.cache).cache.localeOf k, k) ∈
      (c.service.cacheState c.service.enabled.cache).cache.resident := by
  have haccounts := (hb.booked.books _ hb.booked.enabled).accounts
  rcases haccounts.debts.shuts k hk hdead with hres | ⟨w, hw, hshuts⟩
  · exact hres
  · obtain ⟨v, hv, rfl⟩ := List.mem_map.mp hw
    rcases Cache.Caller.empties_of_shuts hshuts with hempties | hevicts
    · have hclears := Caller.clears_of_empties hempties
      rw [hclear v hv] at hclears
      cases hclears
    · rw [hc.evicts v hv] at hevicts
      cases hevicts

/-- A slot that is ready is resident. -/
theorem Housed.resident_of_ready
    (hclear : ∀ x ∈ c.callers, x.clears c.service.enabled.cache = false) {k : Nat}
    {r : Resource δ}
    (hr : (c.service.cacheState c.service.enabled.cache).cache.phase k = .ready r) :
    ((c.service.cacheState c.service.enabled.cache).cache.localeOf k, k) ∈
      (c.service.cacheState c.service.enabled.cache).cache.resident :=
  hc.resident hb hclear (Cache.lt_of_phase_ready hr) fun hdead => hdead.unready r hr

/-- The locale of a slot that somebody opens was not opened since. -/
theorem Lasting.not_mem_triedIn (hl : Lasting c.service.enabled es c.service)
    (hclear : ∀ x ∈ c.callers, x.clears c.service.enabled.cache = false) {k : Nat}
    (hlt : k < (c.service.cacheState c.service.enabled.cache).cache.slots.length)
    (hopen : (c.service.cacheState c.service.enabled.cache).cache.isOpening k = true) :
    (c.service.cacheState c.service.enabled.cache).cache.localeOf k ∉
      Event.triedIn c.service.enabled.cache es := by
  have hlineage := (hb.booked.books _ hb.booked.enabled).accounts.sound.lineage
  have hloading := hlineage.loading_of_opening k hopen
  have hres := hc.resident hb hclear hlt fun hdead => by
    rw [hdead.unopened] at hopen
    cases hopen
  intro hmem
  obtain ⟨ev, hev, hcache, hopening, hlocale⟩ := Event.mem_triedIn.mp hmem
  obtain ⟨hsame, r, hr⟩ := hl.ready ev hev hcache hopening
  -- the slot opened before is resident too, and so it is this one
  have hearlier := hc.resident_of_ready hb hclear hr
  rw [hsame, hlocale] at hearlier
  obtain rfl : ev.slot = k := hlineage.resident_unique hearlier hres
  exact nomatch hr.symm.trans hloading

/-- A caller makes a step on the cache of the enabled locales. -/
theorem Lasting.work {z z' : Cache.Caller} {t : CacheState σ δ} {after : After} {p : Permit}
    (hl : Lasting c.service.enabled es c.service)
    (hclear : ∀ x ∈ c.callers, x.clears c.service.enabled.cache = false)
    (hx : c.callers[m]? = some (.working c.service.enabled.cache z after p))
    (h : Cache.Caller.Turn b m (c.service.cacheState c.service.enabled.cache) z t z')
    (hloads : ∀ k on w, z = .opening k on w →
      ((c.service.cacheState c.service.enabled.cache).loads b k on).message? = none) :
    ∃ es', t.world.events = c.service.world.events ++ es' ∧
      Lasting c.service.enabled (es ++ es') (c.service.withCache c.service.enabled.cache t) := by
  have hmem := List.mem_of_getElem? hx
  have haccounts := (hb.booked.books _ hb.booked.enabled).accounts
  have hz : z ∈ (c.service.crowdAt c.callers c.service.enabled.cache).callers :=
    List.mem_of_getElem? (crowdAt_working hx)
  have hfits := haccounts.sound.fits z hz
  have hopens : ∀ k, z.opens? = some k →
      (c.service.cacheState c.service.enabled.cache).cache.isOpening k = true :=
    fun k => haccounts.sound.isOpening hz
  have hevicts := hc.evicts _ hmem
  rw [Caller.atCache_self] at hevicts
  have hempties : z.empties = false := by
    have hclears := hclear _ hmem
    rwa [Caller.clears, beq_self_eq_true, Bool.true_and] at hclears
  have hlater := (h.keeps haccounts.sound.lineage hfits hopens).2.1
  have hcache : ((c.service.withCache c.service.enabled.cache t).cacheState
      c.service.enabled.cache) = t := cacheState_withCache_self hb.booked.enabled
  have hready : StayReady c.service.enabled.cache c.service
      (c.service.withCache c.service.enabled.cache t) := by
    intro k r hr
    rw [hcache]
    exact ⟨hlater.localeOf k (Cache.lt_of_phase_ready hr),
      h.ready haccounts.sound.lineage hopens hevicts hempties hr⟩
  obtain ⟨es', hevents, hnotes⟩ := h.notes hfits hevicts hempties
  refine ⟨es', hevents, ?_⟩
  cases hnotes with
  | uses huses => exact hl.uses rfl hready fun ev hev _ => huses ev hev
  | @opens k on w o success hopening hfilled =>
      subst hopening
      have hlt := Cache.Heir.lt hfits
      refine hl.append rfl hready ?_ ?_ ?_
      · intro ev hev _
        cases List.mem_singleton.mp hev
        exact nofun
      · intro ev hev _ _
        cases List.mem_singleton.mp hev
        rw [hcache]
        exact ⟨hlater.localeOf k hlt, hfilled (hloads k on w rfl)⟩
      · rw [Event.triedIn_append, Event.triedIn_singleton haccounts.label rfl]
        refine List.nodup_append.mpr ⟨hl.once, by simp, ?_⟩
        rintro l hl' l' hl'' rfl
        cases List.mem_singleton.mp hl''
        exact hl.not_mem_triedIn hb hc hclear hlt (hopens k rfl) hl'

/-- While nobody empties the cache, a step of anybody leaves what was opened in it. -/
theorem Lasting.turn (hl : Lasting c.service.enabled es c.service)
    (hclear : ∀ x ∈ c.callers, x.clears c.service.enabled.cache = false)
    (hx : c.callers[m]? = some x) (h : Caller.Turn b c m x c' y)
    (hloads : ∀ k on w after p, x = .working c.service.enabled.cache (.opening k on w) after p →
      ((c.service.cacheState c.service.enabled.cache).loads b k on).message? = none) :
    ∃ es', c'.service.world.events = c.service.world.events ++ es' ∧
      Lasting c.service.enabled (es ++ es') c'.service := by
  have hmem := List.mem_of_getElem? hx
  have htouch := h.touch
  generalize c'.service = s' at htouch ⊢
  cases htouch with
  | @work i z z' t after p ht =>
      by_cases hi : i = c.service.enabled.cache
      · subst hi
        refine hl.work hb hc hclear hx ht ?_
        rintro k on w rfl
        exact hloads k on w after p rfl
      · obtain ⟨es', hevents, hes'⟩ := hb.booked.told hx ht
        refine ⟨es', hevents, hl.uses rfl ?_ ?_⟩
        · exact stayReady_of_cache (cacheState_withCache_of_ne _ _ _ t hi)
        · intro ev hev hcache
          exact absurd ((hes' ev hev).symm.trans hcache) hi
  | enable =>
      have hclears := hclear _ hmem
      cases hclears
  | apart _ hgoes =>
      obtain ⟨-, henabled, hcaches, hevents⟩ := hgoes.unmoved
      refine ⟨[], by rw [hevents, List.append_nil], hl.uses henabled ?_ nofun⟩
      exact stayReady_of_cache (cacheState_of_caches hcaches _)

end Turn

/-- A move is made by the caller of its number, or is not possible. -/
theorem Crowd.move_cases (b : Backend σ δ) (c : Crowd σ δ) (n : Nat) (move : Gate.Move) :
    c.act b (.move n move) = c ∨ ∃ x c' y, c.callers[n]? = some x ∧ Caller.Turn b c n x c' y ∧
      c.act b (.move n move) = { c' with callers := c.callers.set n y } := by
  simp only [Crowd.act, Crowd.step]
  cases hx : c.callers[n]? with
  | none => exact .inl rfl
  | some x =>
      cases hs : c.stepOf b n move x with
      | none =>
          simp only [hs]
          exact .inl rfl
      | some next =>
          obtain ⟨c', y⟩ := next
          have hturn := Caller.turn_of_stepOf hs
          refine .inr ⟨x, c', y, rfl, hturn, ?_⟩
          simp only [hs, Option.map_some, Option.getD_some, hturn.callers]

theorem Lasting.act (hb : Bounded settings calls gs c) (hc : Housed calls c.service c.callers)
    (hl : Lasting c.service.enabled es c.service)
    (hclear : ∀ x ∈ c.callers, x.clears c.service.enabled.cache = false) (a : Happening)
    (hbreaks : c.breaks b c.service.enabled.cache a = false) :
    ∃ es', (c.act b a).service.world.events = c.service.world.events ++ es' ∧
      Lasting c.service.enabled (es ++ es') (c.act b a).service := by
  have hsame : ∃ es', c.service.world.events = c.service.world.events ++ es' ∧
      Lasting c.service.enabled (es ++ es') c.service :=
    ⟨[], (List.append_nil _).symm, (List.append_nil es).symm ▸ hl⟩
  cases a with
  | arrive call => exact hsame
  | move n move =>
      rcases Crowd.move_cases b c n move with hstuck | ⟨x, c', y, hx, hturn, hmoved⟩
      · rw [hstuck]
        exact hsame
      · have hloads : ∀ k on w after p,
            x = .working c.service.enabled.cache (.opening k on w) after p →
              ((c.service.cacheState c.service.enabled.cache).loads b k on).message? = none := by
          rintro k on w after p rfl
          simpa [Crowd.breaks, hx] using hbreaks
        have hnext := hl.turn hb hc hclear hx hturn hloads
        rw [hmoved]
        exact hnext

/-- **What is opened in the cache stays.**  While nobody empties it, no locale is opened twice and
nothing is closed. -/
theorem Lasting.run (acts : List Happening) : ∀ {calls : List Call} {gs : List Grant}
    {c : Crowd σ δ} {es : List Event}, Bounded settings calls gs c →
      Housed calls c.service c.callers → Lasting e es c.service → c.Undisturbed b e.cache acts →
        ∃ es', (c.run b acts).service.world.events = c.service.world.events ++ es' ∧
          Lasting e (es ++ es') (c.run b acts).service ∧
          ∀ x ∈ (c.run b acts).callers, x.clears e.cache = false := by
  induction acts with
  | nil =>
      intro calls gs c es _ _ hl hquiet
      exact ⟨[], (List.append_nil _).symm, (List.append_nil es).symm ▸ hl, hquiet⟩
  | cons a acts ih =>
      intro calls gs c es hb hc hl hquiet
      obtain ⟨hclear, hbreaks, hrest⟩ := hquiet
      obtain rfl := hl.enabled
      have hhappens := happens_of_act (b := b) c a
      obtain ⟨es₁, hevents₁, hl₁⟩ := hl.act hb hc hclear a hbreaks
      obtain ⟨es₂, hevents₂, hl₂, hclear₂⟩ :=
        ih (hb.happens hhappens) (hc.happens hb hhappens) hl₁ hrest
      refine ⟨es₁ ++ es₂, ?_, by rwa [← List.append_assoc], hclear₂⟩
      show ((c.act b a).run b acts).service.world.events = _
      rw [hevents₂, hevents₁, List.append_assoc]

end Lasting

end Service

end Spelling
