import Spelling.Proofs.Service.AtCache
import Spelling.Proofs.Service.Inside

/-!
# No cache holds more dictionaries than it has room for

What is open in a cache is bounded by its residents and by what drains have still to close.  A drain
takes out all residents, of which there are no more than there is room for.  But meanwhile others
could fill the cache anew, were they let in, and two drains could add up.

They are not: a drain is part of a call that changes the service, whose caller holds all permits.
Where a caller is tells whether its call is such a one:

    place                  changes the service
    entering               if its call does
    looking                unless it looks for a word
    working                if it goes over all residents, or what follows changes the service
    comparing, replacing   always

Nobody comes to such a place who did not come with such a call (`Turn.changes`).
-/

namespace Spelling.Service

variable {σ δ : Type} {b : Backend σ δ}

/-! ## Whose call changes the service -/

/-- Whether a plan changes the service. -/
def Plan.changes : Plan → Bool
  | search .. => false
  | close | contacts _ => true

/-- Whether what follows a call on a cache changes the service. -/
def After.changes : After → Bool
  | flag | corrections .. | search .. => false
  | look plan => plan.changes
  | closed | contacts _ | replace _ => true

namespace Caller

/-- Whether a caller is at a place of a call that changes the service. -/
def changes : Caller → Bool
  | entering call _ => call.changes
  | looking plan _ => plan.changes
  | working _ z after _ => z.sweeps || after.changes
  | comparing .. | replacing .. => true
  | leasing .. | restoring .. | exiting .. | announcing _ | done _ => false

section Changes

variable {c c' : Crowd σ δ} {m i : Nat} {x y : Caller} {p : Permit}

theorem changes_search (s : Service σ δ) (word : String) (cap : Capitalization) (cache : Nat)
    (all : List Locale) (p : Permit) (locales : List Locale) :
    (search s word cap cache all p locales).2.changes = false := by
  cases locales <;> rfl

theorem changes_follow (s : Service σ δ) (p : Permit) (plan : Plan) :
    (follow s p plan).2.changes = plan.changes := by
  cases plan with
  | search word cap => exact changes_search ..
  | close | contacts _ => rfl

theorem changes_conclude {s : Service σ δ} {a : Cache.Answer} {after : After}
    (h : (conclude s a p after).2.changes = true) : after.changes = true := by
  cases after with
  | search word cap cache l rest all =>
      simp only [conclude] at h
      cases ho : outcomeOf a with
      | returned r =>
          simp only [ho] at h
          split at h
          · cases h
          · rw [changes_search] at h
            cases h
      | broken message =>
          rw [ho] at h
          cases h
      | endless =>
          rw [ho] at h
          cases h
  | look plan => exact h
  | replace _ => rfl
  | flag | corrections | closed | contacts => cases h

/-- Nobody comes to change the service who did not come for that. -/
theorem Turn.changes (h : Turn b c m x c' y) (hy : y.changes = true) : x.changes = true := by
  cases h with
  | gate _ _ => exact hy
  | @begin call p =>
      cases call with
      | isValid | isValidAnywhere | suggest | hasMain => cases hy
      | closeAll | setContacts | refresh => rfl
  | gone | refused => cases hy
  | stride h =>
      cases h with
      | looking _ => rwa [changes_follow] at hy
      | working h =>
          simp only [Caller.changes, Bool.or_eq_true] at hy ⊢
          exact hy.imp_left h.sweeps
      | concluding => exact changes_conclude hy
      | differing | replacing => rfl
      | unlent | lent | same | restoring | exiting | announcing => cases hy

/-- A caller that goes over all residents of a cache is inside to change the service. -/
theorem changes_of_sweeps (h : (x.atCache i).sweeps = true) :
    x.changes = true ∧ ∃ p, x.permit? = some p := by
  cases x with
  | working j z after p =>
      have hz : z.sweeps = true := by
        by_cases hj : j = i
        · subst hj
          rwa [atCache_self] at h
        · rw [atCache_of_ne hj] at h
          cases h
      exact ⟨by rw [Caller.changes, hz, Bool.true_or], p, rfl⟩
  | entering | leasing | looking | comparing | replacing | restoring | exiting | announcing
  | done => cases h

/-- A caller that drains a cache is inside to change the service. -/
theorem changes_of_drains (h : (x.atCache i).drains ≠ []) :
    x.changes = true ∧ ∃ p, x.permit? = some p :=
  changes_of_sweeps (Cache.Caller.sweeps_of_drains h)

/-- Without permits, a caller does nothing to the caches. -/
theorem Touch.unmoved {s : Service σ δ} (h : Touch b c m x s y) (hnone : x.permit? = none) :
    c.service.Unmoved s := by
  cases h with
  | work _ | enable => cases hnone
  | apart _ h => exact h.unmoved

end Changes

end Caller

/-! ## The caches and their callers -/

/-- What holds of the caches of a service and of its callers, so that no cache is overfull. -/
structure Bounded (settings : Settings) (calls : List Call) (gs : List Grant) (c : Crowd σ δ) :
    Prop where
  admits : Admits settings.maxReaders.1 calls gs c
  booked : Booked settings c.service c.callers
  changers : ∀ (i : Nat) (x : Caller), c.callers[i]? = some x → x.changes = true →
    ∃ call, calls[i]? = some call ∧ call.changes = true
  drained : ∀ x ∈ c.callers, ∀ i,
    Cache.Crowd.Drained (c.service.cacheState i).cache (x.atCache i)

section Bounded

variable {settings : Settings} {calls : List Call} {gs : List Grant} {c c' : Crowd σ δ}
  {call? : Option Call} {g? : Option Grant} {i j m : Nat} {x y : Caller}

theorem bounded_ofSettings (settings : Settings) (st : σ) (locales : List Locale) :
    Bounded settings [] [] (Crowd.ofService (ofSettings settings st locales : Service σ δ)) where
  admits := admits_ofService rfl
  booked := booked_ofSettings settings st locales
  changers _ _ hx := nomatch List.getElem?_nil.symm.trans hx
  drained _ hx := absurd hx List.not_mem_nil

/-- Nobody else is inside with a caller that drains a cache. -/
theorem Bounded.alone (hc : Bounded settings calls gs c) (hx : c.callers[i]? = some x) {k : Nat}
    (hdrains : (x.atCache k).drains ≠ []) {q : Permit} (hy : c.callers[j]? = some y)
    (hq : y.permit? = some q) : i = j := by
  obtain ⟨hchanges, p, hp⟩ := Caller.changes_of_drains hdrains
  obtain ⟨call, hcall, hcallchanges⟩ := hc.changers i x hx hchanges
  exact hc.admits.sole settings.maxReaders.2 hcall hcallchanges hx hp hy hq

/-- **What is open in a cache has room in it.** -/
theorem Bounded.length_unclosed_le (hc : Bounded settings calls gs c)
    (hi : i < c.service.caches.length) :
    (Event.unclosedIn i c.service.world.events).length ≤
      (c.service.cacheState i).cache.capacity := by
  have hbooks := hc.booked.books i hi
  have hle := hbooks.accounts.length_unclosed_le
  have hresident : (c.service.cacheState i).cache.resident.length ≤
      (c.service.cacheState i).cache.capacity := hbooks.accounts.compact.bounded
  refine Nat.le_trans hle ?_
  simp only [crowdAt, List.map_map, Function.comp_def]
  by_cases hsome : ∃ (j : Nat) (x : Caller), c.callers[j]? = some x ∧ (x.atCache i).drains ≠ []
  · obtain ⟨j, x, hx, hdrains⟩ := hsome
    have hothers : ∀ k y, k ≠ j → c.callers[k]? = some y → (y.atCache i).drains.length = 0 := by
      intro k y hk hy
      refine Decidable.byContradiction ?_
      intro hne
      have hdrains' : (y.atCache i).drains ≠ [] := fun h => hne (List.length_eq_zero_iff.mpr h)
      obtain ⟨-, q, hq⟩ := Caller.changes_of_drains hdrains'
      exact hk (hc.alone hx hdrains hy hq).symm
    obtain ⟨hempty, hroom⟩ := hc.drained x (List.mem_of_getElem? hx) i hdrains
    rw [sum_map_eq_of_others _ hx hothers, hempty]
    simpa using hroom
  · have hnone : ∀ x ∈ c.callers, (x.atCache i).drains.length = 0 := by
      intro x hx
      obtain ⟨j, hj⟩ := List.getElem?_of_mem hx
      refine Decidable.byContradiction ?_
      intro hne
      exact hsome ⟨j, x, hj, fun h => hne (List.length_eq_zero_iff.mpr h)⟩
    rw [sum_map_eq_zero _ hnone]
    exact hresident

/-! ## Along a run -/

/-- A step of one caller keeps it so that whoever drains a cache took out all of its residents. -/
theorem Bounded.drained_turn (hc : Bounded settings calls gs c) (hx : c.callers[m]? = some x)
    (h : Caller.Turn b c m x c' y) :
    ∀ z ∈ c.callers.set m y, ∀ i,
      Cache.Crowd.Drained (c'.service.cacheState i).cache (z.atCache i) := by
  intro z hz i hdrains
  have htouch := h.touch
  obtain ⟨j, hj⟩ := List.getElem?_of_mem hz
  rcases getElem?_set_cases hj with ⟨-, rfl⟩ | ⟨hne, hj⟩
  · generalize c'.service = s at htouch ⊢
    cases htouch with
    | @work k w w' t after p hw =>
        have hk := hc.booked.works _ (List.mem_of_getElem? hx) k Caller.mem_caches
        by_cases hki : k = i
        · subst hki
          have hwas := hc.drained _ (List.mem_of_getElem? hx) k
          rw [Caller.atCache_self] at hwas hdrains
          rw [cacheState_withCache_self hk, Caller.atCache_self]
          exact hwas.turn (hc.booked.books k hk).accounts.compact hw hdrains
        · rw [Caller.atCache_of_ne hki] at hdrains
          exact absurd rfl hdrains
    | enable => exact absurd rfl hdrains
    | apart _ h => exact absurd (h.idle i).drains hdrains
  · -- while somebody else drains, whoever moves is outside
    have hnone : x.permit? = none := by
      cases hp : x.permit? with
      | none => rfl
      | some p => exact absurd (hc.alone hj hdrains hx hp).symm hne
    have hcaches := (htouch.unmoved hnone).caches
    have hwas := hc.drained z (List.mem_of_getElem? hj) i hdrains
    rw [cacheState, hcaches]
    exact hwas

theorem Bounded.happens (hc : Bounded settings calls gs c) (h : Happens b c call? g? c') :
    Bounded settings (calls ++ call?.toList) (gs ++ g?.toList) c' := by
  refine ⟨hc.admits.happens h, hc.booked.happens h, ?_, ?_⟩
  · intro i z hz hchanges
    cases h with
    | nothing => simpa using hc.changers i z hz hchanges
    | @arrival call =>
        rcases getElem?_append_cases hz with hz | ⟨rfl, rfl⟩
        · obtain ⟨call', hcall, hcallchanges⟩ := hc.changers i z hz hchanges
          exact ⟨call', getElem?_append_of_some hcall _, hcallchanges⟩
        · refine ⟨call, ?_, hchanges⟩
          rw [← hc.admits.length]
          exact List.getElem?_concat_length
    | turn hx h =>
        rw [Option.toList_none, List.append_nil]
        rcases getElem?_set_cases hz with ⟨rfl, rfl⟩ | ⟨-, hz⟩
        · exact hc.changers _ _ hx (h.changes hchanges)
        · exact hc.changers i z hz hchanges
  · cases h with
    | nothing => exact hc.drained
    | arrival =>
        intro z hz i
        rcases List.mem_append.mp hz with hz | hz
        · exact hc.drained z hz i
        · cases List.mem_singleton.mp hz
          exact fun hdrains => absurd rfl hdrains
    | turn hx h =>
        have hdrained := hc.drained_turn hx h
        exact hdrained

theorem Bounded.run (hc : Bounded settings calls gs c) (acts : List Happening) :
    Bounded settings (calls ++ acts.filterMap Happening.call?) (gs ++ c.grants b acts)
      (c.run b acts) :=
  Crowd.run_keeps Bounded.happens acts hc

/-- What every single thing that happens keeps, as long as the rest holds, a whole run keeps. -/
theorem Bounded.run_keeps {P : List Call → Crowd σ δ → Prop}
    (hstep : ∀ {calls gs c call? g? c'}, Bounded settings calls gs c → P calls c →
      Happens b c call? g? c' → P (calls ++ call?.toList) c')
    (hc : Bounded settings calls gs c) (h : P calls c) (acts : List Happening) :
    P (calls ++ acts.filterMap Happening.call?) (c.run b acts) := by
  refine (Crowd.run_keeps (P := fun calls gs c => Bounded settings calls gs c ∧ P calls c)
    ?_ acts ⟨hc, h⟩).2
  rintro calls gs c call? g? c' ⟨hc, h⟩ hhappens
  exact ⟨hc.happens hhappens, hstep hc h hhappens⟩

/-- **No cache holds more dictionaries than it has room for.**  Whoever calls a service and moves in
whatever order, at every moment the cache for single locales has opened at most as many dictionaries
that it has not closed as the settings give it room for; and so has every other cache.  These are
the dictionaries that the cache holds, evicted ones among them whose close still waits for a reader.
-/
theorem Crowd.caches_stay_bounded (b : Backend σ δ) (settings : Settings) (st : σ)
    (locales : List Locale) (acts : List Happening) :
    let c := (Crowd.ofService (ofSettings settings st locales)).run b acts
    let events := c.service.world.events
    (Event.unclosedIn single events).length ≤ settings.cacheCapacity.1 ∧
      ∀ i, i < c.service.caches.length →
        (Event.openedIn i events).Nodup ∧
        (Event.unclosedIn i events).length ≤ (c.service.cacheState i).cache.capacity ∧
        ∀ k, k ∈ Event.unclosedIn i events ↔ (c.service.cacheState i).cache.Holds k := by
  intro c events
  have hstart := bounded_ofSettings settings st locales (δ := δ)
  have hc : Bounded settings ([] ++ acts.filterMap Happening.call?) _ c := hstart.run acts
  refine ⟨?_, ?_⟩
  · rw [← hc.booked.capacity]
    exact hc.length_unclosed_le hc.booked.single
  · intro i hi
    have hledger := (hc.booked.books i hi).accounts.ledger
    exact ⟨hledger.opened_nodup, hc.length_unclosed_le hi, fun k => (hledger.holds_iff k).symm⟩

end Bounded

end Spelling.Service
