import Spelling.Proofs.Service.Housed
import Spelling.Proofs.Service.Linear

/-!
# The enabled locales are replaced as a whole

A caller that replaces the enabled locales holds all permits from before it compares them until it
has its answer.  So nobody else does more meanwhile than report that it gave up waiting
(`Reported`), and the caller has these stages (`Refreshing`):

    place                                what the service is like
    holding, comparing                   as when the caller had its permits
    working                              dictionaries of the enabled locales are being closed
    replacing                            they are all closed
    exiting, where nothing changes       as when the caller had its permits
    exiting, where the locales differ    they are all closed, and the new cache is untouched
-/

namespace Spelling

variable {σ δ : Type} {b : Backend σ δ}

/-- Where nothing was noted since but that dictionaries were closed, and none is open now, each of
those open before was closed once. -/
theorem Cache.Ledger.perm_of_closed {label : Nat} {events es : List Event} {c : Cache δ}
    (h : c.Ledger label (events ++ es)) (hes : ∀ e ∈ es, e.cache = label ∧ e.deed = .closed)
    (hnone : ∀ i, ¬ c.Holds i) :
    (Event.closedIn label es).Perm (Event.unclosedIn label events) := by
  have hopened : Event.openedIn label (events ++ es) = Event.openedIn label events := by
    have hno : Event.openedIn label es = [] := by
      refine List.eq_nil_iff_forall_not_mem.mpr ?_
      intro i hi
      obtain ⟨e, he, -, hopens, -⟩ := Event.mem_slotsOf.mp hi
      rw [(hes e he).2] at hopens
      cases hopens
    rw [Event.openedIn, Event.slotsOf_append]
    exact (congrArg _ hno).trans (List.append_nil _)
  have hclosed : Event.closedIn label (events ++ es) =
      Event.closedIn label events ++ Event.closedIn label es := Event.slotsOf_append ..
  have hnodup := h.closed_nodup
  rw [hclosed, List.nodup_append] at hnodup
  obtain ⟨-, hnew, hapart⟩ := hnodup
  have hunclosed : (Event.unclosedIn label events).Nodup := by
    have hall := h.opened_nodup
    rw [hopened] at hall
    exact hall.filter _
  refine (List.perm_ext_iff_of_nodup hnew hunclosed).mpr ?_
  intro i
  rw [Event.mem_unclosedIn]
  constructor
  · intro hi
    have hwas := h.opened_of_closed i (by rw [hclosed]; exact List.mem_append_right _ hi)
    rw [hopened] at hwas
    exact ⟨hwas, fun hearlier => hapart i hearlier i hi rfl⟩
  · rintro ⟨hwas, hopen⟩
    rw [← hopened] at hwas
    have hgone := h.closed_of_opened hwas (hnone i)
    rw [hclosed] at hgone
    exact (List.mem_append.mp hgone).resolve_left hopen

namespace Service

/-! ## What others do meanwhile -/

/-- A service is the same as before, but that something was reported. -/
def Reported (s s' : Service σ δ) : Prop :=
  ∃ records, s' = { s with world := s.world.report records }

theorem Reported.refl (s : Service σ δ) : s.Reported s :=
  ⟨[], by rw [World.report, List.append_nil]⟩

theorem Reported.trans {s s' s'' : Service σ δ} (h : s.Reported s') (h' : s'.Reported s'') :
    s.Reported s'' := by
  obtain ⟨records, rfl⟩ := h
  obtain ⟨more, rfl⟩ := h'
  exact ⟨records ++ more, by simp only [World.report, List.append_assoc]⟩

/-- Nothing was noted since but that dictionaries of a cache were closed. -/
structure Closing (i : Nat) (s s' : Service σ δ) : Prop where
  enabled : s'.enabled = s.enabled
  length : s'.caches.length = s.caches.length
  events : ∃ es, s'.world.events = s.world.events ++ es ∧
    ∀ e ∈ es, e.cache = i ∧ e.deed = .closed

theorem Reported.closing {s s' : Service σ δ} (h : s.Reported s') (i : Nat) :
    Closing i s s' := by
  obtain ⟨records, rfl⟩ := h
  exact ⟨rfl, rfl, [], (List.append_nil _).symm, nofun⟩

theorem Closing.trans {i : Nat} {s s' s'' : Service σ δ} (h : Closing i s s')
    (h' : Closing i s' s'') : Closing i s s'' := by
  obtain ⟨es, hevents, hes⟩ := h.events
  obtain ⟨es', hevents', hes'⟩ := h'.events
  refine ⟨h'.enabled.trans h.enabled, h'.length.trans h.length, es ++ es', ?_, ?_⟩
  · rw [hevents', hevents, List.append_assoc]
  · intro e he
    rcases List.mem_append.mp he with he | he
    · exact hes e he
    · exact hes' e he

/-- The dictionaries of the enabled locales were closed, each that was open once, and others took
their place in a cache to which nothing was done. -/
structure Replaced (locales : List Locale) (s s' : Service σ δ) : Prop where
  enabled : s'.enabled = ⟨locales, s.caches.length⟩
  closed : ∃ es, s'.world.events = s.world.events ++ es ∧
    (∀ e ∈ es, e.cache = s.enabled.cache ∧ e.deed = .closed) ∧
    (Event.closedIn s.enabled.cache es).Perm
      (Event.unclosedIn s.enabled.cache s.world.events)
  untouched : ∀ e ∈ s'.world.events, e.cache ≠ s'.enabled.cache

theorem Replaced.reported {locales : List Locale} {s s' s'' : Service σ δ}
    (h : Replaced locales s s') (h' : s'.Reported s'') : Replaced locales s s'' := by
  obtain ⟨records, rfl⟩ := h'
  exact ⟨h.enabled, h.closed, h.untouched⟩

namespace Caller

variable {c c' : Crowd σ δ} {m n : Nat} {x y : Caller}

/-- A caller without permits reports at most that it gave up. -/
theorem Turn.reported (h : Turn b c m x c' y) (hnone : x.permit? = none) :
    c.service.Reported c'.service := by
  cases h with
  | gate | refused => exact .refl _
  | @gone call r =>
      cases call with
      | suggest l composed context keyboard patience =>
          cases patience with
          | usual => exact ⟨_, rfl⟩
          | atMost ms => exact .refl _
      | isValid | isValidAnywhere | hasMain | closeAll | setContacts | refresh => exact .refl _
  | begin => cases hnone
  | stride h =>
      cases h with
      | announcing => exact .refl _
      | unlent | lent | looking | working | concluding | same | differing | replacing | restoring
      | exiting => cases hnone

/-! ## The stages of a replacement -/

/-- How far a caller has come that replaces the enabled locales, since it had its permits. -/
inductive Refreshing (locales : List Locale) (s₀ s : Service σ δ) : Caller → Prop
  | holding {p : Permit} : s₀.Reported s →
      Refreshing locales s₀ s (entering (.refresh locales) (.holding p))
  | comparing {p : Permit} : s₀.Reported s → Refreshing locales s₀ s (comparing locales p)
  | emptying {z : Cache.Caller} {p : Permit} : s₀.enabled.locales ≠ locales →
      Closing s₀.enabled.cache s₀ s →
      Cache.Crowd.Emptying (s.cacheState s₀.enabled.cache).cache z →
      Refreshing locales s₀ s (working s₀.enabled.cache z (.replace locales) p)
  | replacing {p : Permit} : s₀.enabled.locales ≠ locales → Closing s₀.enabled.cache s₀ s →
      (s.cacheState s₀.enabled.cache).cache.resident = [] →
      Refreshing locales s₀ s (replacing locales p)
  | same {p : Permit} : s₀.enabled.locales = locales → s₀.Reported s →
      Refreshing locales s₀ s (exiting (.flag false) p)
  | replaced {p : Permit} : s₀.enabled.locales ≠ locales → Replaced locales s₀ s →
      Refreshing locales s₀ s (exiting (.flag true) p)

variable {locales : List Locale} {s₀ s s' : Service σ δ}

theorem Refreshing.permit (h : Refreshing locales s₀ s x) : ∃ p, x.permit? = some p := by
  cases h <;> exact ⟨_, rfl⟩

/-- What others report does not matter. -/
theorem Refreshing.reported (h : Refreshing locales s₀ s x) (hs : s.Reported s') :
    Refreshing locales s₀ s' x := by
  have hcache : ∀ i, (s'.cacheState i).cache = (s.cacheState i).cache := by
    obtain ⟨records, rfl⟩ := hs
    exact fun _ => rfl
  cases h with
  | holding h => exact .holding (h.trans hs)
  | comparing h => exact .comparing (h.trans hs)
  | emptying hne hclosing hempty =>
      exact .emptying hne (hclosing.trans (hs.closing _)) (hcache _ ▸ hempty)
  | replacing hne hclosing hempty =>
      exact .replacing hne (hclosing.trans (hs.closing _)) ((hcache _).symm ▸ hempty)
  | same heq h => exact .same heq (h.trans hs)
  | replaced hne h => exact .replaced hne (h.reported hs)

end Caller

section Steps

variable {settings : Settings} {calls : List Call} {gs : List Grant} {c c' : Crowd σ δ}
  {call? : Option Call} {g? : Option Grant} {m n : Nat} {x y : Caller} {locales : List Locale}
  {s₀ : Service σ δ} {p : Permit}

/-- When the dictionaries of the enabled locales are closed, the caller that closed them makes a
new cache for others. -/
theorem Closing.enable (hb : Bounded settings calls gs c)
    (hothers : ∀ z ∈ c.callers, ∀ i, (z.atCache i).answer?.isSome = true)
    (hs : Closing s₀.enabled.cache s₀ c.service)
    (hempty : (c.service.cacheState s₀.enabled.cache).cache.resident = []) :
    Replaced locales s₀ (c.service.enable locales) := by
  obtain ⟨es, hevents, hes⟩ := hs.events
  have haccounts := (hb.booked.books _ hb.booked.enabled).accounts
  rw [hs.enabled] at haccounts
  have hrest : (c.service.crowdAt c.callers s₀.enabled.cache).AtRest := by
    intro w hw
    obtain ⟨z, hz, rfl⟩ := List.mem_map.mp hw
    exact hothers z hz _
  have hnone : ∀ i, ¬ (c.service.cacheState s₀.enabled.cache).cache.Holds i := by
    intro i hi
    have hres := haccounts.resident_of_holds hrest hi
    rw [show (c.service.crowdAt c.callers s₀.enabled.cache).state.cache.resident = [] from hempty]
      at hres
    cases hres
  have hledger : (c.service.cacheState s₀.enabled.cache).cache.Ledger s₀.enabled.cache
      (s₀.world.events ++ es) := hevents ▸ haccounts.ledger
  refine ⟨?_, ⟨es, hevents, hes, hledger.perm_of_closed hes hnone⟩, ?_⟩
  · rw [← hs.length]
    rfl
  · intro e he
    exact Nat.ne_of_lt (hb.booked.known e he)

/-- **A step of the caller itself.**  It comes further with the replacement, or gives its permits
back with its answer. -/
theorem Caller.Refreshing.turn (hb : Bounded settings calls gs c)
    (hothers : ∀ m z, m ≠ n → c.callers[m]? = some z → z.permit? = none)
    (hx : c.callers[n]? = some x) (hr : x.Refreshing locales s₀ c.service)
    (h : Caller.Turn b c n x c' y) :
    y.Refreshing locales s₀ c'.service ∨
      Caller.Over (.flag (s₀.enabled.locales != locales)) y := by
  cases h with
  | gate hout _ =>
      cases hr with
      | holding => exact absurd rfl (hout _)
  | begin =>
      cases hr with
      | holding h => exact .inl (.comparing h)
  | gone | refused => cases hr
  | stride h =>
      cases h with
      | same _ hsame =>
          cases hr with
          | comparing h =>
              rw [(h.closing 0).enabled] at hsame
              exact .inl (.same hsame h)
      | differing _ hne =>
          cases hr with
          | comparing h =>
              have henabled := (h.closing 0).enabled
              rw [henabled] at hne ⊢
              exact .inl (.emptying hne (h.closing _) .draining)
      | @working i z z' t after p ht =>
          cases hr with
          | emptying hne hs hempty =>
              have hlt : s₀.enabled.cache < c.service.caches.length := hs.enabled ▸ hb.booked.enabled
              have hlabel := (hb.booked.books _ hlt).accounts.label
              obtain ⟨es, hevents, hes⟩ := hempty.notes ht
              refine .inl (.emptying hne (hs.trans ⟨rfl, ?_, es, hevents, ?_⟩) ?_)
              · rw [withCache, List.length_set]
              · intro e he
                exact ⟨(hes e he).1.trans hlabel, (hes e he).2⟩
              · rw [cacheState_withCache_self hlt]
                exact hempty.turn ht
      | concluding =>
          cases hr with
          | emptying hne hs hempty =>
              cases hempty with
              | done hnone => exact .inl (.replacing hne hs hnone)
      | replacing =>
          cases hr with
          | replacing hne hs hempty =>
              refine .inl (.replaced hne (hs.enable hb ?_ hempty))
              intro z hz i
              obtain ⟨j, hj⟩ := List.getElem?_of_mem hz
              by_cases hjn : j = n
              · subst hjn
                cases hx.symm.trans hj
                rfl
              · rw [(Caller.idle_of_outside (e := s₀.enabled) (hothers j z hjn hj)).2.1]
                rfl
      | exiting =>
          cases hr with
          | same heq _ =>
              rw [heq, bne_self_eq_false]
              exact .inr .announcing
          | replaced hne _ =>
              rw [bne_iff_ne.mpr hne]
              exact .inr .announcing
      | unlent | lent | looking | restoring | announcing => cases hr

/-- Where the caller of a replacement is: somewhere in between, or at its end. -/
def Refreshes (locales : List Locale) (s₀ : Service σ δ) (n : Nat) (c : Crowd σ δ) : Prop :=
  ∃ x, c.callers[n]? = some x ∧ (x.Refreshing locales s₀ c.service ∨
    Caller.Over (.flag (s₀.enabled.locales != locales)) x)

theorem Refreshes.happens (hb : Bounded settings calls gs c)
    (hcall : calls[n]? = some (.refresh locales)) (hr : Refreshes locales s₀ n c)
    (h : Happens b c call? g? c') : Refreshes locales s₀ n c' := by
  obtain ⟨x, hx, hstage⟩ := hr
  cases h with
  | arrival => exact ⟨x, getElem?_append_of_some hx _, hstage⟩
  | nothing => exact ⟨x, hx, hstage⟩
  | @turn m z y c₁ hz hturn =>
      by_cases hm : m = n
      · subst hm
        cases hx.symm.trans hz
        refine ⟨y, getElem?_set_of_some hx y, ?_⟩
        rcases hstage with hstage | hover
        · obtain ⟨p, hp⟩ := hstage.permit
          have hothers : ∀ j w, j ≠ m → c.callers[j]? = some w → w.permit? = none :=
            fun j w hj hw =>
              hb.admits.outside settings.maxReaders.2 hcall rfl hx hp hw (Ne.symm hj)
          have hnext := hstage.turn hb hothers hx hturn
          exact hnext
        · exact .inr (hover.turn hturn)
      · refine ⟨x, (List.getElem?_set_ne hm).trans hx, ?_⟩
        rcases hstage with hstage | hover
        · obtain ⟨p, hp⟩ := hstage.permit
          have hout := hb.admits.outside settings.maxReaders.2 hcall rfl hx hp hz (Ne.symm hm)
          exact .inl (hstage.reported (hturn.reported hout))
        · exact .inr hover

/-- **A replacement along a run.**  It has all its effects at once, or none. -/
theorem Refreshes.run (acts : List Happening) (hb : Bounded settings calls gs c)
    (hcall : calls[n]? = some (.refresh locales)) (hr : Refreshes locales s₀ n c) :
    Refreshes locales s₀ n (c.run b acts) := by
  refine (hb.run_keeps (P := fun calls c => calls[n]? = some (.refresh locales) ∧
    Refreshes locales s₀ n c) ?_ ⟨hcall, hr⟩ acts).2
  rintro calls gs c call? g? c' hb ⟨hcall, hr⟩ h
  exact ⟨getElem?_append_of_some hcall _, hr.happens hb hcall h⟩

end Steps

end Service

end Spelling
