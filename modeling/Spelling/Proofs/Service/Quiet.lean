import Spelling.Proofs.Cache.Alone
import Spelling.Proofs.Service.Plain
import Spelling.Proofs.Service.Stands

/-!
# A service that is called by one caller at a time

Between two calls both caches of a service are quiet, and the service stands for a plain one
(`Quiet`).  Every call comes to what the plain service answers, unless an opening breaks off, and
leaves the service standing for what the plain one has become.
-/

namespace Spelling.Service

variable {σ δ : Type} {b : Backend σ δ} {fresh : Locale → Options → Loaded δ}

/-- What holds of a service that nobody is calling. -/
structure Quiet (b : Backend σ δ) (fresh : Locale → Options → Loaded δ) (n : Nat) (p : Plain)
    (s : Service σ δ) : Prop extends
    s.Stands n p.locales (Cache.Quiet b fresh n p.useContacts)
      (Cache.Quiet b fresh n p.useContacts) where
  idle : s.sessions.idle = List.range n

theorem quiet_ofSettings (s : Settings) (st : σ) (locales : List Locale) :
    (ofSettings s st locales : Service σ δ).Quiet b fresh s.maxReaders.1
      ⟨locales, s.useContacts⟩ :=
  ⟨stands_ofSettings fun label capacity => Cache.quiet_ofCapacity label capacity _ _,
    Sessions.idle_ofSize _⟩

section Work

variable {s : Service σ δ} {n : Nat} {p : Plain} {broke : σ → List String}

/-- A question to one of the caches in use. -/
theorem Quiet.ask (hb : b.Counted fresh broke) (h : s.Quiet b fresh n p) {i : Nat}
    (hi : i = single ∨ i = s.enabled.cache) (l : Locale) (a : Ask) :
    (s.ask b i l a).2.Quiet b fresh n p ∧
      Ended .broken (broke s.world.backend) (broke (s.ask b i l a).2.world.backend)
        (p.ask b fresh n l a) (s.ask b i l a).1 := by
  obtain ⟨hquiet, hended⟩ := CacheState.settles_ask (l := l) hb (h.atEither hi) a
  exact ⟨⟨h.setEither hi hquiet, h.idle⟩, hended⟩

/-- What a call comes to: the service stands for a plain one, and the answer is the one that is owed
or says which opening broke off. -/
def Settles (b : Backend σ δ) (fresh : Locale → Options → Loaded δ) (broke : σ → List String)
    (n : Nat) (p : Plain) (s : Service σ δ) {α : Type} (broken : String → α) (owed : α)
    (r : α × Service σ δ) : Prop :=
  r.2.Quiet b fresh n p ∧
    Ended broken (broke s.world.backend) (broke r.2.world.backend) owed r.1

/-- Looking for a word in some locales, with the dictionaries of the enabled ones. -/
theorem Quiet.findLocale (hb : b.Counted fresh broke) (word : String) (c : Capitalization)
    (locales : List Locale) {s : Service σ δ} (h : s.Quiet b fresh n p) :
    (s.findLocale b s.enabled.cache word c locales).2.enabled = s.enabled ∧
      Settles b fresh broke n p s .broken (p.search b fresh n word c locales)
        ((s.findLocale b s.enabled.cache word c locales).1.map Option.isSome,
          (s.findLocale b s.enabled.cache word c locales).2) := by
  induction locales generalizing s with
  | nil => exact ⟨rfl, h, .inl ⟨rfl, rfl⟩⟩
  | cons l rest ih =>
      obtain ⟨hquiet, hended⟩ := h.ask hb (.inr rfl) l (.contains (c.variants l word))
      have henabled : (s.ask b s.enabled.cache l (.contains (c.variants l word))).2.enabled =
        s.enabled := rfl
      rw [Service.findLocale]
      cases hask : s.ask b s.enabled.cache l (.contains (c.variants l word)) with
      | mk o t =>
          rw [hask] at hquiet hended henabled
          cases o with
          | returned r =>
              obtain ⟨hsame, howed⟩ := hended.returned
              rw [Plain.search, howed]
              cases hr : r.toFlag with
              | true =>
                  simp only [hr, if_true]
                  exact ⟨henabled, hquiet, .inl ⟨hsame, rfl⟩⟩
              | false =>
                  simp only [hr, Bool.false_eq_true, if_false]
                  obtain ⟨hrest, hquiet', hended'⟩ := ih hquiet
                  rw [henabled] at hrest hquiet' hended'
                  simp only [hsame] at hended'
                  exact ⟨hrest, hquiet', hended'⟩
          | broken message =>
              refine ⟨henabled, hquiet, ?_⟩
              rcases hended with ⟨hsame, howed⟩ | ⟨m, htold, hbroken⟩
              · rw [Plain.search, ← howed]
                exact .inl ⟨hsame, rfl⟩
              · cases hbroken
                exact .inr ⟨message, htold, rfl⟩
          | endless =>
              obtain ⟨hsame, howed⟩ := hended.endless
              rw [Plain.search, howed]
              exact ⟨henabled, hquiet, .inl ⟨hsame, rfl⟩⟩

/-! ## The calls -/

theorem Quiet.isValidAnywhere (hb : b.Counted fresh broke) (h : s.Quiet b fresh n p)
    (word : String) (c : Capitalization) :
    Settles b fresh broke n p s .broken (p.search b fresh n word c p.locales)
      (s.isValidAnywhere b word c) := by
  obtain ⟨henabled, hquiet, hended⟩ := h.findLocale hb word c s.enabled.locales
  rw [h.locales] at henabled hquiet hended
  rw [Service.isValidAnywhere, h.locales]
  cases hfind : s.findLocale b s.enabled.cache word c p.locales with
  | mk o t =>
      rw [hfind] at hquiet hended
      cases o with
      | returned l? => cases l? <;>
          exact ⟨⟨hquiet.of_caches rfl rfl rfl rfl, hquiet.idle⟩, hended⟩
      | broken message => exact ⟨hquiet, hended⟩
      | endless => exact ⟨hquiet, hended⟩

/-- The session number that is lent comes back, so that the same one is lent the next time. -/
theorem Quiet.suggest (hb : b.Counted fresh broke) (h : s.Quiet b fresh n p) (l : Locale)
    (composed : Composed) (context : Context) (keyboard : Keyboard) :
    Settles b fresh broke n p s .broken
      (Plain.corrections (p.ask b fresh n l (.suggest ⟨composed, context, keyboard, {}⟩ 0)))
      (s.suggest b l composed context keyboard) := by
  have hlend : s.sessions.lend.1 = some 0 := by
    rw [Sessions.lend_fst, h.idle, List.head?_range, if_neg]
    exact Nat.ne_of_gt (h.readers ▸ s.settings.maxReaders.2)
  have htail := s.sessions.idle_lend
  have hhead : s.sessions.idle = 0 :: s.sessions.idle.tail := by
    rw [Sessions.lend_fst] at hlend
    exact List.eq_cons_of_mem_head? hlend
  cases hl : s.sessions.lend with
  | mk id? sessions =>
      rw [hl] at hlend htail
      cases hlend
      let a : Ask := .suggest (s.query composed context keyboard) 0
      obtain ⟨hquiet, hended⟩ := h.ask hb (.inl rfl) l a
      let u : Service σ δ := { (s.ask b single l a).2 with sessions }
      obtain ⟨w, hsnd, hw⟩ := corrections_snd (s := u) composed.word l (s.ask b single l a).1
      have hidle : (sessions.takeBack 0).idle = List.range n := by
        rw [Sessions.idle_takeBack, htail, ← hhead]
        exact h.idle
      rw [suggest_of_lend hl]
      show Settles b fresh broke n p s .broken _
        (takingBack 0 (u.corrections composed.word l (s.ask b single l a).1))
      rw [takingBack, corrections_fst, hsnd]
      refine ⟨⟨hquiet.of_caches rfl rfl rfl rfl, hidle⟩, ?_⟩
      have hquery : s.query composed context keyboard = ⟨composed, context, keyboard, {}⟩ := by
        rw [query, h.policy]
      rw [← hquery]
      show Ended _ _ (broke w.backend) _ _
      rw [hw]
      exact hended.imp Plain.corrections fun _ => rfl

theorem Quiet.closeAll (h : s.Quiet b fresh n p) :
    (s.closeAll b).Quiet b fresh n p ∧ (s.closeAll b).world.backend = s.world.backend := by
  obtain ⟨hsingle, hbackend⟩ := CacheState.quiet_closeAll h.atSingle
  have hfirst := h.setSingle hsingle
  obtain ⟨henabled, hbackend'⟩ := CacheState.quiet_closeAll hfirst.atEnabled
  have hboth := hfirst.setEnabled henabled
  exact ⟨⟨hboth.of_caches rfl rfl rfl rfl, h.idle⟩, hbackend'.trans hbackend⟩

theorem Quiet.setContacts (h : s.Quiet b fresh n p) (on : Bool) :
    (s.setContacts b on).Quiet b fresh n { p with useContacts := on } ∧
      (s.setContacts b on).world.backend = s.world.backend := by
  obtain ⟨hsingle, hbackend⟩ := CacheState.quiet_setContacts h.atSingle on
  have hfirst := h.setSingle hsingle
  obtain ⟨henabled, hbackend'⟩ := CacheState.quiet_setContacts hfirst.atEnabled on
  have hboth := hfirst.setEnabled henabled
  exact ⟨⟨hboth.of_caches rfl rfl rfl rfl, h.idle⟩, hbackend'.trans hbackend⟩

theorem Quiet.refresh (h : s.Quiet b fresh n p) (locales : List Locale) :
    (s.refresh b locales).2.Quiet b fresh n { p with locales } ∧
      (s.refresh b locales).2.world.backend = s.world.backend ∧
      (s.refresh b locales).1 = (p.locales != locales) := by
  rw [Service.refresh]
  rw [h.locales]
  by_cases hsame : p.locales = locales
  · rw [if_pos hsame, ← hsame]
    exact ⟨h, rfl, by simp⟩
  · rw [if_neg hsame]
    obtain ⟨hquiet, hbackend⟩ := CacheState.quiet_closeAll h.atEnabled
    have hclosed := h.setEnabled hquiet
    have hnew : ∀ label capacity, Cache.Quiet b fresh n p.useContacts
        (.ofCapacity label capacity ⟨p.useContacts, n⟩) := by
      intro label capacity
      exact Cache.quiet_ofCapacity label capacity _ _
    exact ⟨⟨hclosed.enable hclosed.atSingle.useContacts hnew locales, h.idle⟩, hbackend,
      by simp [hsame]⟩

/-- **One call after another.**  Each call comes to what the plain service answers, unless an
opening breaks off, and leaves the service standing for what the plain one has become. -/
theorem Quiet.run (hb : b.Counted fresh broke) (h : s.Quiet b fresh n p) (call : Call) :
    Settles b fresh broke n (p.after call) s .broken (p.answer b fresh n call) (call.run b s) := by
  cases call with
  | isValid l word =>
      obtain ⟨hquiet, hended⟩ := h.ask hb (.inl rfl) l (.contains [word])
      exact ⟨hquiet, hended.imp
        (fun o : Outcome Reply => Answer.ofOutcome .flag (o.map Reply.toFlag)) fun _ => rfl⟩
  | isValidAnywhere word c =>
      obtain ⟨hquiet, hended⟩ := h.isValidAnywhere hb word c
      exact ⟨hquiet, hended.imp (Answer.ofOutcome .flag) fun _ => rfl⟩
  | suggest l composed context keyboard patience =>
      obtain ⟨hquiet, hended⟩ := h.suggest hb l composed context keyboard
      exact ⟨hquiet, hended.imp (Answer.ofOutcome .results) fun _ => rfl⟩
  | hasMain l =>
      obtain ⟨hquiet, hended⟩ := h.ask hb (.inl rfl) l .hasMain
      exact ⟨hquiet, hended.imp
        (fun o : Outcome Reply => Answer.ofOutcome .flag (o.map Reply.toFlag)) fun _ => rfl⟩
  | closeAll =>
      obtain ⟨hquiet, hbackend⟩ := h.closeAll
      exact ⟨hquiet, .inl ⟨congrArg broke hbackend, rfl⟩⟩
  | setContacts on =>
      obtain ⟨hquiet, hbackend⟩ := h.setContacts on
      exact ⟨hquiet, .inl ⟨congrArg broke hbackend, rfl⟩⟩
  | refresh locales =>
      obtain ⟨hquiet, hbackend, hchanged⟩ := h.refresh locales
      exact ⟨hquiet, .inl ⟨congrArg broke hbackend, congrArg Answer.flag hchanged⟩⟩

/-- Where an opening comes to the same at any time, every call answers what the plain service
does. -/
theorem Quiet.answer (hb : b.Dependable fresh) (h : s.Quiet b fresh n p) (call : Call) :
    (call.run b s).1 = p.answer b fresh n call :=
  (h.run hb.counted call).2.eq_owed

theorem Quiet.afterAll (hb : b.Counted fresh broke) (h : s.Quiet b fresh n p)
    (calls : List Call) : (s.afterAll b calls).Quiet b fresh n (p.afterAll calls) := by
  induction calls generalizing s p with
  | nil => exact h
  | cons call calls ih => exact ih (h.run hb call).1

end Work

end Spelling.Service
