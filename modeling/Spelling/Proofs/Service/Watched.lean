import Spelling.Proofs.Service.Plain

/-!
# Watching changes nothing

A watched backend keeps the messages of the openings that broke off, and nobody but the watcher
looks at them.  Leaving them out again (`unwatch`) gives the service over the backend itself, before
and after every call.
-/

namespace Spelling

variable {σ δ : Type} {b : Backend σ δ}

/-- The world without the messages that were kept. -/
def World.unwatch (w : World (σ × List String)) : World σ :=
  ⟨w.backend.1, w.events, w.records⟩

namespace CacheState

/-- A cache and the world without the messages that were kept. -/
def unwatch (s : CacheState (σ × List String) δ) : CacheState σ δ :=
  ⟨s.cache, s.world.unwatch⟩

variable (s : CacheState (σ × List String) δ)

theorem unwatch_shut (i : Nat) : (s.shut b.watched i).unwatch = s.unwatch.shut b i := by
  simp only [shut]
  cases hphase : s.cache.phase i with
  | ready r =>
      cases r with
      | dictionary d =>
          simp only [unwatch, hphase]
          rfl
      | unavailable u =>
          simp only [unwatch, hphase]
          rfl
  | loading | closed => simp only [unwatch, hphase]; rfl

theorem unwatch_fill (i : Nat) (on : Bool) :
    ((s.fill b.watched i on).1, (s.fill b.watched i on).2.unwatch) = s.unwatch.fill b i on := by
  have hloads : s.loads b.watched i on = s.unwatch.loads b i on := rfl
  cases h : s.loads b.watched i on with
  | opened d | failed e | broken message =>
      have h' := hloads.symm.trans h
      rw [loads] at h h'
      simp only [fill, h, h']
      rfl

theorem unwatch_switchContacts (on : Bool) (i : Nat) :
    (s.switchContacts b.watched on i).unwatch = s.unwatch.switchContacts b on i := by
  simp only [switchContacts]
  cases hphase : s.cache.phase i with
  | ready r =>
      cases r with
      | dictionary d =>
          simp only [unwatch, hphase]
          rfl
      | unavailable u =>
          simp only [unwatch, hphase]
  | loading | closed => simp only [unwatch, hphase]

theorem unwatch_reportDrain (drained : List Nat) :
    (s.reportDrain drained).unwatch = s.unwatch.reportDrain drained := by
  simp only [reportDrain]
  split <;> rfl

theorem unwatch_closeEvicted (e? : Option Nat) (k : Nat) :
    (s.closeEvicted b.watched e? k).unwatch = s.unwatch.closeEvicted b e? k := by
  cases e? with
  | none => rfl
  | some j =>
      exact congrArg (·.onCache fun c => (c.settled j).countEviction)
        (unwatch_shut (s.reportEviction j k) j)

theorem unwatch_closePrevious (p? : Option Nat) :
    (s.closePrevious b.watched p?).unwatch = s.unwatch.closePrevious b p? := by
  cases p? with
  | none => rfl
  | some j => exact congrArg (·.onCache (·.settled j)) (unwatch_shut (s.reportPrevious j) j)

theorem unwatch_resolve (l : Locale) :
    ((s.resolve b.watched l).1, (s.resolve b.watched l).2.unwatch) = s.unwatch.resolve b l := by
  cases hfind : s.cache.find l with
  | mk found cache =>
      have hfind' : s.unwatch.cache.find l = (found, cache) := hfind
      simp only [resolve, hfind, hfind']
      cases found with
      | hit i => rfl
      | miss i e? p? =>
          obtain ⟨t, ht⟩ : ∃ t, t = ((⟨cache, s.world⟩ : CacheState _ δ).closeEvicted
            b.watched e? i).closePrevious b.watched p? := ⟨_, rfl⟩
          have ht' : ((⟨cache, s.unwatch.world⟩ : CacheState σ δ).closeEvicted b e? i
              ).closePrevious b p? = t.unwatch := by
            rw [ht, unwatch_closePrevious, unwatch_closeEvicted]
            rfl
          have hfill := unwatch_fill (b := b) t i t.cache.useContacts
          simp only [← ht, ht']
          rw [show t.unwatch.cache.useContacts = t.cache.useContacts from rfl, ← hfill]
          cases t.fill b.watched i t.cache.useContacts with
          | mk message? u => cases message? <;> rfl

theorem unwatch_lookUp (i : Nat) (d : δ) (words : List String) :
    ((s.lookUp b.watched i d words).1, (s.lookUp b.watched i d words).2.unwatch) =
      s.unwatch.lookUp b i d words := by
  induction words generalizing s with
  | nil => rfl
  | cons word rest ih =>
      have hword : b.watched.contains d word = b.contains d word := rfl
      rw [lookUp, lookUp, hword]
      rcases b.contains d word with message | (_ | _)
      · rfl
      · exact ih (s.note i (.lookedUp word))
      · rfl

theorem unwatch_askResource (i : Nat) (r : Resource δ) (a : Ask) :
    ((s.askResource b.watched i r a).1, (s.askResource b.watched i r a).2.unwatch) =
      s.unwatch.askResource b i r a := by
  cases r with
  | unavailable u => rfl
  | dictionary d =>
      cases a with
      | contains words =>
          simp only [askResource, askDictionary, ← unwatch_lookUp]
      | suggest q session => rfl
      | hasMain => rfl

theorem unwatch_askWithin (l : Locale) (a : Ask) (rounds : Nat) :
    ((s.askWithin b.watched l a rounds).1, (s.askWithin b.watched l a rounds).2.unwatch) =
      s.unwatch.askWithin b l a rounds := by
  induction rounds generalizing s with
  | zero => rfl
  | succ rounds ih =>
      rw [askWithin, askWithin, ← unwatch_resolve]
      cases s.resolve b.watched l with
      | mk o t =>
          cases o with
          | returned i =>
              simp only [show t.unwatch.cache.phase i = t.cache.phase i from rfl]
              cases t.cache.phase i with
              | ready r => exact unwatch_askResource t i r a
              | loading => exact ih _
              | closed => exact ih _
          | broken message => rfl
          | endless => rfl

theorem unwatch_closeAll : (s.closeAll b.watched).unwatch = s.unwatch.closeAll b := by
  have hfold : ∀ (drained : List Nat) (t : CacheState (σ × List String) δ),
      (drained.foldl (fun s i => (s.shut b.watched i).onCache (·.settled i)) t).unwatch =
        drained.foldl (fun s i => (s.shut b i).onCache (·.settled i)) t.unwatch := by
    intro drained
    induction drained with
    | nil =>
        intro _
        rfl
    | cons i rest ih =>
        intro t
        refine (ih _).trans ?_
        rw [List.foldl_cons, ← unwatch_shut]
        rfl
  have hdrain := unwatch_reportDrain (s.onCache fun c => c.drain.2) s.cache.drain.1
  refine (hfold s.cache.drain.1 _).trans ?_
  exact congrArg (s.cache.drain.1.foldl fun s i => (s.shut b i).onCache (·.settled i)) hdrain

theorem unwatch_setContacts (on : Bool) :
    (s.setContacts b.watched on).unwatch = s.unwatch.setContacts b on := by
  have hfold : ∀ (slots : List Nat) (t : CacheState (σ × List String) δ),
      (slots.foldl (fun s i => s.switchContacts b.watched on i) t).unwatch =
        slots.foldl (fun s i => s.switchContacts b on i) t.unwatch := by
    intro slots
    induction slots with
    | nil =>
        intro _
        rfl
    | cons i rest ih =>
        intro t
        refine (ih _).trans ?_
        rw [List.foldl_cons, ← unwatch_switchContacts]
  exact hfold _ _

end CacheState

namespace Service

/-- A service without the messages that were kept. -/
def unwatch (s : Service (σ × List String) δ) : Service σ δ :=
  ⟨s.settings, s.policy, s.sessions, s.caches, s.enabled, s.world.unwatch⟩

variable (s : Service (σ × List String) δ)

theorem unwatch_ask (i : Nat) (l : Locale) (a : Ask) :
    ((s.ask b.watched i l a).1, (s.ask b.watched i l a).2.unwatch) = s.unwatch.ask b i l a := by
  have hask := CacheState.unwatch_askWithin (b := b) (s.cacheState i) l a CacheState.roundLimit
  have hstate : (s.cacheState i).unwatch = s.unwatch.cacheState i := rfl
  rw [hstate] at hask
  simp only [ask, CacheState.ask, ← hask]
  rfl

theorem unwatch_findLocale (cache : Nat) (word : String) (c : Capitalization)
    (locales : List Locale) :
    ((s.findLocale b.watched cache word c locales).1,
      (s.findLocale b.watched cache word c locales).2.unwatch) =
        s.unwatch.findLocale b cache word c locales := by
  induction locales generalizing s with
  | nil => rfl
  | cons l rest ih =>
      rw [findLocale, findLocale, ← unwatch_ask]
      cases s.ask b.watched cache l (.contains (c.variants l word)) with
      | mk o t =>
          cases o with
          | returned r =>
              simp only []
              split
              · rfl
              · exact ih t
          | broken message => rfl
          | endless => rfl

theorem unwatch_isValidAnywhere (word : String) (c : Capitalization) :
    ((s.isValidAnywhere b.watched word c).1, (s.isValidAnywhere b.watched word c).2.unwatch) =
      s.unwatch.isValidAnywhere b word c := by
  have hfind := unwatch_findLocale (b := b) s s.enabled.cache word c s.enabled.locales
  rw [isValidAnywhere, isValidAnywhere,
    show s.unwatch.enabled = s.enabled from rfl, ← hfind]
  cases s.findLocale b.watched s.enabled.cache word c s.enabled.locales with
  | mk o t =>
      cases o with
      | returned l? => cases l? <;> rfl
      | broken message => rfl
      | endless => rfl

theorem unwatch_corrections (typed : String) (l : Locale) (o : Outcome Reply) :
    ((s.corrections typed l o).1, (s.corrections typed l o).2.unwatch) =
      s.unwatch.corrections typed l o := by
  cases o with
  | returned r => cases r <;> rfl
  | broken message => rfl
  | endless => rfl

theorem unwatch_suggest (l : Locale) (composed : Composed) (context : Context)
    (keyboard : Keyboard) :
    ((s.suggest b.watched l composed context keyboard).1,
      (s.suggest b.watched l composed context keyboard).2.unwatch) =
        s.unwatch.suggest b l composed context keyboard := by
  cases hl : s.sessions.lend with
  | mk id? sessions =>
      have hl' : s.unwatch.sessions.lend = (id?, sessions) := hl
      cases id? with
      | none =>
          rw [suggest, suggest, hl, hl']
          rfl
      | some session =>
          rw [suggest_of_lend hl, suggest_of_lend hl']
          obtain ⟨t, ht⟩ : ∃ t : Service (σ × List String) δ, t = { s with sessions } := ⟨_, rfl⟩
          have ht' : ({ s.unwatch with sessions } : Service σ δ) = t.unwatch := by
            rw [ht]
            rfl
          simp only [← ht, ht', show s.unwatch.query composed context keyboard =
            s.query composed context keyboard from rfl, ← unwatch_ask, ← unwatch_corrections]
          rfl

theorem unwatch_closeAll : (s.closeAll b.watched).unwatch = s.unwatch.closeAll b := by
  let t := s.withCache single ((s.cacheState single).closeAll b.watched)
  have ht : t.unwatch = s.unwatch.withCache single ((s.unwatch.cacheState single).closeAll b) :=
    congrArg (s.unwatch.withCache single ·)
      (CacheState.unwatch_closeAll (b := b) (s.cacheState single))
  have hrest : (t.withCache s.enabled.cache
      ((t.cacheState s.enabled.cache).closeAll b.watched)).unwatch =
        t.unwatch.withCache s.enabled.cache ((t.unwatch.cacheState s.enabled.cache).closeAll b) :=
    congrArg (t.unwatch.withCache s.enabled.cache ·)
      (CacheState.unwatch_closeAll (b := b) (t.cacheState s.enabled.cache))
  rw [ht] at hrest
  exact congrArg reportClosed hrest

theorem unwatch_setContacts (on : Bool) :
    (s.setContacts b.watched on).unwatch = s.unwatch.setContacts b on := by
  let t := s.withCache single ((s.cacheState single).setContacts b.watched on)
  have ht : t.unwatch =
      s.unwatch.withCache single ((s.unwatch.cacheState single).setContacts b on) :=
    congrArg (s.unwatch.withCache single ·)
      (CacheState.unwatch_setContacts (b := b) (s.cacheState single) on)
  have hrest : (t.withCache s.enabled.cache
      ((t.cacheState s.enabled.cache).setContacts b.watched on)).unwatch =
        t.unwatch.withCache s.enabled.cache
          ((t.unwatch.cacheState s.enabled.cache).setContacts b on) :=
    congrArg (t.unwatch.withCache s.enabled.cache ·)
      (CacheState.unwatch_setContacts (b := b) (t.cacheState s.enabled.cache) on)
  rw [ht] at hrest
  exact congrArg (reportContacts · on) hrest

theorem unwatch_refresh (locales : List Locale) :
    ((s.refresh b.watched locales).1, (s.refresh b.watched locales).2.unwatch) =
      s.unwatch.refresh b locales := by
  simp only [refresh, show s.unwatch.enabled = s.enabled from rfl]
  split
  · rfl
  · have hclose := CacheState.unwatch_closeAll (b := b) (s.cacheState s.enabled.cache)
    exact congrArg (fun c => (true, (s.unwatch.withCache s.enabled.cache c).enable locales)) hclose

/-- Watching the backend changes no call. -/
theorem unwatch_run (call : Call) :
    ((call.run b.watched s).1, (call.run b.watched s).2.unwatch) = call.run b s.unwatch := by
  cases call with
  | isValid l word =>
      have hask := unwatch_ask (b := b) s single l (.contains [word])
      simp only [Call.run, isValid, ← hask]
  | isValidAnywhere word c =>
      simp only [Call.run, ← unwatch_isValidAnywhere]
  | suggest l composed context keyboard patience =>
      simp only [Call.run, ← unwatch_suggest]
  | hasMain l =>
      have hask := unwatch_ask (b := b) s single l .hasMain
      simp only [Call.run, hasMain, ← hask]
  | closeAll => exact congrArg (Answer.nothing, ·) (unwatch_closeAll s)
  | setContacts on => exact congrArg (Answer.nothing, ·) (unwatch_setContacts s on)
  | refresh locales => simp only [Call.run, ← unwatch_refresh]

theorem answers_unwatch (calls : List Call) :
    s.unwatch.answers b calls = s.answers b.watched calls := by
  induction calls generalizing s with
  | nil => rfl
  | cons call calls ih => rw [answers, answers, ← ih, ← unwatch_run]

end Service

end Spelling
