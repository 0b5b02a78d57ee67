import Spelling.Proofs.Cache.Turn
import Spelling.Proofs.Gate.Order
import Spelling.Service.Caller

/-!
# What one step of a caller of the service can do

The steps of a caller of the service, row by row.  `Stride` has the steps of a caller that holds
permits, and a `Turn` is one of them, or a move at the gate, or the way in from there or out again.
-/

namespace Spelling.Service.Caller

variable {σ δ : Type}

/-- One step of the caller of some number that holds permits, or wakes others as it leaves. -/
inductive Stride (b : Backend σ δ) (c : Crowd σ δ) (m : Nat) :
    Caller → Crowd σ δ → Caller → Prop
  | unlent {l : Locale} {composed : Composed} {context : Context} {keyboard : Keyboard}
      {p : Permit} : c.service.sessions.lend.1 = none →
      Stride b c m (leasing l composed context keyboard p)
        { c with service := c.service.reportExhausted } (exiting (.broken exhaustedMessage) p)
  | lent {l : Locale} {composed : Composed} {context : Context} {keyboard : Keyboard}
      {p : Permit} {session : Nat} {sessions : Sessions} :
      c.service.sessions.lend = (some session, sessions) →
      Stride b c m (leasing l composed context keyboard p)
        { c with service := { c.service with sessions } }
        (working single
          (.finding l (.ask (.suggest (c.service.query composed context keyboard) session)))
          (.corrections composed.word l session) p)
  | looking {plan : Plan} {p : Permit} : c.lockedBy? = none →
      Stride b c m (looking plan p) { c with service := (follow c.service p plan).1 }
        (follow c.service p plan).2
  | working {i : Nat} {x y : Cache.Caller} {t : CacheState σ δ} {after : After} {p : Permit} :
      Cache.Caller.Turn b m (c.service.cacheState i) x t y →
      Stride b c m (working i x after p) { c with service := c.service.withCache i t }
        (working i y after p)
  | concluding {i : Nat} {a : Cache.Answer} {after : After} {p : Permit} :
      Stride b c m (working i (.done a) after p)
        { c with service := (conclude c.service a p after).1 } (conclude c.service a p after).2
  | same {locales : List Locale} {p : Permit} : c.lockedBy? = none →
      c.service.enabled.locales = locales →
      Stride b c m (comparing locales p) c (exiting (.flag false) p)
  | differing {locales : List Locale} {p : Permit} : c.lockedBy? = none →
      c.service.enabled.locales ≠ locales →
      Stride b c m (comparing locales p) { c with lockedBy? := some m }
        (working c.service.enabled.cache .draining (.replace locales) p)
  | replacing {locales : List Locale} {p : Permit} :
      Stride b c m (replacing locales p)
        { c with service := c.service.enable locales, lockedBy? := none } (exiting (.flag true) p)
  | restoring {session : Nat} {a : Answer} {p : Permit} :
      Stride b c m (restoring session a p)
        { c with service :=
          { c.service with sessions := c.service.sessions.takeBack session } } (exiting a p)
  | exiting {a : Answer} {p : Permit} :
      Stride b c m (exiting a p) { c with gate := c.gate.release p.count } (announcing a)
  | announcing {a : Answer} :
      Stride b c m (announcing a) { c with gate := c.gate.wakeAll } (done a)

/-- One step of the caller of some number. -/
inductive Turn (b : Backend σ δ) (c : Crowd σ δ) (m : Nat) :
    Caller → Crowd σ δ → Caller → Prop
  | gate {call : Call} {g g' : Gate.Caller} {move : Gate.Move} {gate : Gate} :
      (∀ p, g ≠ .holding p) → Gate.Caller.Turn c.gate g move gate g' →
      Turn b c m (entering call g) { c with gate } (entering call g')
  | begin {call : Call} {p : Permit} :
      Turn b c m (entering call (.holding p)) c (begin p call)
  | gone {call : Call} {r : Gate.Request} :
      Turn b c m (entering call (.gone r))
        { c with service := (giveUp c.service call r.count).1 }
        (done (giveUp c.service call r.count).2)
  | refused {call : Call} {r : Gate.Request} :
      Turn b c m (entering call (.refused r)) c (done (.broken (c.gate.refusal r.count)))
  | stride {x y : Caller} {c' : Crowd σ δ} : Stride b c m x c' y → Turn b c m x c' y

variable {b : Backend σ δ} {c c' : Crowd σ δ} {m : Nat} {x y : Caller}

theorem turn_of_stepAtGate {call : Call} {g : Gate.Caller} {move : Gate.Move}
    (h : c.stepAtGate call g move = some (c', y)) : Turn b c m (entering call g) c' y := by
  have hgate : ∀ {g : Gate.Caller}, (∀ p, g ≠ .holding p) →
      (g.step c.gate move).map (fun r => ({ c with gate := r.1 }, Caller.entering call r.2)) =
        some (c', y) → Turn b c m (entering call g) c' y := by
    intro g hg h
    obtain ⟨⟨gate, g'⟩, hstep, heq⟩ := Option.map_eq_some_iff.mp h
    cases heq
    exact .gate hg (Gate.Caller.turn_of_step hstep)
  cases g with
  | holding p =>
      cases move with
      | go =>
          cases h
          exact .begin
      | giveUp | rouse => cases h
  | gone r =>
      cases move with
      | go =>
          cases h
          exact .gone
      | giveUp | rouse => cases h
  | refused r =>
      cases move with
      | go =>
          cases h
          exact .refused
      | giveUp | rouse => cases h
  | arriving | waiting | granted | returned | leaving | done =>
      refine hgate ?_ ?_
      · intro p hp
        cases hp
      · cases move <;> exact h

theorem stride_of_stepInside (h : c.stepInside b m x = some (c', y)) : Stride b c m x c' y := by
  cases x with
  | entering call g => cases h
  | leasing l composed context keyboard p =>
      simp only [Crowd.stepInside] at h
      cases hl : c.service.sessions.lend with
      | mk id? sessions =>
          rw [hl] at h
          cases id? with
          | none =>
              cases h
              exact .unlent (by rw [hl])
          | some session =>
              cases h
              exact .lent hl
  | looking plan p =>
      simp only [Crowd.stepInside, Option.ite_none_right_eq_some] at h
      obtain ⟨hfree, h⟩ := h
      cases h
      exact .looking (Option.isNone_iff_eq_none.mp hfree)
  | working i z after p =>
      have hworking : (z.step b m (c.service.cacheState i)).map (fun r =>
          ({ c with service := c.service.withCache i r.1 }, Caller.working i r.2 after p)) =
            some (c', y) → Stride b c m (working i z after p) c' y := by
        intro h
        obtain ⟨⟨t, z'⟩, hstep, heq⟩ := Option.map_eq_some_iff.mp h
        cases heq
        exact .working (Cache.Caller.turn_of_step hstep)
      cases z with
      | done a =>
          cases h
          exact .concluding
      | finding | evicting | evicted | retiring | retired | choosing | opening | entering | asking
      | answering | forgetting | retrying | leaving | inspecting | draining | closing | closed
      | switching | collecting | applying | peeking => exact hworking h
  | comparing locales p =>
      simp only [Crowd.stepInside] at h
      split at h
      · cases h
      · next hfree =>
        by_cases hsame : c.service.enabled.locales = locales
        · rw [if_pos hsame] at h
          cases h
          exact .same hfree hsame
        · rw [if_neg hsame] at h
          cases h
          exact .differing hfree hsame
  | replacing locales p =>
      cases h
      exact .replacing
  | restoring session a p =>
      cases h
      exact .restoring
  | exiting a p =>
      cases h
      exact .exiting
  | announcing a =>
      cases h
      exact .announcing
  | done a => cases h

theorem turn_of_stepOf {move : Gate.Move} (h : c.stepOf b m move x = some (c', y)) :
    Turn b c m x c' y := by
  cases x with
  | entering call g => exact turn_of_stepAtGate h
  | leasing | looking | working | comparing | replacing | restoring | exiting | announcing
  | done =>
      cases move with
      | go => exact .stride (stride_of_stepInside h)
      | giveUp | rouse => cases h

end Spelling.Service.Caller
