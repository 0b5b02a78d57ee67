import Spelling.Proofs.Service.Turn

/-!
# Who is admitted, and in which order

Seen from the gate, a caller of the service is a caller of the gate (`atGate`), who holds its
permits while it is at work inside.  So the gate is as orderly as ever, and calls are granted their
permits in the order of their tickets.  `Crowd.grants` lists what was granted in a run.
-/

namespace Spelling.Service

variable {σ δ : Type} {b : Backend σ δ}

namespace Call

/-- Whether a call changes the service for the calls that come after it. -/
def changes : Call → Bool
  | closeAll | setContacts _ | refresh _ => true
  | isValid .. | isValidAnywhere .. | suggest .. | hasMain _ => false

/-- How many permits a call needs, of all there are. -/
def count (n : Nat) (call : Call) : Nat := if call.changes then n else 1

theorem count_request (s : Settings) (g : Gate) (call : Call) :
    (call.request s g).count = call.count g.capacity := by
  cases call <;> rfl

end Call

/-- What happens to a service: somebody begins a call, or a caller makes a move if it is possible.
-/
inductive Happening where
  | arrive (call : Call)
  | move (caller : Nat) (m : Gate.Move)

/-- Permits granted to a call. -/
structure Grant where
  caller : Nat
  ticket : Nat
  call : Call

namespace Caller

/-- Where a caller is, seen from the gate. -/
def atGate : Caller → Gate.Caller
  | entering _ g => g
  | leasing _ _ _ _ p | looking _ p | working _ _ _ p | comparing _ p | replacing _ p
  | restoring _ _ p | exiting _ p => .holding p
  | announcing _ => .returned
  | done _ => .done

/-- What a caller was granted by a step, read off where it was and where it went. -/
def grant? (g : Gate) (i : Nat) : Caller → Caller → Option Grant
  | entering call (.arriving _), entering _ (.granted _) => some ⟨i, g.nextTicket, call⟩
  | entering call (.waiting _ t), entering _ (.granted _) => some ⟨i, t, call⟩
  | _, _ => none

section Turn

variable {c c' : Crowd σ δ} {m : Nat} {x y : Caller}

theorem atGate_begin (p : Permit) (call : Call) : (begin p call).atGate = .holding p := by
  cases call <;> rfl

theorem atGate_search (s : Service σ δ) (word : String) (cap : Capitalization) (cache : Nat)
    (all : List Locale) (p : Permit) (locales : List Locale) :
    (search s word cap cache all p locales).2.atGate = .holding p := by
  cases locales <;> rfl

theorem atGate_follow (s : Service σ δ) (p : Permit) (plan : Plan) :
    (follow s p plan).2.atGate = .holding p := by
  cases plan with
  | search word cap => exact atGate_search ..
  | close => rfl
  | contacts on => rfl

theorem atGate_conclude (s : Service σ δ) (a : Cache.Answer) (p : Permit) (after : After) :
    (conclude s a p after).2.atGate = .holding p := by
  cases after with
  | search word cap cache l rest all =>
      simp only [conclude]
      cases outcomeOf a with
      | returned r =>
          simp only []
          split
          · rfl
          · exact atGate_search ..
      | broken message => rfl
      | endless => rfl
  | flag | corrections | look | closed | contacts | replace => rfl

/-- A caller does not move at the gate: it waits, holds and is granted as before. -/
def Stays (g : Gate) (x y : Gate.Caller) : Prop :=
  y.ticket? = x.ticket? ∧ y.permit? = x.permit? ∧ x.dealt g y = []

theorem stays_refl (g : Gate) (p : Permit) : Stays g (.holding p) (.holding p) := ⟨rfl, rfl, rfl⟩

/-- A step is a move at the gate, or nothing to be seen from there. -/
theorem Turn.atGate (h : Turn b c m x c' y) :
    (∃ move, Gate.Caller.Turn c.gate x.atGate move c'.gate y.atGate) ∨
      c'.gate = c.gate ∧ Stays c.gate x.atGate y.atGate := by
  cases h with
  | gate _ h => exact .inl ⟨_, h⟩
  | @begin call p => exact .inr ⟨rfl, (atGate_begin p call).symm ▸ stays_refl _ p⟩
  | gone | refused => exact .inr ⟨rfl, rfl, rfl, rfl⟩
  | stride h =>
      cases h with
      | looking _ => exact .inr ⟨rfl, atGate_follow .. ▸ stays_refl _ _⟩
      | concluding => exact .inr ⟨rfl, atGate_conclude .. ▸ stays_refl _ _⟩
      | exiting => exact .inl ⟨.go, .release⟩
      | announcing => exact .inl ⟨.go, .finish⟩
      | unlent | lent | working | same | differing | replacing | restoring =>
          exact .inr ⟨rfl, stays_refl _ _⟩

theorem Turn.callers (h : Turn b c m x c' y) : c'.callers = c.callers := by
  cases h with
  | gate | begin | gone | refused => rfl
  | stride h => cases h <;> rfl

/-- What is granted at the gate is granted to the call of the caller. -/
theorem granted_dealt (g : Gate) (i : Nat) (x y : Caller) :
    (x.atGate.dealt g y.atGate).filterMap Gate.Deal.granted? =
      (x.grant? g i y).toList.map Grant.ticket := by
  cases x with
  | entering call gx =>
      cases y with
      | entering call' gy => cases gx <;> cases gy <;> rfl
      | leasing | looking | working | comparing | replacing | restoring | exiting | announcing
      | done => cases gx <;> rfl
  | leasing | looking | working | comparing | replacing | restoring | exiting =>
      cases y with
      | entering call gy => cases gy <;> rfl
      | leasing | looking | working | comparing | replacing | restoring | exiting | announcing
      | done => rfl
  | announcing | done => rfl

end Turn

/-- The permits that a caller holds. -/
def permit? (x : Caller) : Option Permit := x.atGate.permit?

/-- A caller was granted the permits of its call, which it holds or has given back. -/
inductive Admitted (n : Nat) (call : Call) : Caller → Prop
  | holding {x : Caller} {p : Permit} : x.permit? = some p → p.count = call.count n →
      Admitted n call x
  | announcing {a : Answer} : Admitted n call (announcing a)
  | done {a : Answer} : Admitted n call (done a)

section Permits

variable {c c' : Crowd σ δ} {m n : Nat} {x y : Caller}

/-- Inside, a caller holds its permits until it gives them back. -/
theorem Stride.permit (h : Stride b c m x c' y) :
    (∃ p, x.permit? = some p ∧ y.permit? = some p) ∨
      (∃ a p, x = .exiting a p ∧ y = .announcing a) ∨
        ∃ a, x = .announcing a ∧ y = Caller.done a := by
  cases h with
  | looking _ => exact .inl ⟨_, rfl, by rw [permit?, atGate_follow]; rfl⟩
  | concluding => exact .inl ⟨_, rfl, by rw [permit?, atGate_conclude]; rfl⟩
  | exiting => exact .inr (.inl ⟨_, _, rfl, rfl⟩)
  | announcing => exact .inr (.inr ⟨_, rfl, rfl⟩)
  | unlent | lent | working | same | differing | replacing | restoring =>
      exact .inl ⟨_, rfl, rfl⟩

/-- Who was admitted stays so. -/
theorem Admitted.turn {call : Call} (hx : Admitted n call x) (h : Turn b c m x c' y) :
    Admitted n call y := by
  cases h with
  | gate hout h =>
      cases hx with
      | holding hp hn =>
          cases h with
          | hold => exact .holding hp hn
          | release => exact absurd rfl (hout _)
          | refuse | enter | wait | turnAway | grant | sleepOn | giveUp | rouse | finish
          | leave => cases hp
  | begin =>
      cases hx with
      | holding hp hn =>
          cases hp
          exact .holding (by rw [permit?, atGate_begin]; rfl) hn
  | gone | refused => exact .done
  | stride h =>
      rcases h.permit with ⟨p, hp, hq⟩ | ⟨a, p, rfl, rfl⟩ | ⟨a, rfl, rfl⟩
      · cases hx with
        | holding hp' hn =>
            cases hp.symm.trans hp'
            exact .holding hq hn
        | announcing | done => cases hp
      · exact .announcing
      · exact .done

/-- Whoever is still to be admitted wants what it came for. -/
theorem Turn.wanted {call : Call} {g : Gate.Caller} (h : Turn b c m x c' (entering call g))
    (hnone : g.permit? = none) :
    ∃ g', x = entering call g' ∧ g'.permit? = none ∧
      ∀ k, g.wanted? = some k → g'.wanted? = some k := by
  generalize hy : entering call g = y at h
  have hpermit : y.permit? = none := hy ▸ hnone
  cases h with
  | @gate _ g₀ g₁ move gate hout h =>
      cases hy
      refine ⟨g₀, rfl, ?_, fun k hk => h.wanted hk⟩
      cases h with
      | release => exact absurd rfl (hout _)
      | hold => cases hnone
      | refuse | enter | wait | turnAway | grant | sleepOn | giveUp | rouse | finish
      | leave => rfl
  | begin =>
      rw [permit?, atGate_begin] at hpermit
      cases hpermit
  | gone | refused => cases hy
  | stride h =>
      rcases h.permit with ⟨p, -, hp⟩ | ⟨a, p, -, rfl⟩ | ⟨a, -, rfl⟩
      · rw [hp] at hpermit
        cases hpermit
      · cases hy
      · cases hy

/-- A caller at the gate is granted the permits of its call. -/
inductive Granting (c : Crowd σ δ) (i : Nat) : Caller → Crowd σ δ → Caller → Grant → Prop
  | row {call : Call} {g : Gate.Caller} {p : Permit} {t : Nat} {gate : Gate} :
      g.permit? = none → p.count ≤ c.gate.available → g.wanted? = some p.count →
      Granting c i (entering call g) { c with gate } (entering call (.granted p)) ⟨i, t, call⟩

/-- A step grants permits, or nobody holds any who did not before. -/
theorem Turn.granting {i : Nat} (h : Turn b c i x c' y) :
    (∃ r, x.grant? c.gate i y = some r ∧ Granting c i x c' y r) ∨
      x.grant? c.gate i y = none ∧ ∀ p, y.permit? = some p → x.permit? = some p := by
  cases h with
  | gate hout h =>
      cases h with
      | enter hle hcan =>
          exact .inl ⟨_, rfl, .row rfl (Gate.canGrant_iff.mp hcan).2 rfl⟩
      | grant hawake hcan =>
          exact .inl ⟨_, rfl, .row rfl (Gate.canGrant_iff.mp hcan).2 rfl⟩
      | hold => exact .inr ⟨rfl, fun _ hp => hp⟩
      | release => exact absurd rfl (hout _)
      | refuse | wait | turnAway | sleepOn | giveUp | rouse | finish | leave =>
          exact .inr ⟨rfl, nofun⟩
  | @begin call p =>
      refine .inr ⟨?_, ?_⟩
      · cases call <;> rfl
      · intro q hq
        rw [permit?, atGate_begin] at hq
        exact hq
  | gone | refused => exact .inr ⟨rfl, nofun⟩
  | stride h =>
      refine .inr ⟨by cases h <;> rfl, ?_⟩
      intro q hq
      rcases h.permit with ⟨p, hx, hy⟩ | ⟨a, p, -, rfl⟩ | ⟨a, -, rfl⟩
      · exact hx.trans (hy.symm.trans hq)
      · cases hq
      · cases hq

end Permits

end Caller

/-! ## What happens to a service and its callers -/

namespace Crowd

variable (b : Backend σ δ)

/-- The crowd after one thing happened; a move that is not possible changes nothing. -/
def act (c : Crowd σ δ) : Happening → Crowd σ δ
  | .arrive call => c.arrive call
  | .move i m => (c.step b i m).getD c

/-- The permits granted in one thing that happens. -/
def grant? (c : Crowd σ δ) : Happening → Option Grant
  | .arrive _ => none
  | .move i m =>
    match c.callers[i]? with
    | none => none
    | some x =>
      match c.stepOf b i m x with
      | none => none
      | some (_, y) => x.grant? c.gate i y

/-- The crowd after some things happened. -/
def run (c : Crowd σ δ) (acts : List Happening) : Crowd σ δ := acts.foldl (act b) c

/-- The permits granted in some things that happen, in their order. -/
def grants (c : Crowd σ δ) : List Happening → List Grant
  | [] => []
  | a :: acts => (c.grant? b a).toList ++ (c.act b a).grants acts

end Crowd

/-- The call that is begun in something that happens. -/
def Happening.call? : Happening → Option Call
  | arrive call => some call
  | move _ _ => none

/-- One thing that happens: the call that is begun, the permits that are granted, and the crowd
after it. -/
inductive Happens (b : Backend σ δ) (c : Crowd σ δ) :
    Option Call → Option Grant → Crowd σ δ → Prop
  | arrival {call : Call} : Happens b c (some call) none (c.arrive call)
  | nothing : Happens b c none none c
  | turn {i : Nat} {x y : Caller} {c' : Crowd σ δ} : c.callers[i]? = some x →
      Caller.Turn b c i x c' y →
      Happens b c none (x.grant? c.gate i y) { c' with callers := c.callers.set i y }

theorem happens_of_act (c : Crowd σ δ) (a : Happening) :
    Happens b c a.call? (c.grant? b a) (c.act b a) := by
  cases a with
  | arrive call => exact .arrival
  | move i m =>
      simp only [Happening.call?, Crowd.grant?, Crowd.act, Crowd.step]
      cases hx : c.callers[i]? with
      | none => exact .nothing
      | some x =>
          cases hs : c.stepOf b i m x with
          | none =>
              simp only [hs]
              exact .nothing
          | some next =>
              obtain ⟨c', y⟩ := next
              have hturn := Caller.turn_of_stepOf hs
              simp only [hs, Option.map_some, Option.getD_some, hturn.callers]
              exact .turn hx hturn

/-- The gate of a service and its callers, seen from there. -/
def Crowd.atGate (c : Crowd σ δ) : Gate.Crowd := ⟨c.gate, c.callers.map Caller.atGate⟩

section Happens

variable {c c' : Crowd σ δ} {call? : Option Call} {g? : Option Grant}

/-- Whatever happens, the gate and its callers stay orderly, and permits are granted by deals in the
queue. -/
theorem Happens.orderly (h : Happens b c call? g? c') (hc : c.atGate.Orderly) :
    c'.atGate.Orderly ∧ c'.gate.capacity = c.gate.capacity ∧
      ∃ ds, c.gate.queue.deals? ds = some c'.gate.queue ∧
        ds.filterMap Gate.Deal.granted? = g?.toList.map Grant.ticket := by
  cases h with
  | @arrival call =>
      have harrive := (hc.act (.arrive (call.request c.service.settings c.gate))).1
      refine ⟨?_, rfl, [], rfl, rfl⟩
      simpa [Crowd.atGate, Crowd.arrive, Call.start, Caller.atGate, Gate.Crowd.act,
        Gate.Crowd.arrive] using harrive
  | nothing => exact ⟨hc, rfl, [], rfl, rfl⟩
  | @turn i x y c₁ hx h =>
      have hplace : c.atGate.callers[i]? = some x.atGate := by simp [Crowd.atGate, hx]
      have hset : (c.callers.set i y).map Caller.atGate = c.atGate.callers.set i y.atGate :=
        List.map_set
      refine ⟨?_, ?_, x.atGate.dealt c.gate y.atGate, ?_, Caller.granted_dealt ..⟩
      · simp only [Crowd.atGate, hset]
        rcases h.atGate with ⟨move, hmove⟩ | ⟨hgate, hstays⟩
        · exact (hc.turn hplace hmove).1
        · rw [hgate]
          exact hc.replace hplace hstays.1 (by rw [Gate.Caller.held, hstays.2.1]; rfl)
      · rcases h.atGate with ⟨move, hmove⟩ | ⟨hgate, hstays⟩
        · exact hmove.permits.1
        · exact congrArg Gate.capacity hgate
      · rcases h.atGate with ⟨move, hmove⟩ | ⟨hgate, hstays⟩
        · exact (hc.turn hplace hmove).2
        · rw [hstays.2.2]
          exact congrArg (fun g : Gate => some g.queue) hgate.symm

end Happens

/-! ## Along a run -/

/-- What every single thing that happens keeps, a whole run keeps. -/
theorem Crowd.run_keeps {P : List Call → List Grant → Crowd σ δ → Prop}
    (hstep : ∀ {calls gs c call? g? c'}, P calls gs c → Happens b c call? g? c' →
      P (calls ++ call?.toList) (gs ++ g?.toList) c') (acts : List Happening) :
    ∀ {calls gs c}, P calls gs c →
      P (calls ++ acts.filterMap Happening.call?) (gs ++ c.grants b acts) (c.run b acts) := by
  induction acts with
  | nil =>
      intro calls gs c hc
      simpa [Crowd.grants, Crowd.run] using hc
  | cons a acts ih =>
      intro calls gs c hc
      have hrest := ih (hstep hc (happens_of_act c a))
      rw [filterMap_cons_toList, Crowd.grants, ← List.append_assoc, ← List.append_assoc]
      exact hrest

/-- What is granted in a run is granted by deals in the queue. -/
theorem Crowd.exists_deals (acts : List Happening) :
    ∀ {c : Crowd σ δ}, c.atGate.Orderly →
      ∃ ds q, c.gate.queue.deals? ds = some q ∧
        ds.filterMap Gate.Deal.granted? = (c.grants b acts).map Grant.ticket := by
  induction acts with
  | nil =>
      intro c _
      exact ⟨[], _, rfl, rfl⟩
  | cons a acts ih =>
      intro c hc
      obtain ⟨hnext, -, ds, hds, htickets⟩ := (happens_of_act (b := b) c a).orderly hc
      obtain ⟨es, q, hes, hrest⟩ := ih hnext
      refine ⟨ds ++ es, q, ?_, ?_⟩
      · rw [Gate.Queue.deals?_append, hds]
        exact hes
      · rw [List.filterMap_append, htickets, hrest, Crowd.grants, List.map_append]

/-- Permits are granted in the order of the tickets. -/
theorem Crowd.grants_sorted {c : Crowd σ δ} (hc : c.atGate.Orderly) (acts : List Happening) :
    ((c.grants b acts).map Grant.ticket).Pairwise (· < ·) := by
  obtain ⟨ds, q, hds, htickets⟩ := exists_deals acts hc
  rw [← htickets]
  exact hc.tidy.ordered.granted_sorted hds

end Spelling.Service
