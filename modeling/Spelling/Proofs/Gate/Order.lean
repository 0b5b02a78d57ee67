import Spelling.Gate.Caller
import Spelling.Proofs.Callers
import Spelling.Proofs.Gate.Queue

/-!
# Permits in order

Any number of callers move at the gate in any order.  `Turn` says what one move can do, row by row.
Each move is some deals in the queue of the gate (`Caller.dealt`), read off where its caller was and
where it went:

    arriving  →  waiting      join
    arriving  →  granted      join, grant
    arriving  →  leaving      join, leave
    waiting   →  granted      grant
    waiting   →  leaving      leave
    holding   →  returned     giveBack

`gate_serves_fair_queue` puts this together for every schedule: the deals of the whole run are those
of a fair queue, whose live tickets are those of the waiting callers.
-/

namespace Spelling.Gate

namespace Caller

/-- What one move of a caller does to the gate, and where the caller goes. -/
inductive Turn (g : Gate) : Caller → Move → Gate → Caller → Prop
  | refuse {r : Request} : g.capacity < r.count → Turn g (arriving r) .go g (refused r)
  | enter {r : Request} : r.count ≤ g.capacity →
      g.takeTicket.2.canGrant g.nextTicket r.count = true →
      Turn g (arriving r) .go (g.takeTicket.2.grant r.count) (granted ⟨r.count⟩)
  | wait {r : Request} : r.count ≤ g.capacity →
      g.takeTicket.2.canGrant g.nextTicket r.count = false →
      Turn g (arriving r) .go (g.takeTicket.2.sleep g.nextTicket) (waiting r g.nextTicket)
  | turnAway {r : Request} : r.count ≤ g.capacity → r.mayGiveUp = true →
      g.takeTicket.2.canGrant g.nextTicket r.count = false →
      Turn g (arriving r) .giveUp (g.takeTicket.2.withdraw g.nextTicket) (leaving r)
  | grant {r : Request} {t : Nat} : t ∉ g.asleep → g.canGrant t r.count = true →
      Turn g (waiting r t) .go (g.grant r.count) (granted ⟨r.count⟩)
  | sleepOn {r : Request} {t : Nat} : t ∉ g.asleep → g.canGrant t r.count = false →
      Turn g (waiting r t) .go (g.sleep t) (waiting r t)
  | giveUp {r : Request} {t : Nat} : t ∉ g.asleep → r.mayGiveUp = true →
      g.canGrant t r.count = false → Turn g (waiting r t) .giveUp (g.withdraw t) (leaving r)
  | rouse {r : Request} {t : Nat} : t ∈ g.asleep →
      Turn g (waiting r t) .rouse (g.wake t) (waiting r t)
  | hold {p : Permit} : Turn g (granted p) .go g.wakeAll (holding p)
  | release {p : Permit} : Turn g (holding p) .go (g.release p.count) returned
  | finish : Turn g returned .go g.wakeAll done
  | leave {r : Request} : Turn g (leaving r) .go g.wakeAll (gone r)

theorem turn_of_step {g g' : Gate} {x y : Caller} {m : Move}
    (h : x.step g m = some (g', y)) : Turn g x m g' y := by
  cases x with
  | arriving r =>
      cases m with
      | go =>
          simp only [step] at h
          by_cases hcap : g.capacity < r.count
          · rw [if_pos hcap] at h
            cases h
            exact .refuse hcap
          · rw [if_neg hcap, check] at h
            by_cases hcan : g.takeTicket.2.canGrant g.takeTicket.1 r.count = true
            · rw [if_pos hcan] at h
              cases h
              exact .enter (Nat.le_of_not_lt hcap) hcan
            · rw [if_neg hcan] at h
              cases h
              exact .wait (Nat.le_of_not_lt hcap) (Bool.eq_false_iff.mpr hcan)
      | giveUp =>
          simp only [step] at h
          by_cases hcap : g.capacity < r.count
          · simp [hcap] at h
          · rw [if_neg hcap] at h
            simp only [quit, Option.ite_none_right_eq_some, Bool.and_eq_true,
              Bool.not_eq_true', Option.some.injEq, Prod.mk.injEq] at h
            obtain ⟨⟨hmay, hcan⟩, rfl, rfl⟩ := h
            exact .turnAway (Nat.le_of_not_lt hcap) hmay hcan
      | rouse => simp [step] at h
  | waiting r t =>
      cases m with
      | go =>
          simp only [step, check, Option.ite_none_left_eq_some, Option.some.injEq] at h
          obtain ⟨hawake, h⟩ := h
          by_cases hcan : g.canGrant t r.count = true
          · rw [if_pos hcan] at h
            cases h
            exact .grant hawake hcan
          · rw [if_neg hcan] at h
            cases h
            exact .sleepOn hawake (Bool.eq_false_iff.mpr hcan)
      | giveUp =>
          simp only [step, quit, Option.ite_none_left_eq_some, Option.ite_none_right_eq_some,
            Bool.and_eq_true, Bool.not_eq_true', Option.some.injEq, Prod.mk.injEq] at h
          obtain ⟨hawake, ⟨hmay, hcan⟩, rfl, rfl⟩ := h
          exact .giveUp hawake hmay hcan
      | rouse =>
          simp only [step, Option.ite_none_right_eq_some, Option.some.injEq,
            Prod.mk.injEq] at h
          obtain ⟨hasleep, rfl, rfl⟩ := h
          exact .rouse hasleep
  | granted p => cases m <;> simp [step] at h; obtain ⟨rfl, rfl⟩ := h; exact .hold
  | holding p => cases m <;> simp [step] at h; obtain ⟨rfl, rfl⟩ := h; exact .release
  | returned => cases m <;> simp [step] at h; obtain ⟨rfl, rfl⟩ := h; exact .finish
  | leaving r => cases m <;> simp [step] at h; obtain ⟨rfl, rfl⟩ := h; exact .leave
  | done => cases m <;> simp [step] at h
  | gone r => cases m <;> simp [step] at h
  | refused r => cases m <;> simp [step] at h

/-- The ticket that a caller waits with. -/
def ticket? : Caller → Option Nat
  | waiting _ t => some t
  | _ => none

/-- How many permits a caller holds. -/
def held (x : Caller) : Nat := (x.permit?.map Permit.count).getD 0

/-- How many permits a caller came for, as long as it knows. -/
def wanted? : Caller → Option Nat
  | arriving r | waiting r _ | leaving r | gone r | refused r => some r.count
  | granted p | holding p => some p.count
  | returned | done => none

/-- What a move was in the queue, read off where its caller was and where it went. -/
def dealt (g : Gate) : Caller → Caller → List Deal
  | arriving _, waiting _ t => [.join t]
  | arriving _, granted p => [.join g.nextTicket, .grant g.nextTicket p.count]
  | arriving _, leaving _ => [.join g.nextTicket, .leave g.nextTicket]
  | waiting _ t, granted p => [.grant t p.count]
  | waiting _ t, leaving _ => [.leave t]
  | holding p, returned => [.giveBack p.count]
  | _, _ => []

end Caller

/-! ## What one move keeps -/

section Turn

open Caller

variable {g g' : Gate} {x y : Caller} {m : Move}

/-- A ticket just drawn is live. -/
theorem Tidy.nextTicket_mem_live (h : g.Tidy) : g.nextTicket ∈ g.takeTicket.2.live :=
  mem_liveBetween.mpr ⟨h.serving_le, Nat.lt_succ_self _,
    fun hmem => Nat.lt_irrefl _ (h.abandoned_bound _ hmem).2⟩

/-- Every move is its deals in the queue. -/
theorem Caller.Turn.deals (h : Turn g x m g' y) (hg : g.Tidy)
    (hx : ∀ t, x.ticket? = some t → t ∈ g.live) :
    g'.Tidy ∧ g.queue.deals? (dealt g x y) = some g'.queue := by
  cases h with
  | refuse => exact ⟨hg, rfl⟩
  | enter _ hcan =>
      obtain ⟨hnew, hgrant⟩ := grant_spec hg.takeTicket hg.nextTicket_mem_live hcan
      exact ⟨hnew, by simp [dealt, queue_takeTicket hg, hgrant]⟩
  | wait _ _ =>
      exact ⟨⟨hg.takeTicket.serving_le, hg.takeTicket.abandoned_bound, hg.nodup⟩,
        by simp [dealt, queue_takeTicket hg]; rfl⟩
  | turnAway _ _ _ =>
      obtain ⟨hnew, hleave⟩ := withdraw_spec hg.takeTicket hg.nextTicket_mem_live
      exact ⟨hnew, by simp [dealt, queue_takeTicket hg, hleave]⟩
  | grant _ hcan =>
      obtain ⟨hnew, hgrant⟩ := grant_spec hg (hx _ rfl) hcan
      exact ⟨hnew, by simp [dealt, hgrant]⟩
  | giveUp _ _ _ =>
      obtain ⟨hnew, hleave⟩ := withdraw_spec hg (hx _ rfl)
      exact ⟨hnew, by simp [dealt, hleave]⟩
  | release => exact ⟨⟨hg.serving_le, hg.abandoned_bound, hg.nodup⟩, rfl⟩
  | sleepOn | rouse | hold | finish | leave =>
      exact ⟨⟨hg.serving_le, hg.abandoned_bound, hg.nodup⟩, rfl⟩

@[simp] theorem advance_available (g : Gate) : g.advance.available = g.available := rfl

@[simp] theorem advance_capacity (g : Gate) : g.advance.capacity = g.capacity := rfl

@[simp] theorem withdraw_available (g : Gate) (t : Nat) :
    (g.withdraw t).available = g.available := by
  rw [withdraw]
  split <;> rfl

@[simp] theorem withdraw_capacity (g : Gate) (t : Nat) :
    (g.withdraw t).capacity = g.capacity := by
  rw [withdraw]
  split <;> rfl

/-- No permit is made or lost. -/
theorem Caller.Turn.permits (h : Turn g x m g' y) :
    g'.capacity = g.capacity ∧ g'.available + y.held = g.available + x.held := by
  cases h with
  | enter _ hcan | grant _ hcan =>
      exact ⟨rfl, Nat.sub_add_cancel (canGrant_iff.mp hcan).2⟩
  | turnAway | giveUp => simp [held, permit?, takeTicket]
  | release => simp [held, permit?, Gate.release]
  | refuse | wait | sleepOn | rouse | hold | finish | leave => exact ⟨rfl, rfl⟩

/-- Nobody changes its mind. -/
theorem Caller.Turn.wanted (h : Turn g x m g' y) {n : Nat} (hy : y.wanted? = some n) :
    x.wanted? = some n := by
  cases h with
  | release | finish => cases hy
  | refuse | enter | wait | turnAway | grant | sleepOn | giveUp | rouse | hold | leave => exact hy

/-- Permits are granted when there are enough. -/
theorem Caller.Turn.room (h : Turn g x m g' y) (hx : x.permit? = none) {p : Permit}
    (hy : y.permit? = some p) : p.count ≤ g.available := by
  cases h with
  | enter _ hcan | grant _ hcan =>
      cases hy
      exact (canGrant_iff.mp hcan).2
  | hold => cases hx
  | refuse | wait | turnAway | sleepOn | giveUp | rouse | release | finish | leave => cases hy

end Turn

/-! ## Who waits in a queue -/

namespace Deal

/-- The tickets that enter the queue with a deal. -/
def entering : Deal → List Nat
  | join t => [t]
  | _ => []

/-- The tickets that leave the queue with a deal. -/
def exiting : Deal → List Nat
  | grant t _ | leave t => [t]
  | _ => []

end Deal

/-- Who entered the queue waits or has left. -/
theorem Queue.perm_of_deals {ds : List Deal} :
    ∀ {q q' : Queue}, q.deals? ds = some q' →
      (q'.waiting ++ ds.flatMap Deal.exiting).Perm (q.waiting ++ ds.flatMap Deal.entering) := by
  induction ds with
  | nil =>
      intro q q' h
      cases h
      exact .refl _
  | cons d ds ih =>
      intro q q' h
      obtain ⟨r, hd, hr⟩ := Option.bind_eq_some_iff.mp h
      have hrest := ih hr
      simp only [List.flatMap_cons]
      cases d with
      | join t =>
          simp only [deal?, Option.ite_none_right_eq_some, Option.some.injEq] at hd
          obtain ⟨-, rfl⟩ := hd
          simpa [Deal.entering, Deal.exiting] using hrest
      | grant t count =>
          simp only [deal?, Option.ite_none_right_eq_some, Option.some.injEq] at hd
          obtain ⟨⟨hhead, -⟩, rfl⟩ := hd
          obtain ⟨rest, hw⟩ : ∃ rest, q.waiting = t :: rest := List.head?_eq_some_iff.mp hhead
          simp only [hw, List.tail_cons] at hrest ⊢
          exact List.perm_middle.trans (hrest.cons t)
      | leave t =>
          simp only [deal?, Option.ite_none_right_eq_some, Option.some.injEq] at hd
          obtain ⟨hmem, rfl⟩ := hd
          exact List.perm_middle.trans ((hrest.cons t).trans
            ((List.perm_cons_erase hmem).symm.append_right _))
      | giveBack count =>
          simp only [deal?, Option.some.injEq] at hd
          subst hd
          exact hrest

/-- A caller waits from its ticket's entering the queue to its leaving. -/
theorem Caller.Turn.tickets {g g' : Gate} {x y : Caller} {m : Move} (h : Turn g x m g' y) :
    (y.ticket?.toList ++ (dealt g x y).flatMap Deal.exiting).Perm
      (x.ticket?.toList ++ (dealt g x y).flatMap Deal.entering) := by
  cases h <;> exact .refl _

/-! ## The gate and its callers -/

/-- What happens at a gate: somebody arrives, or a caller makes a move if it is possible. -/
inductive Happening where
  | arrive (r : Request)
  | move (caller : Nat) (m : Move)

namespace Crowd

/-- A gate that nobody has come to. -/
def ofCapacity (n : Nat) : Crowd := ⟨Gate.ofCapacity n, []⟩

/-- The crowd after one thing happened; a move that is not possible changes nothing. -/
def act (c : Crowd) : Happening → Crowd
  | .arrive r => c.arrive r
  | .move i m => (c.step i m).getD c

/-- The deals in one thing that happens, each with its caller. -/
def deals (c : Crowd) : Happening → List (Nat × Deal)
  | .arrive _ => []
  | .move i m =>
    match c.callers[i]? with
    | none => []
    | some x =>
      match x.step c.gate m with
      | none => []
      | some (_, y) => (x.dealt c.gate y).map (i, ·)

/-- The crowd after some things happened. -/
def run (c : Crowd) (acts : List Happening) : Crowd := acts.foldl act c

/-- The deals in some things that happen, in their order. -/
def log (c : Crowd) : List Happening → List (Nat × Deal)
  | [] => []
  | a :: acts => c.deals a ++ (c.act a).log acts

/-- What holds of a gate and its callers at all times. -/
structure Orderly (c : Crowd) : Prop where
  tidy : c.gate.Tidy
  tickets : (c.callers.filterMap Caller.ticket?).Perm c.gate.live
  permits : c.gate.available + (c.callers.map Caller.held).sum = c.gate.capacity

theorem orderly_ofCapacity (n : Nat) : (ofCapacity n).Orderly where
  tidy := ⟨Nat.le_refl _, fun _ ht => absurd ht List.not_mem_nil, List.nodup_nil⟩
  tickets := .refl _
  permits := rfl

/-- One caller's move changes its own place in the crowd. -/
theorem Orderly.turn {c : Crowd} (hc : c.Orderly) {i : Nat} {m : Move} {x y : Caller}
    {g : Gate} (hx : c.callers[i]? = some x) (h : Caller.Turn c.gate x m g y) :
    Orderly ⟨g, c.callers.set i y⟩ ∧
      c.gate.queue.deals? (x.dealt c.gate y) = some g.queue := by
  obtain ⟨before, after, hsplit, hset⟩ := exists_set_split hx
  have htickets := hsplit ▸ hc.tickets
  have hpermits := hsplit ▸ hc.permits
  rw [sum_map_split] at hpermits
  have hlive : ∀ t, x.ticket? = some t → t ∈ c.gate.live := by
    intro t ht
    exact htickets.mem_iff.mp (List.mem_filterMap.mpr ⟨x, by simp, ht⟩)
  obtain ⟨htidy, hdeals⟩ := h.deals hc.tidy hlive
  refine ⟨⟨htidy, ?_, ?_⟩, hdeals⟩
  · -- tickets are counted: what entered and left the queue is what the caller drew and gave up
    refine List.perm_iff_count.mpr ?_
    intro t
    have hbefore := htickets.count_eq t
    have hqueue := (Queue.perm_of_deals hdeals).count_eq t
    have hplace := h.tickets.count_eq t
    simp only [hset, List.filterMap_append, filterMap_cons_toList, List.count_append] at *
    simp only [queue] at hqueue
    omega
  · obtain ⟨hcap, hsum⟩ := h.permits
    simp only [hset, hcap, sum_map_split]
    omega

/-- A caller that waits and holds as before may be anywhere else. -/
theorem Orderly.replace {c : Crowd} (hc : c.Orderly) {i : Nat} {x y : Caller}
    (hx : c.callers[i]? = some x) (hticket : y.ticket? = x.ticket?) (hheld : y.held = x.held) :
    Orderly ⟨c.gate, c.callers.set i y⟩ := by
  obtain ⟨before, after, hsplit, hset⟩ := exists_set_split hx
  have htickets := hsplit ▸ hc.tickets
  have hpermits := hsplit ▸ hc.permits
  refine ⟨hc.tidy, ?_, ?_⟩
  · simpa only [hset, List.filterMap_append, filterMap_cons_toList, hticket] using htickets
  · simpa only [hset, sum_map_split, hheld] using hpermits

theorem deals_of_turn {c : Crowd} {i : Nat} {m : Move} {x y : Caller} {g : Gate}
    (hx : c.callers[i]? = some x) (h : x.step c.gate m = some (g, y)) :
    c.deals (.move i m) = (x.dealt c.gate y).map (i, ·) := by
  simp only [deals, hx, h]

theorem act_of_turn {c : Crowd} {i : Nat} {m : Move} {x y : Caller} {g : Gate}
    (hx : c.callers[i]? = some x) (h : x.step c.gate m = some (g, y)) :
    c.act (.move i m) = ⟨g, c.callers.set i y⟩ := by
  simp [act, step, hx, h]

/-- Whatever happens, the crowd stays orderly, and what happened was deals in the queue. -/
theorem Orderly.act {c : Crowd} (hc : c.Orderly) (a : Happening) :
    (c.act a).Orderly ∧
      c.gate.queue.deals? ((c.deals a).map Prod.snd) = some (c.act a).gate.queue := by
  cases a with
  | arrive r =>
      refine ⟨⟨hc.tidy, ?_, ?_⟩, rfl⟩
      · simpa [Crowd.act, arrive, filterMap_cons_toList, Caller.ticket?] using hc.tickets
      · simpa [Crowd.act, arrive, Caller.held, Caller.permit?] using hc.permits
  | move i m =>
      cases hx : c.callers[i]? with
      | none => simpa [Crowd.act, deals, step, hx] using hc
      | some x =>
          cases hs : x.step c.gate m with
          | none => simpa [Crowd.act, deals, step, hx, hs] using hc
          | some next =>
              obtain ⟨g, y⟩ := next
              obtain ⟨hnew, hdeals⟩ := hc.turn hx (Caller.turn_of_step hs)
              rw [act_of_turn hx hs, deals_of_turn hx hs, List.map_map]
              exact ⟨hnew, by simpa [Function.comp_def] using hdeals⟩

/-- Along every run the crowd stays orderly, and what happened was deals in the queue. -/
theorem Orderly.run (acts : List Happening) :
    ∀ {c : Crowd}, c.Orderly → (c.run acts).Orderly ∧
      c.gate.queue.deals? ((c.log acts).map Prod.snd) = some (c.run acts).gate.queue := by
  induction acts with
  | nil =>
      intro c hc
      exact ⟨hc, rfl⟩
  | cons a acts ih =>
      intro c hc
      obtain ⟨hnext, hdeals⟩ := hc.act a
      obtain ⟨hlast, hrest⟩ := ih hnext
      refine ⟨hlast, ?_⟩
      rw [log, List.map_append, Queue.deals?_append, hdeals]
      exact hrest

/-- The capacity of a gate never changes. -/
theorem capacity_run (acts : List Happening) :
    ∀ c : Crowd, (c.run acts).gate.capacity = c.gate.capacity := by
  induction acts with
  | nil =>
      intro _
      rfl
  | cons a acts ih =>
      intro c
      refine (ih (c.act a)).trans ?_
      cases a with
      | arrive r => rfl
      | move i m =>
          cases hx : c.callers[i]? with
          | none => simp [Crowd.act, step, hx]
          | some x =>
              cases hs : x.step c.gate m with
              | none => simp [Crowd.act, step, hx, hs]
              | some next =>
                  rw [act_of_turn hx hs]
                  exact (Caller.turn_of_step hs).permits.1

/-- A caller that gives up takes its own ticket out of the queue and no other. -/
theorem Orderly.live_of_giveUp {c c' : Crowd} (hc : c.Orderly) {i t : Nat} {r : Request}
    (hx : c.callers[i]? = some (.waiting r t)) (hs : c.step i .giveUp = some c') :
    t ∈ c.gate.live ∧ c'.gate.live = c.gate.live.erase t := by
  have hlive : t ∈ c.gate.live := hc.tickets.mem_iff.mp
    (List.mem_filterMap.mpr ⟨_, List.mem_of_getElem? hx, rfl⟩)
  simp only [step, hx, Option.map_eq_some_iff, Prod.exists] at hs
  obtain ⟨g, y, hs, rfl⟩ := hs
  cases Caller.turn_of_step hs with
  | giveUp _ _ _ =>
      have hleave := (withdraw_spec hc.tidy hlive).2
      have hmem : t ∈ c.gate.queue.waiting := hlive
      rw [Queue.deal?, if_pos hmem, Option.some.injEq] at hleave
      exact ⟨hlive, (congrArg Queue.waiting hleave).symm⟩

/-- **A gate serves a fair queue.**  Whoever arrives and moves in whatever order: the deals of the
run are those of a fair queue, from the empty one to the one read off the gate, so permits go to the
first live ticket only and only when there are enough; tickets are granted in the order in which
they were drawn; a ticket that is given up leaves from its place and moves nobody; the live tickets
are those of the waiting callers, and are counted right; and permits are neither made nor lost. -/
theorem gate_serves_fair_queue (n : Nat) (acts : List Happening) :
    let c := (ofCapacity n).run acts
    let deals := ((ofCapacity n).log acts).map Prod.snd
    Queue.deals? ⟨max n 1, 0, []⟩ deals = some ⟨c.gate.available, c.gate.nextTicket, c.gate.live⟩ ∧
      (∀ t, t ∈ c.gate.live ↔
        c.gate.serving ≤ t ∧ t < c.gate.nextTicket ∧ t ∉ c.gate.abandoned) ∧
      c.gate.live.Pairwise (· < ·) ∧
      (c.callers.filterMap Caller.ticket?).Perm c.gate.live ∧
      (deals.filterMap Deal.granted?).Pairwise (· < ·) ∧
      (∀ i r t c', c.callers[i]? = some (.waiting r t) → c.step i .giveUp = some c' →
        t ∈ c.gate.live ∧ c'.gate.live = c.gate.live.erase t) ∧
      c.gate.available + (c.callers.map Caller.held).sum = max n 1 ∧
      c.gate.serving ∉ c.gate.abandoned ∧
      c.gate.waiting = c.gate.live.length ∧
      c.gate.serving + c.gate.abandoned.length + c.gate.live.length = c.gate.nextTicket := by
  intro c deals
  obtain ⟨hc, hdeals⟩ := (orderly_ofCapacity n).run acts
  have hcap : c.gate.capacity = max n 1 := capacity_run acts (ofCapacity n)
  have hstart : (Queue.mk (max n 1) 0 []).Ordered :=
    ⟨.nil, fun _ ht => absurd ht List.not_mem_nil⟩
  exact ⟨hdeals, fun _ => hc.tidy.mem_live, hc.tidy.ordered.sorted, hc.tickets,
    hstart.granted_sorted hdeals, fun _ _ _ _ hx hs => hc.live_of_giveUp hx hs,
    hcap ▸ hc.permits, hc.tidy.serving_not_mem, hc.tidy.waiting_eq_length,
    hc.tidy.serving_add_length⟩

end Crowd

end Spelling.Gate
