import Spelling.Proofs.Gate.Order

/-!
# Nobody sleeps through its turn

A caller that cannot be granted yet lies down, and stays down until somebody wakes everybody.  What
can make a sleeper grantable is a move of somebody else, and whoever makes such a move has one thing
left to do at once, which is to wake everybody:

    move                what it changes for those who wait          its caller is then
    enter, grant        another ticket stands first                 granted
    turnAway, giveUp    another ticket stands first, past those     leaving
                        that were abandoned before
    release             there are more permits                      returned

Every other move leaves the first ticket and the free permits as they are (`Caller.Turn.settles`),
and whoever lies down in it has just been found not to be grantable.  So a sleeper that is grantable
has somebody about to wake it, in every crowd that a run leads to (`Wakeful`).

What is not so: a caller that gives up wakes everybody only because the first ticket may have been
its own.  Where it was not, the callers it wakes look at the gate for nothing and lie down again.
-/

namespace Spelling.Gate

namespace Caller

/-- Whether a caller has changed what the others wait for, and wakes everybody next. -/
def isWaking : Caller → Bool
  | granted _ | returned | leaving _ => true
  | _ => false

/-- Whether a caller waits and sleeps. -/
def isAsleep (g : Gate) : Caller → Bool
  | waiting _ t => t ∈ g.asleep
  | _ => false

/-- Whether a caller is through with the gate. -/
def isThrough : Caller → Bool
  | done | gone _ | refused _ => true
  | _ => false

section Turn

variable {g g' : Gate} {x y : Caller} {m : Move}

/-- Whoever has to wake the others can do so, and then nobody sleeps. -/
theorem step_of_isWaking (g : Gate) (h : x.isWaking = true) :
    ∃ y, x.step g .go = some (g.wakeAll, y) := by
  cases x with
  | granted p => exact ⟨holding p, rfl⟩
  | returned => exact ⟨done, rfl⟩
  | leaving r => exact ⟨gone r, rfl⟩
  | arriving | waiting | holding | done | gone | refused => cases h

/-- A move after which its caller is not about to wake the others, and somebody sleeps, was made by
one that was not about to wake them before.  It leaves the first ticket and the free permits as they
are, and nobody but its own caller falls asleep in it. -/
theorem Turn.settles (h : Turn g x m g' y) (hy : y.isWaking = false) (hasleep : g'.asleep ≠ []) :
    x.isWaking = false ∧ g'.serving = g.serving ∧ g'.available = g.available ∧
      ∀ t ∈ g'.asleep, t ∈ g.asleep ∨ y.ticket? = some t := by
  cases h with
  | enter | turnAway | grant | giveUp | release => cases hy
  | hold | finish | leave => exact absurd rfl hasleep
  | refuse => exact ⟨rfl, rfl, rfl, fun _ ht => .inl ht⟩
  | wait | sleepOn =>
      refine ⟨rfl, rfl, rfl, ?_⟩
      intro t ht
      rcases List.mem_cons.mp ht with rfl | ht
      · exact .inr rfl
      · exact .inl ht
  | rouse =>
      refine ⟨rfl, rfl, rfl, ?_⟩
      intro t ht
      exact .inl (List.mem_filter.mp ht).1

/-- Who sleeps after its own move has just been found not to be grantable. -/
theorem Turn.lies (h : Turn g x m g' y) {r : Request} {t : Nat} (hy : y = waiting r t)
    (hasleep : t ∈ g'.asleep) : g'.canGrant t r.count = false := by
  subst hy
  cases h with
  | wait _ hcan => exact hcan
  | sleepOn _ hcan => exact hcan
  | rouse => simp [wake] at hasleep

/-- Who waits asked for no more than there is, or waited before. -/
theorem Turn.waits (h : Turn g x m g' y) {r : Request} {t : Nat} (hy : y = waiting r t) :
    r.count ≤ g.capacity ∨ x = waiting r t := by
  subst hy
  cases h with
  | wait hcap => exact .inl hcap
  | sleepOn | rouse => exact .inr rfl

end Turn

end Caller

/-- On a tidy gate, a live ticket stands first when it is the one being served. -/
theorem Tidy.head?_live_iff {g : Gate} (h : g.Tidy) {t : Nat} (ht : t ∈ g.live) :
    g.live.head? = some t ↔ g.serving = t := by
  refine ⟨?_, h.head?_live ht⟩
  intro hhead
  obtain ⟨hge, hlt, -⟩ := mem_liveBetween.mp ht
  rw [h.live_eq_cons (Nat.lt_of_le_of_lt hge hlt), List.head?_cons] at hhead
  exact Option.some.inj hhead

namespace Crowd

variable {c : Crowd}

/-- Nobody can be granted anything, as far as the callers know: who does not hold permits sleeps or
is through, and nobody has still to wake the others. -/
def IsStill (c : Crowd) : Prop :=
  ∀ x ∈ c.callers, x.isHolding = true ∨ x.isAsleep c.gate = true ∨ x.isThrough = true

/-- What makes sure that nobody sleeps through its turn. -/
structure Wakeful (c : Crowd) : Prop where
  orderly : c.Orderly
  /-- Nobody waits for more than there is. -/
  bounded : ∀ r t, .waiting r t ∈ c.callers → r.count ≤ c.gate.capacity
  /-- Who sleeps and can be granted is about to be woken. -/
  woken : ∀ r t, .waiting r t ∈ c.callers → t ∈ c.gate.asleep →
    c.gate.canGrant t r.count = true → ∃ x ∈ c.callers, x.isWaking = true

theorem wakeful_ofCapacity (n : Nat) : (ofCapacity n).Wakeful where
  orderly := orderly_ofCapacity n
  bounded _ _ hmem := nomatch hmem
  woken _ _ hmem := nomatch hmem

/-- A waiting caller's ticket is live. -/
theorem Orderly.mem_live (h : c.Orderly) {r : Request} {t : Nat}
    (hmem : .waiting r t ∈ c.callers) : t ∈ c.gate.live :=
  h.tickets.mem_iff.mp (List.mem_filterMap.mpr ⟨_, hmem, rfl⟩)

/-- No two callers wait with the same ticket. -/
theorem Orderly.eq_of_ticket (h : c.Orderly) {i j t : Nat} {x y : Caller}
    (hx : c.callers[i]? = some x) (hy : c.callers[j]? = some y) (hi : x.ticket? = some t)
    (hj : y.ticket? = some t) : i = j := by
  have hnodup : (c.callers.filterMap Caller.ticket?).Nodup :=
    h.tickets.nodup_iff.mpr (h.tidy.ordered.sorted.imp Nat.ne_of_lt)
  exact eq_of_nodup_filterMap hnodup hx hy hi hj

/-- One caller's move lets nobody sleep through its turn. -/
theorem Wakeful.turn (hc : c.Wakeful) {i : Nat} {m : Move} {x y : Caller} {g : Gate}
    (hx : c.callers[i]? = some x) (h : Caller.Turn c.gate x m g y) :
    Wakeful ⟨g, c.callers.set i y⟩ := by
  have hplace : i < c.callers.length := (List.getElem?_eq_some_iff.mp hx).1
  have hnext := (hc.orderly.turn hx h).1
  refine ⟨hnext, ?_, ?_⟩
  · intro r t hmem
    obtain ⟨hcap, -⟩ := h.permits
    rw [hcap]
    rcases List.mem_or_eq_of_mem_set hmem with hmem | hy
    · exact hc.bounded r t hmem
    · rcases h.waits hy.symm with hle | rfl
      · exact hle
      · exact hc.bounded r t (List.mem_of_getElem? hx)
  · intro r t hmem hasleep hcan
    by_cases hy : y.isWaking = true
    · exact ⟨y, List.mem_set hplace y, hy⟩
    · -- the move changed nothing for those who wait, so who was about to wake them still is
      obtain ⟨hidle, hserving, havailable, hlies⟩ :=
        h.settles (Bool.eq_false_iff.mpr hy) (List.ne_nil_of_mem hasleep)
      obtain ⟨j, hj⟩ := List.mem_iff_getElem?.mp hmem
      have hother : i ≠ j := by
        rintro rfl
        have hy := Option.some.inj (hj.symm.trans (List.getElem?_set_self hplace))
        exact absurd hcan (by simp [h.lies hy.symm hasleep])
      have hstays : c.callers[j]? = some (.waiting r t) := by
        rwa [List.getElem?_set_ne hother] at hj
      have hold : t ∈ c.gate.asleep := (hlies t hasleep).resolve_right fun hy =>
        hother (hnext.eq_of_ticket (List.getElem?_set_self hplace) hj hy rfl)
      have hcould : c.gate.canGrant t r.count = true := by
        rwa [Gate.canGrant, ← hserving, ← havailable]
      obtain ⟨z, hz, hwaking⟩ := hc.woken r t (List.mem_of_getElem? hstays) hold hcould
      obtain ⟨k, hk⟩ := List.mem_iff_getElem?.mp hz
      rcases getElem?_set_moved hx y hk with ⟨-, rfl, -⟩ | ⟨-, hk⟩
      · exact absurd hwaking (by simp [hidle])
      · exact ⟨z, List.mem_of_getElem? hk, hwaking⟩

/-- Whatever happens, nobody sleeps through its turn. -/
theorem Wakeful.act (hc : c.Wakeful) (a : Happening) : (c.act a).Wakeful := by
  cases a with
  | arrive r =>
      refine ⟨(hc.orderly.act (.arrive r)).1, ?_, ?_⟩
      · intro r' t hmem
        exact hc.bounded r' t (by simpa [Crowd.act, arrive] using hmem)
      · intro r' t hmem hasleep hcan
        obtain ⟨x, hx, hwaking⟩ :=
          hc.woken r' t (by simpa [Crowd.act, arrive] using hmem) hasleep hcan
        exact ⟨x, List.mem_append_left _ hx, hwaking⟩
  | move i m =>
      cases hx : c.callers[i]? with
      | none => simpa [Crowd.act, step, hx] using hc
      | some x =>
          cases hs : x.step c.gate m with
          | none => simpa [Crowd.act, step, hx, hs] using hc
          | some next =>
              rw [act_of_turn hx hs]
              exact hc.turn hx (Caller.turn_of_step hs)

/-- Along every run, nobody sleeps through its turn. -/
theorem Wakeful.run (acts : List Happening) : ∀ {c : Crowd}, c.Wakeful → (c.run acts).Wakeful := by
  induction acts with
  | nil =>
      intro c hc
      exact hc
  | cons a acts ih =>
      intro c hc
      exact ih (hc.act a)

/-- Who has to wake the others wakes them all with its next step, which nothing can prevent. -/
theorem step_of_isWaking {x : Caller} (hx : x ∈ c.callers) (h : x.isWaking = true) :
    ∃ j c', c.callers[j]? = some x ∧ c.step j .go = some c' ∧ c'.gate.asleep = [] := by
  obtain ⟨j, hj⟩ := List.mem_iff_getElem?.mp hx
  obtain ⟨y, hy⟩ := Caller.step_of_isWaking c.gate h
  exact ⟨j, ⟨c.gate.wakeAll, c.callers.set j y⟩, hj, by simp [step, hj, hy], rfl⟩

/-- Who is awake and can be granted is granted with its next step. -/
theorem step_of_canGrant {i : Nat} {r : Request} {t : Nat}
    (hx : c.callers[i]? = some (.waiting r t)) (hawake : t ∉ c.gate.asleep)
    (hcan : c.gate.canGrant t r.count = true) :
    ∃ c', c.step i .go = some c' ∧ c'.callers[i]? = some (.granted ⟨r.count⟩) := by
  have hplace : i < c.callers.length := (List.getElem?_eq_some_iff.mp hx).1
  refine ⟨⟨c.gate.grant r.count, c.callers.set i (.granted ⟨r.count⟩)⟩, ?_,
    List.getElem?_set_self hplace⟩
  simp [step, hx, Caller.step, Caller.check, hawake, hcan]

/-- While everybody is still, whoever stands first asks for more than there is. -/
theorem Wakeful.first_of_isStill (hc : c.Wakeful) (hstill : c.IsStill) {t : Nat}
    (hhead : c.gate.live.head? = some t) :
    ∃ r, .waiting r t ∈ c.callers ∧ c.gate.available < r.count := by
  have hlive : t ∈ c.gate.live := List.mem_of_head? hhead
  obtain ⟨x, hmem, hticket⟩ := List.mem_filterMap.mp (hc.orderly.tickets.mem_iff.mpr hlive)
  obtain ⟨r, rfl⟩ : ∃ r, x = .waiting r t := by
    cases x with
    | waiting r t' => exact ⟨r, by cases hticket; rfl⟩
    | arriving | granted | holding | returned | leaving | done | gone | refused => cases hticket
  refine ⟨r, hmem, Nat.lt_of_not_le ?_⟩
  intro hle
  have hasleep : t ∈ c.gate.asleep := by
    simpa [Caller.isHolding, Caller.isThrough, Caller.isAsleep] using hstill _ hmem
  have hcan : c.gate.canGrant t r.count = true :=
    canGrant_iff.mpr ⟨(hc.orderly.tidy.head?_live_iff hlive).mp hhead, hle⟩
  obtain ⟨z, hz, hwaking⟩ := hc.woken r t hmem hasleep hcan
  -- who is about to wake the others neither holds on to permits, nor sleeps, nor is through
  have hwaits := hstill z hz
  cases z with
  | granted | returned | leaving =>
      simp [Caller.isHolding, Caller.isThrough, Caller.isAsleep] at hwaits
  | arriving | waiting | holding | done | gone | refused => cases hwaking

/-- While everybody is still and nobody holds permits, nobody waits. -/
theorem Wakeful.live_of_isStill (hc : c.Wakeful) (hstill : c.IsStill)
    (hfree : ∀ x ∈ c.callers, x.permit? = none) : c.gate.live = [] := by
  cases hlive : c.gate.live with
  | nil => rfl
  | cons t rest =>
      obtain ⟨r, hmem, hlt⟩ := hc.first_of_isStill hstill (by rw [hlive, List.head?_cons])
      have hheld : (c.callers.map Caller.held).sum = 0 := by
        refine sum_map_eq_zero _ ?_
        intro x hx
        rw [Caller.held, hfree x hx, Option.map_none, Option.getD_none]
      have hall := hc.orderly.permits
      have hle := hc.bounded r t hmem
      omega

/-- **Nobody sleeps through its turn.**  Whoever arrives and moves in whatever order: where the first
live ticket is that of a caller for which there are enough permits, that caller is awake, and granted
what it asked for with its next step, or somebody who changed the gate has still to wake everybody,
and does so with its next step.  So while everybody who does not hold permits sleeps or is through,
and nobody has still to wake the others, the first live ticket is that of a caller that asks for more
permits than there are; and where moreover nobody holds permits, nobody waits. -/
theorem grantable_callers_are_woken (n : Nat) (acts : List Happening) :
    let c := (ofCapacity n).run acts
    (∀ i r t, c.callers[i]? = some (.waiting r t) → c.gate.live.head? = some t →
      r.count ≤ c.gate.available →
        (t ∉ c.gate.asleep ∧
          ∃ c', c.step i .go = some c' ∧ c'.callers[i]? = some (.granted ⟨r.count⟩)) ∨
        ∃ x ∈ c.callers, x.isWaking = true ∧
          ∃ j c', c.callers[j]? = some x ∧ c.step j .go = some c' ∧ c'.gate.asleep = []) ∧
      (c.IsStill → ∀ t, c.gate.live.head? = some t →
        ∃ r, .waiting r t ∈ c.callers ∧ c.gate.available < r.count) ∧
      (c.IsStill → (∀ x ∈ c.callers, x.permit? = none) →
        c.gate.waiting = 0 ∧ ∀ x ∈ c.callers, x.ticket? = none) := by
  intro c
  have hc : c.Wakeful := (wakeful_ofCapacity n).run acts
  refine ⟨?_, fun hstill _ hhead => hc.first_of_isStill hstill hhead, ?_⟩
  · intro i r t hx hhead hle
    have hmem := List.mem_of_getElem? hx
    have hcan : c.gate.canGrant t r.count = true := canGrant_iff.mpr
      ⟨(hc.orderly.tidy.head?_live_iff (hc.orderly.mem_live hmem)).mp hhead, hle⟩
    by_cases hasleep : t ∈ c.gate.asleep
    · obtain ⟨x, hx, hwaking⟩ := hc.woken r t hmem hasleep hcan
      exact .inr ⟨x, hx, hwaking, step_of_isWaking hx hwaking⟩
    · exact .inl ⟨hasleep, step_of_canGrant hx hasleep hcan⟩
  · intro hstill hfree
    have hlive := hc.live_of_isStill hstill hfree
    refine ⟨by rw [hc.orderly.tidy.waiting_eq_length, hlive, List.length_nil], ?_⟩
    have hnone : c.callers.filterMap Caller.ticket? = [] := (hlive ▸ hc.orderly.tickets).eq_nil
    exact List.filterMap_eq_nil_iff.mp hnone

/-- The only permit is back and the next caller can be granted it, but sleeps: who gave the permit
back has still to wake it. -/
example :
    let c := (ofCapacity 1).run [.arrive ⟨1, false⟩, .move 0 .go, .move 0 .go,
      .arrive ⟨1, false⟩, .move 1 .go, .move 0 .go]
    c.callers = [.returned, .waiting ⟨1, false⟩ 1] ∧ c.gate.asleep = [1] ∧
      c.gate.canGrant 1 1 = true := by
  decide +kernel

end Crowd

end Spelling.Gate
