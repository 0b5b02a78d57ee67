import Spelling.Proofs.Service.Admission

/-!
# Who is inside with whom

`Admits` keeps account of the calls that were begun and of those that were granted their permits.  A
call that changes the service needs all permits, so its caller is alone inside.
-/

namespace Spelling.Service

variable {σ δ : Type} {b : Backend σ δ}

/-! ## Who was admitted -/

/-- What holds of the gate, of some calls that were begun and of the permits that were granted. -/
structure Admits (n : Nat) (calls : List Call) (gs : List Grant) (c : Crowd σ δ) : Prop where
  orderly : c.atGate.Orderly
  capacity : c.gate.capacity = n
  length : calls.length = c.callers.length
  entering : ∀ (i : Nat) (call : Call) (g : Gate.Caller), c.callers[i]? = some (.entering call g) →
    g.permit? = none → calls[i]? = some call ∧ ∀ k, g.wanted? = some k → k = call.count n
  granted : ∀ g ∈ gs, calls[g.caller]? = some g.call ∧
    ∃ x, c.callers[g.caller]? = some x ∧ x.Admitted n g.call
  holders : ∀ (i : Nat) (x : Caller) (p : Permit), c.callers[i]? = some x →
    x.permit? = some p → ∃ g ∈ gs, g.caller = i
  once : (gs.map Grant.caller).Nodup

theorem admits_ofService {s : Service σ δ} {n : Nat} (hn : s.settings.maxReaders.1 = n) :
    Admits n [] [] (Crowd.ofService s) where
  orderly := Gate.Crowd.orderly_ofCapacity _
  capacity := by
    have hpos := s.settings.maxReaders.2
    show max s.settings.maxReaders.1 1 = n
    omega
  length := rfl
  entering i call g hi := nomatch List.getElem?_nil.symm.trans hi
  granted g hg := absurd hg List.not_mem_nil
  holders i x p hi := nomatch List.getElem?_nil.symm.trans hi
  once := List.nodup_nil

variable {c c' : Crowd σ δ} {call? : Option Call} {g? : Option Grant} {n : Nat}
  {calls : List Call} {gs : List Grant}

/-- Somebody begins a call. -/
theorem Admits.arrive (hc : Admits n calls gs c) (call : Call)
    (horderly : (c.arrive call).atGate.Orderly) :
    Admits n (calls ++ [call]) gs (c.arrive call) where
  orderly := horderly
  capacity := hc.capacity
  length := by simp [Crowd.arrive, hc.length]
  entering i call' g hi hnone := by
    rcases getElem?_append_cases hi with hi | ⟨rfl, heq⟩
    · obtain ⟨hcall, hwanted⟩ := hc.entering i call' g hi hnone
      exact ⟨getElem?_append_of_some hcall _, hwanted⟩
    · cases heq
      refine ⟨by simp [← hc.length], ?_⟩
      intro k hk
      cases hk
      rw [Call.count_request, hc.capacity]
  granted g hg := by
    obtain ⟨hcall, x, hx, hadmitted⟩ := hc.granted g hg
    exact ⟨getElem?_append_of_some hcall _, x, getElem?_append_of_some hx _, hadmitted⟩
  holders i x p hi hp := by
    rcases getElem?_append_cases hi with hi | ⟨-, rfl⟩
    · exact hc.holders i x p hi hp
    · cases hp
  once := hc.once

/-- A caller makes a step in which nothing is granted. -/
theorem Admits.turn {i : Nat} {x y : Caller} (hc : Admits n calls gs c)
    (hx : c.callers[i]? = some x) (h : Caller.Turn b c i x c' y)
    (hnone : ∀ p, y.permit? = some p → x.permit? = some p)
    (horderly : Crowd.atGate { c' with callers := c.callers.set i y } |>.Orderly)
    (hcapacity : c'.gate.capacity = n) :
    Admits n calls gs { c' with callers := c.callers.set i y } where
  orderly := horderly
  capacity := hcapacity
  length := by simp [hc.length]
  entering j call g hj hg := by
    rcases getElem?_set_cases hj with ⟨rfl, rfl⟩ | ⟨-, hj⟩
    · obtain ⟨g', rfl, hg', hwanted⟩ := h.wanted hg
      obtain ⟨hcall, hcount⟩ := hc.entering i call g' hx hg'
      exact ⟨hcall, fun k hk => hcount k (hwanted k hk)⟩
    · exact hc.entering j call g hj hg
  granted g hg := by
    obtain ⟨hcall, z, hz, hadmitted⟩ := hc.granted g hg
    refine ⟨hcall, ?_⟩
    rcases getElem?_set_moved hx y hz with ⟨-, rfl, hmoved⟩ | ⟨-, hsame⟩
    · exact ⟨y, hmoved, hadmitted.turn h⟩
    · exact ⟨z, hsame, hadmitted⟩
  holders j z p hj hp := by
    rcases getElem?_set_cases hj with ⟨rfl, rfl⟩ | ⟨-, hj⟩
    · exact hc.holders i x p hx (hnone p hp)
    · exact hc.holders j z p hj hp
  once := hc.once

/-- A caller is granted the permits of its call. -/
theorem Admits.grant {i : Nat} {x y : Caller} {r : Grant} (hc : Admits n calls gs c)
    (hx : c.callers[i]? = some x) (h : Caller.Turn b c i x c' y)
    (hgrant : x.Granting c i c' y r)
    (horderly : Crowd.atGate { c' with callers := c.callers.set i y } |>.Orderly)
    (hcapacity : c'.gate.capacity = n) :
    Admits n calls (gs ++ [r]) { c' with callers := c.callers.set i y } := by
  cases hgrant with
  | @row call g p t gate hnone hle hwanted =>
      obtain ⟨hcall, hcount⟩ := hc.entering i call g hx hnone
      have hi : i < c.callers.length := (List.getElem?_eq_some_iff.mp hx).1
      have hnew : ∀ r ∈ gs, r.caller ≠ i := by
        rintro r hr rfl
        obtain ⟨-, z, hz, hadmitted⟩ := hc.granted r hr
        cases hx.symm.trans hz
        cases hadmitted with
        | holding hp _ => exact nomatch hnone.symm.trans hp
      refine ⟨horderly, hcapacity, by simp [hc.length], ?_, ?_, ?_, ?_⟩
      · intro j call' g' hj hg'
        rcases getElem?_set_cases hj with ⟨-, heq⟩ | ⟨-, hj⟩
        · cases heq
          cases hg'
        · exact hc.entering j call' g' hj hg'
      · intro r hr
        rcases List.mem_append.mp hr with hr | hr
        · obtain ⟨hcall, z, hz, hadmitted⟩ := hc.granted r hr
          exact ⟨hcall, z, (List.getElem?_set_ne (hnew r hr).symm).trans hz, hadmitted⟩
        · cases List.mem_singleton.mp hr
          exact ⟨hcall, _, List.getElem?_set_self hi, .holding rfl (hcount _ hwanted)⟩
      · intro j z q hj hq
        rcases getElem?_set_cases hj with ⟨rfl, -⟩ | ⟨-, hj⟩
        · exact ⟨_, List.mem_append_right _ (List.mem_singleton.mpr rfl), rfl⟩
        · obtain ⟨r, hr, hcaller⟩ := hc.holders j z q hj hq
          exact ⟨r, List.mem_append_left _ hr, hcaller⟩
      · rw [List.map_append]
        refine List.nodup_append.mpr ⟨hc.once, by simp, ?_⟩
        intro j hj k hk heq
        cases List.mem_singleton.mp hk
        subst heq
        obtain ⟨r, hr, hcaller⟩ := List.mem_map.mp hj
        exact hnew r hr hcaller

theorem Admits.happens (hc : Admits n calls gs c) (h : Happens b c call? g? c') :
    Admits n (calls ++ call?.toList) (gs ++ g?.toList) c' := by
  obtain ⟨horderly, hcapacity, -⟩ := h.orderly hc.orderly
  have hcap : c'.gate.capacity = n := hcapacity.trans hc.capacity
  cases h with
  | nothing => simpa using hc
  | @arrival call => simpa using hc.arrive call horderly
  | turn hx h =>
      rcases h.granting with ⟨r, hr, hgrant⟩ | ⟨hnone, hpermit⟩
      · simpa [hr] using hc.grant hx h hgrant horderly hcap
      · simpa [hnone] using hc.turn hx h hpermit horderly hcap

/-! ## Who is inside with whom -/

section Inside

variable {i j : Nat} {x y : Caller} {p q : Permit}

theorem Caller.held_of_permit (h : x.permit? = some p) : x.atGate.held = p.count := by
  rw [Gate.Caller.held, show x.atGate.permit? = some p from h]
  rfl

theorem Call.count_pos (hn : 0 < n) (call : Call) : 0 < call.count n := by
  rw [Call.count]
  split
  · exact hn
  · exact Nat.zero_lt_one

theorem Call.count_of_changes {call : Call} (h : call.changes = true) : call.count n = n :=
  if_pos h

/-- The call of a caller that holds permits, and how many these are. -/
theorem Admits.holding (hc : Admits n calls gs c) (hx : c.callers[i]? = some x)
    (hp : x.permit? = some p) : ∃ g ∈ gs, g.caller = i ∧ p.count = g.call.count n := by
  obtain ⟨g, hg, rfl⟩ := hc.holders i x p hx hp
  obtain ⟨-, z, hz, hadmitted⟩ := hc.granted g hg
  cases hx.symm.trans hz
  cases hadmitted with
  | holding hq hcount =>
      cases hp.symm.trans hq
      exact ⟨g, hg, rfl, hcount⟩
  | announcing | done => cases hp

/-- Who changes the service holds all permits. -/
theorem Admits.count_eq (hc : Admits n calls gs c) {g : Grant} (hg : g ∈ gs)
    (hchanges : g.call.changes = true) (hx : c.callers[g.caller]? = some x)
    (hp : x.permit? = some p) : p.count = n := by
  obtain ⟨-, z, hz, hadmitted⟩ := hc.granted g hg
  cases hx.symm.trans hz
  cases hadmitted with
  | holding hq hcount =>
      cases hp.symm.trans hq
      exact hcount.trans (Call.count_of_changes hchanges)
  | announcing | done => cases hp

theorem Admits.permit_pos (hn : 0 < n) (hc : Admits n calls gs c) (hx : c.callers[i]? = some x)
    (hp : x.permit? = some p) : 0 < p.count := by
  obtain ⟨g, -, -, hcount⟩ := hc.holding hx hp
  exact hcount ▸ Call.count_pos hn _

/-- All permits are there that nobody holds. -/
theorem Admits.permits (hc : Admits n calls gs c) :
    c.gate.available + (c.callers.map fun x => x.atGate.held).sum = n := by
  have hpermits := hc.orderly.permits
  rw [Crowd.atGate, List.map_map] at hpermits
  exact hpermits.trans hc.capacity

/-- Nobody else is inside with a caller that changes the service. -/
theorem Admits.alone (hn : 0 < n) (hc : Admits n calls gs c) (hx : c.callers[i]? = some x)
    (hp : x.permit? = some p) (hall : p.count = n) (hy : c.callers[j]? = some y)
    (hq : y.permit? = some q) : i = j := by
  cases Nat.decEq i j with
  | isTrue h => exact h
  | isFalse h =>
      have hsum := add_le_sum_map (fun x => x.atGate.held) h hx hy
      have hpos := hc.permit_pos hn hy hq
      have hpermits := hc.permits
      simp only [Caller.held_of_permit hp, Caller.held_of_permit hq] at hsum
      omega

/-- Nobody else is inside with the caller of a call that changes the service. -/
theorem Admits.sole (hn : 0 < n) (hc : Admits n calls gs c) {call : Call}
    (hcall : calls[i]? = some call) (hchanges : call.changes = true)
    (hx : c.callers[i]? = some x) (hp : x.permit? = some p) (hy : c.callers[j]? = some y)
    (hq : y.permit? = some q) : i = j := by
  obtain ⟨g, hg, rfl, -⟩ := hc.holding hx hp
  obtain rfl : g.call = call := Option.some.inj ((hc.granted g hg).1.symm.trans hcall)
  exact hc.alone hn hx hp (hc.count_eq hg hchanges hx hp) hy hq

/-- Everybody else is outside while the caller of a call that changes the service is inside. -/
theorem Admits.outside (hn : 0 < n) (hc : Admits n calls gs c) {call : Call}
    (hcall : calls[i]? = some call) (hchanges : call.changes = true)
    (hx : c.callers[i]? = some x) (hp : x.permit? = some p) (hy : c.callers[j]? = some y)
    (hij : i ≠ j) : y.permit? = none := by
  cases hq : y.permit? with
  | none => rfl
  | some q => exact absurd (hc.sole hn hcall hchanges hx hp hy hq) hij

/-- Nobody is let in to a caller that changes the service. -/
theorem Admits.available_eq_zero (hc : Admits n calls gs c) (hx : c.callers[i]? = some x)
    (hp : x.permit? = some p) (hall : p.count = n) : c.gate.available = 0 := by
  have hle := le_sum_map_of_mem (fun x => x.atGate.held) (List.mem_of_getElem? hx)
  have hpermits := hc.permits
  simp only [Caller.held_of_permit hp] at hle
  omega

/-- Nobody is inside when a caller is let in that changes the service. -/
theorem Admits.permit_eq_none (hn : 0 < n) (hc : Admits n calls gs c)
    (hall : n ≤ c.gate.available) (hx : c.callers[i]? = some x) : x.permit? = none := by
  cases hp : x.permit? with
  | none => rfl
  | some p =>
      have hle := le_sum_map_of_mem (fun x => x.atGate.held) (List.mem_of_getElem? hx)
      have hpos := hc.permit_pos hn hx hp
      have hpermits := hc.permits
      simp only [Caller.held_of_permit hp] at hle
      omega

end Inside

end Spelling.Service
