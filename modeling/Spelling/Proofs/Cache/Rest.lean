import Spelling.Proofs.Cache.Debts
import Spelling.WordList.Source

/-!
# A cache at rest

While calls are under way, a dictionary that left the residents may still be open, because its close
waits for a reader, and the note that it is to be closed may still stand.  When no call is under way
nobody owes anything any more (`Debts`), so that the books of the cache (`Ledger`) close:

    noted as to be closed             nothing
    opened and not closed             the residents that have a dictionary
    opened and not among these        closed once

Closing everything from there leaves nothing open at all.  The caller who does it is alone, waits
for nobody, and comes to its end.
-/

namespace Spelling.Cache

variable {σ δ : Type} {b : Backend σ δ}

namespace Caller

theorem eq_done_of_isSome {x : Caller} (h : x.answer?.isSome = true) : ∃ a, x = done a := by
  cases x with
  | done a => exact ⟨a, rfl⟩
  | finding | evicting | evicted | retiring | retired | choosing | opening | entering | asking
  | answering | forgetting | retrying | leaving | inspecting | draining | closing | closed
  | switching | collecting | applying | peeking => cases h

/-- Whoever is done stays where it is. -/
theorem not_turn_of_done {n : Nat} {s t : CacheState σ δ} {a : Answer} {y : Caller} :
    ¬ Turn b n s (done a) t y := by
  intro h
  cases h with
  | lock hvisits _ => cases hvisits
  | visit _ h => cases h
  | stride h => cases h

/-- Outside the lock on the residents, nobody takes it or gives it back. -/
theorem Stride.lock {s t : CacheState σ δ} {x y : Caller} (h : Stride b s x t y) :
    x.visits = false ∧ t.cache.lockedBy? = s.cache.lockedBy? := by
  cases h with
  | evicting _ | retiring _ | closing _ =>
      rw [CacheState.cache_shut]
      exact ⟨rfl, rfl⟩
  | opened _ | broken _ =>
      rw [CacheState.cache_fill]
      exact ⟨rfl, rfl⟩
  | applying _ =>
      rw [CacheState.cache_switchContacts]
      exact ⟨rfl, rfl⟩
  | choosing | entering | exhausted | found | missed | starting | main | standIn | answering
  | retrying | leaving | inspecting | closedAll | switching | appliedAll => exact ⟨rfl, rfl⟩

end Caller

namespace Crowd

/-! ## The lock on the residents -/

/-- The lock on the residents is held by a caller that is going in. -/
def Locked (c : Crowd σ δ) : Prop :=
  ∀ n, c.state.cache.lockedBy? = some n → ∃ x, c.callers[n]? = some x ∧ x.visits = true

section Locked

variable {c c' : Crowd σ δ}

theorem Locked.happens (hc : c.Locked) (h : c.Happens b c') : c'.Locked := by
  cases h with
  | nothing => exact hc
  | arrival =>
      intro n hn
      obtain ⟨x, hx, hvisits⟩ := hc n hn
      exact ⟨x, getElem?_append_of_some hx _, hvisits⟩
  | @turn m x y t hx h =>
      intro n hn
      cases h with
      | lock hvisits _ =>
          cases hn
          exact ⟨x, getElem?_set_of_some hx x, hvisits⟩
      | visit _ _ => cases hn
      | stride h =>
          obtain ⟨hout, hlock⟩ := h.lock
          obtain ⟨z, hz, hvisits⟩ := hc n (hlock.symm.trans hn)
          rcases getElem?_set_moved hx y hz with ⟨-, rfl, -⟩ | ⟨-, hset⟩
          · rw [hout] at hvisits
            cases hvisits
          · exact ⟨z, hset, hvisits⟩

theorem Locked.run (hc : c.Locked) (acts : List Happening) : (c.run b acts).Locked := by
  induction acts generalizing c with
  | nil => exact hc
  | cons a acts ih => exact ih (hc.happens (happens_of_act c a))

end Locked

/-! ## At rest -/

/-- No call is under way. -/
def AtRest (c : Crowd σ δ) : Prop := ∀ x ∈ c.callers, x.answer?.isSome = true

instance (c : Crowd σ δ) : Decidable c.AtRest :=
  inferInstanceAs (Decidable (∀ x ∈ c.callers, x.answer?.isSome = true))

section AtRest

variable {c : Crowd σ δ} {label capacity : Nat}

theorem AtRest.idle (h : c.AtRest) {x : Caller} (hx : x ∈ c.callers) : x.Idle := by
  obtain ⟨a, rfl⟩ := Caller.eq_done_of_isSome (h x hx)
  exact .done

theorem AtRest.unlocked (h : c.AtRest) (hc : c.Locked) : c.state.cache.lockedBy? = none := by
  cases hlock : c.state.cache.lockedBy? with
  | none => rfl
  | some n =>
      obtain ⟨x, hx, hvisits⟩ := hc n hlock
      obtain ⟨a, rfl⟩ := Caller.eq_done_of_isSome (h x (List.mem_of_getElem? hx))
      cases hvisits

/-- Nothing is noted as to be closed. -/
theorem Accounts.closing_eq_nil (hc : c.Accounts label capacity) (hrest : c.AtRest) :
    c.state.cache.closing = [] := by
  refine List.eq_nil_iff_forall_not_mem.mpr ?_
  intro e he
  obtain ⟨x, hx, hforgets⟩ := hc.debts.forgets e he
  rw [(hrest.idle hx).forgets] at hforgets
  cases hforgets

/-- What is held is resident. -/
theorem Accounts.resident_of_holds (hc : c.Accounts label capacity) (hrest : c.AtRest) {i : Nat}
    (hi : c.state.cache.Holds i) : (c.state.cache.localeOf i, i) ∈ c.state.cache.resident := by
  rcases hc.debts.shuts i hi.lt fun hdead => hdead.not_holds hi with hres | ⟨x, hx, hshuts⟩
  · exact hres
  · rw [(hrest.idle hx).shuts] at hshuts
    cases hshuts

/-- What was opened and not closed is resident and held, and the other way round. -/
theorem Accounts.mem_unclosedIn_iff (hc : c.Accounts label capacity) (hrest : c.AtRest) (i : Nat) :
    i ∈ Event.unclosedIn label c.state.world.events ↔
      i ∈ c.state.cache.residentSlots ∧ c.state.cache.Holds i := by
  rw [← hc.ledger.holds_iff]
  constructor
  · intro hi
    exact ⟨List.mem_map_of_mem (hc.resident_of_holds hrest hi), hi⟩
  · exact And.right

end AtRest

/-! ## Closing everything, alone -/

/-- The caller of some number is at some place, and all others are done. -/
structure Alone (label capacity n : Nat) (x : Caller) (c : Crowd σ δ) : Prop where
  accounts : c.Accounts label capacity
  place : c.callers[n]? = some x
  others : ∀ m z, m ≠ n → c.callers[m]? = some z → z.answer?.isSome = true

section Alone

variable {c : Crowd σ δ} {label capacity n : Nat} {x y : Caller} {t : CacheState σ δ}

theorem Alone.turn (h : c.Alone label capacity n x) (hroom : 0 < capacity)
    (ht : Caller.Turn b n c.state x t y) :
    Alone label capacity n y ⟨t, c.callers.set n y⟩ := by
  refine ⟨h.accounts.turn hroom h.place ht, getElem?_set_of_some h.place y, ?_⟩
  intro m z hm hz
  rcases getElem?_set_cases hz with ⟨heq, -⟩ | ⟨-, hz⟩
  · exact absurd heq.symm hm
  · exact h.others m z hm hz

/-- Nobody else opens a slot or is at work on one. -/
theorem Alone.canWrite (h : c.Alone label capacity n x) (hopens : x.opens? = none)
    (hreads : x.reads? = none) {i : Nat} (hi : i < c.state.cache.slots.length) :
    c.state.cache.canWrite i = true := by
  have hidle : ∀ z ∈ c.callers, z.opens? = none ∧ z.reads? = none := by
    intro z hz
    obtain ⟨m, hm⟩ := List.getElem?_of_mem hz
    by_cases hmn : m = n
    · subst hmn
      cases h.place.symm.trans hm
      exact ⟨hopens, hreads⟩
    · obtain ⟨a, rfl⟩ := Caller.eq_done_of_isSome (h.others m z hmn hm)
      exact ⟨rfl, rfl⟩
  have hopeners := h.accounts.sound.openers i
  have hreaders := h.accounts.sound.readers i
  rw [sum_map_eq_zero _ fun z hz => by rw [(hidle z hz).1, Caller.one_none]] at hopeners
  rw [sum_map_eq_zero _ fun z hz => by rw [(hidle z hz).2, Caller.one_none]] at hreaders
  refine canWrite_iff.mpr ⟨hi, ?_, hreaders.symm⟩
  cases hopen : c.state.cache.isOpening i with
  | false => rfl
  | true =>
      rw [hopen] at hopeners
      cases hopeners

/-- A crowd comes to another by steps of the caller of some number alone. -/
inductive Leads (b : Backend σ δ) (n : Nat) : Crowd σ δ → Crowd σ δ → Prop
  | refl {c : Crowd σ δ} : Leads b n c c
  | head {c c' : Crowd σ δ} : Leads b n (c.act b (.step n)) c' → Leads b n c c'

theorem Leads.trans {c c' c'' : Crowd σ δ} (h : Leads b n c c') (h' : Leads b n c' c'') :
    Leads b n c c'' := by
  induction h with
  | refl => exact h'
  | head _ ih => exact .head (ih h')

theorem Leads.run {c c' : Crowd σ δ} (h : Leads b n c c') :
    ∃ k, c.run b (List.replicate k (.step n)) = c' := by
  induction h with
  | refl => exact ⟨0, rfl⟩
  | head _ ih =>
      obtain ⟨k, hk⟩ := ih
      exact ⟨k + 1, hk⟩

/-- Where a step is possible, it is made. -/
theorem Alone.step (h : c.Alone label capacity n x) (hroom : 0 < capacity)
    (hs : x.step b n c.state = some (t, y)) :
    ∃ c', Leads b n c c' ∧ c'.Alone label capacity n y ∧ c'.state = t := by
  refine ⟨_, .head .refl, ?_⟩
  have hact : c.act b (.step n) = ⟨t, c.callers.set n y⟩ := by
    simp [Crowd.act, Crowd.step, h.place, hs]
  rw [hact]
  exact ⟨h.turn hroom (Caller.turn_of_step hs), rfl⟩

/-- Where the lock is free, it is taken, the work is done and the lock given back. -/
theorem Alone.visit (h : c.Alone label capacity n x) (hroom : 0 < capacity)
    (hvisits : x.visits = true) (hfree : c.state.cache.lockedBy? = none)
    (hwork : x.visit? (Caller.relock (some n) c.state) = some (t, y)) :
    ∃ c', Leads b n c c' ∧ c'.Alone label capacity n y ∧ c'.state = Caller.relock none t := by
  have hlock : x.step b n c.state = some (Caller.relock (some n) c.state, x) := by
    simp [Caller.step, hvisits, hfree, Caller.relock]
  obtain ⟨c₁, hleads₁, h₁, hstate₁⟩ := h.step hroom hlock
  have hinside : x.step b n c₁.state = some (Caller.relock none t, y) := by
    rw [hstate₁, Caller.step, if_pos hvisits]
    simp only [Caller.relock, CacheState.cache_onCache, if_true] at hwork ⊢
    rw [hwork]
    rfl
  obtain ⟨c₂, hleads₂, h₂, hstate₂⟩ := h₁.step hroom hinside
  exact ⟨c₂, hleads₁.trans hleads₂, h₂, hstate₂⟩

/-- Whoever closes some slots, alone, closes one after another and is done. -/
theorem Alone.closes (hroom : 0 < capacity) (slots : List Nat) :
    ∀ {c : Crowd σ δ}, c.Alone label capacity n (.closeNext slots) →
      c.state.cache.lockedBy? = none → (∀ i ∈ slots, i < c.state.cache.slots.length) →
        ∃ c', Leads b n c c' ∧ c'.callers[n]? = some (.done .nothing) := by
  induction slots with
  | nil =>
      intro c h _ _
      exact ⟨c, .refl, h.place⟩
  | cons i rest ih =>
      intro c h hfree hlt
      have hcan := h.canWrite rfl rfl (hlt i List.mem_cons_self)
      have hshut : (Caller.closing (i :: rest)).step b n c.state =
          some (c.state.shut b i, .closed i rest) := by
        simp [Caller.step, Caller.visits, Caller.stride, hcan]
      obtain ⟨c₁, hleads₁, h₁, hstate₁⟩ := h.step hroom hshut
      have hfree₁ : c₁.state.cache.lockedBy? = none := by
        rw [hstate₁, CacheState.cache_shut]
        exact hfree
      obtain ⟨c₂, hleads₂, h₂, hstate₂⟩ := h₁.visit (b := b) hroom rfl hfree₁ rfl
      have hlt₂ : ∀ j ∈ rest, j < c₂.state.cache.slots.length := by
        intro j hj
        rw [hstate₂]
        show j < c₁.state.cache.slots.length
        rw [hstate₁, CacheState.length_shut]
        exact hlt j (List.mem_cons_of_mem _ hj)
      obtain ⟨c', hleads, hdone⟩ := ih h₂ (by rw [hstate₂]; rfl) hlt₂
      exact ⟨c', hleads₁.trans (hleads₂.trans hleads), hdone⟩

/-- Whoever closes everything, alone, comes to its end. -/
theorem Alone.drains (h : c.Alone label capacity n .draining) (hroom : 0 < capacity)
    (hfree : c.state.cache.lockedBy? = none) :
    ∃ c', Leads b n c c' ∧ c'.callers[n]? = some (.done .nothing) := by
  obtain ⟨c₁, hleads₁, h₁, hstate₁⟩ := h.visit (b := b) hroom rfl hfree rfl
  have hlt : ∀ i ∈ c.state.cache.drain.1, i < c₁.state.cache.slots.length := by
    intro i hi
    obtain ⟨e, he, rfl⟩ := List.mem_map.mp hi
    rw [hstate₁]
    show e.2 < (CacheState.reportDrain _ _).cache.slots.length
    rw [CacheState.cache_reportDrain]
    exact (h.accounts.sound.lineage.resident_locale e.1 e.2 (List.mem_reverse.mp he)).1
  obtain ⟨c', hleads, hdone⟩ := h₁.closes (b := b) hroom _ (by rw [hstate₁]; rfl) hlt
  exact ⟨c', hleads₁.trans hleads, hdone⟩

/-- Whoever closes everything has yet to begin, or has taken every resident out. -/
inductive Emptying (c : Cache δ) : Caller → Prop
  | draining : Emptying c .draining
  | closing {slots : List Nat} : c.resident = [] → Emptying c (.closing slots)
  | closed {i : Nat} {rest : List Nat} : c.resident = [] → Emptying c (.closed i rest)
  | done {a : Answer} : c.resident = [] → Emptying c (.done a)

theorem emptying_closeNext {c : Cache δ} (h : c.resident = []) (slots : List Nat) :
    Emptying c (.closeNext slots) := by
  cases slots with
  | nil => exact .done h
  | cons i rest => exact .closing h

theorem Emptying.turn {s : CacheState σ δ} (hx : Emptying s.cache x)
    (h : Caller.Turn b n s x t y) : Emptying t.cache y := by
  cases hx with
  | draining =>
      cases h with
      | lock _ _ => exact .draining
      | visit _ h =>
          cases h with
          | draining =>
              refine emptying_closeNext ?_ _
              simp [Caller.relock, drain]
      | stride h => cases h
  | closing hempty =>
      cases h with
      | lock hvisits _ => cases hvisits
      | visit _ h => cases h
      | stride h =>
          cases h with
          | closing _ => exact .closed ((CacheState.resident_shut ..).trans hempty)
          | closedAll => exact .done hempty
  | closed hempty =>
      cases h with
      | lock _ _ => exact .closed hempty
      | visit _ h =>
          cases h with
          | closed =>
              refine emptying_closeNext ?_ _
              exact hempty
      | stride h => cases h
  | done _ => exact absurd h Caller.not_turn_of_done

/-- While one caller closes everything, nobody else does anything. -/
theorem Alone.emptying (hroom : 0 < capacity) (steps : List Nat) :
    ∀ {c : Crowd σ δ} {x : Caller}, c.Alone label capacity n x → Emptying c.state.cache x →
      ∃ y, (c.run b (steps.map .step)).Alone label capacity n y ∧
        Emptying (c.run b (steps.map .step)).state.cache y := by
  induction steps with
  | nil =>
      intro c x h hx
      exact ⟨x, h, hx⟩
  | cons m steps ih =>
      intro c x h hx
      have hnext : ∃ y, (c.act b (.step m)).Alone label capacity n y ∧
          Emptying (c.act b (.step m)).state.cache y := by
        rcases step_cases b c m with hsame | ⟨z, t, y, hz, hturn, hmoved⟩
        · rw [hsame]
          exact ⟨x, h, hx⟩
        · by_cases hm : m = n
          · subst hm
            cases h.place.symm.trans hz
            rw [hmoved]
            exact ⟨y, h.turn hroom hturn, hx.turn hturn⟩
          · obtain ⟨a, rfl⟩ := Caller.eq_done_of_isSome (h.others m z hm hz)
            exact absurd hturn Caller.not_turn_of_done
      obtain ⟨y, hy, hemptying⟩ := hnext
      exact ih hy hemptying

theorem Alone.atRest {a : Answer} (h : c.Alone label capacity n (.done a)) : c.AtRest := by
  intro x hx
  obtain ⟨m, hm⟩ := List.getElem?_of_mem hx
  by_cases hmn : m = n
  · subst hmn
    cases h.place.symm.trans hm
    rfl
  · exact h.others m x hmn hm

end Alone

/-- **Nothing leaks.**  Whoever calls a cache and steps on in whatever order, and whatever openings
fail or break off: no slot is given a dictionary twice, none is closed twice, and none is closed
that was not given one.  When no call is under way, nothing is noted as to be closed; there are at
most as many residents as there is room, no two of one locale; what was opened and not closed is
exactly what the residents hold, and everything else that was opened was closed once.  Closing
everything from there comes to its end, and then nothing is resident, noted or open at all. -/
theorem nothing_leaks (b : Backend σ δ) (st : σ) (label capacity : Nat) (hroom : 0 < capacity)
    (o : Options) (acts : List Happening) :
    let c := (ofCapacity label capacity o st).run b acts
    let opened := Event.openedIn label c.state.world.events
    let closed := Event.closedIn label c.state.world.events
    opened.Nodup ∧ closed.Nodup ∧ (∀ i ∈ closed, i ∈ opened) ∧
    (c.AtRest →
      c.state.cache.closing = [] ∧
      c.state.cache.resident.length ≤ capacity ∧
      (c.state.cache.resident.map Prod.fst).Nodup ∧
      (∀ i, i ∈ opened ∧ i ∉ closed ↔ i ∈ c.state.cache.residentSlots ∧ c.state.cache.Holds i) ∧
      (∀ i ∈ opened, ¬ (i ∈ c.state.cache.residentSlots ∧ c.state.cache.Holds i) →
        closed.count i = 1) ∧
      (∃ k, ((c.arrive .closeAll).run b (List.replicate k (.step c.callers.length))).callers[
        c.callers.length]? = some (.done .nothing)) ∧
      ∀ (steps : List Nat) (a : Answer),
        let d := (c.arrive .closeAll).run b (steps.map .step)
        d.callers[c.callers.length]? = some (.done a) →
          d.state.cache.resident = [] ∧ d.state.cache.closing = [] ∧
          (∀ i, ¬ d.state.cache.Holds i) ∧
          ∀ i ∈ Event.openedIn label d.state.world.events,
            (Event.closedIn label d.state.world.events).count i = 1) := by
  intro c opened closed
  have hstart : (ofCapacity label capacity o st : Crowd σ δ).Accounts label capacity :=
    accounts_ofCapacity ..
  have hc : c.Accounts label capacity := hstart.run hroom acts
  have hfree : (ofCapacity label capacity o st : Crowd σ δ).Locked := nofun
  have hlocked : c.Locked := hfree.run acts
  refine ⟨hc.ledger.opened_nodup, hc.ledger.closed_nodup, hc.ledger.opened_of_closed, ?_⟩
  intro hrest
  have halone : (c.arrive .closeAll).Alone label capacity c.callers.length .draining := by
    have hidle : (Call.closeAll.start).Idle := .start
    refine ⟨hc.append hidle, List.getElem?_concat_length, ?_⟩
    intro m z hm hz
    rcases getElem?_append_cases hz with hz | ⟨heq, -⟩
    · exact hrest z (List.mem_of_getElem? hz)
    · exact absurd heq hm
  have hunclosed := hc.mem_unclosedIn_iff hrest
  refine ⟨hc.closing_eq_nil hrest, hc.capacity ▸ hc.compact.bounded, hc.compact.nodup, ?_, ?_, ?_,
    ?_⟩
  · intro i
    exact Event.mem_unclosedIn.symm.trans (hunclosed i)
  · intro i hi hgone
    refine hc.ledger.count_closed hi ?_
    intro hheld
    exact hgone ((hunclosed i).mp ((hc.ledger.holds_iff i).mp hheld))
  · obtain ⟨c', hleads, hdone⟩ := halone.drains (b := b) hroom (hrest.unlocked hlocked)
    obtain ⟨k, rfl⟩ := hleads.run
    exact ⟨k, hdone⟩
  · intro steps a d hdone
    obtain ⟨y, hy, hempty⟩ := halone.emptying (b := b) hroom steps .draining
    cases hy.place.symm.trans hdone
    have hnone : d.state.cache.resident = [] := by
      cases hempty with
      | done h => exact h
    have hholds : ∀ i, ¬ d.state.cache.Holds i := by
      intro i hi
      have hres := hy.accounts.resident_of_holds hy.atRest hi
      rw [hnone] at hres
      cases hres
    exact ⟨hnone, hy.accounts.closing_eq_nil hy.atRest, hholds,
      fun i hi => hy.accounts.ledger.count_closed hi (hholds i)⟩

/-- In a cache with room for one, English is evicted by German, whose first opening breaks off, and
comes back: its first dictionary was closed once, and only its second is open. -/
theorem nothing_leaks_of_thrashing :
    let en := Locale.ofLanguage "en"
    let de := Locale.ofLanguage "de"
    let source : WordList.Source :=
      .memory [(en, "1\nhello fq:200\n"), (de, "1\nhallo fq:9\n")] none
    let acts : List Happening :=
      [.arrive (.resolve en), .arrive (.ask de .hasMain), .arrive (.resolve en)] ++
        (List.replicate 16 [Happening.step 0, .step 1, .step 2]).flatten
    let c := (ofCapacity 0 1 ⟨true, 1⟩ [(de, 1)]).run (Backend.rehearsed source.kind) acts
    0 < 1 ∧ c.AtRest ∧ c.state.cache.closing = [] ∧ c.state.cache.resident.length ≤ 1 ∧
      Event.openedIn 0 c.state.world.events = [0, 2] ∧
      (Event.closedIn 0 c.state.world.events).count 0 = 1 := by
  intro en de source acts c
  have hleaks := nothing_leaks (Backend.rehearsed source.kind) [(de, 1)] 0 1 Nat.zero_lt_one
    ⟨true, 1⟩ acts
  extract_lets d opened closed at hleaks
  have hrest : d.AtRest := by decide +kernel
  have hopened : opened = [0, 2] := by decide +kernel
  have hgone : ¬ (0 ∈ d.state.cache.residentSlots ∧ d.state.cache.Holds 0) := by
    intro hheld
    exact absurd hheld.1 (by decide +kernel)
  have hfirst : 0 ∈ opened := by
    rw [hopened]
    exact List.mem_cons_self
  obtain ⟨-, -, -, hbooks⟩ := hleaks
  obtain ⟨hclosing, hbounded, -, -, honce, -⟩ := hbooks hrest
  rw [show c = d from rfl]
  exact ⟨Nat.zero_lt_one, hrest, hclosing, hbounded, hopened, honce 0 hfirst hgone⟩

end Crowd

end Spelling.Cache
