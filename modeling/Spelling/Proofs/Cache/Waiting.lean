import Spelling.Proofs.Cache.Rest

/-!
# Nobody waits for ever

Three things can make a caller of a cache wait, and each comes to an end:

    waits for                 which is held by
    the lock on residents     a caller inside it, who waits for nothing (`exists_step_inside`)
    an unlocked slot          its readers, who wait for the lock on the residents at most
                              the caller who opens it, who waits for that lock, or for a slot that
                              is older than the one it opens

A caller opens a slot from its enrolment on, and closes two others first: the resident that had to
make room, and the last of its own locale.  Both were enrolled before, and slots are numbered in the
order in which they were enrolled.  So the slots that openers wait for lead down and never back
(`Named`), and the induction that finds a caller who can go on is on the number of the slot that is
waited for (`Grounded.canGo_of_wants`).

This does not rest on who is let in first.  A lock may make readers stand behind the writers that
wait (`CanGo`), so that a slot with readers is closed to further ones; the caller who can go on is
then never one of these further readers.

What is not so: a slot handed out to a caller may be evicted, drained and opened anew by others in
the meantime.  A call about it waits like any other; it is answered from what it finds there.
-/

namespace Spelling.Cache

variable {σ δ : Type} {b : Backend σ δ}

/-- The slot that a call is about, which was handed out before. -/
def Call.handle? : Call → Option Nat
  | askSlot slot _ | isClosed slot => some slot
  | resolve _ | ask .. | closeAll | setContacts _ | contains _ => none

namespace Caller

/-- The slots that a caller is to lock are slots of the cache, and those that are to be closed
before another is opened are older. -/
def Named (c : Cache δ) : Caller → Prop
  | evicting k j _ _ => j < k
  | entering i _ _ | inspecting i => i < c.slots.length
  | closing slots | closed _ slots | applying _ slots => ∀ i ∈ slots, i < c.slots.length
  | finding .. | evicted .. | retiring .. | retired .. | choosing .. | opening .. | asking ..
  | answering .. | forgetting .. | retrying .. | leaving .. | draining | switching _
  | collecting _ | peeking _ | done _ => True

section Step

variable {n : Nat} {s t : CacheState σ δ} {x y : Caller} {c : Cache δ}

theorem Named.mono {c' : Cache δ} (h : x.Named c) (hle : c.slots.length ≤ c'.slots.length) :
    x.Named c' := by
  cases x with
  | evicting => exact h
  | entering | inspecting => exact Nat.lt_of_lt_of_le h hle
  | closing | closed | applying => exact fun i hi => Nat.lt_of_lt_of_le (h i hi) hle
  | finding | evicted | retiring | retired | choosing | opening | asking | answering | forgetting
  | retrying | leaving | draining | switching | collecting | peeking | done => trivial

theorem named_next {i : Nat} (hi : i < c.slots.length) (w : Want) : (next i w).Named c := by
  cases w with
  | handle => trivial
  | ask a => exact hi

theorem named_begin {k : Nat} {e? : Option Nat} (he : ∀ j, e? = some j → j < k)
    (p? : Option Nat) (w : Want) : (begin k e? p? w).Named c := by
  cases e? with
  | some j => exact he j rfl
  | none => cases p? <;> trivial

theorem named_closeNext {slots : List Nat} (h : ∀ i ∈ slots, i < c.slots.length) :
    (closeNext slots).Named c := by
  cases slots with
  | nil => trivial
  | cons i rest => exact h

theorem named_applyNext (on : Bool) {slots : List Nat} (h : ∀ i ∈ slots, i < c.slots.length) :
    (applyNext on slots).Named c := by
  cases slots with
  | nil => trivial
  | cons i rest => exact h

theorem named_start {call : Call} (h : ∀ i ∈ call.handle?, i < c.slots.length) :
    call.start.Named c := by
  cases call with
  | askSlot slot a | isClosed slot => exact h slot rfl
  | resolve | ask | closeAll | setContacts | contains => trivial

theorem named_entered (i : Nat) (a : Ask) (f : Fallback) : (entered s i a f).Named c := by
  simp only [entered]
  cases s.cache.phase i <;> cases f <;> trivial

theorem Visit.named (h : Visit s x t y) (hs : s.cache.Lineage) (hx : x.Named s.cache) :
    y.Named s.cache := by
  have hresident : ∀ i ∈ s.cache.residentSlots, i < s.cache.slots.length := by
    intro i hi
    obtain ⟨e, he, rfl⟩ := List.mem_map.mp hi
    exact (hs.resident_locale e.1 e.2 he).1
  cases h with
  | hit hi => exact named_next (hs.resident_locale _ _ (mem_of_lookup hi)).1 _
  | miss _ =>
      refine named_begin ?_ _ _
      intro j hj
      obtain ⟨e, he, rfl⟩ := Option.map_eq_some_iff.mp hj
      exact hresident e.2 (List.mem_map_of_mem ((mem_resident_iff e).mpr (.inr he)))
  | @evicted k j p? w => cases p? <;> trivial
  | draining =>
      refine named_closeNext ?_
      intro i hi
      obtain ⟨e, he, rfl⟩ := List.mem_map.mp hi
      exact hresident e.2 (List.mem_map_of_mem (List.mem_reverse.mp he))
  | closed => exact named_closeNext hx
  | collecting => exact named_applyNext _ hresident
  | retired | forgetting | peeking => trivial

theorem Stride.named (h : Stride b s x t y) (hx : x.Named s.cache) (hfits : x.Fits s.cache) :
    y.Named s.cache := by
  cases h with
  | opened _ => exact named_next (Heir.lt hfits) _
  | entering _ => exact named_entered ..
  | closing _ => exact fun i hi => hx i (List.mem_cons_of_mem _ hi)
  | applying _ => exact named_applyNext _ fun i hi => hx i (List.mem_cons_of_mem _ hi)
  | evicting | retiring | choosing | broken | exhausted | found | missed | starting | main
  | standIn | answering | retrying | leaving | inspecting | closedAll | switching
  | appliedAll => trivial

theorem Turn.named (h : Turn b n s x t y) (hs : s.cache.Lineage) (hx : x.Named s.cache)
    (hfits : x.Fits s.cache) : y.Named s.cache := by
  cases h with
  | lock _ _ => exact hx
  | visit _ h => exact h.named hs hx
  | stride h => exact h.named hx hfits

/-! ## Which steps are possible -/

/-- Inside the lock on the residents, a caller waits for nothing. -/
theorem visit?_of_visits (s : CacheState σ δ) (h : x.visits = true) :
    ∃ t y, x.visit? s = some (t, y) := by
  cases x with
  | finding l w =>
      simp only [visit?]
      split <;> exact ⟨_, _, rfl⟩
  | evicted | retired | forgetting | draining | closed | collecting | peeking =>
      exact ⟨_, _, rfl⟩
  | evicting | retiring | choosing | opening | entering | asking | answering | retrying | leaving
  | inspecting | closing | switching | applying | done => cases h

/-- Whoever holds the lock on the residents, or finds it free, can go on. -/
theorem step_of_visits (h : x.visits = true)
    (hlock : s.cache.lockedBy? = some n ∨ s.cache.lockedBy? = none) :
    ∃ t y, x.step b n s = some (t, y) := by
  rcases hlock with hmine | hfree
  · obtain ⟨t, y, hvisit⟩ := visit?_of_visits s h
    exact ⟨relock none t, y, by simp [step, h, hmine, hvisit, relock]⟩
  · exact ⟨relock (some n) s, x, by simp [step, h, hfree, relock]⟩

/-- Whoever goes into the lock on the residents waits for no slot. -/
theorem wants_of_visits (h : x.visits = true) : x.wantsWrite? = none ∧ x.wantsRead? = none := by
  cases x with
  | finding | evicted | retired | forgetting | draining | closed | collecting | peeking =>
      exact ⟨rfl, rfl⟩
  | evicting | retiring | choosing | opening | entering | asking | answering | retrying | leaving
  | inspecting | closing | switching | applying | done => cases h

/-- Whoever reads a slot waits for no slot. -/
theorem wants_of_reads {i : Nat} (h : x.reads? = some i) :
    x.wantsWrite? = none ∧ x.wantsRead? = none := by
  cases x with
  | asking | answering | forgetting | retrying | leaving => exact ⟨rfl, rfl⟩
  | finding | evicting | evicted | retiring | retired | choosing | opening | entering | inspecting
  | draining | closing | closed | switching | collecting | applying | peeking | done => cases h

/-- Whoever opens a slot waits for no slot but an older one. -/
theorem lt_of_opens {k j : Nat} (hk : x.opens? = some k) (hx : x.Named c) (hfits : x.Fits c)
    (hj : x.wantsWrite? = some j ∨ x.wantsRead? = some j) : j < k ∧ k < c.slots.length := by
  cases x with
  | evicting k' j' p? w =>
      cases hk
      rcases hj with hj | hj <;> cases hj
      exact ⟨hx, Heir.lt hfits⟩
  | retiring k' p w =>
      cases hk
      rcases hj with hj | hj <;> cases hj
      exact ⟨(Heir.previous hfits _ rfl).1, Heir.lt hfits⟩
  | evicted | retired | choosing | opening => rcases hj with hj | hj <;> cases hj
  | finding | entering | asking | answering | forgetting | retrying | leaving | inspecting
  | draining | closing | closed | switching | collecting | applying | peeking | done => cases hk

/-- Whoever waits to lock a slot for writing waits for a slot of the cache. -/
theorem lt_of_wantsWrite {i : Nat} (hi : x.wantsWrite? = some i) (hx : x.Named c)
    (hfits : x.Fits c) : i < c.slots.length := by
  cases x with
  | evicting k j p? w =>
      cases hi
      exact Nat.lt_trans hx (Heir.lt hfits)
  | retiring k p w =>
      cases hi
      exact Nat.lt_trans (Heir.previous hfits _ rfl).1 (Heir.lt hfits)
  | closing slots | applying on slots =>
      cases slots with
      | nil => cases hi
      | cons j rest =>
          cases hi
          exact hx _ List.mem_cons_self
  | finding | evicted | retired | choosing | opening | entering | asking | answering | forgetting
  | retrying | leaving | inspecting | draining | closed | switching | collecting | peeking
  | done => cases hi

theorem lt_of_wantsRead {i : Nat} (hi : x.wantsRead? = some i) (hx : x.Named c) :
    i < c.slots.length := by
  cases x with
  | entering | inspecting =>
      cases hi
      exact hx
  | finding | evicting | evicted | retiring | retired | choosing | opening | asking | answering
  | forgetting | retrying | leaving | draining | closing | closed | switching | collecting
  | applying | peeking | done => cases hi

/-- Whoever finds the slot unlocked that it waits to write to can go on. -/
theorem step_of_canWrite (n : Nat) {i : Nat} (hi : x.wantsWrite? = some i)
    (hcan : s.cache.canWrite i = true) : ∃ t y, x.step b n s = some (t, y) := by
  cases x with
  | evicting | retiring =>
      cases hi
      exact ⟨_, _, by simp only [step, visits, stride, hcan]; rfl⟩
  | closing slots | applying on slots =>
      cases slots with
      | nil => cases hi
      | cons j rest =>
          cases hi
          exact ⟨_, _, by simp only [step, visits, stride, hcan]; rfl⟩
  | finding | evicted | retired | choosing | opening | entering | asking | answering | forgetting
  | retrying | leaving | inspecting | draining | closed | switching | collecting | peeking
  | done => cases hi

theorem step_of_canRead (n : Nat) {i : Nat} (hi : x.wantsRead? = some i)
    (hcan : s.cache.canRead i = true) : ∃ t y, x.step b n s = some (t, y) := by
  cases x with
  | entering | inspecting =>
      cases hi
      exact ⟨_, _, by simp only [step, visits, stride, hcan]; rfl⟩
  | finding | evicting | evicted | retiring | retired | choosing | opening | asking | answering
  | forgetting | retrying | leaving | draining | closing | closed | switching | collecting
  | applying | peeking | done => cases hi

/-- Whoever waits for no lock can go on, until it is done. -/
theorem step_of_wants_none (n : Nat) (hvisits : x.visits = false) (hwrite : x.wantsWrite? = none)
    (hread : x.wantsRead? = none) (hfits : x.Fits s.cache) (hbusy : x.answer? = none) :
    ∃ t y, x.step b n s = some (t, y) := by
  have hstride : x.step b n s = x.stride b s := by simp [step, hvisits]
  rw [hstride]
  cases x with
  | choosing | retrying | leaving | switching => exact ⟨_, _, rfl⟩
  | opening k on w =>
      simp only [stride]
      split <;> exact ⟨_, _, rfl⟩
  | asking i a =>
      obtain ⟨r, hr⟩ := hfits
      simp only [stride, hr]
      cases r <;> exact ⟨_, _, rfl⟩
  | answering i q session =>
      obtain ⟨d, hd⟩ := hfits
      simp only [stride, hd]
      exact ⟨_, _, rfl⟩
  | closing slots | applying on slots =>
      cases slots with
      | nil => exact ⟨_, _, rfl⟩
      | cons i rest => cases hwrite
  | evicting | retiring => cases hwrite
  | entering | inspecting => cases hread
  | finding | evicted | retired | forgetting | draining | closed | collecting | peeking =>
      cases hvisits
  | done => cases hbusy

end Step

end Caller

namespace Crowd

/-! ## Who can go on -/

/-- The caller of some number can take a step, also where readers stand behind writers that wait. -/
def CanGo (b : Backend σ δ) (c : Crowd σ δ) (n : Nat) : Prop :=
  ∃ x c', c.callers[n]? = some x ∧ c.step b n = some c' ∧
    ∀ i, x.wantsRead? = some i → ∀ y ∈ c.callers, y.wantsWrite? ≠ some i

/-- Whoever calls about a slot, in some run, calls about one that there is. -/
def HandedOut (b : Backend σ δ) : Crowd σ δ → List Happening → Prop
  | _, [] => True
  | c, .arrive call :: acts =>
    (∀ i ∈ call.handle?, i < c.state.cache.slots.length) ∧ (c.arrive call).HandedOut b acts
  | c, .step n :: acts => (c.act b (.step n)).HandedOut b acts

instance HandedOut.decidable (b : Backend σ δ) : (c : Crowd σ δ) → (acts : List Happening) →
    Decidable (c.HandedOut b acts)
  | _, [] => .isTrue trivial
  | c, .arrive call :: acts =>
    have := HandedOut.decidable b (c.arrive call) acts
    inferInstanceAs (Decidable (_ ∧ _))
  | c, .step n :: acts => HandedOut.decidable b (c.act b (.step n)) acts

/-- What keeps callers from waiting for each other: each waits for slots that there are, and the
lock on the residents is held by one that goes in. -/
structure Grounded (c : Crowd σ δ) : Prop where
  sound : c.Sound
  locked : c.Locked
  named : ∀ x ∈ c.callers, x.Named c.state.cache

theorem grounded_ofCapacity (label capacity : Nat) (o : Options) (st : σ) :
    (ofCapacity label capacity o st : Crowd σ δ).Grounded where
  sound := sound_ofCapacity label capacity o st
  locked := nofun
  named := List.forall_mem_nil _

section Grounded

variable {c : Crowd σ δ}

theorem Grounded.turn (hc : c.Grounded) {n : Nat} {x y : Caller} {t : CacheState σ δ}
    (hx : c.callers[n]? = some x) (h : Caller.Turn b n c.state x t y) :
    Grounded ⟨t, c.callers.set n y⟩ := by
  have hmem := List.mem_of_getElem? hx
  have hfits := hc.sound.fits x hmem
  have hlater := (h.keeps hc.sound.lineage hfits fun _ => hc.sound.isOpening hmem).2.1
  refine ⟨hc.sound.turn hx h, hc.locked.happens (.turn hx h), ?_⟩
  intro z hz
  rcases List.mem_or_eq_of_mem_set hz with hz | rfl
  · exact (hc.named z hz).mono hlater.length_le
  · exact (h.named hc.sound.lineage (hc.named x hmem) hfits).mono hlater.length_le

theorem Grounded.arrive (hc : c.Grounded) (b : Backend σ δ) {call : Call}
    (h : ∀ i ∈ call.handle?, i < c.state.cache.slots.length) : (c.arrive call).Grounded := by
  refine ⟨hc.sound.append .start, hc.locked.happens (b := b) .arrival, ?_⟩
  intro z hz
  rcases List.mem_append.mp hz with hz | hz
  · exact hc.named z hz
  · cases List.mem_singleton.mp hz
    exact Caller.named_start h

/-- Along every run in which nobody calls about a slot that there is not, nobody waits for one. -/
theorem Grounded.run (acts : List Happening) :
    ∀ {c : Crowd σ δ}, c.Grounded → c.HandedOut b acts → (c.run b acts).Grounded := by
  induction acts with
  | nil =>
      intro c hc _
      exact hc
  | cons a acts ih =>
      intro c hc hhandles
      cases a with
      | arrive call => exact ih (hc.arrive b hhandles.1) hhandles.2
      | step n =>
          refine ih ?_ hhandles
          rcases step_cases b c n with hsame | ⟨x, t, y, hx, hturn, hnext⟩
          · exact hsame.symm ▸ hc
          · exact hnext.symm ▸ hc.turn hx hturn

/-- The caller at some place can go on when it waits for no slot and its step is possible. -/
theorem canGo_of_step {n : Nat} {x : Caller} (hx : c.callers[n]? = some x)
    (hread : x.wantsRead? = none) (hstep : ∃ t y, x.step b n c.state = some (t, y)) :
    c.CanGo b n := by
  obtain ⟨t, y, hstep⟩ := hstep
  refine ⟨x, ⟨t, c.callers.set n y⟩, hx, by simp [Crowd.step, hx, hstep], ?_⟩
  intro i hi
  rw [hread] at hi
  cases hi

/-- Whoever holds the lock on the residents can go on. -/
theorem Grounded.canGo_of_locked (hc : c.Grounded) {n : Nat}
    (hlock : c.state.cache.lockedBy? = some n) : ∃ x, c.callers[n]? = some x ∧
      x.wantsWrite? = none ∧ x.wantsRead? = none ∧ c.CanGo b n := by
  obtain ⟨x, hx, hvisits⟩ := hc.locked n hlock
  obtain ⟨hwrite, hread⟩ := Caller.wants_of_visits hvisits
  exact ⟨x, hx, hwrite, hread, canGo_of_step hx hread (Caller.step_of_visits hvisits (.inl hlock))⟩

/-- Where the lock on the residents is free, whoever waits for no slot can go on. -/
theorem Grounded.canGo_of_wants_none (hc : c.Grounded) (hfree : c.state.cache.lockedBy? = none)
    {x : Caller} (hx : x ∈ c.callers) (hbusy : x.answer? = none) (hwrite : x.wantsWrite? = none)
    (hread : x.wantsRead? = none) : ∃ n, c.CanGo b n := by
  obtain ⟨n, hn⟩ := List.mem_iff_getElem?.mp hx
  refine ⟨n, canGo_of_step hn hread ?_⟩
  cases hvisits : x.visits with
  | true => exact Caller.step_of_visits hvisits (.inr hfree)
  | false => exact Caller.step_of_wants_none n hvisits hwrite hread (hc.sound.fits x hx) hbusy

/-- A slot that is being opened has somebody who opens it. -/
theorem Sound.exists_opener (hc : c.Sound) {i : Nat} (hi : c.state.cache.isOpening i = true) :
    ∃ x ∈ c.callers, x.opens? = some i := by
  refine Decidable.byContradiction fun hnone => ?_
  have hzero : (c.callers.map fun x => Caller.one x.opens? i).sum = 0 := by
    refine sum_map_eq_zero _ ?_
    intro x hx
    exact if_neg fun heq => hnone ⟨x, hx, heq⟩
  rw [hc.openers, hi] at hzero
  cases hzero

/-- A slot that has readers has somebody who reads it. -/
theorem Sound.exists_reader (hc : c.Sound) {i : Nat} (hi : c.state.cache.readersOf i ≠ 0) :
    ∃ x ∈ c.callers, x.reads? = some i := by
  refine Decidable.byContradiction fun hnone => hi ?_
  rw [← hc.readers i]
  refine sum_map_eq_zero _ ?_
  intro x hx
  exact if_neg fun heq => hnone ⟨x, hx, heq⟩

/-- Where the lock on the residents is free and somebody waits for a slot, somebody can go on: by
strong induction on the number of the slot. -/
theorem Grounded.canGo_of_wants (hc : c.Grounded) (hfree : c.state.cache.lockedBy? = none)
    (i : Nat) : ∀ x ∈ c.callers, x.wantsWrite? = some i ∨ x.wantsRead? = some i →
      ∃ n, c.CanGo b n := by
  induction i using Nat.strongRecOn with
  | ind i ih =>
      intro x hx hwants
      have hnamed := hc.named x hx
      have hlt : i < c.state.cache.slots.length := by
        rcases hwants with hwrite | hread
        · exact Caller.lt_of_wantsWrite hwrite hnamed (hc.sound.fits x hx)
        · exact Caller.lt_of_wantsRead hread hnamed
      cases hopening : c.state.cache.isOpening i with
      | true =>
          -- its opener goes on, or waits for an older slot
          obtain ⟨y, hy, hopens⟩ := hc.sound.exists_opener hopening
          have holder := fun j => Caller.lt_of_opens (j := j) hopens (hc.named y hy)
            (hc.sound.fits y hy)
          cases hwrite : y.wantsWrite? with
          | some j => exact ih j (holder j (.inl hwrite)).1 y hy (.inl hwrite)
          | none =>
              cases hread : y.wantsRead? with
              | some j => exact ih j (holder j (.inr hread)).1 y hy (.inr hread)
              | none =>
                  refine hc.canGo_of_wants_none hfree hy ?_ hwrite hread
                  cases y with
                  | done => cases hopens
                  | _ => rfl
      | false =>
          by_cases hreaders : c.state.cache.readersOf i = 0
          · -- nobody holds it: a writer who waits goes first, and the reader if there is none
            have hcan := canWrite_iff.mpr ⟨hlt, hopening, hreaders⟩
            by_cases hwriter : ∃ y ∈ c.callers, y.wantsWrite? = some i
            · obtain ⟨y, hy, hwrite⟩ := hwriter
              obtain ⟨n, hn⟩ := List.mem_iff_getElem?.mp hy
              refine ⟨n, canGo_of_step hn ?_ (Caller.step_of_canWrite n hwrite hcan)⟩
              cases y with
              | entering | inspecting => cases hwrite
              | _ => rfl
            · have hread : x.wantsRead? = some i :=
                hwants.resolve_left fun hwrite => hwriter ⟨x, hx, hwrite⟩
              obtain ⟨n, hn⟩ := List.mem_iff_getElem?.mp hx
              obtain ⟨t, y, hstep⟩ := Caller.step_of_canRead (b := b) n hread
                (canRead_iff.mpr ⟨hlt, hopening⟩)
              refine ⟨n, x, ⟨t, c.callers.set n y⟩, hn, by simp [Crowd.step, hn, hstep], ?_⟩
              intro j hj z hz hwrite
              cases hread.symm.trans hj
              exact hwriter ⟨z, hz, hwrite⟩
          · -- its readers wait for no slot
            obtain ⟨y, hy, hreads⟩ := hc.sound.exists_reader hreaders
            obtain ⟨hwrite, hread⟩ := Caller.wants_of_reads hreads
            refine hc.canGo_of_wants_none hfree hy ?_ hwrite hread
            cases y with
            | done => cases hreads
            | _ => rfl

/-- While a call is under way, somebody can go on. -/
theorem Grounded.canGo (hc : c.Grounded) {x : Caller} (hx : x ∈ c.callers)
    (hbusy : x.answer? = none) : ∃ n, c.CanGo b n := by
  cases hlock : c.state.cache.lockedBy? with
  | some n =>
      obtain ⟨-, -, -, -, hgo⟩ := hc.canGo_of_locked (b := b) hlock
      exact ⟨n, hgo⟩
  | none =>
      cases hwrite : x.wantsWrite? with
      | some i => exact hc.canGo_of_wants hlock i x hx (.inl hwrite)
      | none =>
          cases hread : x.wantsRead? with
          | some i => exact hc.canGo_of_wants hlock i x hx (.inr hread)
          | none => exact hc.canGo_of_wants_none hlock hx hbusy hwrite hread

end Grounded

/-- **A cache does not deadlock.**  Whoever calls a cache and steps on in whatever order, with
openings and queries that return or break off, about slots that were handed out: while a call is
under way, some caller can take a step, also where readers stand behind the writers that wait.  A
slot is locked for writing by a caller who opens it, and while that caller waits for another slot,
the other slot is older; who reads a slot waits for none; and who holds the lock on the residents
waits for no slot and can take its step. -/
theorem cache_does_not_deadlock (b : Backend σ δ) (st : σ) (label capacity : Nat) (o : Options)
    (acts : List Happening)
    (hhandles : (ofCapacity label capacity o st : Crowd σ δ).HandedOut b acts) :
    let c := (ofCapacity label capacity o st).run b acts
    ((∃ x ∈ c.callers, x.answer? = none) → ∃ n, c.CanGo b n) ∧
      (∀ k, c.state.cache.isOpening k = true ↔ ∃ x ∈ c.callers, x.opens? = some k) ∧
      (∀ x ∈ c.callers, ∀ k j, x.opens? = some k →
        x.wantsWrite? = some j ∨ x.wantsRead? = some j → j < k) ∧
      (∀ x ∈ c.callers, ∀ k, x.reads? = some k → x.wantsWrite? = none ∧ x.wantsRead? = none) ∧
      (∀ n, c.state.cache.lockedBy? = some n → ∃ x, c.callers[n]? = some x ∧
        x.wantsWrite? = none ∧ x.wantsRead? = none ∧ c.CanGo b n) := by
  intro c
  have hc : c.Grounded := (grounded_ofCapacity label capacity o st).run acts hhandles
  refine ⟨?_, ?_, ?_, ?_, fun n hlock => hc.canGo_of_locked hlock⟩
  · rintro ⟨x, hx, hbusy⟩
    exact hc.canGo hx hbusy
  · intro k
    constructor
    · exact hc.sound.exists_opener
    · rintro ⟨x, hx, hk⟩
      exact hc.sound.isOpening hx hk
  · intro x hx k j hk hj
    exact (Caller.lt_of_opens hk (hc.named x hx) (hc.sound.fits x hx) hj).1
  · intro x _ k hk
    exact Caller.wants_of_reads hk

/-- In a cache with room for one, English is read while German waits for it to close, English anew
waits for German, and somebody asks whether the first English slot is closed: only its reader can go
on. -/
theorem cache_does_not_deadlock_of_chain :
    let en := Locale.ofLanguage "en"
    let de := Locale.ofLanguage "de"
    let source : WordList.Source :=
      .memory [(en, "1\nhello fq:200\n"), (de, "1\nhallo fq:9\n")] none
    let b := Backend.rehearsed source.kind
    let acts : List Happening :=
      .arrive (.ask en .hasMain) :: List.replicate 5 (.step 0) ++
      .arrive (.ask de .hasMain) :: List.replicate 2 (.step 1) ++
      .arrive (.resolve en) :: List.replicate 2 (.step 2) ++ [.arrive (.isClosed 0)]
    let c := (ofCapacity 0 1 ⟨true, 1⟩ []).run b acts
    (ofCapacity 0 1 ⟨true, 1⟩ []).HandedOut b acts ∧
      c.callers.map Caller.reads? = [some 0, none, none, none] ∧
      c.callers.map Caller.wantsWrite? = [none, some 0, some 1, none] ∧
      c.callers.map Caller.wantsRead? = [none, none, none, some 0] ∧
      ∃ n, c.CanGo b n := by
  intro en de source b acts c
  have hhandles : (ofCapacity 0 1 ⟨true, 1⟩ []).HandedOut b acts := by decide +kernel
  have hfree := cache_does_not_deadlock b [] 0 1 ⟨true, 1⟩ acts hhandles
  have hbusy : ∃ x ∈ c.callers, x.answer? = none := by decide +kernel
  exact ⟨hhandles, by decide +kernel, by decide +kernel, by decide +kernel, hfree.1 hbusy⟩

end Crowd

end Spelling.Cache
