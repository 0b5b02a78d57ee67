import Spelling.Proofs.Cache.Newcomer
import Spelling.Proofs.Callers

/-!
# What holds of a cache and its callers

A caller at a place of `Caller` knows something of the slot it is at work on (`Fits`), and goes on
knowing it while others are at work (`Fits.later`).  A slot that somebody opens is opened by one
caller, and the readers of a slot are counted.

`Sound` gathers what holds of a cache and its callers at all times, and `sound_run` says that every
run keeps it.
-/

namespace Spelling.Cache

variable {σ δ : Type} {b : Backend σ δ}

namespace Caller

/-- The slot that a caller was given to open, until it is open. -/
def opens? : Caller → Option Nat
  | evicting k .. | evicted k .. | retiring k .. | retired k .. | choosing k ..
  | opening k .. => some k
  | finding .. | entering .. | asking .. | answering .. | forgetting .. | retrying .. | leaving ..
  | inspecting _ | draining | closing _ | closed .. | switching _ | collecting _ | applying ..
  | peeking _ | done _ => none

/-- The slot that a caller has locked for reading. -/
def reads? : Caller → Option Nat
  | asking i .. | answering i .. | forgetting i .. | retrying i .. | leaving i .. => some i
  | finding .. | evicting .. | evicted .. | retiring .. | retired .. | choosing .. | opening ..
  | entering .. | inspecting _ | draining | closing _ | closed .. | switching _ | collecting _
  | applying .. | peeking _ | done _ => none

/-- What a caller knows of the slot it is at work on. -/
def Fits (c : Cache δ) : Caller → Prop
  | evicting k _ p? _ => c.Heir k p?
  | evicted k j p? _ => c.Heir k p? ∧ c.Dead j
  | retiring k p _ => c.Heir k (some p)
  | retired k p _ => c.Heir k (some p) ∧ c.Dead p
  | choosing k _ | opening k _ _ => c.Heir k none
  | asking i _ => ∃ r, c.phase i = .ready r
  | answering i _ _ => ∃ d, c.phase i = .ready (.dictionary d)
  | forgetting i _ | closed i _ => c.Dead i
  | finding .. | entering .. | retrying .. | leaving .. | inspecting _ | draining | closing _
  | switching _ | collecting _ | applying .. | peeking _ | done _ => True

theorem Fits.later {c c' : Cache δ} {x : Caller} (hx : x.Fits c) (hs : c.Later c')
    (hphase : ∀ i, x.reads? = some i → c'.phase i = c.phase i) : x.Fits c' := by
  cases x with
  | evicting k j p? w => exact Heir.later hx hs
  | evicted k j p? w => exact ⟨Heir.later hx.1 hs, hs.dead j hx.2⟩
  | retiring k p w => exact Heir.later hx hs
  | retired k p w => exact ⟨Heir.later hx.1 hs, hs.dead p hx.2⟩
  | choosing k w => exact Heir.later hx hs
  | opening k on w => exact Heir.later hx hs
  | asking i a =>
      obtain ⟨r, hr⟩ := hx
      exact ⟨r, (hphase i rfl).trans hr⟩
  | answering i q session =>
      obtain ⟨d, hd⟩ := hx
      exact ⟨d, (hphase i rfl).trans hd⟩
  | forgetting i a => exact hs.dead i hx
  | closed i rest => exact hs.dead i hx
  | finding | entering | retrying | leaving | inspecting | draining | closing | switching
  | collecting | applying | peeking | done => trivial

variable {c : Cache δ} {k : Nat} {p? : Option Nat}

theorem fits_next (i : Nat) (w : Want) : (next i w).Fits c := by
  cases w <;> trivial

theorem fits_afterEviction (w : Want) (h : c.Heir k p?) : (afterEviction k p? w).Fits c := by
  cases p? <;> exact h

theorem fits_begin (e? : Option Nat) (w : Want) (h : c.Heir k p?) :
    (begin k e? p? w).Fits c := by
  cases e? <;> cases p? <;> exact h

theorem fits_closeNext (slots : List Nat) : (closeNext slots).Fits c := by
  cases slots <;> trivial

theorem fits_applyNext (on : Bool) (slots : List Nat) : (applyNext on slots).Fits c := by
  cases slots <;> trivial

theorem opens?_next (i : Nat) (w : Want) : (next i w).opens? = none := by
  cases w <;> rfl

theorem opens?_afterEviction (k : Nat) (p? : Option Nat) (w : Want) :
    (afterEviction k p? w).opens? = some k := by
  cases p? <;> rfl

theorem opens?_begin (k : Nat) (e? p? : Option Nat) (w : Want) :
    (begin k e? p? w).opens? = some k := by
  cases e? <;> cases p? <;> rfl

theorem opens?_closeNext (slots : List Nat) : (closeNext slots).opens? = none := by
  cases slots <;> rfl

theorem opens?_applyNext (on : Bool) (slots : List Nat) : (applyNext on slots).opens? = none := by
  cases slots <;> rfl

theorem reads?_next (i : Nat) (w : Want) : (next i w).reads? = none := by
  cases w <;> rfl

theorem reads?_afterEviction (k : Nat) (p? : Option Nat) (w : Want) :
    (afterEviction k p? w).reads? = none := by
  cases p? <;> rfl

theorem reads?_begin (k : Nat) (e? p? : Option Nat) (w : Want) :
    (begin k e? p? w).reads? = none := by
  cases e? <;> cases p? <;> rfl

theorem reads?_closeNext (slots : List Nat) : (closeNext slots).reads? = none := by
  cases slots <;> rfl

theorem reads?_applyNext (on : Bool) (slots : List Nat) : (applyNext on slots).reads? = none := by
  cases slots <;> rfl

/-- A caller at the beginning or the end of a call. -/
inductive Idle : Caller → Prop
  | start {call : Call} : Idle call.start
  | done {a : Answer} : Idle (done a)

theorem Idle.opens {x : Caller} (h : x.Idle) : x.opens? = none := by
  cases h with
  | @start call => cases call <;> rfl
  | done => rfl

theorem Idle.reads {x : Caller} (h : x.Idle) : x.reads? = none := by
  cases h with
  | @start call => cases call <;> rfl
  | done => rfl

theorem Idle.fits {x : Caller} (h : x.Idle) : x.Fits c := by
  cases h with
  | @start call => cases call <;> trivial
  | done => trivial

/-! ## One step -/

section Turn

variable {n : Nat} {s t : CacheState σ δ} {x y : Caller}

/-- Entering a slot that nobody opens, a caller finds it ready or dead. -/
theorem fits_entered {i : Nat} (a : Ask) (f : Fallback) (hcan : s.cache.canRead i = true) :
    (entered s i a f).Fits (s.cache.lockRead i) := by
  obtain ⟨hlt, hopen⟩ := canRead_iff.mp hcan
  simp only [entered]
  cases hphase : s.cache.phase i with
  | ready r => exact ⟨r, by rw [phase_lockRead, hphase]⟩
  | loading =>
      cases f with
      | retry =>
          refine ⟨by simpa [lockRead] using hlt, by simpa using hopen, ?_⟩
          intro r hready
          rw [phase_lockRead, hphase] at hready
          cases hready
      | answer => trivial
  | closed => cases f <;> trivial

theorem reads?_entered (i : Nat) (a : Ask) (f : Fallback) :
    (entered s i a f).reads? = some i := by
  simp only [entered]
  cases s.cache.phase i <;> cases f <;> rfl

theorem opens?_entered (i : Nat) (a : Ask) (f : Fallback) : (entered s i a f).opens? = none := by
  simp only [entered]
  cases s.cache.phase i <;> cases f <;> rfl

/-- What a step comes to for the slots. -/
def Keeps (c c' : Cache δ) (y : Caller) : Prop :=
  c'.Lineage ∧ c.Later c' ∧ y.Fits c'

theorem Keeps.resorted {c c' : Cache δ} (h : c.Lineage) (hs : c.Resorted c') (hy : y.Fits c') :
    Keeps c c' y :=
  ⟨h.resorted hs, .resorted h hs, hy⟩

theorem Keeps.reworked {c c' : Cache δ} (h : c.Lineage) (hs : c.Reworked c') (hy : y.Fits c') :
    Keeps c c' y :=
  ⟨h.reworked hs, .reworked hs, hy⟩

theorem Keeps.same {c c' : Cache δ} (h : c.Lineage) (hslots : c'.slots = c.slots)
    (hresident : c'.resident = c.resident) (hclosing : c'.closing = c.closing)
    (hy : y.Fits c') : Keeps c c' y :=
  .resorted h (.of_mem_iff h hslots (fun _ => by rw [hresident]) (fun _ => by rw [hclosing])) hy

theorem Keeps.trans_same {c c' c'' : Cache δ} (h : Keeps c c' y) (hslots : c''.slots = c'.slots)
    (hresident : c''.resident = c'.resident) (hclosing : c''.closing = c'.closing) :
    Keeps c c'' y := by
  obtain ⟨hlineage, hlater, hy⟩ := h
  have hlocale := localeOf_of_slots hslots
  have hphase := phase_of_slots hslots
  have hsorted : c'.Resorted c'' :=
    .of_mem_iff hlineage hslots (fun _ => by rw [hresident]) (fun _ => by rw [hclosing])
  refine ⟨hlineage.resorted hsorted, ?_, hy.later (.resorted hlineage hsorted) fun i _ => hphase i⟩
  refine ⟨by simpa only [hslots] using hlater.length_le, ?_,
    fun i hi => (dead_of_slots hslots i).mpr (hlater.dead i hi), ?_, ?_⟩
  · intro i hi
    rw [hlocale, hlater.localeOf i hi]
  · simpa only [hslots, hclosing, hlocale] using hlater.closing
  · intro i hi
    rw [hphase, hlater.phase i hi]

theorem Visit.keeps (h : Visit s x t y) (hs : s.cache.Lineage) (hx : x.Fits s.cache) :
    Keeps s.cache t.cache y := by
  cases h with
  | hit hi => exact .resorted hs (resorted_hit hs hi rfl rfl rfl) (fits_next ..)
  | miss hnone =>
      rw [CacheState.cache_reportFirst]
      exact ⟨hs.enroll hnone, .enroll hs hnone, fits_begin _ _ (hs.heir_enroll hnone)⟩
  | evicted =>
      rw [CacheState.cache_reportPrevious?]
      have hsorted := (resorted_settled hs hx.2).countEviction
      exact .resorted hs hsorted (fits_afterEviction _ (hx.1.later (.resorted hs hsorted)))
  | retired => exact .resorted hs (resorted_settled hs hx.2) (hx.1.settled hs hx.2)
  | forgetting => exact .resorted hs (resorted_forget hs hx) trivial
  | draining =>
      rw [CacheState.cache_reportDrain]
      exact .resorted hs (resorted_drain hs) (fits_closeNext _)
  | closed => exact .resorted hs (resorted_settled hs hx) (fits_closeNext _)
  | collecting => exact .same hs rfl rfl rfl (fits_applyNext ..)
  | peeking => exact .same hs rfl rfl rfl trivial

theorem Stride.keeps (h : Stride b s x t y) (hs : s.cache.Lineage) (hx : x.Fits s.cache)
    (hopens : ∀ k, x.opens? = some k → s.cache.isOpening k = true) :
    Keeps s.cache t.cache y := by
  cases h with
  | evicting hcan =>
      have hshut := reworked_shut (b := b) hcan
      exact .reworked hs hshut ⟨Heir.later hx (.reworked hshut), dead_shut hcan⟩
  | retiring hcan =>
      have hshut := reworked_shut (b := b) hcan
      exact .reworked hs hshut ⟨Heir.later hx (.reworked hshut), dead_shut hcan⟩
  | choosing => exact .same hs rfl rfl rfl hx
  | opened _ => exact .reworked hs (reworked_fill hs _ (hopens _ rfl) hx) (fits_next ..)
  | broken _ => exact .reworked hs (reworked_fill hs _ (hopens _ rfl) hx) trivial
  | entering hcan => exact .reworked hs (reworked_lockRead hcan) (fits_entered _ _ hcan)
  | exhausted _ => exact .same hs rfl rfl rfl trivial
  | found _ _ => exact .same hs rfl rfl rfl trivial
  | missed hd _ => exact .same hs rfl rfl rfl ⟨_, hd⟩
  | starting hd => exact .same hs rfl rfl rfl ⟨_, hd⟩
  | main _ => exact .same hs rfl rfl rfl trivial
  | standIn _ => exact .same hs rfl rfl rfl trivial
  | answering _ => exact .same hs rfl rfl rfl trivial
  | retrying => exact .reworked hs (reworked_unlockRead hs _) trivial
  | leaving => exact .reworked hs (reworked_unlockRead hs _) trivial
  | inspecting _ => exact .same hs rfl rfl rfl trivial
  | closing hcan => exact .reworked hs (reworked_shut hcan) (dead_shut hcan)
  | closedAll => exact .same hs rfl rfl rfl trivial
  | switching => exact .same hs rfl rfl rfl trivial
  | applying hcan => exact .reworked hs (reworked_switchContacts _ hcan) (fits_applyNext ..)
  | appliedAll => exact .same hs rfl rfl rfl trivial

theorem Turn.keeps (h : Turn b n s x t y) (hs : s.cache.Lineage) (hx : x.Fits s.cache)
    (hopens : ∀ k, x.opens? = some k → s.cache.isOpening k = true) :
    Keeps s.cache t.cache y := by
  cases h with
  | lock _ _ =>
      have hsame : s.cache.Resorted (relock (some n) s).cache :=
        .of_mem_iff hs rfl (fun _ => .rfl) (fun _ => .rfl)
      exact .resorted hs hsame (hx.later (.resorted hs hsame) fun _ _ => rfl)
  | visit _ h => exact (h.keeps hs hx).trans_same rfl rfl rfl
  | stride h => exact h.keeps hs hx hopens

/-- One if a slot is the one that is meant, and none if not. -/
def one (slot? : Option Nat) (i : Nat) : Nat := if slot? = some i then 1 else 0

@[simp] theorem one_none (i : Nat) : one none i = 0 := rfl

theorem one_some (k i : Nat) : one (some k) i = if k = i then 1 else 0 := by
  simp [one]

/-- A slot is opened by the caller who was given it, from then on until it is open. -/
theorem Visit.opener (h : Visit s x t y) (i : Nat) :
    one y.opens? i + (s.cache.isOpening i).toNat =
      one x.opens? i + (t.cache.isOpening i).toNat := by
  cases h with
  | hit _ =>
      rw [opens?_next]
      rfl
  | miss _ =>
      rw [CacheState.cache_reportFirst, CacheState.cache_onCache, isOpening_enroll, opens?_begin,
        one_some]
      by_cases hi : i = s.cache.slots.length
      · subst hi
        rw [isOpening_of_length_le _ (Nat.le_refl _), if_pos rfl, if_pos rfl]
        rfl
      · rw [if_neg hi, if_neg (Ne.symm hi)]
        rfl
  | evicted =>
      rw [CacheState.cache_reportPrevious?, opens?_afterEviction]
      rfl
  | draining =>
      rw [CacheState.cache_reportDrain, opens?_closeNext]
      rfl
  | closed =>
      rw [opens?_closeNext]
      rfl
  | collecting =>
      rw [opens?_applyNext]
      rfl
  | retired | forgetting | peeking => rfl

/-- A slot that is open now was opened by the caller who goes on. -/
theorem opener_fill {k : Nat} (on : Bool) (i : Nat) (hopen : s.cache.isOpening k = true) :
    one none i + (s.cache.isOpening i).toNat =
      one (some k) i + ((s.fill b k on).2.cache.isOpening i).toNat := by
  rw [CacheState.isOpening_fill, one_some, one_none]
  by_cases hi : k = i
  · rw [if_pos hi, if_pos hi, ← hi, hopen]
    rfl
  · rw [if_neg hi, if_neg hi]

theorem Stride.opener (h : Stride b s x t y) (i : Nat)
    (hopens : ∀ k, x.opens? = some k → s.cache.isOpening k = true) :
    one y.opens? i + (s.cache.isOpening i).toNat =
      one x.opens? i + (t.cache.isOpening i).toNat := by
  cases h with
  | opened _ =>
      rw [opens?_next]
      exact opener_fill _ i (hopens _ rfl)
  | broken _ => exact opener_fill _ i (hopens _ rfl)
  | evicting _ | retiring _ | closing _ =>
      rw [CacheState.isOpening_shut]
      rfl
  | entering _ =>
      rw [opens?_entered, CacheState.cache_onCache, isOpening_lockRead]
      rfl
  | retrying =>
      show _ = one none i + ((s.cache.unlockRead _).isOpening i).toNat
      rw [isOpening_unlockRead]
      rfl
  | leaving =>
      rw [CacheState.cache_onCache, isOpening_unlockRead]
      rfl
  | applying _ =>
      rw [CacheState.isOpening_switchContacts, opens?_applyNext]
      rfl
  | choosing | exhausted | found | missed | starting | main | standIn | answering | inspecting
  | closedAll | switching | appliedAll => rfl

theorem Turn.opener (h : Turn b n s x t y) (i : Nat)
    (hopens : ∀ k, x.opens? = some k → s.cache.isOpening k = true) :
    one y.opens? i + (s.cache.isOpening i).toNat =
      one x.opens? i + (t.cache.isOpening i).toNat := by
  cases h with
  | lock _ _ => rfl
  | visit _ h => exact h.opener i
  | stride h => exact h.opener i hopens

/-- A slot is read by those who locked it for reading. -/
theorem Visit.reader (h : Visit s x t y) (i : Nat) :
    one y.reads? i + s.cache.readersOf i = one x.reads? i + t.cache.readersOf i := by
  cases h with
  | hit _ =>
      rw [reads?_next]
      rfl
  | miss _ =>
      rw [CacheState.cache_reportFirst, CacheState.cache_onCache, readersOf_enroll, reads?_begin]
      by_cases hi : i = s.cache.slots.length
      · subst hi
        rw [readersOf_of_length_le _ (Nat.le_refl _), if_pos rfl]
        rfl
      · rw [if_neg hi]
        rfl
  | evicted =>
      rw [CacheState.cache_reportPrevious?, reads?_afterEviction]
      rfl
  | draining =>
      rw [CacheState.cache_reportDrain, reads?_closeNext]
      rfl
  | closed =>
      rw [reads?_closeNext]
      rfl
  | collecting =>
      rw [reads?_applyNext]
      rfl
  | retired | forgetting | peeking => rfl

/-- A slot has a reader less when the caller who leaves it was one. -/
theorem reader_unlockRead {c : Cache δ} {k : Nat} (i : Nat) (hread : 0 < c.readersOf k) :
    one none i + c.readersOf i = one (some k) i + (c.unlockRead k).readersOf i := by
  rw [readersOf_unlockRead, one_some, one_none]
  by_cases hi : k = i
  · rw [if_pos hi, ← hi]
    omega
  · rw [if_neg hi]
    rfl

theorem Stride.reader (h : Stride b s x t y) (i : Nat)
    (hreads : ∀ k, x.reads? = some k → 0 < s.cache.readersOf k) :
    one y.reads? i + s.cache.readersOf i = one x.reads? i + t.cache.readersOf i := by
  cases h with
  | opened _ =>
      rw [CacheState.readersOf_fill, reads?_next]
      rfl
  | broken _ =>
      rw [CacheState.readersOf_fill]
      rfl
  | evicting _ | retiring _ | closing _ =>
      rw [CacheState.readersOf_shut]
      rfl
  | entering hcan =>
      rw [reads?_entered, CacheState.cache_onCache,
        readersOf_lockRead _ (canRead_iff.mp hcan).1, one_some]
      show _ = 0 + _
      omega
  | retrying => exact reader_unlockRead i (hreads _ rfl)
  | leaving => exact reader_unlockRead i (hreads _ rfl)
  | applying _ =>
      rw [CacheState.readersOf_switchContacts, reads?_applyNext]
      rfl
  | choosing | exhausted | found | missed | starting | main | standIn | answering | inspecting
  | closedAll | switching | appliedAll => rfl

theorem Turn.reader (h : Turn b n s x t y) (i : Nat)
    (hreads : ∀ k, x.reads? = some k → 0 < s.cache.readersOf k) :
    one y.reads? i + s.cache.readersOf i = one x.reads? i + t.cache.readersOf i := by
  cases h with
  | lock _ _ => rfl
  | visit _ h => exact h.reader i
  | stride h => exact h.reader i hreads

end Turn

end Caller

/-! ## The cache and its callers -/

/-- What happens to a cache: somebody begins a call, or a caller makes a step if it is possible. -/
inductive Happening where
  | arrive (call : Call)
  | step (caller : Nat)

namespace Crowd

/-- A cache that nobody has called. -/
def ofCapacity (label capacity : Nat) (o : Options) (st : σ) : Crowd σ δ :=
  ⟨⟨.ofCapacity label capacity o, { backend := st }⟩, []⟩

/-- The crowd after one thing happened; a step that is not possible changes nothing. -/
def act (b : Backend σ δ) (c : Crowd σ δ) : Happening → Crowd σ δ
  | .arrive call => c.arrive call
  | .step n => (c.step b n).getD c

/-- The crowd after some things happened. -/
def run (b : Backend σ δ) (c : Crowd σ δ) (acts : List Happening) : Crowd σ δ :=
  acts.foldl (act b) c

/-- One thing that happens to a cache and its callers. -/
inductive Happens (b : Backend σ δ) (c : Crowd σ δ) : Crowd σ δ → Prop
  | arrival {call : Call} : Happens b c (c.arrive call)
  | nothing : Happens b c c
  | turn {n : Nat} {x y : Caller} {t : CacheState σ δ} : c.callers[n]? = some x →
      Caller.Turn b n c.state x t y → Happens b c ⟨t, c.callers.set n y⟩

/-- A step is made by the caller of its number, or is not possible. -/
theorem step_cases (b : Backend σ δ) (c : Crowd σ δ) (n : Nat) : c.act b (.step n) = c ∨
    ∃ x t y, c.callers[n]? = some x ∧ Caller.Turn b n c.state x t y ∧
      c.act b (.step n) = ⟨t, c.callers.set n y⟩ := by
  simp only [Crowd.act, Crowd.step]
  cases hx : c.callers[n]? with
  | none => exact .inl rfl
  | some x =>
      cases hs : x.step b n c.state with
      | none =>
          simp only [hs]
          exact .inl rfl
      | some next =>
          obtain ⟨t, y⟩ := next
          simp only [hs]
          exact .inr ⟨x, t, y, rfl, Caller.turn_of_step hs, rfl⟩

theorem happens_of_act (c : Crowd σ δ) (a : Happening) : Happens b c (c.act b a) := by
  cases a with
  | arrive call => exact .arrival
  | step n =>
      rcases step_cases b c n with hsame | ⟨x, t, y, hx, h, hnext⟩
      · rw [hsame]
        exact .nothing
      · rw [hnext]
        exact .turn hx h

/-- What holds of a cache and its callers at all times. -/
structure Sound (c : Crowd σ δ) : Prop where
  lineage : c.state.cache.Lineage
  fits : ∀ x, x ∈ c.callers → x.Fits c.state.cache
  openers : ∀ i, (c.callers.map fun x => Caller.one x.opens? i).sum =
    (c.state.cache.isOpening i).toNat
  readers : ∀ i, (c.callers.map fun x => Caller.one x.reads? i).sum = c.state.cache.readersOf i

theorem sound_ofCapacity (label capacity : Nat) (o : Options) (st : σ) :
    (ofCapacity label capacity o st : Crowd σ δ).Sound where
  lineage := by
    refine ⟨nofun, nofun, nofun, nofun, ?_, ?_, nofun, nofun⟩
    · intro j k _ hk
      exact absurd hk (Nat.not_lt_zero k)
    · intro p hp
      exact absurd hp (Nat.not_lt_zero p)
  fits := List.forall_mem_nil _
  openers _ := rfl
  readers _ := rfl

section Members

variable {c : Crowd σ δ} {x : Caller}

/-- A caller who opens a slot is counted there. -/
theorem Sound.isOpening (hc : c.Sound) (hx : x ∈ c.callers) {k : Nat}
    (hk : x.opens? = some k) : c.state.cache.isOpening k = true := by
  have hle := le_sum_map_of_mem (fun x => Caller.one x.opens? k) hx
  rw [hc.openers, hk, Caller.one_some, if_pos rfl] at hle
  cases hopen : c.state.cache.isOpening k with
  | true => rfl
  | false =>
      rw [hopen] at hle
      exact absurd hle (Nat.not_succ_le_zero 0)

/-- A caller who reads a slot is counted there. -/
theorem Sound.readersOf_pos (hc : c.Sound) (hx : x ∈ c.callers) {k : Nat}
    (hk : x.reads? = some k) : 0 < c.state.cache.readersOf k := by
  have hle := le_sum_map_of_mem (fun x => Caller.one x.reads? k) hx
  rwa [hc.readers, hk, Caller.one_some, if_pos rfl] at hle

end Members

/-- One step of one caller leaves everybody with what they know. -/
theorem Sound.turn {c : Crowd σ δ} (hc : c.Sound) {n : Nat} {x y : Caller} {t : CacheState σ δ}
    (hx : c.callers[n]? = some x) (h : Caller.Turn b n c.state x t y) :
    Sound ⟨t, c.callers.set n y⟩ := by
  have hmem := List.mem_of_getElem? hx
  have hopens := fun k => hc.isOpening hmem (k := k)
  have hreads := fun k => hc.readersOf_pos hmem (k := k)
  obtain ⟨hlineage, hlater, hy⟩ := h.keeps hc.lineage (hc.fits x hmem) hopens
  obtain ⟨before, after, hsplit, hset⟩ := exists_set_split hx
  refine ⟨hlineage, ?_, ?_, ?_⟩
  · intro z hz
    rcases List.mem_or_eq_of_mem_set hz with hz | rfl
    · exact (hc.fits z hz).later hlater fun i hi => hlater.phase i (hc.readersOf_pos hz hi)
    · exact hy
  · intro i
    have hbefore := hc.openers i
    have hstep := h.opener i hopens
    rw [hsplit, sum_map_split] at hbefore
    simp only [hset, sum_map_split]
    omega
  · intro i
    have hbefore := hc.readers i
    have hstep := h.reader i hreads
    rw [hsplit, sum_map_split] at hbefore
    simp only [hset, sum_map_split]
    omega

section Idle

variable {c : Crowd σ δ} {n : Nat} {x y : Caller}

/-- A caller begins its call anew or is at its end, where it was the same before. -/
theorem Sound.replace (hc : c.Sound) (hx : c.callers[n]? = some x) (hidle : x.Idle)
    (hidle' : y.Idle) : Sound ⟨c.state, c.callers.set n y⟩ := by
  obtain ⟨before, after, hsplit, hset⟩ := exists_set_split hx
  refine ⟨hc.lineage, ?_, ?_, ?_⟩
  · intro z hz
    rcases List.mem_or_eq_of_mem_set hz with hz | rfl
    · exact hc.fits z hz
    · exact hidle'.fits
  · intro i
    have hbefore := hc.openers i
    rw [hsplit, sum_map_split] at hbefore
    simp only [hset, sum_map_split, hidle.opens, hidle'.opens] at hbefore ⊢
    exact hbefore
  · intro i
    have hbefore := hc.readers i
    rw [hsplit, sum_map_split] at hbefore
    simp only [hset, sum_map_split, hidle.reads, hidle'.reads] at hbefore ⊢
    exact hbefore

/-- One caller more, who begins a call. -/
theorem Sound.append (hc : c.Sound) (hidle : x.Idle) : Sound ⟨c.state, c.callers ++ [x]⟩ := by
  refine ⟨hc.lineage, ?_, ?_, ?_⟩
  · intro z hz
    rcases List.mem_append.mp hz with hz | hz
    · exact hc.fits z hz
    · cases List.mem_singleton.mp hz
      exact hidle.fits
  · intro i
    simpa [hidle.opens] using hc.openers i
  · intro i
    simpa [hidle.reads] using hc.readers i

end Idle

theorem Sound.act {c : Crowd σ δ} (hc : c.Sound) (a : Happening) : (c.act b a).Sound := by
  have hhappens := happens_of_act (b := b) c a
  generalize c.act b a = c' at hhappens
  cases hhappens with
  | arrival => exact hc.append .start
  | nothing => exact hc
  | turn hx h => exact hc.turn hx h

/-- Every run keeps a cache and its callers sound. -/
theorem Sound.run {c : Crowd σ δ} (hc : c.Sound) (acts : List Happening) :
    (c.run b acts).Sound := by
  induction acts generalizing c with
  | nil => exact hc
  | cons a acts ih => exact ih (hc.act a)

end Crowd

end Spelling.Cache
