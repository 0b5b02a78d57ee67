import Spelling.Proofs.Cache.Ledger

/-!
# Session numbers in a cache

A query for corrections carries a session number from its call on, past evictions, openings and
retries, to the dictionary that answers it (`Caller.session?`).  No step of a caller makes one up.

A cache opens its dictionaries for as many sessions as it was made with.  `Licit` says so of the
events of a step, and that a query is started with the number its caller carries, on a dictionary
that is open.  Where dictionaries keep the number of sessions that they were opened with
(`Backend.Rooms`), every dictionary that is open in a slot has that many (`Roomy`).
-/

namespace Spelling

variable {σ δ : Type} {b : Backend σ δ}

/-- The dictionaries of a backend have room for the sessions that they were opened with, whether
their contacts are turned on or off. -/
structure Backend.Rooms (b : Backend σ δ) (room : δ → Nat) : Prop where
  load : ∀ (st : σ) (l : Locale) (o : Options) (d : δ),
    (b.load st l o).2.value = .opened d → room d = o.sessions
  setContacts : ∀ (d : δ) (on : Bool), room (b.setContacts d on) = room d

/-- The session number that a question carries. -/
def Ask.session? : Ask → Option Nat
  | .suggest _ session => some session
  | .contains _ | .hasMain => none

namespace Cache

/-- The session number that a caller's question carries. -/
def Want.session? : Want → Option Nat
  | .handle => none
  | .ask a => a.session?

namespace Caller

/-- The session number that the question of a caller carries. -/
def session? : Caller → Option Nat
  | finding _ w | evicting _ _ _ w | evicted _ _ _ w | retiring _ _ w | retired _ _ w
  | choosing _ w | opening _ _ w => w.session?
  | entering _ a _ | asking _ a | forgetting _ a | retrying _ a => a.session?
  | answering _ _ session => some session
  | leaving .. | inspecting _ | draining | closing _ | closed .. | switching _ | collecting _
  | applying .. | peeking _ | done _ => none

section Step

variable {s t : CacheState σ δ} {x y : Caller} {n : Nat}

theorem session?_next (i : Nat) (w : Want) : (next i w).session? = w.session? := by
  cases w <;> rfl

theorem session?_begin (k : Nat) (e? p? : Option Nat) (w : Want) :
    (begin k e? p? w).session? = w.session? := by
  cases e? <;> cases p? <;> rfl

theorem session?_afterEviction (k : Nat) (p? : Option Nat) (w : Want) :
    (afterEviction k p? w).session? = w.session? := by
  cases p? <;> rfl

theorem session?_closeNext (slots : List Nat) : (closeNext slots).session? = none := by
  cases slots <;> rfl

theorem session?_applyNext (on : Bool) (slots : List Nat) :
    (applyNext on slots).session? = none := by
  cases slots <;> rfl

theorem session?_entered {i : Nat} {a : Ask} {f : Fallback} {k : Nat}
    (h : (entered s i a f).session? = some k) : a.session? = some k := by
  simp only [entered] at h
  cases hp : s.cache.phase i with
  | ready r =>
      rw [hp] at h
      exact h
  | loading | closed =>
      rw [hp] at h
      cases f with
      | retry => exact h
      | answer => cases h

/-- No step makes up a session number. -/
theorem Turn.session (h : Turn b n s x t y) {k : Nat} (hy : y.session? = some k) :
    x.session? = some k := by
  cases h with
  | lock _ _ => exact hy
  | visit _ h =>
      cases h with
      | hit _ => rwa [session?_next] at hy
      | miss _ => rwa [session?_begin] at hy
      | evicted => rwa [session?_afterEviction] at hy
      | draining | closed =>
          rw [session?_closeNext] at hy
          cases hy
      | collecting =>
          rw [session?_applyNext] at hy
          cases hy
      | retired | forgetting => exact hy
      | peeking => cases hy
  | stride h =>
      cases h with
      | opened _ => rwa [session?_next] at hy
      | entering _ => exact session?_entered hy
      | applying _ =>
          rw [session?_applyNext] at hy
          cases hy
      | evicting _ | retiring _ | choosing | missed | starting | retrying => exact hy
      | broken | exhausted | found | main | standIn | answering | leaving | inspecting | closing
      | closedAll | switching | appliedAll => cases hy

/-! ## What is told of sessions -/

/-- Closing tells of closes at most. -/
theorem deeds_shut (s : CacheState σ δ) (i : Nat) : ∃ es,
    (s.shut b i).world.events = s.world.events ++ es ∧ ∀ e ∈ es, e.deed = .closed := by
  rw [CacheState.shut]
  split
  · refine ⟨[_], rfl, ?_⟩
    intro e he
    cases List.mem_singleton.mp he
    rfl
  · exact ⟨[], (List.append_nil _).symm, List.forall_mem_nil _⟩
  · exact ⟨[], (List.append_nil _).symm, List.forall_mem_nil _⟩
  · exact ⟨[], (List.append_nil _).symm, List.forall_mem_nil _⟩

/-- Turning the contacts on or off tells of that at most. -/
theorem deeds_switchContacts (s : CacheState σ δ) (on : Bool) (i : Nat) : ∃ es,
    (s.switchContacts b on i).world.events = s.world.events ++ es ∧
      ∀ e ∈ es, e.deed = .contactsSet on := by
  rw [CacheState.switchContacts]
  split
  · refine ⟨[_], rfl, ?_⟩
    intro e he
    cases List.mem_singleton.mp he
    rfl
  · exact ⟨[], (List.append_nil _).symm, List.forall_mem_nil _⟩

/-- What an event of a step says about sessions is so. -/
inductive Licit (s : CacheState σ δ) (x : Caller) (e : Event) : Prop
  | opened {o : Options} {success : Bool} : e.deed = .opened o success →
      o.sessions = s.cache.sessions → Licit s x e
  | queried {typed : String} {k : Nat} : e.deed = .queried typed k → x.session? = some k →
      s.cache.Holds e.slot → Licit s x e
  | lookedUp {word : String} : e.deed = .lookedUp word → Licit s x e
  | contactsSet {on : Bool} : e.deed = .contactsSet on → Licit s x e
  | closed : e.deed = .closed → Licit s x e

theorem Stride.licit (h : Stride b s x t y) :
    ∃ es, t.world.events = s.world.events ++ es ∧ ∀ e ∈ es, Licit s x e := by
  cases h with
  | evicting _ | retiring _ | closing _ =>
      obtain ⟨es, hevents, hdeeds⟩ := deeds_shut s _
      exact ⟨es, hevents, fun e he => .closed (hdeeds e he)⟩
  | opened _ | broken _ =>
      refine ⟨_, CacheState.events_fill .., ?_⟩
      intro e he
      cases List.mem_singleton.mp he
      exact .opened rfl rfl
  | applying _ =>
      obtain ⟨es, hevents, hdeeds⟩ := deeds_switchContacts s _ _
      exact ⟨es, hevents, fun e he => .contactsSet (hdeeds e he)⟩
  | found | missed =>
      refine ⟨_, rfl, ?_⟩
      intro e he
      cases List.mem_singleton.mp he
      exact .lookedUp rfl
  | starting hd =>
      refine ⟨_, rfl, ?_⟩
      intro e he
      cases List.mem_singleton.mp he
      exact .queried rfl rfl ⟨_, hd⟩
  | choosing | entering | exhausted | main | standIn | answering | retrying | leaving | inspecting
  | closedAll | switching | appliedAll =>
      exact ⟨[], (List.append_nil _).symm, List.forall_mem_nil _⟩

theorem Turn.licit (h : Turn b n s x t y) :
    ∃ es, t.world.events = s.world.events ++ es ∧ ∀ e ∈ es, Licit s x e := by
  cases h with
  | lock _ _ => exact ⟨[], (List.append_nil _).symm, List.forall_mem_nil _⟩
  | visit _ h =>
      refine ⟨[], ?_, List.forall_mem_nil _⟩
      rw [List.append_nil]
      exact h.told.1
  | stride h => exact h.licit

end Step

end Caller

/-! ## Room for sessions -/

/-- Every dictionary that is open in a slot has room for as many sessions. -/
def Roomy (room : δ → Nat) (n : Nat) (c : Cache δ) : Prop :=
  ∀ (i : Nat) (d : δ), c.phase i = .ready (.dictionary d) → room d = n

section Roomy

variable {room : δ → Nat} {n m : Nat} {c : Cache δ} {s t : CacheState σ δ} {x y : Caller}

theorem roomy_of_slots (h : c.slots = []) : c.Roomy room n := by
  intro i d hd
  rw [phase_eq, h] at hd
  cases hd

/-- A step of a caller leaves room in every open dictionary. -/
theorem Roomy.turn (h : s.cache.Roomy room s.cache.sessions) (hb : b.Rooms room)
    (ht : Caller.Turn b m s x t y) : t.cache.Roomy room s.cache.sessions := by
  intro i d hd
  cases ht.origin hd with
  | kept hwas => exact h i d hwas
  | opened _ hloads => exact hb.load _ _ _ _ hloads
  | switched _ hwas heq =>
      rw [← heq, hb.setContacts]
      exact h i _ hwas

end Roomy

end Cache

end Spelling
