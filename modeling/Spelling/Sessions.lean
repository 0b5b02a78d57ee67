import Spelling.Room

/-!
# Session numbers

A fixed set of numbers lent out one at a time, so that no two queries at work share scratch space.
The number that came back last is lent first.  The numbers never lent so far come after those that
came back, the lowest first.

Only the numbers that came back are kept one by one; those never lent lie between a mark and the
size.  `Sessions.idle` is the order in which numbers would be lent, and a lemma for each operation
says what it does to that order.
-/

namespace Spelling

/-- Session numbers and which of them are idle. -/
structure Sessions where
  /-- Numbers that came back, the last one first -/
  returned : List Nat := []
  /-- The lowest number never lent so far -/
  fresh : Nat := 0
  /-- How many numbers there are -/
  size : Nat
  deriving DecidableEq, Repr

namespace Sessions

/-- The numbers below `size`, all idle. -/
def ofSize (size : Nat) : Sessions := { size }

/-- Bytes that a session number takes. -/
def numberBytes : Nat := 8

/-- Lays out the list of some session numbers. -/
def lay (size : Nat) : Except Overflow Unit := layList size numberBytes

/-- Lends a number, if one is idle. -/
def lend (s : Sessions) : Option Nat × Sessions :=
  match s.returned with
  | id :: rest => (some id, { s with returned := rest })
  | [] => if s.fresh < s.size then (some s.fresh, { s with fresh := s.fresh + 1 }) else (none, s)

/-- Takes a number back. -/
def takeBack (s : Sessions) (id : Nat) : Sessions :=
  { s with returned := id :: s.returned }

/-- How many numbers are idle. -/
def available (s : Sessions) : Nat := s.returned.length + (s.size - s.fresh)

/-- Numbers not lent out, the next one to be lent first. -/
def idle (s : Sessions) : List Nat :=
  s.returned ++ List.range' s.fresh (s.size - s.fresh)

@[simp] theorem idle_ofSize (size : Nat) : (ofSize size).idle = List.range size := by
  simp [ofSize, idle, List.range_eq_range']

@[simp] theorem length_idle (s : Sessions) : s.idle.length = s.available := by
  simp [idle, available]

/-- The numbers never lent, while there is one. -/
theorem range_fresh {s : Sessions} (h : s.fresh < s.size) :
    List.range' s.fresh (s.size - s.fresh) =
      s.fresh :: List.range' (s.fresh + 1) (s.size - (s.fresh + 1)) := by
  rw [show s.size - s.fresh = s.size - (s.fresh + 1) + 1 by omega, List.range'_succ]

@[simp] theorem lend_fst (s : Sessions) : s.lend.1 = s.idle.head? := by
  unfold lend idle
  match hr : s.returned with
  | id :: rest => simp
  | [] =>
    by_cases h : s.fresh < s.size
    · simp [h, range_fresh h]
    · simp [h, show s.size - s.fresh = 0 by omega]

@[simp] theorem idle_lend (s : Sessions) : s.lend.2.idle = s.idle.tail := by
  unfold lend idle
  match hr : s.returned with
  | id :: rest => simp
  | [] =>
    by_cases h : s.fresh < s.size
    · simp [h, range_fresh h]
    · simp [h, hr, show s.size - s.fresh = 0 by omega]

@[simp] theorem idle_takeBack (s : Sessions) (id : Nat) :
    (s.takeBack id).idle = id :: s.idle := rfl

end Sessions

/-- Session numbers and the leases on them, in the order in which they were asked for; a lease that
was refused or given back is none. -/
structure Leases where
  sessions : Sessions
  given : List (Option Nat) := []
  deriving DecidableEq, Repr

namespace Leases

/-- Asks for a lease. -/
def lease (l : Leases) : Option Nat × Leases :=
  let (id?, sessions) := l.sessions.lend
  (id?, ⟨sessions, l.given ++ [id?]⟩)

/-- Gives a lease back, if it is still there. -/
def giveBack (l : Leases) (n : Nat) : Leases :=
  match (l.given[n]?).join with
  | some id => ⟨l.sessions.takeBack id, l.given.set n none⟩
  | none => l

/-- Takes a lease and loses it at once, as its holder fails. -/
def flash (l : Leases) : Leases :=
  match l.sessions.lend with
  | (some id, sessions) => { l with sessions := sessions.takeBack id }
  | (none, _) => l

/-- What a holder says that fails on purpose. -/
def flashMessage : String := "lease holder panic"

end Leases

end Spelling
