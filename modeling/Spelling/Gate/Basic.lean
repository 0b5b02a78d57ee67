/-!
# The gate

A fair counting semaphore.  A reader takes one permit; a reconfiguration takes all of them and so
waits for the readers at work and holds back those that come later.  Every caller draws a ticket,
and permits go to the ticket being served only, so grants come in the order of arrival.

    a grant          serves the next ticket
    a withdrawal     of the ticket being served: serves the next one
                     of a later ticket: marks it abandoned
    serving the next ticket passes over the abandoned ones

Callers that cannot be granted yet sleep until somebody wakes them all.
-/

namespace Spelling

/-- A fair counting semaphore. -/
structure Gate where
  /-- Permits there are -/
  capacity : Nat
  /-- Permits nobody holds -/
  available : Nat
  /-- Ticket of the next caller -/
  nextTicket : Nat := 0
  /-- Ticket that may take permits once enough are available -/
  serving : Nat := 0
  /-- Later tickets whose callers gave up -/
  abandoned : List Nat := []
  /-- Tickets whose callers sleep until they are woken -/
  asleep : List Nat := []
  deriving DecidableEq, Repr

namespace Gate

/-- A gate with some permits, at least one. -/
def ofCapacity (n : Nat) : Gate :=
  { capacity := max n 1, available := max n 1 }

/-- Draws a ticket. -/
def takeTicket (g : Gate) : Nat × Gate :=
  (g.nextTicket, { g with nextTicket := g.nextTicket + 1 })

/-- Whether a ticket can be granted some permits. -/
def canGrant (g : Gate) (ticket count : Nat) : Bool :=
  g.serving == ticket && count ≤ g.available

/-- The first ticket from `serving` on that is not abandoned, and the abandoned tickets that are not
passed over on the way. -/
def passOver (serving : Nat) (abandoned : List Nat) : Nat × List Nat :=
  if _h : serving ∈ abandoned then passOver (serving + 1) (abandoned.erase serving)
  else (serving, abandoned)
termination_by abandoned.length
decreasing_by
  have := List.length_erase_of_mem _h
  have := List.length_pos_of_mem _h
  omega

/-- Serves the next ticket that is still waited on. -/
def advance (g : Gate) : Gate :=
  let (serving, abandoned) := passOver (g.serving + 1) g.abandoned
  { g with serving, abandoned }

/-- Grants permits to the ticket being served. -/
def grant (g : Gate) (count : Nat) : Gate :=
  advance { g with available := g.available - count }

/-- Withdraws a ticket whose caller gave up. -/
def withdraw (g : Gate) (ticket : Nat) : Gate :=
  if g.serving = ticket then g.advance else { g with abandoned := ticket :: g.abandoned }

/-- Gives permits back. -/
def release (g : Gate) (count : Nat) : Gate :=
  { g with available := g.available + count }

/-- How many callers wait. -/
def waiting (g : Gate) : Nat :=
  g.nextTicket - g.serving - g.abandoned.length

/-- Lays the caller of a ticket to sleep. -/
def sleep (g : Gate) (ticket : Nat) : Gate :=
  { g with asleep := ticket :: g.asleep }

/-- Wakes the caller of a ticket. -/
def wake (g : Gate) (ticket : Nat) : Gate :=
  { g with asleep := g.asleep.filter (· != ticket) }

/-- Wakes everybody. -/
def wakeAll (g : Gate) : Gate :=
  { g with asleep := [] }

/-- What is said about a request that could never be granted. -/
def refusal (g : Gate) (count : Nat) : String :=
  "asked for " ++ toString count ++ " permits out of " ++ toString g.capacity

end Gate

/-- Permits that were granted. -/
structure Permit where
  count : Nat
  deriving DecidableEq, Repr

/-- Whether permits are all that a gate has. -/
def Permit.isExclusive (p : Permit) (g : Gate) : Bool :=
  p.count == g.capacity

end Spelling
