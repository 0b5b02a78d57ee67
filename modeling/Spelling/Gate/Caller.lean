import Spelling.Gate.Basic

/-!
# Callers of the gate

What one caller does, step by step.  Each step is one visit to the gate's state, so the steps of
several callers interleave in any order.

    place        move      condition                     effect                     next place
    arriving     go        more than the capacity        none                       refused
    arriving     go        grantable                     ticket, grant              granted
    arriving     go        not grantable                 ticket, sleep              waiting
    arriving     giveUp    not grantable, may give up    ticket, withdrawal         leaving
    waiting      go        awake, grantable              grant                      granted
    waiting      go        awake, not grantable          sleep                      waiting
    waiting      giveUp    awake, not grantable, may     withdrawal                 leaving
    waiting      rouse     asleep                        awake                      waiting
    granted      go                                      wakes everybody            holding
    holding      go                                      release                    returned
    returned     go                                      wakes everybody            done
    leaving      go                                      wakes everybody            gone

A caller may be roused when nobody woke it; that is also how the clock rouses one whose time is up.
-/

namespace Spelling.Gate

/-- What is asked of the gate. -/
structure Request where
  /-- How many permits, all at once -/
  count : Nat
  /-- Whether the caller gives up after a while -/
  mayGiveUp : Bool := false
  deriving DecidableEq, Repr

/-- Where a caller is. -/
inductive Caller where
  | arriving (r : Request)
  | waiting (r : Request) (ticket : Nat)
  | granted (p : Permit)
  | holding (p : Permit)
  | returned
  | leaving (r : Request)
  /-- Permits were granted and are given back -/
  | done
  /-- The caller gave up -/
  | gone (r : Request)
  /-- The request could never be granted -/
  | refused (r : Request)
  deriving DecidableEq, Repr

/-- What happens next to a caller. -/
inductive Move where
  /-- It goes on -/
  | go
  /-- It finds that its time is up -/
  | giveUp
  /-- It wakes by itself -/
  | rouse
  deriving DecidableEq, Repr

namespace Caller

/-- One look at the gate with a ticket: granted, or asleep. -/
def check (g : Gate) (r : Request) (ticket : Nat) : Gate × Caller :=
  if g.canGrant ticket r.count then (g.grant r.count, granted ⟨r.count⟩)
  else (g.sleep ticket, waiting r ticket)

/-- Gives up with a ticket that cannot be granted. -/
def quit (g : Gate) (r : Request) (ticket : Nat) : Option (Gate × Caller) :=
  if r.mayGiveUp && !g.canGrant ticket r.count then some (g.withdraw ticket, leaving r) else none

/-- One step of a caller, if the move is possible. -/
def step (g : Gate) : Caller → Move → Option (Gate × Caller)
  | arriving r, .go =>
    if g.capacity < r.count then some (g, refused r)
    else
      let (ticket, g) := g.takeTicket
      some (check g r ticket)
  | arriving r, .giveUp =>
    if g.capacity < r.count then none
    else
      let (ticket, g) := g.takeTicket
      quit g r ticket
  | waiting r ticket, .go => if ticket ∈ g.asleep then none else some (check g r ticket)
  | waiting r ticket, .giveUp => if ticket ∈ g.asleep then none else quit g r ticket
  | waiting r ticket, .rouse =>
    if ticket ∈ g.asleep then some (g.wake ticket, waiting r ticket) else none
  | granted p, .go => some (g.wakeAll, holding p)
  | holding p, .go => some (g.release p.count, returned)
  | returned, .go => some (g.wakeAll, done)
  | leaving r, .go => some (g.wakeAll, gone r)
  | _, _ => none

/-- The permits that a caller holds. -/
def permit? : Caller → Option Permit
  | granted p | holding p => some p
  | _ => none

/-- Whether a caller has permits and no step left but to give them back. -/
def isHolding : Caller → Bool
  | holding _ => true
  | _ => false

end Caller

/-- The gate and its callers, in the order in which they came. -/
structure Crowd where
  gate : Gate
  callers : List Caller := []
  deriving Repr

namespace Crowd

/-- One step of one caller, if its move is possible. -/
def step (c : Crowd) (i : Nat) (m : Move) : Option Crowd :=
  match c.callers[i]? with
  | none => none
  | some caller =>
    (caller.step c.gate m).map fun (gate, caller) => ⟨gate, c.callers.set i caller⟩

/-- A caller more, who is arriving. -/
def arrive (c : Crowd) (r : Request) : Crowd :=
  { c with callers := c.callers ++ [.arriving r] }

end Crowd

end Spelling.Gate
