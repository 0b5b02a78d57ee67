import Spelling.Cache.Calls

/-!
# Callers of the cache

What one caller of a cache does, step by step, when others are at work on it too.  A step visits the
lock on the residents, or one slot, or neither; the steps of several callers interleave in any
order.

The lock on the residents is held for one visit: a caller takes it in one step and does its work and
lets go in the next.  A slot is locked for writing from its enrolment until its dictionary is open,
and while its dictionary is changed or closed; it is locked for reading while its dictionary is
asked something.  A caller that has dictionaries to close reports so as it leaves the lock, and only
then waits for those who are at work on them.

    place         waits for                              then
    finding       the lock on the residents              hit, or the first place of an opening
    evicting      no reader or writer of the evicted     closes it
    evicted       the lock on the residents              forgets that it is to be closed
    retiring      no reader or writer of the previous    closes it
    retired       the lock on the residents              forgets that it is to be closed
    choosing                                             reads the option for contacts
    opening                                              opens, unlocks the slot
    entering      no writer of the slot                  locks it for reading
    asking                                               looks up one word, or starts the query
    answering                                            ends the query
    forgetting    the lock on the residents              drops a slot whose opening broke off
    retrying                                             unlocks the slot, asks for the locale again
    leaving                                              unlocks the slot
    inspecting    no writer of the slot                  looks whether it is closed
    draining      the lock on the residents              takes every resident out
    closing       no reader or writer of the slot        closes it
    closed        the lock on the residents              forgets that it is to be closed
    switching                                            stores the option for contacts
    collecting    the lock on the residents              lists the residents
    applying      no reader or writer of the slot        changes its dictionary
    peeking       the lock on the residents              looks whether a locale is resident
-/

namespace Spelling.Cache

/-- What a caller wants with the slot of a locale. -/
inductive Want where
  /-- Hand it out -/
  | handle
  /-- Ask its dictionary, which has to be open -/
  | ask (a : Ask)

/-- What a caller does when the slot it asks has no dictionary. -/
inductive Fallback where
  /-- Ask for the locale again -/
  | retry
  /-- Answer as for a closed dictionary -/
  | answer
  deriving DecidableEq, Repr

/-- Where a caller is. -/
inductive Caller where
  | finding (l : Locale) (w : Want)
  | evicting (slot evicted : Nat) (previous? : Option Nat) (w : Want)
  | evicted (slot evicted : Nat) (previous? : Option Nat) (w : Want)
  | retiring (slot previous : Nat) (w : Want)
  | retired (slot previous : Nat) (w : Want)
  | choosing (slot : Nat) (w : Want)
  | opening (slot : Nat) (contacts : Bool) (w : Want)
  | entering (slot : Nat) (a : Ask) (f : Fallback)
  | asking (slot : Nat) (a : Ask)
  | answering (slot : Nat) (q : Query) (session : Nat)
  | forgetting (slot : Nat) (a : Ask)
  | retrying (slot : Nat) (a : Ask)
  | leaving (slot : Nat) (answer : Answer)
  | inspecting (slot : Nat)
  | draining
  | closing (slots : List Nat)
  | closed (slot : Nat) (rest : List Nat)
  | switching (on : Bool)
  | collecting (on : Bool)
  | applying (on : Bool) (slots : List Nat)
  | peeking (l : Locale)
  | done (answer : Answer)

/-- Where the caller of a call is at first. -/
def Call.start : Call → Caller
  | resolve l => .finding l .handle
  | ask l a => .finding l (.ask a)
  | askSlot slot a => .entering slot a .answer
  | isClosed slot => .inspecting slot
  | closeAll => .draining
  | setContacts on => .switching on
  | contains l => .peeking l

variable {σ δ : Type}

/-- Whether a slot can be locked for reading. -/
def canRead (c : Cache δ) (i : Nat) : Bool :=
  match c.slots[i]? with
  | some s => !s.writing
  | none => false

/-- Whether a slot can be locked for writing. -/
def canWrite (c : Cache δ) (i : Nat) : Bool :=
  match c.slots[i]? with
  | some s => !s.writing && s.readers == 0
  | none => false

/-- Locks a slot for reading once more. -/
def lockRead (c : Cache δ) (i : Nat) : Cache δ :=
  c.modifySlot i fun s => { s with readers := s.readers + 1 }

/-- Unlocks a slot that was locked for reading. -/
def unlockRead (c : Cache δ) (i : Nat) : Cache δ :=
  c.modifySlot i fun s => { s with readers := s.readers - 1 }

namespace Caller

/-- Where a caller goes once the slot that it wants is open. -/
def next (slot : Nat) : Want → Caller
  | .handle => done (.slot slot)
  | .ask a => entering slot a .retry

/-- Where a caller goes that was given a new slot. -/
def begin (slot : Nat) (evicted? previous? : Option Nat) (w : Want) : Caller :=
  match evicted?, previous? with
  | some j, _ => evicting slot j previous? w
  | none, some k => retiring slot k w
  | none, none => choosing slot w

/-- Where a caller goes after making room. -/
def afterEviction (slot : Nat) (previous? : Option Nat) (w : Want) : Caller :=
  match previous? with
  | some k => retiring slot k w
  | none => choosing slot w

/-- Where a caller goes that has some slots to close. -/
def closeNext : List Nat → Caller
  | [] => done .nothing
  | slots => closing slots

/-- Where a caller goes that has some slots to change. -/
def applyNext (on : Bool) : List Nat → Caller
  | [] => done .nothing
  | slots => applying on slots

/-- The work of a caller inside the lock on the residents, if that is where it is going. -/
def visit? (s : CacheState σ δ) : Caller → Option (CacheState σ δ × Caller)
  | finding l w =>
    let (found, cache) := s.cache.find l
    let s := { s with cache }
    match found with
    | .hit i => some (s, next i w)
    | .miss i evicted? previous? =>
      some (s.reportFirst i evicted? previous?, begin i evicted? previous? w)
  | evicted slot j previous? w =>
    let s := s.onCache fun c => (c.settled j).countEviction
    some (s.reportPrevious? previous?, afterEviction slot previous? w)
  | retired slot k w => some (s.onCache (·.settled k), choosing slot w)
  | forgetting slot a => some (s.onCache (·.forget slot), retrying slot a)
  | draining =>
    let (drained, cache) := s.cache.drain
    some (({ s with cache } : CacheState σ δ).reportDrain drained, closeNext drained)
  | closed i rest => some (s.onCache (·.settled i), closeNext rest)
  | collecting on => some (s, applyNext on s.cache.residentSlots)
  | peeking l => some (s, done (.flag (s.cache.contains l)))
  | _ => none

/-- The next lookup or the start of a query, with a dictionary at hand. -/
def question (b : Backend σ δ) (s : CacheState σ δ) (slot : Nat) (d : δ) :
    Ask → CacheState σ δ × Caller
  | .contains [] => (s, leaving slot (.reply (.flag false)))
  | .contains (word :: rest) =>
    let s := s.note slot (.lookedUp word)
    match b.contains d word with
    | .ok false => (s, asking slot (.contains rest))
    | found => (s, leaving slot (.ofOutcome .reply (.ofFlag found)))
  | .suggest q session => (s.note slot (.queried q.composed.word session), answering slot q session)
  | .hasMain => (s, leaving slot (.ofOutcome .reply (.ofFlag (b.hasMain d))))

/-- Where a caller goes that locked a slot for reading to ask it something. -/
def entered (s : CacheState σ δ) (slot : Nat) (a : Ask) (f : Fallback) : Caller :=
  match s.cache.phase slot, f with
  | .ready _, _ => asking slot a
  | .loading, .retry => forgetting slot a
  | .closed, .retry => retrying slot a
  | _, .answer => leaving slot (.reply (a.ofClosed (s.cache.localeOf slot)))

/-- One step of a caller outside the lock on the residents, if it is possible. -/
def stride (b : Backend σ δ) (s : CacheState σ δ) : Caller → Option (CacheState σ δ × Caller)
  | evicting slot j previous? w =>
    if s.cache.canWrite j then some (s.shut b j, evicted slot j previous? w) else none
  | retiring slot k w =>
    if s.cache.canWrite k then some (s.shut b k, retired slot k w) else none
  | choosing slot w => some (s, opening slot s.cache.useContacts w)
  | opening slot contacts w =>
    match s.fill b slot contacts with
    | (none, s) => some (s, next slot w)
    | (some message, s) => some (s, done (.broken message))
  | entering slot a f =>
    if s.cache.canRead slot then
      some (s.onCache (·.lockRead slot), entered s slot a f)
    else none
  | asking slot a =>
    match s.cache.phase slot with
    | .ready (.dictionary d) => some (question b s slot d a)
    | .ready (.unavailable _) => some (s, leaving slot (.reply a.ofUnavailable))
    | _ => none
  | answering slot q session =>
    match s.cache.phase slot with
    | .ready (.dictionary d) =>
      some (s, leaving slot (.ofOutcome .reply (b.suggest d q session).outcome))
    | _ => none
  | retrying slot a =>
    let l := s.cache.localeOf slot
    some ((s.onCache (·.unlockRead slot)).reportRetry l, finding l (.ask a))
  | leaving slot answer => some (s.onCache (·.unlockRead slot), done answer)
  | inspecting slot =>
    if s.cache.canRead slot then
      some (s, done (.flag (match s.cache.phase slot with
        | .closed => true
        | _ => false)))
    else none
  | closing (i :: rest) =>
    if s.cache.canWrite i then some (s.shut b i, closed i rest) else none
  | closing [] => some (s, done .nothing)
  | switching on => some (s.onCache fun c => { c with useContacts := on }, collecting on)
  | applying on (i :: rest) =>
    if s.cache.canWrite i then some (s.switchContacts b on i, applyNext on rest) else none
  | applying _ [] => some (s, done .nothing)
  | _ => none

/-- Whether a caller is going into the lock on the residents. -/
def visits : Caller → Bool
  | finding .. | evicted .. | retired .. | forgetting .. | draining | closed .. | collecting _
  | peeking _ => true
  | _ => false

/-- One step of the caller of some number, if it is possible. -/
def step (b : Backend σ δ) (n : Nat) (s : CacheState σ δ) (c : Caller) :
    Option (CacheState σ δ × Caller) :=
  if c.visits then
    match s.cache.lockedBy? with
    | none => some (s.onCache fun cache => { cache with lockedBy? := some n }, c)
    | some m =>
      if m = n then
        (c.visit? s).map fun (s, c) =>
          (s.onCache fun cache => { cache with lockedBy? := none }, c)
      else none
  else c.stride b s

/-- What a caller came to, if it is done. -/
def answer? : Caller → Option Answer
  | done a => some a
  | _ => none

/-- The slot that a caller is waiting to lock for writing, if it is at that place. -/
def wantsWrite? : Caller → Option Nat
  | evicting _ j _ _ => some j
  | retiring _ k _ => some k
  | closing (i :: _) => some i
  | applying _ (i :: _) => some i
  | _ => none

/-- The slot that a caller is waiting to lock for reading, if it is at that place. -/
def wantsRead? : Caller → Option Nat
  | entering slot _ _ => some slot
  | inspecting slot => some slot
  | _ => none

end Caller

/-- A cache and its callers. -/
structure Crowd (σ δ : Type) where
  state : CacheState σ δ
  callers : List Caller := []

namespace Crowd

/-- One step of one caller, if it is possible. -/
def step (b : Backend σ δ) (c : Crowd σ δ) (n : Nat) : Option (Crowd σ δ) :=
  match c.callers[n]? with
  | none => none
  | some caller =>
    (caller.step b n c.state).map fun (state, caller) => ⟨state, c.callers.set n caller⟩

/-- A caller more, who begins a call. -/
def arrive (c : Crowd σ δ) (call : Call) : Crowd σ δ :=
  { c with callers := c.callers ++ [call.start] }

end Crowd

end Spelling.Cache
