import Spelling.Cache.Caller
import Spelling.Rehearsal

/-!
# Cache rehearsals

A script on a cache.  Slots that are handed out are kept under names, from the moment that their
callers have them.  A query for the corrections of the word `!wait` waits until its caller is let
go, and a caller that wants to read a slot lets those go first that wait to write to it.

A step is read when its turn comes, and what is noted meanwhile is reported then.  `ε` is what a
script says about a step that could not be read.  A step on a name that no slot has is not read any
further than the name.
-/

namespace Spelling.Cache

open Rehearsal (Begun Stage)

/-- A call of a script. -/
inductive Act (ε : Type) where
  | resolve (l : Locale) (name? : Option String)
  | ask (l : Locale) (a : Ask)
  | askSlot (name : String) (a : Logged (Except ε Ask))
  | isClosed (name : String)
  | localeOf (name : String)
  | same (name other : String)
  | contains (l : Locale)
  | setContacts (on : Bool)
  | closeAll
  | view
  | refused (e : ε)

/-- How a cache is seen from outside. -/
structure View where
  size : Nat
  capacity : Nat
  useContacts : Bool
  stats : CacheStats
  deriving DecidableEq, Repr

/-- What a call of a script comes to. -/
inductive Said (ε : Type) where
  | locale (l : Locale)
  | reply (r : Reply)
  | flag (b : Bool)
  | nothing
  | view (v : View)
  /-- No slot has the name -/
  | unnamed
  | broken (message : String)
  | endless
  | refused (e : ε)

/-- A script under way: the slots under their names, and the cache with its callers. -/
structure Rehearsed (σ δ : Type) where
  names : List (String × Nat) := []
  crowd : Crowd σ δ
  /-- Callers with the names under which the slots are kept that they are handed out -/
  naming : List (Nat × String) := []
  /-- Callers whose waiting queries were let go -/
  released : List Nat := []

/-- What becomes of a call: the script answers itself, or a caller makes it. -/
inductive Plan (ε : Type) where
  | answer (s : Said ε)
  | call (c : Call)

variable {σ δ ε : Type}

/-- The name under which the slot is kept that a call hands out. -/
def Act.name? : Act ε → Option String
  | resolve _ name? => name?
  | _ => none

/-- The call for what is asked of a slot, once it was read. -/
def Plan.ask (slot : Nat) : Except ε Ask → Plan ε
  | .ok a => call (.askSlot slot a)
  | .error e => answer (.refused e)

/-- A cache as it is seen from outside. -/
def view (c : Cache δ) : View :=
  ⟨c.size, c.capacity, c.useContacts, c.stats⟩

namespace Rehearsed

/-- A script before its first step. -/
def ofState (s : CacheState σ δ) : Rehearsed σ δ := { crowd := ⟨s, []⟩ }

/-- The cache of a script. -/
def cache (r : Rehearsed σ δ) : Cache δ := r.crowd.state.cache

/-- The script with another state of its cache. -/
def withState (r : Rehearsed σ δ) (s : CacheState σ δ) : Rehearsed σ δ :=
  { r with crowd := { r.crowd with state := s } }

/-- Reports what was noted while a step was read. -/
def report (r : Rehearsed σ δ) (records : List Record) : Rehearsed σ δ :=
  r.withState { r.crowd.state with world := r.crowd.state.world.report records }

/-- Plans a call on a named slot. -/
def onSlot (r : Rehearsed σ δ) (name : String) (f : Nat → Logged (Plan ε)) : Logged (Plan ε) :=
  match r.names.lookup name with
  | some i => f i
  | none => pure (.answer .unnamed)

/-- Plans a call of the script. -/
def plan (r : Rehearsed σ δ) : Act ε → Logged (Plan ε)
  | .resolve l _ => pure (.call (.resolve l))
  | .ask l a => pure (.call (.ask l a))
  | .askSlot name a => r.onSlot name fun i => Plan.ask i <$> a
  | .isClosed name => r.onSlot name fun i => pure (.call (.isClosed i))
  | .localeOf name => r.onSlot name fun i => pure (.answer (.locale (r.cache.localeOf i)))
  | .same name other =>
    r.onSlot name fun i => r.onSlot other fun j => pure (.answer (.flag (i == j)))
  | .contains l => pure (.call (.contains l))
  | .setContacts on => pure (.call (.setContacts on))
  | .closeAll => pure (.call .closeAll)
  | .view => pure (.answer (.view r.cache.view))
  | .refused e => pure (.answer (.refused e))

/-- Plans the call of a step that was read, and reports what was noted meanwhile. -/
def planned (r : Rehearsed σ δ) (a : Logged (Act ε)) : Plan ε × Rehearsed σ δ :=
  let p := a >>= r.plan
  (p.value, r.report p.records)

/-- Keeps the slot that a call handed out, if it is to have a name.  Another slot that had the name
is kept no longer. -/
def keep (r : Rehearsed σ δ) (name? : Option String) (a : Answer) : Rehearsed σ δ :=
  match name?, a with
  | some name, .slot i => { r with names := (name, i) :: r.names.filter (·.1 != name) }
  | _, _ => r

/-- What the script says about the answer of a call. -/
def said (r : Rehearsed σ δ) : Answer → Said ε
  | .slot i => .locale (r.cache.localeOf i)
  | .reply reply => .reply reply
  | .flag b => .flag b
  | .nothing => .nothing
  | .broken message => .broken message
  | .endless => .endless

/-- Makes a call when nobody is under way. -/
def alone (b : Backend σ δ) (r : Rehearsed σ δ) (a : Logged (Act ε)) :
    Said ε × Rehearsed σ δ :=
  match r.planned a with
  | (.answer s, r) => (s, r)
  | (.call c, r) =>
    let (answer, state) := c.run b r.crowd.state
    let r := (r.withState state).keep a.value.name? answer
    (r.said answer, r)

/-- Begins a call beside those under way. -/
def begin (r : Rehearsed σ δ) (a : Logged (Act ε)) :
    Begun (Logged (Act ε)) (Said ε) × Rehearsed σ δ :=
  match r.planned a with
  | (.answer s, r) => (.answered s, r)
  | (.call c, r) =>
    let n := r.crowd.callers.length
    let naming := a.value.name?.toList.map fun name => (n, name)
    (.caller n a, { r with crowd := r.crowd.arrive c, naming := naming ++ r.naming })

/-- What a caller came to, if it is done. -/
def answer? (r : Rehearsed σ δ) (n : Nat) : Option Answer :=
  (r.crowd.callers[n]?).bind Caller.answer?

/-- Whether a caller's query waits to be let go. -/
def isParked (r : Rehearsed σ δ) (n : Nat) : Caller → Bool
  | .answering _ q _ => q.composed.word == Backend.waitWord && !r.released.contains n
  | _ => false

/-- Whether a caller wants to read a slot that another waits to write to. -/
def yields (r : Rehearsed σ δ) (c : Caller) : Bool :=
  match c.wantsRead? with
  | some i => r.crowd.callers.any fun other => other.wantsWrite? == some i
  | none => false

/-- One step of a caller, if it is possible and the caller neither waits nor yields. -/
def step (b : Backend σ δ) (n : Nat) (r : Rehearsed σ δ) : Option (Rehearsed σ δ) :=
  match r.crowd.callers[n]? with
  | none => none
  | some c =>
    if r.isParked n c || r.yields c then none
    else (r.crowd.step b n).map fun crowd =>
      let r := { r with crowd }
      match r.answer? n with
      | some a => r.keep (r.naming.lookup n) a
      | none => r

/-- A cache as the stage of a script. -/
def stage (b : Backend σ δ) : Stage (Rehearsed σ δ) (Logged (Act ε)) (Said ε) where
  alone := alone b
  begin := begin
  callers r := r.crowd.callers.length
  steps r := 8 * r.cache.slots.length + 64
  step := step b
  result? r n _ := (r.answer? n).map fun a => (r.said a, r)
  endless := .endless
  release n r := { r with released := n :: r.released }
  outwait _ r := r
  clear r := { r with crowd := { r.crowd with callers := [] }, naming := [], released := [] }
  events r := r.crowd.state.world.events

end Rehearsed

end Spelling.Cache
