import Spelling.Rehearsal
import Spelling.Service.Caller

/-!
# Service rehearsals

A script on a service.  A query for the corrections of the word `!wait` waits until its caller is
let go, and a caller that wants to read a slot of a cache lets those go first that wait to write to
it.  A caller that waits at the gate longer than its call allows gives up, at once if no time is
allowed.

A step is read when its turn comes, and what is noted meanwhile is reported then.  `ε` is what
a script says about a step that could not be read.
-/

namespace Spelling.Service

open Rehearsal (Begun Stage)

/-- What was typed, after which words and on which keyboard. -/
structure Typing where
  composed : Composed
  context : Context
  keyboard : Keyboard

/-- A call of a script. -/
inductive Act (ε : Type) where
  | isValid (l : Locale) (word : String)
  | isValidAnywhere (word : String) (c : Capitalization)
  | suggest (l : Locale) (t : Typing) (patience : Patience)
  /-- The verdict from the corrections, with some of them at most -/
  | verdict (l : Locale) (t : Typing) (patience : Patience) (max : Nat)
  | hasMain (l : Locale)
  | closeAll
  | setContacts (on : Bool)
  | refresh (locales : List Locale)
  | view
  | refused (e : ε)

/-- How a service is seen from outside. -/
structure View where
  enabled : List Locale
  settings : Settings
  waiting : Nat
  idleSessions : Nat
  stats : CacheStats

/-- What a call of a script comes to. -/
inductive Said (ε : Type) where
  | flag (b : Bool)
  | results (r : Results)
  | verdict (v : Verdict)
  | nothing
  | timeout (requested : Nat)
  | view (v : View)
  | broken (message : String)
  | endless
  | refused (e : ε)

/-- A script under way. -/
structure Rehearsed (σ δ : Type) where
  crowd : Crowd σ δ
  /-- Milliseconds that passed -/
  now : Nat := 0
  /-- When callers give up that wait at the gate -/
  deadlines : List (Nat × Nat) := []
  /-- Callers whose waiting queries were let go -/
  released : List Nat := []

/-- What becomes of a call: the script answers itself, or a caller makes it. -/
inductive Begins (ε : Type) where
  | answer (s : Said ε)
  | call (c : Call)

variable {σ δ ε : Type}

/-- A service and its gate as they are seen from outside. -/
def Crowd.view (c : Crowd σ δ) : View :=
  { enabled := c.service.enabled.locales
    settings := c.service.settings
    waiting := c.gate.waiting
    idleSessions := c.service.sessions.available
    stats := (c.service.cacheState single).cache.stats }

namespace Rehearsed

/-- A script before its first step. -/
def ofService (s : Service σ δ) : Rehearsed σ δ := { crowd := .ofService s }

/-- The script with another state of its service. -/
def withService (r : Rehearsed σ δ) (s : Service σ δ) : Rehearsed σ δ :=
  { r with crowd := { r.crowd with service := s } }

/-- Reports what was noted while a step was read. -/
def report (r : Rehearsed σ δ) (records : List Record) : Rehearsed σ δ :=
  let s := r.crowd.service
  r.withService { s with world := s.world.report records }

/-- The call for the corrections of what was typed. -/
def suggestion (l : Locale) (t : Typing) (patience : Patience) : Call :=
  .suggest l t.composed t.context t.keyboard patience

/-- Plans a call of the script. -/
def plan (r : Rehearsed σ δ) : Act ε → Begins ε
  | .isValid l word => .call (.isValid l word)
  | .isValidAnywhere word c => .call (.isValidAnywhere word c)
  | .suggest l t patience => .call (suggestion l t patience)
  | .verdict l t patience _ => .call (suggestion l t patience)
  | .hasMain l => .call (.hasMain l)
  | .closeAll => .call .closeAll
  | .setContacts on => .call (.setContacts on)
  | .refresh locales => .call (.refresh locales)
  | .view => .answer (.view r.crowd.view)
  | .refused e => .answer (.refused e)

/-- What the script says about the answer of a call. -/
def conclude (r : Rehearsed σ δ) (a : Act ε) : Answer → Said ε
  | .results results =>
    match a with
    | .verdict l t _ max => .verdict (r.crowd.service.verdict t.composed.word l results max)
    | _ => .results results
  | .flag b => .flag b
  | .nothing => .nothing
  | .timeout requested => .timeout requested
  | .broken message => .broken message
  | .endless => .endless

/-- Makes a call when nobody is under way. -/
def alone (b : Backend σ δ) (r : Rehearsed σ δ) (a : Logged (Act ε)) :
    Said ε × Rehearsed σ δ :=
  let r := r.report a.records
  match r.plan a.value with
  | .answer s => (s, r)
  | .call c =>
    let (answer, service) := c.run b r.crowd.service
    let r := r.withService service
    (r.conclude a.value answer, r)

/-- Begins a call beside those under way. -/
def begin (r : Rehearsed σ δ) (a : Logged (Act ε)) :
    Begun (Logged (Act ε)) (Said ε) × Rehearsed σ δ :=
  let r := r.report a.records
  match r.plan a.value with
  | .answer s => (.answered s, r)
  | .call c =>
    let n := r.crowd.callers.length
    let limit? := c.timeLimit? r.crowd.service.settings
    let deadlines := limit?.toList.map fun ms => (n, r.now + ms)
    (.caller n a, { r with crowd := r.crowd.arrive c, deadlines := deadlines ++ r.deadlines })

/-- Whether a caller's query waits to be let go. -/
def isParked (r : Rehearsed σ δ) (n : Nat) : Caller → Bool
  | .working _ (.answering _ q _) _ _ =>
    q.composed.word == Backend.waitWord && !r.released.contains n
  | _ => false

/-- The slot of a cache that a caller waits to lock for writing. -/
def wantsWrite? : Caller → Option (Nat × Nat)
  | .working i c _ _ => c.wantsWrite?.map fun slot => (i, slot)
  | _ => none

/-- The slot of a cache that a caller waits to lock for reading. -/
def wantsRead? : Caller → Option (Nat × Nat)
  | .working i c _ _ => c.wantsRead?.map fun slot => (i, slot)
  | _ => none

/-- Whether a caller wants to read a slot that another waits to write to. -/
def yields (r : Rehearsed σ δ) (c : Caller) : Bool :=
  match wantsRead? c with
  | some slot => r.crowd.callers.any fun other => wantsWrite? other == some slot
  | none => false

/-- A caller that waits at the gate gives up, if its time is up. -/
def giveUp (b : Backend σ δ) (n : Nat) (r : Rehearsed σ δ) : Option (Rehearsed σ δ) :=
  match r.deadlines.lookup n with
  | some t =>
    if t ≤ r.now then
      ((r.crowd.step b n .rouse).bind (·.step b n .giveUp)).map fun crowd => { r with crowd }
    else none
  | none => none

/-- A caller goes on, if it can and is neither held nor yields. -/
def goOn (b : Backend σ δ) (n : Nat) (r : Rehearsed σ δ) (c : Caller) : Option (Rehearsed σ δ) :=
  if r.isParked n c || r.yields c then none
  else (r.crowd.step b n .go).map fun crowd => { r with crowd }

/-- One step of a caller, if it is possible. -/
def step (b : Backend σ δ) (n : Nat) (r : Rehearsed σ δ) : Option (Rehearsed σ δ) :=
  match r.crowd.callers[n]? with
  | none => none
  | some c => (r.goOn b n c).or (r.giveUp b n)

/-- More steps than one caller takes: some for each slot of its caches and each enabled locale. -/
def stepLimit (r : Rehearsed σ δ) : Nat :=
  let s := r.crowd.service
  let slots := s.caches.foldl (fun n c => n + c.slots.length) 0
  8 * slots + 64 * (s.enabled.locales.length + 2)

/-- Whether a caller waits at the gate. -/
def isWaiting : Caller → Bool
  | .entering _ (.waiting _ _) => true
  | _ => false

/-- Lets time pass until that of a caller is up, if it waits at the gate and gives up after a
while. -/
def outwait (n : Nat) (r : Rehearsed σ δ) : Rehearsed σ δ :=
  match r.crowd.callers[n]?, r.deadlines.lookup n with
  | some c, some t => if isWaiting c then { r with now := max r.now t } else r
  | _, _ => r

/-- A service as the stage of a script. -/
def stage (b : Backend σ δ) : Stage (Rehearsed σ δ) (Logged (Act ε)) (Said ε) where
  alone := alone b
  begin := begin
  callers r := r.crowd.callers.length
  steps := stepLimit
  step := step b
  result? r n a :=
    ((r.crowd.callers[n]?).bind Caller.answer?).map fun x => (r.conclude a.value x, r)
  endless := .endless
  release n r := { r with released := n :: r.released }
  outwait := outwait
  clear r := { r with crowd := { r.crowd with callers := [] }, deadlines := [], released := [] }
  events r := r.crowd.service.world.events

end Rehearsed

end Spelling.Service
