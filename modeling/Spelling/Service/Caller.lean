import Spelling.Cache.Caller
import Spelling.Gate.Caller
import Spelling.Service.Calls

/-!
# Callers of the service

What one caller of a service does, step by step, when others are at work too.  Every query holds one
permit of the gate while it reads dictionaries, and every reconfiguration holds all of them.

    place         what happens
    entering      a step of the caller at the gate, until it holds its permits
    leasing       takes a session number
    looking       reads which locales are enabled, unless they are being replaced
    working       a step of a call on one of the caches
    comparing     locks the enabled locales and looks whether they change
    replacing     replaces them and unlocks
    restoring     gives the session number back
    exiting       gives the permits back
    announcing    wakes those who wait for permits

A call that breaks off in a cache gives back its session number and its permits like any other.
-/

namespace Spelling.Service

/-- What a caller does with the enabled locales it read. -/
inductive Plan where
  /-- Look for one in which a word is right -/
  | search (word : String) (c : Capitalization)
  /-- Close their dictionaries -/
  | close
  /-- Turn their contacts on or off -/
  | contacts (on : Bool)

/-- What a caller does when its call on a cache is done. -/
inductive After where
  /-- The flag is the answer -/
  | flag
  /-- The corrections are the answer, and a session number is to be given back -/
  | corrections (typed : String) (l : Locale) (session : Nat)
  /-- Go on to the next locale unless the word was found in this one -/
  | search (word : String) (c : Capitalization) (cache : Nat) (l : Locale) (rest : List Locale)
    (all : List Locale)
  /-- Read the enabled locales, for them to follow -/
  | look (p : Plan)
  /-- Report that everything is closed -/
  | closed
  /-- Report that the contacts were turned on or off -/
  | contacts (on : Bool)
  /-- Replace the enabled locales -/
  | replace (locales : List Locale)

/-- Where a caller is. -/
inductive Caller where
  | entering (call : Call) (g : Gate.Caller)
  | leasing (l : Locale) (composed : Composed) (context : Context) (keyboard : Keyboard)
    (p : Permit)
  | looking (plan : Plan) (p : Permit)
  | working (cache : Nat) (c : Cache.Caller) (after : After) (p : Permit)
  | comparing (locales : List Locale) (p : Permit)
  | replacing (locales : List Locale) (p : Permit)
  | restoring (session : Nat) (a : Answer) (p : Permit)
  | exiting (a : Answer) (p : Permit)
  | announcing (a : Answer)
  | done (a : Answer)

/-- A service, its gate and its callers. -/
structure Crowd (σ δ : Type) where
  service : Service σ δ
  gate : Gate
  /-- The caller that locks the enabled locales -/
  lockedBy? : Option Nat := none
  callers : List Caller := []

variable {σ δ : Type}

/-- A service that nobody calls, with all permits there. -/
def Crowd.ofService (s : Service σ δ) : Crowd σ δ :=
  { service := s, gate := .ofCapacity s.settings.maxReaders.1 }

/-- Milliseconds that the caller of a call waits for its permits before it gives up, if it ever
does. -/
def Call.timeLimit? (s : Settings) : Call → Option Nat
  | suggest _ _ _ _ .usual => s.permitTimeout?
  | suggest _ _ _ _ (.atMost ms) => some ms
  | _ => none

/-- The permits that a call needs: all of them for a reconfiguration, and else one. -/
def Call.request (s : Settings) (g : Gate) (call : Call) : Gate.Request :=
  match call with
  | closeAll | setContacts _ | refresh _ => ⟨g.capacity, false⟩
  | _ => ⟨1, (call.timeLimit? s).isSome⟩

/-- Where the caller of a call is at first. -/
def Call.start (s : Settings) (g : Gate) (call : Call) : Caller :=
  .entering call (.arriving (call.request s g))

/-- What a caller answers that gave up waiting.  A usual query for corrections has none then, and
reports it. -/
def giveUp (s : Service σ δ) (call : Call) (requested : Nat) : Service σ δ × Answer :=
  match call with
  | .suggest l _ _ _ .usual =>
    (s.report .warn .service ("skipping suggestions for " ++ l.display ++
      ": could not acquire " ++ toString requested ++ " gate permit(s) within " ++
      toString (s.settings.permitTimeout?.getD 0) ++ "ms"), .results .none)
  | _ => (s, .timeout requested)

namespace Caller

/-- Where a caller goes that holds the permits of its call. -/
def begin (p : Permit) : Call → Caller
  | .isValid l word =>
    working single (Cache.Call.ask l (.contains [word])).start .flag p
  | .isValidAnywhere word c => looking (.search word c) p
  | .suggest l composed context keyboard _ => leasing l composed context keyboard p
  | .hasMain l => working single (Cache.Call.ask l .hasMain).start .flag p
  | .closeAll => working single Cache.Call.closeAll.start (.look .close) p
  | .setContacts on => working single (Cache.Call.setContacts on).start (.look (.contacts on)) p
  | .refresh locales => comparing locales p

/-- Where a caller goes that looks for a word in some locales, and what it reports if there are
none. -/
def search (s : Service σ δ) (word : String) (c : Capitalization) (cache : Nat)
    (all : List Locale) (p : Permit) : List Locale → Service σ δ × Caller
  | [] => (s.reportUnknown word all, exiting (.flag false) p)
  | l :: rest =>
    (s, working cache (Cache.Call.ask l (.contains (c.variants l word))).start
      (.search word c cache l rest all) p)

/-- Where a caller goes that read the enabled locales. -/
def follow (s : Service σ δ) (p : Permit) : Plan → Service σ δ × Caller
  | .search word c => search s word c s.enabled.cache s.enabled.locales p s.enabled.locales
  | .close => (s, working s.enabled.cache Cache.Call.closeAll.start .closed p)
  | .contacts on =>
    (s, working s.enabled.cache (Cache.Call.setContacts on).start (.contacts on) p)

/-- Whether a question was answered with yes. -/
def isFound : Cache.Answer → Bool
  | .reply r => r.toFlag
  | _ => false

/-- What a call on a cache came to, if it is a question. -/
def outcomeOf : Cache.Answer → Outcome Reply
  | .reply r => .returned r
  | .broken message => .broken message
  | _ => .endless

/-- Where a caller goes whose call on a cache is done. -/
def conclude (s : Service σ δ) (a : Cache.Answer) (p : Permit) : After → Service σ δ × Caller
  | .flag => (s, exiting (.ofOutcome (fun r => .flag (Reply.toFlag r)) (outcomeOf a)) p)
  | .corrections typed l session =>
    let (o, s) := s.corrections typed l (outcomeOf a)
    (s, restoring session (.ofOutcome .results o) p)
  | .search word c cache l rest all =>
    match outcomeOf a with
    | .returned r =>
      if r.toFlag then (s.reportFound word l, exiting (.flag true) p)
      else search s word c cache all p rest
    | .broken message => (s, exiting (.broken message) p)
    | .endless => (s, exiting .endless p)
  | .look plan => (s, looking plan p)
  | .closed => (s.reportClosed, exiting .nothing p)
  | .contacts on => (s.reportContacts on, exiting .nothing p)
  | .replace locales => (s, replacing locales p)

/-- What a caller came to, if it is done. -/
def answer? : Caller → Option Answer
  | done a => some a
  | _ => none

end Caller

namespace Crowd

/-- A step of a caller at the gate. -/
def stepAtGate (c : Crowd σ δ) (call : Call) (g : Gate.Caller) (m : Gate.Move) :
    Option (Crowd σ δ × Caller) :=
  match g, m with
  | .holding p, .go => some (c, .begin p call)
  | .gone r, .go =>
    let (service, a) := giveUp c.service call r.count
    some ({ c with service }, .done a)
  | .refused r, .go => some (c, .done (.broken (c.gate.refusal r.count)))
  | g, m => (g.step c.gate m).map fun (gate, g) => ({ c with gate }, .entering call g)

/-- A step of a caller that holds permits, if it is possible. -/
def stepInside (b : Backend σ δ) (c : Crowd σ δ) (n : Nat) : Caller → Option (Crowd σ δ × Caller)
  | .leasing l composed context keyboard p =>
    match c.service.sessions.lend with
    | (none, _) =>
      some ({ c with service := c.service.reportExhausted },
        .exiting (.broken exhaustedMessage) p)
    | (some session, sessions) =>
      let q := c.service.query composed context keyboard
      some ({ c with service := { c.service with sessions } },
        .working single (Cache.Call.ask l (.suggest q session)).start
          (.corrections composed.word l session) p)
  | .looking plan p =>
    if c.lockedBy?.isNone then
      let (service, caller) := Caller.follow c.service p plan
      some ({ c with service }, caller)
    else none
  | .working _ (.done a) after p =>
    let (service, caller) := Caller.conclude c.service a p after
    some ({ c with service }, caller)
  | .working i caller after p =>
    (caller.step b n (c.service.cacheState i)).map fun (s, caller) =>
      ({ c with service := c.service.withCache i s }, .working i caller after p)
  | .comparing locales p =>
    match c.lockedBy? with
    | some _ => none
    | none =>
      if c.service.enabled.locales = locales then some (c, .exiting (.flag false) p)
      else
        some ({ c with lockedBy? := some n },
          .working c.service.enabled.cache Cache.Call.closeAll.start (.replace locales) p)
  | .replacing locales p =>
    some ({ c with service := c.service.enable locales, lockedBy? := none },
      .exiting (.flag true) p)
  | .restoring session a p =>
    let sessions := c.service.sessions.takeBack session
    some ({ c with service := { c.service with sessions } }, .exiting a p)
  | .exiting a p => some ({ c with gate := c.gate.release p.count }, .announcing a)
  | .announcing a => some ({ c with gate := c.gate.wakeAll }, .done a)
  | _ => none

/-- What one caller does next, if its move is possible. -/
def stepOf (b : Backend σ δ) (c : Crowd σ δ) (n : Nat) (m : Gate.Move) :
    Caller → Option (Crowd σ δ × Caller)
  | .entering call g => c.stepAtGate call g m
  | caller =>
    match m with
    | .go => c.stepInside b n caller
    | _ => none

/-- One step of one caller, if its move is possible. -/
def step (b : Backend σ δ) (c : Crowd σ δ) (n : Nat) (m : Gate.Move) : Option (Crowd σ δ) :=
  match c.callers[n]? with
  | none => none
  | some caller =>
    (c.stepOf b n m caller).map fun (c, caller) => { c with callers := c.callers.set n caller }

/-- A caller more, who begins a call. -/
def arrive (c : Crowd σ δ) (call : Call) : Crowd σ δ :=
  { c with callers := c.callers ++ [call.start c.service.settings c.gate] }

end Crowd

end Spelling.Service
