import Spelling.Service.Basic

/-!
# Calls on a service, one at a time

What each call on a service comes to when no other call is under way, so that its permits are
granted at once.  A call that breaks off inside a dictionary gives back its session number all the
same.
-/

namespace Spelling

namespace Outcome

/-- Changes what a call returns. -/
def map {α β : Type} (f : α → β) : Outcome α → Outcome β
  | returned a => returned (f a)
  | broken message => broken message
  | endless => endless

end Outcome

/-- The flag that a dictionary answers with, for a question that has one. -/
def Reply.toFlag : Reply → Bool
  | flag b => b
  | results _ | failed _ => false

/-- How long a query for corrections waits for its permit. -/
inductive Patience where
  /-- As the settings say; without a permit there are no corrections -/
  | usual
  /-- At most some milliseconds; without a permit the query fails -/
  | atMost (ms : Nat)
  deriving DecidableEq, Repr

namespace Service

/-- A call on a service. -/
inductive Call where
  /-- Whether a word is right in a locale, as it is -/
  | isValid (l : Locale) (word : String)
  /-- Whether a word is right in an enabled locale, in one of its spellings -/
  | isValidAnywhere (word : String) (c : Capitalization)
  /-- Corrections of what was typed -/
  | suggest (l : Locale) (composed : Composed) (context : Context) (keyboard : Keyboard)
    (patience : Patience)
  /-- Whether the main list of a locale is loaded -/
  | hasMain (l : Locale)
  /-- Closes every dictionary -/
  | closeAll
  /-- Turns the contacts on or off -/
  | setContacts (on : Bool)
  /-- Replaces the enabled locales -/
  | refresh (locales : List Locale)

/-- What a call on a service comes to. -/
inductive Answer where
  | flag (b : Bool)
  | results (r : Results)
  | nothing
  /-- No permit was granted in time -/
  | timeout (requested : Nat)
  /-- The call broke off -/
  | broken (message : String)
  /-- The call did not end in its rounds -/
  | endless
  deriving DecidableEq, Repr

/-- The answer of a call, from what it came to. -/
def Answer.ofOutcome {α : Type} (f : α → Answer) : Outcome α → Answer
  | .returned a => f a
  | .broken message => broken message
  | .endless => endless

variable {σ δ : Type}

/-- Asks the dictionary of a locale in one of the caches. -/
def ask (b : Backend σ δ) (i : Nat) (l : Locale) (a : Ask) (s : Service σ δ) :
    Outcome Reply × Service σ δ :=
  let (o, c) := (s.cacheState i).ask b l a
  (o, s.withCache i c)

/-- Whether a word is right in a locale, as it is. -/
def isValid (b : Backend σ δ) (l : Locale) (word : String) (s : Service σ δ) :
    Outcome Bool × Service σ δ :=
  let (o, s) := s.ask b single l (.contains [word])
  (o.map Reply.toFlag, s)

/-- Whether the main list of a locale is loaded. -/
def hasMain (b : Backend σ δ) (l : Locale) (s : Service σ δ) : Outcome Bool × Service σ δ :=
  let (o, s) := s.ask b single l .hasMain
  (o.map Reply.toFlag, s)

/-- Looks for a locale in which one of the spellings of a word is right. -/
def findLocale (b : Backend σ δ) (cache : Nat) (word : String) (c : Capitalization) :
    List Locale → Service σ δ → Outcome (Option Locale) × Service σ δ
  | [], s => (.returned none, s)
  | l :: rest, s =>
    match s.ask b cache l (.contains (c.variants l word)) with
    | (.returned r, s) =>
      if r.toFlag then (.returned (some l), s) else findLocale b cache word c rest s
    | (.broken message, s) => (.broken message, s)
    | (.endless, s) => (.endless, s)

/-- Whether a word is right in an enabled locale, in one of the spellings of its class. -/
def isValidAnywhere (b : Backend σ δ) (word : String) (c : Capitalization) (s : Service σ δ) :
    Outcome Bool × Service σ δ :=
  match s.findLocale b s.enabled.cache word c s.enabled.locales with
  | (.returned (some l), s) => (.returned true, s.reportFound word l)
  | (.returned none, s) => (.returned false, s.reportUnknown word s.enabled.locales)
  | (.broken message, s) => (.broken message, s)
  | (.endless, s) => (.endless, s)

/-- The corrections that a dictionary answered with; a failure is reported, and then there are
none. -/
def corrections (typed : String) (l : Locale) (s : Service σ δ) :
    Outcome Reply → Outcome Results × Service σ δ
  | .returned (.results r) => (.returned r, s)
  | .returned (.failed e) => (.returned .none, s.reportFailure typed l e)
  | .returned (.flag _) => (.returned .none, s)
  | .broken message => (.broken message, s)
  | .endless => (.endless, s)

/-- Corrections of what was typed, best first. -/
def suggest (b : Backend σ δ) (l : Locale) (composed : Composed) (context : Context)
    (keyboard : Keyboard) (s : Service σ δ) : Outcome Results × Service σ δ :=
  match s.sessions.lend with
  | (none, _) => (.broken exhaustedMessage, s.reportExhausted)
  | (some session, sessions) =>
    let s := { s with sessions }
    let (o, s) := s.ask b single l (.suggest (s.query composed context keyboard) session)
    let (o, s) := s.corrections composed.word l o
    (o, { s with sessions := s.sessions.takeBack session })

/-- Closes every dictionary. -/
def closeAll (b : Backend σ δ) (s : Service σ δ) : Service σ δ :=
  let s := s.withCache single ((s.cacheState single).closeAll b)
  let i := s.enabled.cache
  (s.withCache i ((s.cacheState i).closeAll b)).reportClosed

/-- Turns the contacts on or off, in loaded dictionaries and in those loaded later. -/
def setContacts (b : Backend σ δ) (on : Bool) (s : Service σ δ) : Service σ δ :=
  let s := s.withCache single ((s.cacheState single).setContacts b on)
  let i := s.enabled.cache
  (s.withCache i ((s.cacheState i).setContacts b on)).reportContacts on

/-- Replaces the enabled locales if they changed, and tells whether they did. -/
def refresh (b : Backend σ δ) (locales : List Locale) (s : Service σ δ) : Bool × Service σ δ :=
  if s.enabled.locales = locales then (false, s)
  else
    let i := s.enabled.cache
    (true, (s.withCache i ((s.cacheState i).closeAll b)).enable locales)

/-- What a call comes to when no other is under way. -/
def Call.run (b : Backend σ δ) (s : Service σ δ) : Call → Answer × Service σ δ
  | isValid l word => let (o, s) := s.isValid b l word; (.ofOutcome .flag o, s)
  | isValidAnywhere word c => let (o, s) := s.isValidAnywhere b word c; (.ofOutcome .flag o, s)
  | suggest l composed context keyboard _ =>
    let (o, s) := s.suggest b l composed context keyboard
    (.ofOutcome .results o, s)
  | hasMain l => let (o, s) := s.hasMain b l; (.ofOutcome .flag o, s)
  | closeAll => (.nothing, s.closeAll b)
  | setContacts on => (.nothing, s.setContacts b on)
  | refresh locales => let (changed, s) := s.refresh b locales; (.flag changed, s)

end Service

end Spelling
