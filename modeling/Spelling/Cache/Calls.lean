import Spelling.Cache.Ask

/-!
# Calls on a cache, one at a time

What each call on a cache comes to when no other call is under way, so that no lock is ever waited
for.  Asking for a dictionary in a slot whose opening broke off forgets the slot and asks again; the
number of rounds is given, and a call that would go on beyond them is `endless`.

`resolve` hands out the slot of a locale.  A slot that was handed out may be closed later by others;
what is then asked of it is answered as for a closed dictionary.  `ask` keeps to an open dictionary.
-/

namespace Spelling.CacheState

variable {σ δ : Type}

/-- Closes the slot that has to make room for a new one. -/
def closeEvicted (b : Backend σ δ) (evicted? : Option Nat) (newcomer : Nat) (s : CacheState σ δ) :
    CacheState σ δ :=
  match evicted? with
  | none => s
  | some j =>
    ((s.reportEviction j newcomer).shut b j).onCache fun c => (c.settled j).countEviction

/-- Closes the earlier slot of the same locale. -/
def closePrevious (b : Backend σ δ) (previous? : Option Nat) (s : CacheState σ δ) :
    CacheState σ δ :=
  match previous? with
  | none => s
  | some j => ((s.reportPrevious j).shut b j).onCache (·.settled j)

/-- The slot of a locale, whose dictionary is opened if it is not resident. -/
def resolve (b : Backend σ δ) (l : Locale) (s : CacheState σ δ) : Outcome Nat × CacheState σ δ :=
  let (found, cache) := s.cache.find l
  let s := { s with cache }
  match found with
  | .hit i => (.returned i, s)
  | .miss i evicted? previous? =>
    let s := (s.closeEvicted b evicted? i).closePrevious b previous?
    match s.fill b i s.cache.useContacts with
    | (none, s) => (.returned i, s)
    | (some message, s) => (.broken message, s)

/-- Asks the open dictionary of a locale, in at most some rounds. -/
def askWithin (b : Backend σ δ) (l : Locale) (a : Ask) :
    Nat → CacheState σ δ → Outcome Reply × CacheState σ δ
  | 0, s => (.endless, s)
  | rounds + 1, s =>
    match s.resolve b l with
    | (.returned i, s) =>
      match s.cache.phase i with
      | .ready r => s.askResource b i r a
      | .loading => askWithin b l a rounds ((s.onCache (·.forget i)).reportRetry l)
      | .closed => askWithin b l a rounds (s.reportRetry l)
    | (.broken message, s) => (.broken message, s)
    | (.endless, s) => (.endless, s)

/-- Rounds in which every call comes to an end: an opening that broke off costs one. -/
def roundLimit : Nat := 2

/-- Asks the open dictionary of a locale. -/
def ask (b : Backend σ δ) (l : Locale) (a : Ask) (s : CacheState σ δ) :
    Outcome Reply × CacheState σ δ :=
  s.askWithin b l a roundLimit

/-- Asks the dictionary of a slot that was handed out. -/
def askSlot (b : Backend σ δ) (i : Nat) (a : Ask) (s : CacheState σ δ) :
    Outcome Reply × CacheState σ δ :=
  match s.cache.phase i with
  | .ready r => s.askResource b i r a
  | .loading | .closed => (.returned (a.ofClosed (s.cache.localeOf i)), s)

/-- Whether a slot was closed. -/
def isClosed (i : Nat) (s : CacheState σ δ) : Bool :=
  match s.cache.phase i with
  | .closed => true
  | _ => false

/-- Closes and forgets every resident. -/
def closeAll (b : Backend σ δ) (s : CacheState σ δ) : CacheState σ δ :=
  let (drained, cache) := s.cache.drain
  drained.foldl (fun s i => (s.shut b i).onCache (·.settled i))
    (({ s with cache } : CacheState σ δ).reportDrain drained)

/-- Turns the contacts on or off, in every resident and for those opened later. -/
def setContacts (b : Backend σ δ) (on : Bool) (s : CacheState σ δ) : CacheState σ δ :=
  let s := s.onCache fun c => { c with useContacts := on }
  s.cache.residentSlots.foldl (fun s i => s.switchContacts b on i) s

end Spelling.CacheState

namespace Spelling.Cache

/-- A call on a cache. -/
inductive Call where
  | resolve (l : Locale)
  | ask (l : Locale) (a : Ask)
  | askSlot (slot : Nat) (a : Ask)
  | isClosed (slot : Nat)
  | closeAll
  | setContacts (on : Bool)
  | contains (l : Locale)

/-- What a call on a cache comes to. -/
inductive Answer where
  | slot (i : Nat)
  | reply (r : Reply)
  | flag (b : Bool)
  | nothing
  /-- The call broke off -/
  | broken (message : String)
  /-- The call did not end in its rounds -/
  | endless
  deriving DecidableEq, Repr

/-- The answer of a call, from what it came to. -/
def Answer.ofOutcome {α : Type} (f : α → Answer) : Outcome α → Answer
  | .returned a => f a
  | .broken message => broken message
  | .endless => endless

/-- What a call comes to when no other is under way. -/
def Call.run {σ δ : Type} (b : Backend σ δ) (s : CacheState σ δ) :
    Call → Answer × CacheState σ δ
  | resolve l => let (o, s) := s.resolve b l; (.ofOutcome .slot o, s)
  | ask l a => let (o, s) := s.ask b l a; (.ofOutcome .reply o, s)
  | askSlot i a => let (o, s) := s.askSlot b i a; (.ofOutcome .reply o, s)
  | isClosed i => (.flag (s.isClosed i), s)
  | closeAll => (.nothing, s.closeAll b)
  | setContacts on => (.nothing, s.setContacts b on)
  | contains l => (.flag (s.cache.contains l), s)

end Spelling.Cache
