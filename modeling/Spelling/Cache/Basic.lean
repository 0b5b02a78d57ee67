import Spelling.Backend
import Spelling.Room

/-!
# The dictionary cache

Only a few dictionaries stay open.  Asking for one that is not resident opens it and evicts the one
used longest ago.  An evicted dictionary stays known until it is closed, because a reader may still
be at work on it, and no second dictionary of its locale may be opened before.

Every dictionary that is asked for gets a slot, and keeps it.  A slot is

    loading   from the moment it is resident until its dictionary is open;
              for good, if opening broke off
    ready     once it has a dictionary, or a stand-in when opening failed
    closed    once it was evicted or drained, and closed

This module holds the parts of the cache's work that happen under one lock, each as a function on
the cache and the world around it.
-/

namespace Spelling

/-- What a slot holds. -/
inductive Phase (δ : Type) where
  | loading
  | ready (r : Resource δ)
  | closed

/-- The place of one dictionary, from its being asked for to its being closed and after. -/
structure Slot (δ : Type) where
  locale : Locale
  phase : Phase δ := .loading
  /-- Somebody opens, changes or closes the dictionary -/
  writing : Bool := false
  /-- How many queries are at work on the dictionary -/
  readers : Nat := 0

/-- How a cache behaved. -/
structure CacheStats where
  /-- Dictionaries asked for that were resident -/
  hits : Nat := 0
  /-- Dictionaries asked for that had to be opened -/
  misses : Nat := 0
  /-- Dictionaries closed to make room -/
  evictions : Nat := 0
  deriving DecidableEq, Repr

/-- Something done to a dictionary. -/
inductive Deed where
  /-- It was opened with these options, or not -/
  | opened (o : Options) (success : Bool)
  | lookedUp (word : String)
  | queried (typed : String) (session : Nat)
  | contactsSet (on : Bool)
  | closed
  deriving DecidableEq, Repr

/-- Something done to the dictionary in a slot of a cache. -/
structure Event where
  /-- Which of several caches -/
  cache : Nat
  slot : Nat
  locale : Locale
  deed : Deed
  deriving DecidableEq, Repr

/-- Events by the locale they are about, in the order of the displayed locales; events of one locale
stay in order. -/
def Event.byLocale (events : List Event) : List Event :=
  events.mergeSort fun a b => a.locale.display ≤ b.locale.display

/-- What caches share: the state of the backend, what was done to dictionaries, and what was
reported. -/
structure World (σ : Type) where
  backend : σ
  events : List Event := []
  records : List Record := []

/-- A bounded cache of dictionaries. -/
structure Cache (δ : Type) where
  /-- Which of several caches -/
  label : Nat
  capacity : Nat
  /-- How many session numbers queries may carry -/
  sessions : Nat
  /-- Whether dictionaries are opened with contacts -/
  useContacts : Bool
  slots : List (Slot δ) := []
  /-- Slots of the resident dictionaries, the one used last first -/
  resident : List (Locale × Nat) := []
  /-- Slots that were evicted or drained and are not closed yet, one for a locale -/
  closing : List (Locale × Nat) := []
  stats : CacheStats := {}
  /-- The caller inside the lock on the residents -/
  lockedBy? : Option Nat := none

/-- A cache and the world around it. -/
structure CacheState (σ δ : Type) where
  cache : Cache δ
  world : World σ

/-- What a caller comes to. -/
inductive Outcome (α : Type) where
  | returned (a : α)
  /-- The call broke off -/
  | broken (message : String)
  /-- The call did not end in the rounds it was given -/
  | endless
  deriving DecidableEq, Repr

namespace World

variable {σ : Type}

/-- Notes something done to a dictionary. -/
def note (w : World σ) (e : Event) : World σ :=
  { w with events := w.events ++ [e] }

/-- Reports some records. -/
def report (w : World σ) (records : List Record) : World σ :=
  { w with records := w.records ++ records }

end World

namespace Cache

variable {δ : Type}

/-- Lays out the table of a cache. -/
def lay (capacity : Nat) : Except Overflow Unit := layTable capacity

/-- An empty cache. -/
def ofCapacity (label capacity : Nat) (o : Options) : Cache δ :=
  { label, capacity, sessions := o.sessions, useContacts := o.useContacts }

/-- Whether a locale is resident. -/
def contains (c : Cache δ) (l : Locale) : Bool :=
  (c.resident.lookup l).isSome

/-- How many dictionaries are resident. -/
def size (c : Cache δ) : Nat := c.resident.length

/-- Changes one slot. -/
def modifySlot (c : Cache δ) (i : Nat) (f : Slot δ → Slot δ) : Cache δ :=
  { c with slots := c.slots.modify i f }

/-- What a slot holds. -/
def phase (c : Cache δ) (i : Nat) : Phase δ :=
  match c.slots[i]? with
  | some s => s.phase
  | none => .closed

/-- Locale of a slot. -/
def localeOf (c : Cache δ) (i : Nat) : Locale :=
  match c.slots[i]? with
  | some s => s.locale
  | none => default

/-- Slots by locale with one more, which takes the place of another of its locale. -/
def put (slots : List (Locale × Nat)) (l : Locale) (i : Nat) : List (Locale × Nat) :=
  (l, i) :: slots.filter (·.1 != l)

/-- What the residents say about a locale that is asked for. -/
inductive Found where
  /-- It is resident -/
  | hit (slot : Nat)
  /-- It got a new slot; perhaps another one had to make room, and perhaps an earlier dictionary of
  the locale is not closed yet -/
  | miss (slot : Nat) (evicted? previous? : Option Nat)
  deriving DecidableEq, Repr

/-- The resident to evict when a new one comes. -/
def victim? (c : Cache δ) : Option (Locale × Nat) :=
  if c.resident.length < c.capacity then none else c.resident.getLast?

/-- Gives a locale a new slot, which is locked for opening before anybody can see it, and makes it
the resident used last. -/
def enroll (c : Cache δ) (l : Locale) : Found × Cache δ :=
  let i := c.slots.length
  let victim? := c.victim?
  let kept := if victim?.isSome then c.resident.dropLast else c.resident
  (.miss i (victim?.map (·.2)) (c.closing.lookup l),
    { c with
      slots := c.slots ++ [{ locale := l, writing := true }]
      resident := (l, i) :: kept
      closing := match victim? with
        | some (m, j) => put c.closing m j
        | none => c.closing
      stats := { c.stats with misses := c.stats.misses + 1 } })

/-- Asks for the slot of a locale. -/
def find (c : Cache δ) (l : Locale) : Found × Cache δ :=
  match c.resident.lookup l with
  | some i =>
    (.hit i,
      { c with
        resident := put c.resident l i
        stats := { c.stats with hits := c.stats.hits + 1 } })
  | none => c.enroll l

/-- Forgets that a slot is to be closed, unless another one took its place. -/
def settled (c : Cache δ) (i : Nat) : Cache δ :=
  { c with closing := c.closing.filter (· != (c.localeOf i, i)) }

/-- Counts an eviction. -/
def countEviction (c : Cache δ) : Cache δ :=
  { c with stats := { c.stats with evictions := c.stats.evictions + 1 } }

/-- Drops a slot from the residents if it is still there. -/
def forget (c : Cache δ) (i : Nat) : Cache δ :=
  { c with resident := c.resident.filter (· != (c.localeOf i, i)) }

/-- Takes every resident out, the one used longest ago first. -/
def drain (c : Cache δ) : List Nat × Cache δ :=
  let drained := c.resident.reverse
  (drained.map (·.2),
    { c with
      resident := []
      closing := drained.foldl (fun closing (l, i) => put closing l i) c.closing })

/-- Slots of the residents, the one used last first. -/
def residentSlots (c : Cache δ) : List Nat :=
  c.resident.map (·.2)

/-- What a dictionary would be opened with now. -/
def options (c : Cache δ) : Options :=
  ⟨c.useContacts, c.sessions⟩

end Cache

namespace CacheState

variable {σ δ : Type}

/-- Changes the cache alone. -/
def onCache (s : CacheState σ δ) (f : Cache δ → Cache δ) : CacheState σ δ :=
  { s with cache := f s.cache }

/-- Reports one record of the cache. -/
def debug (s : CacheState σ δ) (message : String) : CacheState σ δ :=
  { s with world := s.world.report [⟨.debug, .cache, message⟩] }

/-- Notes something done to the dictionary in a slot. -/
def note (s : CacheState σ δ) (i : Nat) (deed : Deed) : CacheState σ δ :=
  { s with world := s.world.note ⟨s.cache.label, i, s.cache.localeOf i, deed⟩ }

/-- Closes a slot.  Closing twice does nothing. -/
def shut (b : Backend σ δ) (i : Nat) (s : CacheState σ δ) : CacheState σ δ :=
  let s' := s.onCache (·.modifySlot i fun slot => { slot with phase := .closed })
  match s.cache.phase i with
  | .ready (.dictionary d) =>
    let s' := s'.note i .closed
    { s' with world := s'.world.report (b.close d) }
  | .ready (.unavailable u) => { s' with world := s'.world.report u.close.records }
  | .loading | .closed => s'

/-- Opens the dictionary of a slot and unlocks the slot.  If that breaks off, the slot stays loading
and the message is returned. -/
def fill (b : Backend σ δ) (i : Nat) (useContacts : Bool) (s : CacheState σ δ) :
    Option String × CacheState σ δ :=
  let l := s.cache.localeOf i
  let o : Options := ⟨useContacts, s.cache.sessions⟩
  let (backend, loaded) := b.load s.world.backend l o
  let seen (success : Bool) (records : List Record) (phase : Phase δ) : CacheState σ δ :=
    let s := s.note i (.opened o success)
    { cache := s.cache.modifySlot i fun slot => { slot with phase := phase, writing := false }
      world := { s.world with backend := backend }.report records }
  match loaded.value with
  | .opened d =>
    (none, (seen true loaded.records (.ready (.dictionary d))).debug
      ("opened dictionary for " ++ l.display))
  | .failed e =>
    let report : Record := ⟨.warn, .cache,
      "dictionary for " ++ l.display ++ " is unavailable: " ++ e.message⟩
    (none, seen false (loaded.records ++ [report])
      (.ready (.unavailable (.ofError l e))))
  | .broken message => (some message, seen false loaded.records .loading)

/-- Turns the contacts of a slot's dictionary on or off, if it is open. -/
def switchContacts (b : Backend σ δ) (on : Bool) (i : Nat) (s : CacheState σ δ) :
    CacheState σ δ :=
  match s.cache.phase i with
  | .ready (.dictionary d) =>
    (s.onCache (·.modifySlot i fun slot =>
      { slot with phase := .ready (.dictionary (b.setContacts d on)) })).note i (.contactsSet on)
  | _ => s

/-- Reports an eviction. -/
def reportEviction (evicted newcomer : Nat) (s : CacheState σ δ) : CacheState σ δ :=
  s.debug ("evicting dictionary for " ++ (s.cache.localeOf evicted).display ++
    " to make room for " ++ (s.cache.localeOf newcomer).display)

/-- Reports that an evicted dictionary of the same locale has to be closed first. -/
def reportPrevious (previous : Nat) (s : CacheState σ δ) : CacheState σ δ :=
  s.debug ("waiting for the evicted dictionary of " ++ (s.cache.localeOf previous).display ++
    " to close")

/-- Reports that an earlier dictionary of the same locale has to be closed first, if there is
one. -/
def reportPrevious? (previous? : Option Nat) (s : CacheState σ δ) : CacheState σ δ :=
  match previous? with
  | some k => s.reportPrevious k
  | none => s

/-- Reports which dictionary has to be closed first before that of a new slot is opened, if any. -/
def reportFirst (newcomer : Nat) (evicted? previous? : Option Nat) (s : CacheState σ δ) :
    CacheState σ δ :=
  match evicted? with
  | some j => s.reportEviction j newcomer
  | none => s.reportPrevious? previous?

/-- Reports that a dictionary has to be asked for again. -/
def reportRetry (l : Locale) (s : CacheState σ δ) : CacheState σ δ :=
  s.debug ("dictionary for " ++ l.display ++ " closed before being queried, resolving again")

/-- Reports how many dictionaries are to be closed, if any. -/
def reportDrain (drained : List Nat) (s : CacheState σ δ) : CacheState σ δ :=
  if drained.isEmpty then s
  else s.debug ("closing " ++ toString drained.length ++ " resident dictionaries")

end CacheState

end Spelling
