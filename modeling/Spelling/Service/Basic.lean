import Spelling.Cache.Calls
import Spelling.Sessions
import Spelling.Settings.Basic
import Spelling.Verdict

/-!
# The service

Spell checking in several locales.  The service keeps two sets of dictionaries: a bounded cache for
queries in a single locale, and the dictionaries of the enabled locales, which are replaced as a
whole when those change and for all of which there is room.

Caches are numbered: the one for single locales is the zeroth, and every set of enabled locales
brings a new one.
-/

namespace Spelling

/-- The enabled locales, most preferred first, and the number of the cache of their dictionaries. -/
structure EnabledSet where
  locales : List Locale
  cache : Nat
  deriving DecidableEq, Repr

/-- A service and the world around it. -/
structure Service (σ δ : Type) where
  settings : Settings
  policy : Policy := {}
  sessions : Sessions
  caches : List (Cache δ)
  enabled : EnabledSet
  world : World σ

/-- A service whose setting up broke off: what was said then, and what was reported before. -/
structure Unstarted where
  message : String
  records : List Record
  deriving DecidableEq, Repr

namespace Service

variable {σ δ : Type}

/-- Room that a cache of some enabled locales needs, if it is more than the settings give. -/
def roomNeeded? (s : Settings) (locales : List Locale) : Option Nat :=
  if s.cacheCapacity.1 < locales.length then some locales.length else none

/-- What is reported about a new set of enabled locales. -/
def enabledRecords (s : Settings) (locales : List Locale) : List Record :=
  ⟨.debug, .service, "enabled locales: " ++ Locale.displayAll locales⟩ ::
    match roomNeeded? s locales with
    | some n => [⟨.debug, .service,
        "keeping all " ++ toString n ++ " enabled dictionaries resident"⟩]
    | none => []

/-- Room that a cache of some enabled locales has. -/
def enabledRoom (s : Settings) (locales : List Locale) : Nat :=
  (roomNeeded? s locales).getD s.cacheCapacity.1

/-- The cache of some enabled locales. -/
def enabledCache (s : Settings) (label : Nat) (locales : List Locale) (useContacts : Bool) :
    Cache δ :=
  .ofCapacity label (enabledRoom s locales) ⟨useContacts, s.maxReaders.1⟩

/-- What a new service reports. -/
def readyRecord (s : Settings) : Record :=
  ⟨.info, .service, "spell checker ready with " ++ toString s.maxReaders.1 ++ " readers and " ++
    toString s.cacheCapacity.1 ++ " cached dictionaries"⟩

/-- A service for some enabled locales. -/
def ofSettings (s : Settings) (backend : σ) (locales : List Locale) : Service σ δ :=
  { settings := s
    sessions := .ofSize s.maxReaders.1
    caches :=
      [.ofCapacity 0 s.cacheCapacity.1 ⟨s.useContacts, s.maxReaders.1⟩,
        enabledCache s 1 locales s.useContacts]
    enabled := ⟨locales, 1⟩
    world := { backend, records := enabledRecords s locales ++ [readyRecord s] } }

/-- Sets up a service: lays out its caches and its session numbers, and reports in between. -/
def setUp (s : Settings) (backend : σ) (locales : List Locale) :
    Except Unstarted (Service σ δ) := do
  let lay (records : List Record) : Except Overflow Unit → Except Unstarted Unit :=
    Except.mapError fun overflow => ⟨overflow.message, records⟩
  let enabled := enabledRecords s locales
  let ready := enabled ++ [readyRecord s]
  lay enabled (Cache.lay (enabledRoom s locales))
  lay ready (Cache.lay s.cacheCapacity.1)
  lay ready (Sessions.lay s.maxReaders.1)
  return ofSettings s backend locales

/-- Number of the cache for queries in a single locale. -/
def single : Nat := 0

/-- A cache, with the world around it. -/
def cacheState (s : Service σ δ) (i : Nat) : CacheState σ δ :=
  ⟨s.caches[i]?.getD (.ofCapacity i 1 {}), s.world⟩

/-- The service after work on one cache. -/
def withCache (s : Service σ δ) (i : Nat) (c : CacheState σ δ) : Service σ δ :=
  { s with caches := s.caches.set i c.cache, world := c.world }

/-- Reports one record of the service. -/
def report (s : Service σ δ) (level : Level) (topic : Topic) (message : String) : Service σ δ :=
  { s with world := s.world.report [⟨level, topic, message⟩] }

/-- Replaces the enabled locales.  Their dictionaries are opened by the queries that need them. -/
def enable (s : Service σ δ) (locales : List Locale) : Service σ δ :=
  let label := s.caches.length
  { s with
    caches := s.caches ++
      [enabledCache s.settings label locales (s.cacheState single).cache.useContacts]
    enabled := ⟨locales, label⟩
    world := s.world.report (enabledRecords s.settings locales) }

/-- Reports where a word was found. -/
def reportFound (s : Service σ δ) (word : String) (l : Locale) : Service σ δ :=
  s.report .debug .multiLocale ("`" ++ word ++ "` is valid in " ++ l.display)

/-- Reports that a word was found nowhere. -/
def reportUnknown (s : Service σ δ) (word : String) (locales : List Locale) : Service σ δ :=
  s.report .debug .multiLocale ("`" ++ word ++ "` is unknown to " ++ Locale.displayAll locales)

/-- Reports that a query failed. -/
def reportFailure (s : Service σ δ) (typed : String) (l : Locale) (e : QueryError) :
    Service σ δ :=
  s.report .warn .service
    ("no suggestions for `" ++ typed ++ "` in " ++ l.display ++ ": " ++ e.message)

/-- Reports that every dictionary was closed. -/
def reportClosed (s : Service σ δ) : Service σ δ :=
  s.report .debug .service "closed every dictionary"

/-- Reports that the contacts were turned on or off. -/
def reportContacts (s : Service σ δ) (on : Bool) : Service σ δ :=
  s.report .debug .service ("contacts dictionary turned " ++ if on then "on" else "off")

/-- Reports that no session number is left. -/
def reportExhausted (s : Service σ δ) : Service σ δ :=
  s.report .error .service ("all " ++ toString s.sessions.size ++
    " session ids are lent out while holding a permit")

/-- What is said when no session number is left. -/
def exhaustedMessage : String := "session pool exhausted, a session id leaked"

/-- The query for the corrections of what was typed. -/
def query (s : Service σ δ) (composed : Composed) (context : Context) (keyboard : Keyboard) :
    Query :=
  ⟨composed, context, keyboard, s.policy⟩

/-- The verdict on a typed word from its ranked corrections. -/
def verdict (s : Service σ δ) (typed : String) (l : Locale) (r : Results) (max : Nat) : Verdict :=
  .ofResults typed l r s.settings.threshold max

end Service

end Spelling
