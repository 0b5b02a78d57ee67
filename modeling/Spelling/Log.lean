/-!
# Log records

What the library reports while it works is data: a computation that reports something returns its
records beside its value.  A record carries how severe it is, the part of the library it comes from
and a message.
-/

namespace Spelling

/-- How severe a record is, most severe first. -/
inductive Level where
  | error
  | warn
  | info
  | debug
  deriving DecidableEq, Repr

namespace Level

/-- Position in the order of severity, the most severe being zero. -/
def rank : Level → Nat
  | error => 0
  | warn => 1
  | info => 2
  | debug => 3

/-- Name shown with a record. -/
def name : Level → String
  | error => "ERROR"
  | warn => "WARN"
  | info => "INFO"
  | debug => "DEBUG"

end Level

/-- Part of the program a record comes from. -/
inductive Topic where
  | suggest
  | wordList
  | dictionary
  | cache
  | service
  | multiLocale
  | checker
  deriving DecidableEq, Repr

/-- Target that a host filters records by. -/
def Topic.target : Topic → String
  | suggest => "polyspell::suggest"
  | wordList => "polyspell::wordlist"
  | dictionary => "polyspell::dictionary"
  | cache => "polyspell::cache"
  | service => "polyspell::service"
  | multiLocale => "multi_locale"
  | checker => "polyspell"

/-- One thing reported. -/
structure Record where
  level : Level
  topic : Topic
  message : String
  deriving DecidableEq, Repr

/-- The records that a host asking for `level` sees: those at that level or a more severe one. -/
def shownAt (level : Level) (records : List Record) : List Record :=
  records.filter fun r => r.level.rank ≤ level.rank

/-- A value together with what was reported while it was computed. -/
structure Logged (α : Type) where
  value : α
  records : List Record := []
  deriving Repr

namespace Logged

/-- Computes on with the value, keeping the records of both parts in order. -/
def andThen {α β : Type} (a : Logged α) (f : α → Logged β) : Logged β :=
  let b := f a.value
  ⟨b.value, a.records ++ b.records⟩

/-- Changes the value and reports nothing more. -/
def map {α β : Type} (f : α → β) (a : Logged α) : Logged β :=
  ⟨f a.value, a.records⟩

instance : Monad Logged where
  pure a := ⟨a, []⟩
  bind := andThen
  map := map

/-- Reports one record. -/
def report (level : Level) (topic : Topic) (message : String) : Logged Unit :=
  ⟨(), [⟨level, topic, message⟩]⟩

@[simp] theorem value_pure {α : Type} (a : α) : (pure a : Logged α).value = a := rfl

@[simp] theorem value_bind {α β : Type} (a : Logged α) (f : α → Logged β) :
    (a >>= f).value = (f a.value).value := rfl

@[simp] theorem value_map {α β : Type} (f : α → β) (a : Logged α) :
    (f <$> a).value = f a.value := rfl

end Logged

end Spelling
