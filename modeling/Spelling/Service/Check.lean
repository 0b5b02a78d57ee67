import Spelling.Keyboard.Layout
import Spelling.Service.Calls
import Spelling.Text.Words

/-!
# Checking a text

A text is checked word by word, and what is found out about each word is reported:

    right          some enabled locale has the word, in one of its spellings
    no locale      no locale is enabled
    no dictionary  the locale enabled first has no main list
    unknown        otherwise; that locale gives the corrections

The words before a word in the text are its context, and the first one starts a sentence.
-/

namespace Spelling

/-- What the check of a word finds out. -/
inductive Finding where
  | right
  | noLocale
  | noDictionary (l : Locale)
  | unknown (v : Verdict)
  deriving DecidableEq, Repr

namespace Finding

/-- How severe a finding is. -/
def level : Finding → Level
  | right => .info
  | noLocale | noDictionary _ | unknown _ => .warn

/-- What is said of the corrections of a word. -/
def offer (v : Verdict) : String :=
  if v.suggestions.isEmpty then "no suggestion"
  else "did you mean " ++ ", ".intercalate v.suggestions ++
    if v.hasRecommended then " (recommended)" else ""

/-- What is said of the word. -/
def remark : Finding → String
  | right => "is spelled right"
  | noLocale => "is unknown, no locale is enabled"
  | noDictionary l => "is unknown, no dictionary for " ++ l.display
  | unknown v => "is unknown, " ++ offer v

/-- The record of what was found out about a word. -/
def record (f : Finding) (word : String) : Record :=
  ⟨f.level, .checker, "`" ++ word ++ "` " ++ f.remark⟩

end Finding

/-- Goes on after a call that returned; one that did not is where all ends. -/
def Outcome.andThen {α β τ : Type} (r : Outcome α × τ) (f : α → τ → Outcome β × τ) :
    Outcome β × τ :=
  match r with
  | (returned a, s) => f a s
  | (broken message, s) => (broken message, s)
  | (endless, s) => (endless, s)

namespace Service

variable {σ δ : Type}

/-- Looks for the corrections of an unknown word, at most `max` of them, in a locale. -/
def correct (b : Backend σ δ) (max : Nat) (l : Locale) (previous : List String) (word : String)
    (s : Service σ δ) : Outcome Finding × Service σ δ :=
  Outcome.andThen (s.hasMain b l) fun known s =>
    if known then
      match Keyboard.ofLocale l with
      | .error message => (.broken message, s)
      | .ok keyboard =>
        Outcome.andThen (s.suggest b l (.typed word) (.after previous) keyboard) fun r s =>
          (.returned (.unknown (s.verdict word l r max)), s)
    else (.returned (.noDictionary l), s)

/-- Finds out about a word that comes after others in a text. -/
def findOut (b : Backend σ δ) (max : Nat) (previous : List String) (word : String)
    (s : Service σ δ) : Outcome Finding × Service σ δ :=
  Outcome.andThen (s.isValidAnywhere b word (.classify word)) fun right s =>
    if right then (.returned .right, s)
    else match s.enabled.locales.head? with
      | none => (.returned .noLocale, s)
      | some l => s.correct b max l previous word

/-- Checks words that come after others in a text, and reports what it finds out about each. -/
def checkWords (b : Backend σ δ) (max : Nat) (previous : List String) :
    List String → Service σ δ → Outcome Unit × Service σ δ
  | [], s => (.returned (), s)
  | word :: rest, s =>
    Outcome.andThen (s.findOut b max previous word) fun finding s =>
      checkWords b max (previous ++ [word]) rest
        { s with world := s.world.report [finding.record word] }

/-- Checks the words of a text. -/
def check (b : Backend σ δ) (max : Nat) (text : String) (s : Service σ δ) :
    Outcome Unit × Service σ δ :=
  s.checkWords b max [] ((Text.words text).map Text.normalizeApostrophes)

end Service

end Spelling
