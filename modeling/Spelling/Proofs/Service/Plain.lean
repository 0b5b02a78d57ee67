import Spelling.Proofs.Cache.Answers
import Spelling.Service.Calls

/-!
# A service without caches

The plain service keeps nothing but the enabled locales and whether the contacts are on.  For each
question it opens the dictionary of the locale afresh.  What a service answers is measured by it.
-/

namespace Spelling.Service

/-- A service that opens a dictionary for every question. -/
structure Plain where
  /-- The enabled locales, most preferred first -/
  locales : List Locale
  useContacts : Bool
  deriving DecidableEq, Repr

namespace Plain

variable {σ δ : Type} (b : Backend σ δ) (fresh : Locale → Options → Loaded δ) (n : Nat)

/-- Asks the dictionary of a locale. -/
def ask (p : Plain) (l : Locale) (a : Ask) : Outcome Reply :=
  (fresh l ⟨p.useContacts, n⟩).reply b a

/-- Whether one of the spellings of a word is right in one of some locales. -/
def search (p : Plain) (word : String) (c : Capitalization) : List Locale → Outcome Bool
  | [] => .returned false
  | l :: rest =>
    match p.ask b fresh n l (.contains (c.variants l word)) with
    | .returned r => if r.toFlag then .returned true else p.search word c rest
    | .broken message => .broken message
    | .endless => .endless

/-- The corrections that a dictionary answered with; a failed query has none. -/
def corrections : Outcome Reply → Outcome Results
  | .returned (.results r) => .returned r
  | .returned (.failed _) => .returned .none
  | .returned (.flag _) => .returned .none
  | .broken message => .broken message
  | .endless => .endless

/-- What a call comes to. -/
def answer (p : Plain) : Call → Answer
  | .isValid l word =>
    .ofOutcome .flag ((p.ask b fresh n l (.contains [word])).map Reply.toFlag)
  | .isValidAnywhere word c => .ofOutcome .flag (p.search b fresh n word c p.locales)
  | .suggest l composed context keyboard _ =>
    .ofOutcome .results
      (corrections (p.ask b fresh n l (.suggest ⟨composed, context, keyboard, {}⟩ 0)))
  | .hasMain l => .ofOutcome .flag ((p.ask b fresh n l .hasMain).map Reply.toFlag)
  | .closeAll | .setContacts _ => .nothing
  | .refresh locales => .flag (p.locales != locales)

/-- The service after a call. -/
def after (p : Plain) : Call → Plain
  | .setContacts on => { p with useContacts := on }
  | .refresh locales => { p with locales }
  | .isValid .. | .isValidAnywhere .. | .suggest .. | .hasMain _ | .closeAll => p

/-- The service after some calls. -/
def afterAll (p : Plain) (calls : List Call) : Plain := calls.foldl after p

/-- What some calls come to, one after another. -/
def answers (p : Plain) : List Call → List Answer
  | [] => []
  | call :: calls => p.answer b fresh n call :: (p.after call).answers calls

end Plain

section Corrections

variable {σ δ : Type} {s : Service σ δ}

theorem corrections_fst (typed : String) (l : Locale) (o : Outcome Reply) :
    (s.corrections typed l o).1 = Plain.corrections o := by
  cases o with
  | returned r => cases r <;> rfl
  | broken message => rfl
  | endless => rfl

/-- A failed query is reported, and nothing else happens. -/
theorem corrections_snd (typed : String) (l : Locale) (o : Outcome Reply) :
    ∃ w, (s.corrections typed l o).2 = { s with world := w } ∧ w.backend = s.world.backend := by
  cases o with
  | returned r =>
      cases r with
      | failed e => exact ⟨_, rfl, rfl⟩
      | flag _ | results _ => exact ⟨s.world, rfl, rfl⟩
  | broken message => exact ⟨s.world, rfl, rfl⟩
  | endless => exact ⟨s.world, rfl, rfl⟩

end Corrections

/-- A service that takes a session number back as its call ends. -/
def takingBack {σ δ α : Type} (session : Nat) (r : α × Service σ δ) : α × Service σ δ :=
  (r.1, { r.2 with sessions := r.2.sessions.takeBack session })

/-- Corrections with a session number at hand. -/
theorem suggest_of_lend {σ δ : Type} {b : Backend σ δ} {s : Service σ δ} {session : Nat}
    {sessions : Sessions} (h : s.sessions.lend = (some session, sessions)) (l : Locale)
    (composed : Composed) (context : Context) (keyboard : Keyboard) :
    s.suggest b l composed context keyboard =
      let r := ({ s with sessions } : Service σ δ).ask b single l
        (.suggest (s.query composed context keyboard) session)
      takingBack session (r.2.corrections composed.word l r.1) := by
  rw [suggest, h]
  rfl

/-- A service after some calls, one after another. -/
def afterAll {σ δ : Type} (b : Backend σ δ) (s : Service σ δ) (calls : List Call) : Service σ δ :=
  calls.foldl (fun s call => (call.run b s).2) s

/-- What some calls on a service come to, one after another. -/
def answers {σ δ : Type} (b : Backend σ δ) (s : Service σ δ) : List Call → List Answer
  | [] => []
  | call :: calls => (call.run b s).1 :: answers b (call.run b s).2 calls

end Spelling.Service
