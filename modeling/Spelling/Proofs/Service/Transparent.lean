import Spelling.Proofs.Service.Quiet
import Spelling.Proofs.Service.Watched
import Spelling.Proofs.WordList.Steady

/-!
# The caches of a service do not show

Whatever calls a service gets, one after another, and whatever openings and queries break off in
them: a call that was not cut short by an opening answers what the plain service answers, which
keeps no dictionary from one question to the next.
-/

namespace Spelling.Service

variable {σ δ : Type} {b : Backend σ δ} {fresh : Locale → Options → Loaded δ}

/-- The message of an opening that broke off meanwhile, if one did. -/
def newest? (before after : List String) : Option String :=
  if after.length = before.length then none else after.head?

/-- For each of some calls, the message of the opening that cut it short, if one did. -/
def cuts (b : Backend σ δ) (s : Service (σ × List String) δ) : List Call → List (Option String)
  | [] => []
  | call :: calls =>
    let t := (call.run b.watched s).2
    newest? s.world.backend.2 t.world.backend.2 :: cuts b t calls

/-- The answer of a call that an opening may have cut short. -/
def Answer.unless (cut? : Option String) (a : Answer) : Answer :=
  match cut? with
  | some message => .broken message
  | none => a

theorem unless_newest? {before after : List String} {owed a : Answer}
    (h : Ended .broken before after owed a) : owed.unless (newest? before after) = a := by
  rcases h with ⟨rfl, rfl⟩ | ⟨message, rfl, rfl⟩
  · simp [newest?, Answer.unless]
  · simp [newest?, Answer.unless]

/-! ## A plain service over a watched backend -/

namespace Plain

variable (p : Plain) (n : Nat)

theorem ask_watched (l : Locale) (a : Ask) :
    p.ask b.watched fresh n l a = p.ask b fresh n l a :=
  Loaded.reply_watched _ a

theorem search_watched (word : String) (c : Capitalization) (locales : List Locale) :
    p.search b.watched fresh n word c locales = p.search b fresh n word c locales := by
  induction locales with
  | nil => rfl
  | cons l rest ih => rw [search, search, ask_watched, ih]

theorem answer_watched (call : Call) :
    p.answer b.watched fresh n call = p.answer b fresh n call := by
  cases call with
  | isValid l word => rw [answer, answer, ask_watched]
  | isValidAnywhere word c => rw [answer, answer, search_watched]
  | suggest l composed context keyboard patience => rw [answer, answer, ask_watched]
  | hasMain l => rw [answer, answer, ask_watched]
  | closeAll | setContacts _ | refresh _ => rfl

end Plain

/-- Along some calls, each answers what the plain service does unless an opening cut it short. -/
theorem Quiet.answers_watched (hb : b.Steady fresh) {n : Nat} (calls : List Call) :
    ∀ {p : Plain} {s : Service (σ × List String) δ}, s.Quiet b.watched fresh n p →
      s.answers b.watched calls =
        List.zipWith (fun cut? a => a.unless cut?) (cuts b s calls)
          (p.answers b fresh n calls) := by
  induction calls with
  | nil =>
      intro p s _
      rfl
  | cons call calls ih =>
      intro p s h
      obtain ⟨hquiet, hended⟩ := h.run hb.counted call
      rw [answers, cuts, Plain.answers, List.zipWith_cons_cons, ih hquiet]
      have hanswer := unless_newest? hended
      rw [Plain.answer_watched] at hanswer
      rw [hanswer]

/-- **The caches do not show.**  Whatever a service is set up with and whatever calls it gets, one
after another: a call answers what a service does that opens a dictionary for every question, unless
an opening broke off in this very call, and then it says so.  A look-up or a query that breaks off
does so in both.  The room in the caches, what is resident and what was asked before have no part in
it. -/
theorem caches_do_not_show (hb : b.Steady fresh) (settings : Settings) (st : σ)
    (locales : List Locale) (calls : List Call) :
    (ofSettings settings st locales : Service σ δ).answers b calls =
      List.zipWith (fun cut? a => a.unless cut?)
        (cuts b (ofSettings settings (st, []) locales) calls)
        (Plain.answers b fresh settings.maxReaders.1 ⟨locales, settings.useContacts⟩ calls) := by
  have hunwatch : (ofSettings settings st locales : Service σ δ) =
      (ofSettings settings (st, []) locales : Service (σ × List String) δ).unwatch := rfl
  rw [hunwatch, answers_unwatch]
  exact (quiet_ofSettings settings (st, []) locales).answers_watched hb calls

/-- A script lets the first opening break off, and only the call that meets it is cut short. -/
theorem caches_do_not_show_of_rehearsed :
    let en := Locale.ofLanguage "en"
    let source : WordList.Source := .memory [(en, "1\nhello fq:200\n")] none
    let b := Backend.rehearsed source.kind
    let calls : List Call := [.isValid en "hello", .setContacts false, .isValid en "hello"]
    (ofSettings {} [(en, 1)] [en] : Service Backend.Breaks WordList.Dictionary).answers b calls =
      [.broken "open panic", .nothing, .flag true] :=
  (caches_do_not_show (WordList.Source.steady_rehearsed _) {} _ _ _).trans (by decide +kernel)

/-- A look-up that breaks off leaves nothing behind. -/
example :
    let en := Locale.ofLanguage "en"
    let kind := (WordList.Source.memory [(en, "1\nhello fq:200\n")] none).kind
    let b := { Backend.rehearsed kind with
      contains := fun d word => if word = "!" then .error "no" else .ok (kind.contains d word) }
    (ofSettings {} [] [en] : Service Backend.Breaks WordList.Dictionary).answers b
      [.isValid en "!", .isValid en "hello"] = [.broken "no", .flag true] := by
  decide +kernel

end Spelling.Service
