import Spelling.Proofs.Service.Linear
import Spelling.Proofs.WordList.Contacts

/-!
# Contacts do not leak

Two services may differ in the contacts that their sources have, and in nothing else.  They get the
same calls, one after another, among which the contacts may be turned on and off, everything may be
closed and the enabled locales be replaced.  Whatever is answered while the contacts are off is the
same in both.

Each of them answers as the plain service does.  The plain service keeps no dictionary, so what was
asked while the contacts were on has no part in what is answered after that.
-/

namespace Spelling.Service

open WordList (Source)

/-! ## What calls do to the option, and the locales that they name -/

/-- What a call turns the contacts to, if it does. -/
def Call.contacts? : Call → Option Bool
  | setContacts on => some on
  | isValid .. | isValidAnywhere .. | suggest .. | hasMain _ | closeAll | refresh _ => none

/-- The locales that a call names. -/
def Call.locales : Call → List Locale
  | isValid l _ | suggest l .. | hasMain l => [l]
  | refresh locales => locales
  | isValidAnywhere .. | closeAll | setContacts _ => []

/-- Whether the contacts are on after some calls: as the last of these calls that turned them on or
off has it, or else as at first. -/
def contactsAfter (on : Bool) (calls : List Call) : Bool :=
  (calls.filterMap Call.contacts?).getLast?.getD on

namespace Plain

variable {σ δ : Type} {b : Backend σ δ} {fresh : Locale → Options → Loaded δ} {n : Nat}

theorem useContacts_after (p : Plain) (call : Call) :
    (p.after call).useContacts = call.contacts?.getD p.useContacts := by
  cases call <;> rfl

theorem useContacts_afterAll (p : Plain) (calls : List Call) :
    (p.afterAll calls).useContacts = contactsAfter p.useContacts calls := by
  induction calls generalizing p with
  | nil => rfl
  | cons call calls ih =>
      rw [afterAll, List.foldl_cons, ← afterAll, ih, useContacts_after, contactsAfter,
        contactsAfter]
      cases hcall : call.contacts? with
      | none => rw [List.filterMap_cons_none hcall, Option.getD_none]
      | some on => rw [List.filterMap_cons_some hcall, List.getLast?_cons, Option.getD_some,
          Option.getD_some]

/-- An enabled locale was enabled at first or named by a call. -/
theorem mem_locales_afterAll {p : Plain} {calls : List Call} {l : Locale}
    (h : l ∈ (p.afterAll calls).locales) : l ∈ p.locales ∨ l ∈ calls.flatMap Call.locales := by
  induction calls generalizing p with
  | nil => exact .inl h
  | cons call calls ih =>
      rw [List.flatMap_cons, List.mem_append]
      rcases ih h with hafter | hcalls
      · cases call with
        | refresh locales => exact .inr (.inl hafter)
        | isValid | isValidAnywhere | suggest | hasMain | closeAll | setContacts =>
            exact .inl hafter
      · exact .inr (.inr hcalls)

/-- Each call is answered by what the plain service has become by then. -/
theorem getElem?_answers (p : Plain) (calls : List Call) (i : Nat) :
    (p.answers b fresh n calls)[i]? =
      calls[i]?.map ((p.afterAll (calls.take i)).answer b fresh n) := by
  induction calls generalizing p i with
  | nil => rfl
  | cons call calls ih =>
      cases i with
      | zero => rfl
      | succ i => exact ih (p.after call) i

/-! ## Two plain services -/

variable {s t : Source} {p : Plain}

/-- While the contacts are off, dictionaries of the same main list come to the same. -/
theorem ask_of_off (hoff : p.useContacts = false) {l : Locale} (h : s.SameMain t l) (a : Ask) :
    p.ask (.ofKind s.kind) s.fresh n l a = p.ask (.ofKind t.kind) t.fresh n l a := by
  rw [ask, ask, hoff]
  exact h.reply n a

theorem search_of_off (hoff : p.useContacts = false) (word : String) (c : Capitalization)
    {locales : List Locale} (h : ∀ l ∈ locales, s.SameMain t l) :
    p.search (.ofKind s.kind) s.fresh n word c locales =
      p.search (.ofKind t.kind) t.fresh n word c locales := by
  induction locales with
  | nil => rfl
  | cons l rest ih =>
      obtain ⟨hl, hrest⟩ := List.forall_mem_cons.mp h
      rw [search, search, ask_of_off hoff hl, ih hrest]

theorem answer_of_off (hoff : p.useContacts = false) {call : Call}
    (h : ∀ l ∈ p.locales ++ call.locales, s.SameMain t l) :
    p.answer (.ofKind s.kind) s.fresh n call = p.answer (.ofKind t.kind) t.fresh n call := by
  have hnamed : ∀ l ∈ call.locales, s.SameMain t l := fun l hl =>
    h l (List.mem_append_right _ hl)
  cases call with
  | isValid l word =>
      rw [answer, answer, ask_of_off hoff (hnamed l (List.mem_singleton_self l))]
  | isValidAnywhere word c =>
      rw [answer, answer, search_of_off hoff word c fun l hl => h l (List.mem_append_left _ hl)]
  | suggest l composed context keyboard patience =>
      rw [answer, answer, ask_of_off hoff (hnamed l (List.mem_singleton_self l))]
  | hasMain l => rw [answer, answer, ask_of_off hoff (hnamed l (List.mem_singleton_self l))]
  | closeAll | setContacts _ | refresh _ => rfl

end Plain

/-- **Contacts do not leak.**  Two sources whose main lists are the same for every locale in use,
whatever their contacts are and whether these can be read; a service over each, set up alike; and
the same calls on both, one after another.  Whatever is answered while the contacts are off is the
same from both, whatever was asked before. -/
theorem contacts_do_not_leak {s t : Source} (settings : Settings) (locales : List Locale)
    (calls : List Call) (hmain : ∀ l ∈ locales ++ calls.flatMap Call.locales, s.SameMain t l)
    (i : Nat) (hoff : contactsAfter settings.useContacts (calls.take i) = false) :
    ((ofSettings settings () locales : Service Unit WordList.Dictionary).answers
        (.ofKind s.kind) calls)[i]? =
      ((ofSettings settings () locales : Service Unit WordList.Dictionary).answers
        (.ofKind t.kind) calls)[i]? := by
  let p : Plain := ⟨locales, settings.useContacts⟩
  let q : Plain := p.afterAll (calls.take i)
  have hq : q.useContacts = false := (p.useContacts_afterAll _).trans hoff
  rw [answers_of_quiet s.dependable calls (quiet_ofSettings settings () locales),
    answers_of_quiet t.dependable calls (quiet_ofSettings settings () locales),
    Plain.getElem?_answers, Plain.getElem?_answers]
  cases hcall : calls[i]? with
  | none => rfl
  | some call =>
      have hmem : call ∈ calls := List.mem_of_getElem? hcall
      rw [Option.map_some, Option.map_some]
      refine congrArg some (Plain.answer_of_off hq fun l hl => hmain l ?_)
      rcases List.mem_append.mp hl with henabled | hnamed
      · rcases Plain.mem_locales_afterAll henabled with hfirst | htaken
        · exact List.mem_append_left _ hfirst
        · obtain ⟨earlier, hearlier, hl⟩ := List.mem_flatMap.mp htaken
          exact List.mem_append_right _
            (List.mem_flatMap_of_mem (List.mem_of_mem_take hearlier) hl)
      · exact List.mem_append_right _ (List.mem_flatMap_of_mem hmem hnamed)

/-- One source has a name in its contacts, the other has contacts that cannot be read.  The name is
right in one service only while the contacts are on, and in neither after they were turned off. -/
theorem contacts_do_not_leak_of_unreadable :
    let en := Locale.ofLanguage "en"
    let s : Source := .memory [(en, "1\nhello fq:200\n")] (some "1\nzoe fq:5\n")
    let t : Source := .memory [(en, "1\nhello fq:200\n")] (some "zoe")
    let start : Service Unit WordList.Dictionary := ofSettings {} () [en]
    let calls : List Call := [.isValid en "zoe", .setContacts false, .isValid en "zoe"]
    (start.answers (.ofKind s.kind) calls)[0]? = some (.flag true) ∧
      (start.answers (.ofKind t.kind) calls)[0]? = some (.flag false) ∧
      (start.answers (.ofKind s.kind) calls)[2]? = (start.answers (.ofKind t.kind) calls)[2]? := by
  intro en s t start calls
  exact ⟨by decide +kernel, by decide +kernel,
    contacts_do_not_leak {} [en] calls (fun l _ => Source.sameMain_memory _ _ _ l) 2 rfl⟩

end Spelling.Service
