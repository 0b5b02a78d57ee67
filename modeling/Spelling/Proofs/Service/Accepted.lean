import Spelling.Proofs.Casing
import Spelling.Proofs.Service.Quiet
import Spelling.Proofs.Shown
import Spelling.Proofs.WordList.Listed

/-!
# What is suggested is accepted

Corrections are shown in the casing of the typed word, and a word is right if one of its spellings
is listed.  A correction is a listed word, recased.  Where the listed word is among the spellings of
what is shown, the service accepts its own suggestion:

    recased           accepted                       because
    not at all        always                         it is looked up as it is
    from a casing     always                         the casing is undone by the spellings
      of `Canonical`
    otherwise         only if a spelling is listed   `Iphone` is not looked up as `iPhone`

An opening cannot break off in the look-up: whether one does hangs on the number of sessions alone,
and the dictionary that suggested was opened with the same number.
-/

namespace Spelling

namespace Service

open WordList

/-- The corrections that a call came to. -/
def Answer.results? : Answer → Option Results
  | results r => some r
  | flag _ | nothing | timeout _ | broken _ | endless => none

theorem Answer.eq_results {a : Answer} {r : Results} (h : a.results? = some r) :
    a = .results r := by
  cases a with
  | results r' => exact congrArg Answer.results (Option.some.inj h)
  | flag _ | nothing | timeout _ | broken _ | endless => cases h

theorem Answer.returned_of_results {r : Results} {o : Outcome Results}
    (h : Answer.results r = .ofOutcome .results o) : o = .returned r := by
  cases o with
  | returned r' =>
      cases h
      rfl
  | broken message => cases h
  | endless => cases h

/-! ## Looking words up in the plain service -/

namespace Plain

variable {s : Source} {n : Nat} {p : Plain} {l : Locale} {d : WordList.Dictionary}
  {word spelling : String}

/-- No look-up in a word list breaks off. -/
theorem ask_contains (h : s.fresh l ⟨p.useContacts, n⟩ = .opened d) (words : List String) :
    p.ask (.ofKind s.kind) s.fresh n l (.contains words) =
      .returned (.flag (words.any d.contains)) := by
  rw [ask, h, Loaded.reply, Backend.reply, Backend.containsAny_of_ok fun _ _ => rfl,
    Outcome.ofFlag]
  rfl

/-- A word is found where one of its spellings is listed in one of the locales, if no opening breaks
off before that. -/
theorem search_of_contains (hopened : s.fresh l ⟨p.useContacts, n⟩ = .opened d)
    (hsure : ∀ m message, s.fresh m ⟨p.useContacts, n⟩ ≠ .broken message) {c : Capitalization}
    (hspelling : spelling ∈ c.variants l word) (hlisted : d.contains spelling = true)
    {locales : List Locale} (hl : l ∈ locales) :
    p.search (.ofKind s.kind) s.fresh n word c locales = .returned true := by
  induction locales with
  | nil => cases hl
  | cons m rest ih =>
      rw [search]
      cases hm : s.fresh m ⟨p.useContacts, n⟩ with
      | opened d' =>
          rw [ask_contains hm]
          cases hfound : (c.variants m word).any d'.contains with
          | true => rfl
          | false =>
              rcases List.mem_cons.mp hl with rfl | hrest
              · -- in the locale itself the spelling is found
                rw [hopened] at hm
                cases hm
                rw [List.any_eq_true.mpr ⟨spelling, hspelling, hlisted⟩] at hfound
                cases hfound
              · exact ih hrest
      | failed error =>
          rw [ask, hm]
          rcases List.mem_cons.mp hl with rfl | hrest
          · rw [hopened] at hm
            cases hm
          · exact ih hrest
      | broken message => exact absurd hm (hsure m message)

/-- What is suggested from a word list is listed in it. -/
theorem listed_of_corrections {q : Query} {r : Results} {c : Suggestion}
    (h : corrections (p.ask (.ofKind s.kind) s.fresh n l (.suggest q 0)) = .returned r)
    (hc : c ∈ r.candidates) :
    ∃ d, s.fresh l ⟨p.useContacts, n⟩ = .opened d ∧ d.contains c.word = true := by
  rw [ask] at h
  cases hd : s.fresh l ⟨p.useContacts, n⟩ with
  | opened d =>
      rw [hd] at h
      have hreply : Loaded.reply (.ofKind s.kind) (.opened d) (.suggest q 0) =
        (Answered.ofExcept (d.suggest q 0)).outcome := rfl
      rw [hreply] at h
      cases hsuggest : d.suggest q 0 with
      | ok r' =>
          rw [hsuggest] at h
          cases h
          exact ⟨d, rfl, Dictionary.contains_of_suggest hsuggest hc⟩
      | error error =>
          rw [hsuggest] at h
          cases h
          cases hc
  | failed error =>
      rw [hd] at h
      cases h
      cases hc
  | broken message =>
      rw [hd] at h
      cases h

end Plain

/-! ## A service over word lists -/

theorem quiet_afterAll (source : Source) (settings : Settings) (locales : List Locale)
    (before : List Call) :
    ((ofSettings settings () locales).afterAll (.ofKind source.kind) before).Quiet
      (.ofKind source.kind) source.fresh settings.maxReaders.1
      ((Plain.mk locales settings.useContacts).afterAll before) :=
  (quiet_ofSettings settings () locales).afterAll source.dependable.counted before

/-- **A service accepts what it suggests, unless recasing lost the listed casing.**  Whatever a
service over word lists was asked before: each suggestion for an enabled locale is a word of that
locale, recased like the typed one.  The service finds it right if it was left as it is listed, or
is listed in one of the usual casings, or else is looked up under the spelling that is listed. -/
theorem suggestions_are_accepted (source : Source) (settings : Settings) (locales : List Locale)
    (before : List Call) (l : Locale) (composed : Composed) (context : Context)
    (keyboard : Keyboard) (patience : Patience) (max : Nat) (r : Results)
    (t : Service Unit WordList.Dictionary) :
    let b := Backend.ofKind source.kind
    let s := (ofSettings settings () locales : Service Unit WordList.Dictionary).afterAll b before
    l ∈ s.enabled.locales →
    (Call.suggest l composed context keyboard patience).run b s = (.results r, t) →
    ∀ word ∈ (t.verdict composed.word l r max).suggestions, ∃ c ∈ r.candidates,
      word = Verdict.recase l (.classify composed.word) c.word ∧
        ((Call.isValid l c.word).run b t).1 = .flag true ∧
        (c.word = word ∨ Capitalization.Canonical l c.word ∨
            c.word ∈ (Capitalization.classify word).variants l word →
          ((Call.isValidAnywhere word (.classify word)).run b t).1 = .flag true) := by
  intro b s hl hrun word hword
  have hb : b.Dependable source.fresh := source.dependable
  let p := (Plain.mk locales settings.useContacts).afterAll before
  have hs : s.Quiet b source.fresh settings.maxReaders.1 p :=
    quiet_afterAll source settings locales before
  let call := Call.suggest l composed context keyboard patience
  have ht : t.Quiet b source.fresh settings.maxReaders.1 p := by
    have hafter := (hs.run hb.counted call).1
    rwa [hrun] at hafter
  have hcorrections := hs.answer hb call
  rw [hrun] at hcorrections
  obtain ⟨c, hc, hrecased⟩ := Verdict.exists_of_mem_suggestions hword
  obtain ⟨d, hd, hlisted⟩ :=
    Plain.listed_of_corrections (Answer.returned_of_results hcorrections) hc
  refine ⟨c, hc, hrecased, ?_, ?_⟩
  · rw [ht.answer hb, Plain.answer, Plain.ask_contains hd, List.any_cons]
    show Answer.flag (d.contains c.word || false) = _
    rw [hlisted]
    rfl
  · intro hcasing
    have hspelling : c.word ∈ (Capitalization.classify word).variants l word := by
      rcases hcasing with heq | hcanonical | hspelling
      · rw [heq]
        exact Capitalization.mem_variants_self ..
      · rw [hrecased]
        exact hcanonical.mem_variants _
      · exact hspelling
    have henabled : l ∈ p.locales := hs.locales ▸ hl
    rw [ht.answer hb, Plain.answer, Plain.search_of_contains hd
      (fun m message => Source.fresh_ne_broken hd message) hspelling hlisted henabled]
    rfl

/-- Typed in capitals, a name is suggested in capitals, and these are accepted. -/
theorem suggestions_are_accepted_in_capitals :
    let en := Locale.ofLanguage "en"
    let source : Source := .memory [(en, "1\nGermans fq:150\n")] none
    let b := Backend.ofKind source.kind
    let before : List Call := [.isValid en "GERMNS", .setContacts false, .closeAll]
    let s := (ofSettings {} () [en] : Service Unit WordList.Dictionary).afterAll b before
    en ∈ s.enabled.locales ∧ ∃ r t,
      (Call.suggest en (.typed "GERMNS") .empty .empty .usual).run b s = (.results r, t) ∧
        (t.verdict "GERMNS" en r 5).suggestions = ["GERMANS"] ∧
        ((Call.isValidAnywhere "GERMANS" (.classify "GERMANS")).run b t).1 = .flag true := by
  intro en source b before s
  have hen : en ∈ s.enabled.locales := by decide +kernel
  refine ⟨hen, ?_⟩
  have hran : ∃ ran, (Call.suggest en (.typed "GERMNS") .empty .empty .usual).run b s = ran ∧
      (ran.1.results?.map fun r =>
        (r.candidates.map Suggestion.word, (ran.2.verdict "GERMNS" en r 5).suggestions)) =
          some (["Germans"], ["GERMANS"]) :=
    ⟨_, rfl, by decide +kernel⟩
  obtain ⟨⟨a, t⟩, hrun, hwords⟩ := hran
  obtain ⟨r, hr, heq⟩ := Option.map_eq_some_iff.mp hwords
  obtain ⟨hcandidates, hshown⟩ := Prod.mk.inj heq
  obtain rfl : a = .results r := Answer.eq_results hr
  refine ⟨r, t, hrun, hshown, ?_⟩
  obtain ⟨c, hc, -, -, haccepted⟩ := suggestions_are_accepted source {} [en] before en
    (.typed "GERMNS") .empty .empty .usual 5 r t hen hrun "GERMANS"
    (hshown ▸ List.mem_singleton_self _)
  have hword : c.word = "Germans" := by
    have hmem := List.mem_map_of_mem (f := Suggestion.word) hc
    rwa [hcandidates, List.mem_singleton] at hmem
  have hsmall : Casing.IsSmall en "germans".toList :=
    Casing.isSmall_ascii en (by decide +kernel)
  have hcapitalized : Casing.capitalize en (String.ofList "germans".toList) = "Germans" := by
    decide +kernel
  refine haccepted (.inr (.inl ?_))
  rw [hword, ← hcapitalized]
  exact .capitalized hsmall

/-- A name with a capital inside is suggested with its first letter as the only capital, and so it
is unknown. -/
theorem recased_inner_capital_is_unknown :
    let en := Locale.ofLanguage "en"
    let source : Source := .memory [(en, "1\niPhone fq:200\n")] none
    let b := Backend.ofKind source.kind
    let s : Service Unit WordList.Dictionary := ofSettings {} () [en]
    en ∈ s.enabled.locales ∧ ∃ r t,
      (Call.suggest en (.typed "Iphne") .empty .empty .usual).run b s = (.results r, t) ∧
        (t.verdict "Iphne" en r 3).suggestions = ["Iphone"] ∧
        ((Call.isValidAnywhere "Iphone" (.classify "Iphone")).run b t).1 = .flag false := by
  intro en source b s
  have hran : ∃ ran, (Call.suggest en (.typed "Iphne") .empty .empty .usual).run b s = ran ∧
      (ran.1.results?.map fun r => ((ran.2.verdict "Iphne" en r 3).suggestions,
        ((Call.isValidAnywhere "Iphone" (.classify "Iphone")).run b ran.2).1)) =
          some (["Iphone"], .flag false) :=
    ⟨_, rfl, by decide +kernel⟩
  obtain ⟨⟨a, t⟩, hrun, hanswers⟩ := hran
  obtain ⟨r, hr, heq⟩ := Option.map_eq_some_iff.mp hanswers
  obtain ⟨hshown, hunknown⟩ := Prod.mk.inj heq
  obtain rfl : a = .results r := Answer.eq_results hr
  exact ⟨List.mem_singleton_self _, r, t, hrun, hshown, hunknown⟩

end Service

end Spelling
