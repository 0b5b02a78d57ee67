import Spelling.Proofs.Cache.Looking
import Spelling.Proofs.Service.Quiet
import Spelling.Proofs.WordList.Steady

/-!
# The order of look-ups

A word is looked for in the enabled locales, one after another, and in each under the spellings of
its class:

    class     look-ups in a locale
    plain     as it is
    first     as it is, lowercase
    all       as it is, lowercase, capitalized
    mixed     as it is

The word is right if any of these look-ups finds it, and the first that does is the last that is
made.  A locale whose dictionary cannot be opened has none, and the next locale comes on.
-/

namespace Spelling

/-- The spellings under which a word of some class is looked up, in order. -/
def Capitalization.spellings (l : Locale) (word : String) : Capitalization → List String
  | plain | mixed => [word]
  | first => [word, Casing.lower l word]
  | all => [word, Casing.lower l word, Casing.capitalize l word]

theorem Capitalization.variants_eq_spellings (c : Capitalization) (l : Locale) (word : String) :
    c.variants l word = c.spellings l word := by
  cases c <;> rfl

theorem Capitalization.any_spellings {listed : String → Bool} {l : Locale} {word : String}
    {c : Capitalization} : (c.spellings l word).any listed = true ↔ listed word = true ∨
      (c = .first ∨ c = .all) ∧ listed (Casing.lower l word) = true ∨
      c = .all ∧ listed (Casing.capitalize l word) = true := by
  cases c <;> simp [spellings]

namespace Service

variable {σ δ : Type} {b : Backend σ δ} {fresh : Locale → Options → Loaded δ} {n : Nat}
  {words : Locale → Option (Bool → String → Bool)} {c : Capitalization} {word : String}

/-- All look-ups of a word in some locales, as they are made when none of them finds it. -/
def lookUpsIn (words : Locale → Option (Bool → String → Bool)) (word : String) (c : Capitalization)
    (locales : List Locale) : List (Locale × String) :=
  locales.flatMap fun l => lookUps words l (c.spellings l word)

theorem lookUpsIn_cons (l : Locale) (rest : List Locale) : lookUpsIn words word c (l :: rest) =
    lookUps words l (c.spellings l word) ++ lookUpsIn words word c rest :=
  List.flatMap_cons

/-- A look-up finds a word where one of its spellings is known. -/
theorem any_hits_lookUpsIn {on : Bool} {locales : List Locale} :
    (lookUpsIn words word c locales).any (hits words on) = true ↔
      ∃ l ∈ locales, ∃ known, words l = some known ∧
        (known on word = true ∨
          (c = .first ∨ c = .all) ∧ known on (Casing.lower l word) = true ∨
          c = .all ∧ known on (Casing.capitalize l word) = true) := by
  rw [lookUpsIn, List.any_flatMap, List.any_eq_true]
  refine exists_congr fun l => and_congr_right fun _ => ?_
  rw [any_hits_lookUps, Option.any_eq_true]
  refine exists_congr fun known => and_congr_right fun _ => ?_
  exact Capitalization.any_spellings

namespace Plain

variable {p : Plain}

/-- What a locale answers about some words. -/
theorem ask_of_knows (hwords : b.Knows fresh n words) (l : Locale) (asked : List String) :
    p.ask b fresh n l (.contains asked) =
      .returned (.flag ((lookUps words l asked).any (hits words p.useContacts))) := by
  rw [ask, any_hits_lookUps]
  cases hknown : words l with
  | none =>
      obtain ⟨e, he⟩ := hwords.failed l hknown p.useContacts
      rw [he]
      rfl
  | some known =>
      obtain ⟨d, hd, hcontains⟩ := hwords.opened l known hknown p.useContacts
      rw [hd, Option.any_some, Loaded.reply, Backend.reply,
        Backend.containsAny_of_ok fun word _ => hcontains word, Outcome.ofFlag]

/-- A word is found if one of the look-ups finds it. -/
theorem search_of_knows (hwords : b.Knows fresh n words) (locales : List Locale) :
    p.search b fresh n word c locales =
      .returned ((lookUpsIn words word c locales).any (hits words p.useContacts)) := by
  induction locales with
  | nil => rfl
  | cons l rest ih =>
      rw [search, ask_of_knows hwords, Capitalization.variants_eq_spellings, lookUpsIn_cons,
        List.any_append, ih]
      cases (lookUps words l (c.spellings l word)).any (hits words p.useContacts) <;> rfl

end Plain

/-! ## In a service -/

section Work

variable {s : Service σ δ} {p : Plain} (hb : b.Steady fresh)
  (hload : ∀ st l o, (b.load st l o).2.value = fresh l o) (hwords : b.Knows fresh n words)

include hb hload hwords

/-- The look-ups of a question to the dictionaries of the enabled locales. -/
theorem Quiet.looksUp_ask (h : s.Quiet b fresh n p) (l : Locale) (asked : List String) :
    s.world.LooksUp (s.ask b s.enabled.cache l (.contains asked)).2.world
      (throughFirst (hits words p.useContacts) (lookUps words l asked)) :=
  CacheState.looksUp_ask hb hload hwords h.atEnabled asked

/-- A question about words is answered by one look-up after another. -/
theorem Quiet.ask_of_knows (h : s.Quiet b fresh n p) (l : Locale) (asked : List String) :
    (s.ask b s.enabled.cache l (.contains asked)).2.Quiet b fresh n p ∧
      (s.ask b s.enabled.cache l (.contains asked)).1 =
        .returned (.flag ((lookUps words l asked).any (hits words p.useContacts))) := by
  obtain ⟨hquiet, hended⟩ := h.ask (hb.counted_of_load hload) (.inr rfl) l (.contains asked)
  exact ⟨hquiet, hended.eq_owed.trans (Plain.ask_of_knows hwords l asked)⟩

/-- Looking for a word goes on until a look-up finds it. -/
theorem Quiet.looksUp_findLocale {s : Service σ δ} (h : s.Quiet b fresh n p) (word : String)
    (c : Capitalization) (locales : List Locale) :
    s.world.LooksUp (s.findLocale b s.enabled.cache word c locales).2.world
      (throughFirst (hits words p.useContacts) (lookUpsIn words word c locales)) := by
  induction locales generalizing s with
  | nil => exact .of_eq rfl
  | cons l rest ih =>
      obtain ⟨hquiet, hanswer⟩ := h.ask_of_knows hb hload hwords l (c.spellings l word)
      have hlooks := h.looksUp_ask hb hload hwords l (c.spellings l word)
      have hrest := ih hquiet
      rw [Service.findLocale, Capitalization.variants_eq_spellings, lookUpsIn_cons]
      cases hask : s.ask b s.enabled.cache l (.contains (c.spellings l word)) with
      | mk o t =>
          have henabled : t.enabled = s.enabled := by
            have hsame : (s.ask b s.enabled.cache l (.contains (c.spellings l word))).2.enabled =
              s.enabled := rfl
            rwa [hask] at hsame
          rw [hask] at hanswer hlooks hrest
          cases hanswer
          rw [henabled] at hrest
          dsimp only [Reply.toFlag]
          cases hfound : (lookUps words l (c.spellings l word)).any (hits words p.useContacts) with
          | true =>
              rw [throughFirst_append_of_any hfound]
              exact hlooks
          | false =>
              rw [throughFirst_append_of_not_any hfound]
              exact hlooks.trans hrest

/-- What a look-up in the enabled locales comes to, and what it looks up. -/
theorem Quiet.isValidAnywhere_of_knows (h : s.Quiet b fresh n p) (word : String)
    (c : Capitalization) :
    (s.isValidAnywhere b word c).1 =
        .returned ((lookUpsIn words word c p.locales).any (hits words p.useContacts)) ∧
      s.world.LooksUp (s.isValidAnywhere b word c).2.world
        (throughFirst (hits words p.useContacts) (lookUpsIn words word c p.locales)) := by
  obtain ⟨-, hended⟩ := h.isValidAnywhere (hb.counted_of_load hload) word c
  constructor
  · exact hended.eq_owed.trans (Plain.search_of_knows hwords p.locales)
  · have hevents : (s.isValidAnywhere b word c).2.world.events =
        (s.findLocale b s.enabled.cache word c s.enabled.locales).2.world.events := by
      rw [Service.isValidAnywhere]
      split <;> next hfind => exact congrArg (fun r => r.2.world.events) hfind.symm
    have hlooks := h.looksUp_findLocale hb hload hwords word c s.enabled.locales
    rw [h.locales] at hlooks hevents
    obtain ⟨es, hes, hpairs⟩ := hlooks
    exact ⟨es, hevents.trans hes, hpairs⟩

end Work

/-- **Look-ups go through the locales and the spellings in order and stop at the first hit.**  The
service was asked anything before, and each locale has some words, or no dictionary.  The word is
found exactly if some enabled locale has it, or has its lowercase when its first letter is a capital
and its other letters are all or none, or has it capitalized when it is all in capitals.  What is
looked up is the sequence of the spellings in the enabled locales that have a dictionary, up to the
first that is found. -/
theorem look_ups_stop_at_first_hit (hb : b.Steady fresh)
    (hload : ∀ st l o, (b.load st l o).2.value = fresh l o) (settings : Settings)
    (hwords : b.Knows fresh settings.maxReaders.1 words) (st : σ) (locales : List Locale)
    (before : List Call) (word : String) (c : Capitalization) :
    let s := (ofSettings settings st locales : Service σ δ).afterAll b before
    let on := ((Plain.mk locales settings.useContacts).afterAll before).useContacts
    ∃ found t es, (Call.isValidAnywhere word c).run b s = (.flag found, t) ∧
      (found = true ↔ ∃ l ∈ s.enabled.locales, ∃ known, words l = some known ∧
        (known on word = true ∨
          (c = .first ∨ c = .all) ∧ known on (Casing.lower l word) = true ∨
          c = .all ∧ known on (Casing.capitalize l word) = true)) ∧
      t.world.events = s.world.events ++ es ∧
      es.filterMap Event.lookUp? =
        throughFirst (hits words on) (lookUpsIn words word c s.enabled.locales) := by
  intro s on
  have hs : s.Quiet b fresh settings.maxReaders.1
      ((Plain.mk locales settings.useContacts).afterAll before) :=
    (quiet_ofSettings settings st locales).afterAll (hb.counted_of_load hload) before
  obtain ⟨hanswer, es, hes, hpairs⟩ := hs.isValidAnywhere_of_knows hb hload hwords word c
  rw [← hs.locales] at hanswer hpairs
  refine ⟨_, (s.isValidAnywhere b word c).2, es, ?_, any_hits_lookUpsIn, hes, hpairs⟩
  show (Answer.ofOutcome .flag (s.isValidAnywhere b word c).1, _) = _
  rw [hanswer]
  rfl

end Service

/-! ## Word lists -/

namespace WordList.Source

/-- The words that a source has for a locale, with and without its contacts. -/
def words (s : Source) (l : Locale) : Option (Bool → String → Bool) :=
  match (s.mainList l).value with
  | .ok main => some fun on word =>
      main.contains word || (on && (s.contactsList.value.any (·.contains word)))
  | .error _ => none

/-- With room for the sessions, the dictionaries of a source have its words. -/
theorem knows (s : Source) {n : Nat} (hroom : layList n Dictionary.scratchBytes = .ok ()) :
    (Backend.ofKind s.kind).Knows s.fresh n s.words where
  opened l known hknown on := by
    rw [words] at hknown
    cases hmain : (s.mainList l).value with
    | error e =>
        rw [hmain] at hknown
        cases hknown
    | ok main =>
        rw [hmain] at hknown
        cases hknown
        refine ⟨_, fresh_eq_opened_iff.mpr ⟨main, hmain, hroom, rfl⟩, fun word => congrArg Except.ok ?_⟩
        show (Dictionary.ofLists l main s.contactsList.value ⟨on, n⟩).contains word = _
        rw [Dictionary.contains, Dictionary.lists, Dictionary.ofLists]
        cases on <;> cases s.contactsList.value <;> simp
  failed l hknown on := by
    rw [words] at hknown
    cases hmain : (s.mainList l).value with
    | error e => exact ⟨e, by rw [fresh_eq, hmain]⟩
    | ok main =>
        rw [hmain] at hknown
        cases hknown

end WordList.Source

namespace Service

open WordList

/-- A word in capitals is found by the lowercase of the second locale, after the first one, which
has no dictionary, and before the third one. -/
theorem look_ups_stop_at_first_hit_of_dotless :
    let tr := Locale.ofLanguage "tr"
    let en := Locale.ofLanguage "en"
    let source : Source := .memory [(tr, "1\nılık\n"), (en, "1\nilik\n")] none
    let b := Backend.ofKind source.kind
    let before : List Call := [.setContacts false, .isValidAnywhere "İLİK" .all]
    let s := (ofSettings {} () [.ofLanguage "fr", tr, en] :
      Service Unit WordList.Dictionary).afterAll b before
    b.Steady source.fresh ∧ b.Knows source.fresh 2 source.words ∧
      ∃ t es, (Call.isValidAnywhere "ILIK" .all).run b s = (.flag true, t) ∧
        t.world.events = s.world.events ++ es ∧
        es.filterMap Event.lookUp? = [(tr, "ILIK"), (tr, "ılık")] := by
  intro tr en source b before s
  have hwords : b.Knows source.fresh 2 source.words := source.knows (by decide)
  obtain ⟨found, t, es, hrun, -, hes, hpairs⟩ := look_ups_stop_at_first_hit source.steady
    (fun _ _ _ => rfl) {} hwords () [.ofLanguage "fr", tr, en] before "ILIK" .all
  have hs : s = afterAll (.ofKind source.kind) (ofSettings {} () [.ofLanguage "fr", tr, en]) before :=
    rfl
  rw [← hs] at hrun hes hpairs
  have hright : ((Call.isValidAnywhere "ILIK" .all).run b s).1 = .flag true := by decide +kernel
  rw [hrun] at hright
  obtain rfl : found = true := Answer.flag.inj hright
  refine ⟨source.steady, hwords, t, es, hrun, hes, ?_⟩
  rw [hpairs]
  decide +kernel

end Service

end Spelling
