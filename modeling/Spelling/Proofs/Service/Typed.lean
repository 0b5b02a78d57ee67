import Spelling.Proofs.Service.Accepted

/-!
# Whether the typed word is a word

Two answers of a service say whether a typed word is a word of a locale: the flag that comes with
its corrections, and the look-up in the enabled locales.  They look for different spellings:

    class     example          the flag                  the look-up
    plain     hELLO, fooBar    as it is, lowercase       as it is
    first     Hello            as it is, lowercase       as it is, lowercase
    all       GERMANS          as it is, lowercase       as it is, lowercase, capitalized
    mixed     FooBar           as it is, lowercase       as it is

So they are bound to agree for one class only.  Where `hello` is listed, the flag takes `hELLO` for
a word and the look-up does not; where `Germans` is listed, the look-up takes `GERMANS` for a word
and the flag does not.  `flag_and_lookup_agree_but` says that there are no other differences.
-/

namespace Spelling

/-! ## Two ways to look -/

namespace Capitalization

variable {listed : String → Bool} {l : Locale} {word : String} {c : Capitalization}

/-- Where looking for a word and its lowercase, whatever its class, differs from looking for the
spellings of its class: either the lowercase alone is listed and not looked for, or the capitalized
spelling alone is listed and looked for. -/
def Strays (listed : String → Bool) (l : Locale) (word : String) (c : Capitalization) : Prop :=
  listed word = false ∧
    (c.hasVariants = false ∧ listed (Casing.lower l word) = true ∨
      c = .all ∧ listed (Casing.lower l word) = false ∧
        listed (Casing.capitalize l word) = true)

theorem any_variants (listed : String → Bool) (l : Locale) (word : String) (c : Capitalization) :
    (c.variants l word).any listed =
      (listed word || (c.hasVariants && listed (Casing.lower l word)) ||
        (c == .all && listed (Casing.capitalize l word))) := by
  cases c with
  | all => simp [variants, hasVariants, Bool.or_assoc]
  | plain | first | mixed => simp [variants, hasVariants]

theorem lower_eq_any_variants_iff :
    (listed word || listed (Casing.lower l word)) = (c.variants l word).any listed ↔
      ¬ c.Strays listed l word := by
  rw [any_variants, Strays]
  cases listed word <;> cases listed (Casing.lower l word) <;>
    cases listed (Casing.capitalize l word) <;> cases c <;> simp [hasVariants]

end Capitalization

namespace Service

open WordList

/-! ## The plain service -/

namespace Plain

variable {σ δ : Type} {b : Backend σ δ} {fresh : Locale → Options → Loaded δ} {n : Nat}
  {p : Plain} {l : Locale} {word : String}

/-- Whether a word is listed in a locale, whose dictionary may be missing. -/
def listed (s : Source) (n : Nat) (p : Plain) (l : Locale) (word : String) : Bool :=
  match s.fresh l ⟨p.useContacts, n⟩ with
  | .opened d => d.contains word
  | .failed _ | .broken _ => false

/-- Among locales that are all the same one, looking up a word is asking that one. -/
theorem search_of_sole (c : Capitalization) {locales : List Locale} (hmem : l ∈ locales)
    (hsole : ∀ m ∈ locales, m = l) : p.search b fresh n word c locales =
      (p.ask b fresh n l (.contains (c.variants l word))).map Reply.toFlag := by
  induction locales with
  | nil => cases hmem
  | cons m rest ih =>
      cases hsole m List.mem_cons_self
      rw [search]
      cases hask : p.ask b fresh n l (.contains (c.variants l word)) with
      | returned r =>
          cases hr : r.toFlag with
          | true => simp [Outcome.map, hr]
          | false =>
              simp only [hr, Bool.false_eq_true, if_false, Outcome.map]
              cases rest with
              | nil => rfl
              | cons m' rest' =>
                  cases hsole m' (List.mem_cons_of_mem _ List.mem_cons_self)
                  rw [ih List.mem_cons_self fun m hm => hsole m (List.mem_cons_of_mem _ hm), hask,
                    Outcome.map, hr]
      | broken message => rfl
      | endless => rfl

/-- What a dictionary over word lists answers about words: which of them are listed. -/
theorem ask_contains_listed (s : Source)
    (hsure : ∀ message, s.fresh l ⟨p.useContacts, n⟩ ≠ .broken message) (words : List String) :
    p.ask (.ofKind s.kind) s.fresh n l (.contains words) =
      .returned (.flag (words.any (p.listed s n l))) := by
  cases hd : s.fresh l ⟨p.useContacts, n⟩ with
  | opened d =>
      have hlisted : p.listed s n l = d.contains := by
        funext word
        rw [listed, hd]
      rw [ask_contains hd, hlisted]
  | failed error =>
      have hnone : words.any (p.listed s n l) = false := by
        refine List.any_eq_false.mpr ?_
        intro word _
        simp [listed, hd]
      rw [ask, hd, hnone]
      rfl
  | broken message => exact absurd hd (hsure message)

/-- What a dictionary over word lists says of the typed word: whether it or its lowercase is listed.
-/
theorem corrections_typedValid (s : Source)
    (hsure : ∀ message, s.fresh l ⟨p.useContacts, n⟩ ≠ .broken message) (hn : 0 < n) (q : Query) :
    ∃ r, corrections (p.ask (.ofKind s.kind) s.fresh n l (.suggest q 0)) = .returned r ∧
      r.typedValid = (p.listed s n l q.composed.word ||
        p.listed s n l (Casing.lower l q.composed.word)) := by
  cases hd : s.fresh l ⟨p.useContacts, n⟩ with
  | opened d =>
      obtain ⟨main, -, -, hlists⟩ := Source.fresh_eq_opened_iff.mp hd
      have hmain : d.hasMain = true := by rw [← hlists]; rfl
      have hlocale : d.locale = l := by rw [← hlists]; rfl
      have hroom : 0 < d.sessions := (Source.sessions_of_fresh hd).symm ▸ hn
      refine ⟨⟨rank (d.corrections q), d.isTypedValid q.composed.word⟩, ?_, ?_⟩
      · rw [ask, hd]
        show corrections (Answered.ofExcept (d.suggest q 0)).outcome = _
        rw [Dictionary.suggest_of_open hmain hroom]
        rfl
      · dsimp only
        rw [Dictionary.isTypedValid, hlocale]
        simp only [listed, hd]
  | failed error =>
      refine ⟨.none, ?_, ?_⟩
      · rw [ask, hd]
        rfl
      · simp only [listed, hd]
        rfl
  | broken message => exact absurd hd (hsure message)

end Plain

/-- **The flag and the look-up agree, but for two kinds of words.**  Whatever a service over word
lists was asked before, while one locale is enabled and no other: the flag that comes with the
corrections of a typed word says whether the word or its lowercase is listed there, and looking the
word up finds whether one of the spellings of its class is; they say the same unless the lowercase
alone is listed and the class is plain or mixed, or the capitalized spelling alone is listed and the
class is all capitals.  Where the dictionary cannot be opened for want of room, both break off. -/
theorem flag_and_lookup_agree_but (source : Source) (settings : Settings)
    (locales : List Locale) (before : List Call) (l : Locale) (composed : Composed)
    (context : Context) (keyboard : Keyboard) (patience : Patience) :
    let b := Backend.ofKind source.kind
    let s := (ofSettings settings () locales : Service Unit WordList.Dictionary).afterAll b before
    let word := composed.word
    let c := Capitalization.classify word
    let suggested := ((Call.suggest l composed context keyboard patience).run b s).1
    let found := ((Call.isValidAnywhere word c).run b s).1
    l ∈ s.enabled.locales → (∀ m ∈ s.enabled.locales, m = l) →
      (∃ message, suggested = .broken message ∧ found = .broken message) ∨
      ∃ (listed : String → Bool) (r : Results) (flag : Bool),
        (∀ word, ((Call.isValid l word).run b s).1 = .flag (listed word)) ∧
        suggested = .results r ∧ found = .flag flag ∧
        r.typedValid = (listed word || listed (Casing.lower l word)) ∧
        flag = (c.variants l word).any listed ∧
        (r.typedValid = flag ↔ ¬ c.Strays listed l word) := by
  intro b s word c suggested found hmem hsole
  have hb : b.Dependable source.fresh := source.dependable
  let n := settings.maxReaders.1
  let p := (Plain.mk locales settings.useContacts).afterAll before
  have hs : s.Quiet b source.fresh n p := quiet_afterAll source settings locales before
  rw [hs.locales] at hmem hsole
  let q : Query := ⟨composed, context, keyboard, {}⟩
  have hsuggested : suggested =
      .ofOutcome .results (Plain.corrections (p.ask b source.fresh n l (.suggest q 0))) :=
    hs.answer hb _
  have hfound : found = .ofOutcome .flag (p.search b source.fresh n word c p.locales) :=
    hs.answer hb _
  rw [Plain.search_of_sole c hmem hsole] at hfound
  by_cases hbroken : ∃ message, source.fresh l ⟨p.useContacts, n⟩ = .broken message
  · obtain ⟨message, hbroken⟩ := hbroken
    refine .inl ⟨message, ?_, ?_⟩
    · rw [hsuggested, Plain.ask, hbroken]
      rfl
    · rw [hfound, Plain.ask, hbroken]
      rfl
  · have hsure : ∀ message, source.fresh l ⟨p.useContacts, n⟩ ≠ .broken message :=
      fun message heq => hbroken ⟨message, heq⟩
    obtain ⟨r, hr, hvalid⟩ := Plain.corrections_typedValid source hsure settings.maxReaders.2 q
    refine .inr ⟨p.listed source n l, r, _, ?_, ?_, ?_, hvalid, rfl, ?_⟩
    · intro w
      rw [hs.answer hb, Plain.answer, Plain.ask_contains_listed source hsure]
      simp [Outcome.map, Reply.toFlag, Answer.ofOutcome]
    · rw [hsuggested, hr]
      rfl
    · rw [hfound, Plain.ask_contains_listed source hsure]
      rfl
    · rw [hvalid]
      exact Capitalization.lower_eq_any_variants_iff

/-- Typed in capitals, a small word is flagged as a word, and is found. -/
theorem flag_and_lookup_agree_but_of_small :
    let en := Locale.ofLanguage "en"
    let source : Source := .memory [(en, "1\nhello fq:200\n")] none
    let b := Backend.ofKind source.kind
    let before : List Call := [.setContacts false, .refresh [en, en]]
    let s := (ofSettings {} () [.ofLanguage "de"] : Service Unit WordList.Dictionary).afterAll b
      before
    (en ∈ s.enabled.locales ∧ ∀ m ∈ s.enabled.locales, m = en) ∧
      ∃ r, ((Call.suggest en (.typed "HELLO") .empty .empty .usual).run b s).1 = .results r ∧
        r.typedValid = true ∧
        ((Call.isValidAnywhere "HELLO" (.classify "HELLO")).run b s).1 = .flag true := by
  intro en source b before s
  have hsole : en ∈ s.enabled.locales ∧ ∀ m ∈ s.enabled.locales, m = en := by decide +kernel
  refine ⟨hsole, ?_⟩
  have hanswer := flag_and_lookup_agree_but source {} [.ofLanguage "de"] before en
    (.typed "HELLO") .empty .empty .usual hsole.1 hsole.2
  rcases hanswer with ⟨message, -, hbroken⟩ |
    ⟨listed, r, flag, hlisted, hsuggested, hfound, hvalid, -, hagree⟩
  · have hflag : ((Call.isValidAnywhere "HELLO" (.classify "HELLO")).run b s).1 = .flag true := by
      decide +kernel
    cases hflag.symm.trans hbroken
  · have hhello : listed "hello" = true := by
      have hasked : ((Call.isValid en "hello").run b s).1 = .flag true := by decide +kernel
      exact Answer.flag.inj ((hlisted "hello").symm.trans hasked)
    have hlower : Casing.lower en "HELLO" = "hello" := by decide +kernel
    have hclass : Capitalization.classify "HELLO" = .all := by decide +kernel
    have hword : (Composed.typed "HELLO").word = "HELLO" := rfl
    rw [hword] at hvalid hagree
    have htrue : r.typedValid = true := by rw [hvalid, hlower, hhello, Bool.or_true]
    have hsame : r.typedValid = flag := by
      refine hagree.mpr ?_
      rintro ⟨-, ⟨hnone, -⟩ | ⟨-, hfalse, -⟩⟩
      · rw [hclass] at hnone
        cases hnone
      · rw [hlower, hhello] at hfalse
        cases hfalse
    refine ⟨r, hsuggested, htrue, ?_⟩
    rw [← htrue, hsame]
    exact hfound

/-- Typed in capitals, a name is found, and is not flagged as a word. -/
theorem capitalized_name_in_capitals_is_found_unflagged :
    let en := Locale.ofLanguage "en"
    let source : Source := .memory [(en, "1\nGermans fq:40\n")] none
    let b := Backend.ofKind source.kind
    let s : Service Unit WordList.Dictionary := ofSettings {} () [en]
    s.enabled.locales = [en] ∧
      ∃ r t, (Call.suggest en (.typed "GERMANS") .empty .empty .usual).run b s = (.results r, t) ∧
        r.typedValid = false ∧
        ((Call.isValidAnywhere "GERMANS" (.classify "GERMANS")).run b t).1 = .flag true := by
  intro en source b s
  have hran : ∃ ran, (Call.suggest en (.typed "GERMANS") .empty .empty .usual).run b s = ran ∧
      (ran.1.results?.map fun r => (r.typedValid,
        ((Call.isValidAnywhere "GERMANS" (.classify "GERMANS")).run b ran.2).1)) =
          some (false, .flag true) :=
    ⟨_, rfl, by decide +kernel⟩
  obtain ⟨⟨a, t⟩, hrun, hanswers⟩ := hran
  obtain ⟨r, hr, heq⟩ := Option.map_eq_some_iff.mp hanswers
  obtain ⟨hunflagged, hfound⟩ := Prod.mk.inj heq
  obtain rfl : a = .results r := Answer.eq_results hr
  exact ⟨rfl, r, t, hrun, hunflagged, hfound⟩

end Service

end Spelling
