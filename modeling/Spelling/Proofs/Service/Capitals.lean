import Spelling.Proofs.Alphabet
import Spelling.Proofs.Service.Accepted

/-!
# Listed words typed in capitals

A word that was typed in capitals is looked up as typed, in small letters, and with its first
character capitalized.  A listed word of an alphabet is found so:

    listed      typed       found as
    hello       HELLO       hello
    Germans     GERMANS     Germans
    4K          4K          4K, which has no other letter
    'Tis        'TIS        nothing: capitalizing stops at the apostrophe, which gives 'tis again

An opening cannot break off in the look-up: whether one does hangs on the number of sessions alone,
and the dictionary that has the word can be opened with the same number.
-/

namespace Spelling.Service

open WordList

variable {source : Source} {n : Nat} {p : Plain} {s : Service Unit WordList.Dictionary}

/-- What a quiet service over word lists would open for its enabled locales. -/
theorem Quiet.opens_eq (h : s.Quiet (.ofKind source.kind) source.fresh n p) (l : Locale) :
    (s.cacheState s.enabled.cache).opens (.ofKind source.kind) l =
      source.fresh l ⟨p.useContacts, n⟩ := by
  rw [CacheState.opens, CacheState.options_eq (h.atEither (.inr rfl))]
  exact source.dependable.sure ..

/-- **A listed word of an alphabet is found in capitals, unless its capital comes late.**  Whatever a
service over word lists was asked before: a word that is listed for an enabled locale and that is
made of letters of its alphabet, digits, apostrophes and hyphens is right in capitals, if it is
small, or if its first letter is its only capital and stands first or has no other letter after it.
With something before that letter and others after it, the capitals are looked up as they are and in
small letters only, and neither is the word. -/
theorem capitals_of_listed_are_right (source : Source) (settings : Settings)
    (locales : List Locale) (before : List Call) (l : Locale) (d : WordList.Dictionary)
    (word : String) :
    let b := Backend.ofKind source.kind
    let s := (ofSettings settings () locales : Service Unit WordList.Dictionary).afterAll b before
    let typed := Casing.upper l word
    let small := Casing.lower l word
    let letters := word.toList.filter Text.isAlphabetic
    let spellings := (Capitalization.classify typed).variants l typed
    let answer := ((Call.isValidAnywhere typed (.classify typed)).run b s).1
    l ∈ s.enabled.locales → (s.cacheState s.enabled.cache).opens b l = .opened d →
    d.contains word = true → (∀ c ∈ word.toList, Casing.inAlphabet l c = true) →
      ((∀ c ∈ word.toList, Text.isUppercase c = false) → answer = .flag true) ∧
      (Capitalization.classify word = .first →
        (word.toList.head?.any Text.isAlphabetic = true ∨ letters.length = 1 →
          answer = .flag true) ∧
        (word.toList.head?.any Text.isAlphabetic = false → letters.length ≠ 1 →
          word ∉ spellings ∧ spellings = [typed, small, small])) := by
  intro b s typed small letters spellings answer hl hopens hlisted halphabet
  let p := (Plain.mk locales settings.useContacts).afterAll before
  have hs : s.Quiet b source.fresh settings.maxReaders.1 p :=
    quiet_afterAll source settings locales before
  rw [hs.opens_eq] at hopens
  have hright : word ∈ spellings → answer = .flag true := by
    intro hspelling
    have henabled : l ∈ p.locales := hs.locales ▸ hl
    show ((Call.isValidAnywhere typed (.classify typed)).run b s).1 = _
    rw [hs.answer source.dependable, Plain.answer, Plain.search_of_contains hopens
      (fun m message => Source.fresh_ne_broken hopens message) hspelling hlisted henabled]
    rfl
  have heither : ∀ c ∈ word.toList, Casing.isEither l c = true := fun c hc =>
    Casing.isEither_of_inAlphabet (halphabet c hc)
  have hword : String.ofList word.toList = word := String.ofList_toList
  refine ⟨fun hlower => hright ?_, fun hfirst => ⟨fun hreach => hright ?_, ?_⟩⟩
  · have hmem := Capitalization.mem_variants_upper_of_lowercase heither hlower
    rwa [hword] at hmem
  · have hmem := Capitalization.mem_variants_upper_of_first heither (hword.symm ▸ hfirst) hreach
    rwa [hword] at hmem
  · intro hhead hletters
    have hvariants :=
      Capitalization.variants_upper_of_first heither (hword.symm ▸ hfirst) hhead hletters
    rwa [hword] at hvariants

/-- A Turkish city is found in capitals, with the dot on its first letter. -/
theorem capitals_of_listed_are_right_of_city :
    let tr := Locale.ofLanguage "tr"
    let source : Source := .memory [(tr, "1\nİzmir")] none
    let b := Backend.ofKind source.kind
    let before : List Call := [.isValid tr "izmir", .setContacts false, .closeAll]
    let s := (ofSettings {} () [tr] : Service Unit WordList.Dictionary).afterAll b before
    tr ∈ s.enabled.locales ∧ (∀ c ∈ "İzmir".toList, Casing.inAlphabet tr c = true) ∧
      Capitalization.classify "İzmir" = .first ∧ Casing.upper tr "İzmir" = "İZMİR" ∧
      ((Call.isValidAnywhere "İZMİR" (.classify "İZMİR")).run b s).1 = .flag true := by
  intro tr source b before s
  have htr : tr ∈ s.enabled.locales := by decide +kernel
  have halphabet : ∀ c ∈ "İzmir".toList, Casing.inAlphabet tr c = true :=
    List.all_eq_true.mp (by decide +kernel)
  have hfirst : Capitalization.classify "İzmir" = .first := by decide +kernel
  have hupper : Casing.upper tr "İzmir" = "İZMİR" := by decide +kernel
  have hhead : "İzmir".toList.head?.any Text.isAlphabetic = true := by decide +kernel
  have hlisted : ∃ d, (s.cacheState s.enabled.cache).opens b tr = .opened d ∧
      d.contains "İzmir" = true := by
    have hopens : (match (s.cacheState s.enabled.cache).opens b tr with
        | .opened d => d.contains "İzmir"
        | .failed _ | .broken _ => false) = true := by decide +kernel
    split at hopens
    · next d hd => exact ⟨d, hd, hopens⟩
    all_goals cases hopens
  obtain ⟨d, hopens, hcontains⟩ := hlisted
  have hright := (capitals_of_listed_are_right source {} [tr] before tr d "İzmir" htr hopens
    hcontains halphabet).2 hfirst
  refine ⟨htr, halphabet, hfirst, hupper, ?_⟩
  rw [← hupper]
  exact hright.1 (.inl hhead)

/-- An apostrophe before its first letter makes a listed word unknown in capitals. -/
theorem capitals_after_apostrophe_are_unknown :
    let en := Locale.ofLanguage "en"
    let source : Source := .memory [(en, "1\n'Tis")] none
    let b := Backend.ofKind source.kind
    let s : Service Unit WordList.Dictionary := ofSettings {} () [en]
    en ∈ s.enabled.locales ∧ ((Call.isValid en "'Tis").run b s).1 = .flag true ∧
      (∀ c ∈ "'Tis".toList, Casing.inAlphabet en c = true) ∧
      Capitalization.classify "'Tis" = .first ∧ Casing.upper en "'Tis" = "'TIS" ∧
      ((Call.isValidAnywhere "'TIS" (.classify "'TIS")).run b s).1 = .flag false :=
  ⟨by decide +kernel, by decide +kernel, List.all_eq_true.mp (by decide +kernel),
    by decide +kernel, by decide +kernel, by decide +kernel⟩

end Spelling.Service
