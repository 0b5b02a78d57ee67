import Spelling.Proofs.Sigma
import Spelling.Verdict

/-!
# Words that are found again after recasing

A correction is shown in the casing of the typed word, and a word is looked up under the spellings
of its class.  These are two tables, and the second does not undo the first for every word:

    listed        shown as       looked up as                  because of
    iPhone        Iphone         Iphone, iphone                capitals inside
    McDonald      MCDONALD       MCDONALD, mcdonald, Mcdonald  capitals inside
    straße        STRASSE        STRASSE, strasse, Strasse     a capital of two letters

It does undo it for words whose letters have one case partner each (`isPaired`), written in one of
the casings that words are listed in (`Canonical`): small, capitalized, or all in capitals.  Small
ASCII words are of this kind in every locale (`isSmall_ascii`).  The small sigma is left out, since
the capital one is lowercased by its place in the word.
-/

namespace Spelling.Casing

variable {l : Locale} {c u : Char} {w : List Char}

/-! ## Characters with one case partner -/

/-- Whether a character is a small letter with one capital, which goes back to it, or is no letter
and has no case. -/
def isPaired (l : Locale) (c : Char) : Bool :=
  match upperChar l c with
  | [u] =>
    lowerChars l [c] == [c] && lowerChars l [u] == [c] && upperChar l u == [u] && c != 'σ' &&
      if Text.isAlphabetic c then
        Text.isAlphabetic u && Text.isUppercase u && !Text.isUppercase c
      else u == c
  | _ => false

/-- The capital of a character that has one. -/
def capital (l : Locale) (c : Char) : Char := (upperChar l c).headD c

/-- What `isPaired` says of a character and its capital. -/
structure Paired (l : Locale) (c u : Char) : Prop where
  upper : upperChar l c = [u]
  upper_capital : upperChar l u = [u]
  lower : lowerChars l [c] = [c]
  lower_capital : lowerChars l [u] = [c]
  ne_sigma : c ≠ 'σ'
  letter : Text.isAlphabetic c = true →
    Text.isAlphabetic u = true ∧ Text.isUppercase u = true ∧ Text.isUppercase c = false
  other : Text.isAlphabetic c = false → u = c

theorem paired_of_isPaired (h : isPaired l c = true) : Paired l c (capital l c) := by
  rw [isPaired] at h
  split at h
  · next u hu =>
    have hcapital : capital l c = u := by rw [capital, hu, List.headD_cons]
    rw [hcapital]
    simp only [Bool.and_eq_true, beq_iff_eq, bne_iff_ne] at h
    obtain ⟨⟨⟨⟨hlower, hback⟩, hupper⟩, hsigma⟩, hcase⟩ := h
    refine ⟨hu, hupper, hlower, hback, hsigma, ?_, ?_⟩
    · intro hletter
      simp only [hletter, if_true, Bool.and_eq_true, Bool.not_eq_true'] at hcase
      exact ⟨hcase.1.1, hcase.1.2, hcase.2⟩
    · intro hother
      simpa [hother] using hcase
  · cases h

/-- Neither character of a pair is a capital sigma. -/
theorem Paired.ne_capitalSigma (h : Paired l c u) : c ≠ 'Σ' ∧ u ≠ 'Σ' := by
  have hsigma : lowerChars l ['Σ'] = ['σ'] := by
    rw [lowerChars]
    split <;> rfl
  refine ⟨?_, ?_⟩
  · rintro rfl
    have hlower := hsigma.symm.trans h.lower
    exact absurd hlower (by decide)
  · rintro rfl
    have hlower := hsigma.symm.trans h.lower_capital
    exact h.ne_sigma (List.cons.inj hlower).1.symm

/-- Only the turkic rules set a locale apart. -/
theorem isPaired_congr {m : Locale} (h : l.hasTurkicCasing = m.hasTurkicCasing) (c : Char) :
    isPaired l c = isPaired m c := by
  have hupper : ∀ c, upperChar l c = upperChar m c := by
    intro c
    rw [upperChar, upperChar, h]
  have hlower : ∀ cs, lowerChars l cs = lowerChars m cs := by
    intro cs
    rw [lowerChars, lowerChars, h]
  simp only [isPaired, hupper, hlower]

/-- A character and its capital are both letters or both none. -/
theorem Paired.isAlphabetic (h : Paired l c u) : Text.isAlphabetic u = Text.isAlphabetic c := by
  cases hletter : Text.isAlphabetic c with
  | true => exact (h.letter hletter).1
  | false => rw [h.other hletter, hletter]

/-- Every character of ASCII that is no capital is paired, whatever the locale. -/
theorem isPaired_ascii (l : Locale) (h : c.toNat < 128) (hsmall : c.isUpper = false) :
    isPaired l c = true := by
  have hall : ∀ n : Fin 128, (Char.ofNat n).isUpper = false →
      isPaired (.ofLanguage "tr") (Char.ofNat n) = true ∧
        isPaired (.ofLanguage "en") (Char.ofNat n) = true := by
    decide +kernel
  obtain ⟨hturkic, hother⟩ := hall ⟨c.toNat, h⟩ (by rwa [Char.ofNat_toNat])
  rw [Char.ofNat_toNat] at hturkic hother
  cases hl : l.hasTurkicCasing with
  | true => exact (isPaired_congr (m := .ofLanguage "tr") (hl.trans rfl) c).trans hturkic
  | false => exact (isPaired_congr (m := .ofLanguage "en") (hl.trans rfl) c).trans hother

/-- Characters of which each is lowercased to one other. -/
theorem lowerChars_map {α : Type} {f g : α → Char} {xs : List α}
    (h : ∀ x ∈ xs, lowerChars l [f x] = [g x] ∧ f x ≠ 'Σ') :
    lowerChars l (xs.map f) = xs.map g := by
  induction xs with
  | nil =>
      rw [lowerChars]
      split <;> rfl
  | cons x xs ih =>
      have hsigma : 'Σ' ∉ xs.map f := by
        intro hmem
        obtain ⟨y, hy, heq⟩ := List.mem_map.mp hmem
        exact (h y (List.mem_cons_of_mem _ hy)).2 heq
      rw [List.map_cons, lowerChars_cons hsigma, (h x List.mem_cons_self).1,
        ih fun y hy => h y (List.mem_cons_of_mem _ hy)]
      rfl

/-! ## Small words -/

/-- Every character of a word has one case partner. -/
def IsSmall (l : Locale) (w : List Char) : Prop := ∀ c ∈ w, isPaired l c = true

/-- A word of ASCII without capitals is small, whatever the locale. -/
theorem isSmall_ascii (l : Locale) (h : (w.all fun c => c.toNat < 128 && !c.isUpper) = true) :
    IsSmall l w := by
  intro c hc
  have hascii := List.all_eq_true.mp h c hc
  simp only [Bool.and_eq_true, decide_eq_true_eq, Bool.not_eq_true'] at hascii
  exact isPaired_ascii l hascii.1 hascii.2

section Small

variable {rest : List Char}

theorem IsSmall.paired (h : IsSmall l w) (hc : c ∈ w) : Paired l c (capital l c) :=
  paired_of_isPaired (h c hc)

theorem IsSmall.tail (h : IsSmall l (c :: rest)) : IsSmall l rest :=
  fun d hd => h d (List.mem_cons_of_mem _ hd)

theorem IsSmall.lower (h : IsSmall l w) : lowerChars l w = w := by
  have hself : ∀ d ∈ w, lowerChars l [id d] = [id d] ∧ id d ≠ 'Σ' := by
    intro d hd
    exact ⟨(h.paired hd).lower, (h.paired hd).ne_capitalSigma.1⟩
  have hmap := lowerChars_map hself
  rwa [List.map_id] at hmap

theorem IsSmall.lower_capitals (h : IsSmall l w) : lowerChars l (w.map (capital l)) = w := by
  have hback : ∀ d ∈ w, lowerChars l [capital l d] = [id d] ∧ capital l d ≠ 'Σ' := by
    intro d hd
    exact ⟨(h.paired hd).lower_capital, (h.paired hd).ne_capitalSigma.2⟩
  have hmap := lowerChars_map hback
  rwa [List.map_id] at hmap

theorem IsSmall.upper (h : IsSmall l w) : w.flatMap (upperChar l) = w.map (capital l) := by
  induction w with
  | nil => rfl
  | cons c rest ih =>
      rw [List.flatMap_cons, (h.paired List.mem_cons_self).upper, ih h.tail]
      rfl

theorem IsSmall.upper_capitals (h : IsSmall l w) :
    (w.map (capital l)).flatMap (upperChar l) = w.map (capital l) := by
  induction w with
  | nil => rfl
  | cons c rest ih =>
      rw [List.map_cons, List.flatMap_cons, (h.paired List.mem_cons_self).upper_capital,
        ih h.tail]
      rfl

theorem IsSmall.capitalize (h : IsSmall l (c :: rest)) :
    capitalizeChars l (c :: rest) = capital l c :: rest := by
  rw [capitalizeChars, (h.paired List.mem_cons_self).upper, h.tail.lower]
  rfl

theorem IsSmall.capitalize_capitals (h : IsSmall l w) :
    capitalizeChars l (w.map (capital l)) = capitalizeChars l w := by
  cases w with
  | nil => rfl
  | cons c rest =>
      rw [h.capitalize, List.map_cons, capitalizeChars,
        (h.paired List.mem_cons_self).upper_capital, h.tail.lower_capitals]
      rfl

theorem IsSmall.lower_capitalized (h : IsSmall l (c :: rest)) :
    lowerChars l (capital l c :: rest) = c :: rest := by
  have hc := h.paired List.mem_cons_self
  have hsigma : 'Σ' ∉ rest := fun hmem => (h.tail.paired hmem).ne_capitalSigma.1 rfl
  rw [lowerChars_cons hsigma, hc.lower_capital, h.tail.lower]
  rfl

/-- Capitalizing a word changes nothing, unless its first character is a letter. -/
theorem IsSmall.capitalize_cases (h : IsSmall l w) : capitalizeChars l w = w ∨
    ∃ c rest, w = c :: rest ∧ Text.isAlphabetic c = true ∧
      capitalizeChars l w = capital l c :: rest := by
  cases w with
  | nil => exact .inl rfl
  | cons c rest =>
      rw [h.capitalize]
      cases hletter : Text.isAlphabetic c with
      | true => exact .inr ⟨c, rest, rfl, hletter, rfl⟩
      | false =>
          refine .inl ?_
          rw [show capital l c = c from (h.paired List.mem_cons_self).other hletter]

/-- Where there is no letter, there is no case. -/
theorem IsSmall.capitals_of_others (h : IsSmall l w) (hnone : w.filter Text.isAlphabetic = []) :
    w.map (capital l) = w := by
  have hself : ∀ c ∈ w, capital l c = id c := by
    intro c hc
    cases hletter : Text.isAlphabetic c with
    | true => exact absurd hletter (List.filter_eq_nil_iff.mp hnone c hc)
    | false => exact (h.paired hc).other hletter
  rw [List.map_congr_left hself, List.map_id]

theorem IsSmall.upper_capitalize (h : IsSmall l w) :
    (capitalizeChars l w).flatMap (upperChar l) = w.map (capital l) := by
  cases w with
  | nil => rfl
  | cons c rest =>
      rw [h.capitalize, List.flatMap_cons, (h.paired List.mem_cons_self).upper_capital,
        h.tail.upper]
      rfl

end Small

end Spelling.Casing

namespace Spelling.Capitalization

open Casing

variable {l : Locale} {w : List Char}

/-! ## Classes -/

section Classes

variable {u v : Char} {cs : List Char}

theorem ofLetters_first (hu : Text.isUppercase u = true)
    (h : ∀ c ∈ cs, Text.isUppercase c = false) : ofLetters (u :: cs) = first := by
  have hnone : cs.filter Text.isUppercase = [] := by
    refine List.filter_eq_nil_iff.mpr ?_
    intro c hc
    simp [h c hc]
  simp [ofLetters, hu, hnone]

theorem ofLetters_capitals (h : ∀ c ∈ u :: v :: cs, Text.isUppercase c = true) :
    ofLetters (u :: v :: cs) = all := by
  have hall : (v :: cs).filter Text.isUppercase = v :: cs := by
    refine List.filter_eq_self.mpr ?_
    intro c hc
    exact h c (List.mem_cons_of_mem _ hc)
  simp [ofLetters, h u List.mem_cons_self, hall]

theorem ofLetters_ne_plain (hu : Text.isUppercase u = true) (cs : List Char) :
    ofLetters (u :: cs) ≠ plain := by
  rw [ofLetters, if_pos hu]
  simp only []
  split
  · intro h
    cases h
  · split
    all_goals
      intro h
      cases h

/-- The letters of a small word are no capitals. -/
theorem letters_small (h : IsSmall l w) :
    ∀ c ∈ w.filter Text.isAlphabetic, Text.isUppercase c = false := by
  intro c hc
  obtain ⟨hc, hletter⟩ := List.mem_filter.mp hc
  exact ((h.paired hc).letter hletter).2.2

/-- The letters of a small word in capitals are the capitals of its letters. -/
theorem letters_capitals (h : IsSmall l w) : (w.map (capital l)).filter Text.isAlphabetic =
    (w.filter Text.isAlphabetic).map (capital l) := by
  rw [List.filter_map]
  refine congrArg (List.map (capital l)) (List.filter_congr ?_)
  intro c hc
  exact (h.paired hc).isAlphabetic

theorem isUppercase_capitals (h : IsSmall l w) :
    ∀ u ∈ (w.filter Text.isAlphabetic).map (capital l), Text.isUppercase u = true := by
  intro u hu
  obtain ⟨c, hc, rfl⟩ := List.mem_map.mp hu
  obtain ⟨hc, hletter⟩ := List.mem_filter.mp hc
  exact ((h.paired hc).letter hletter).2.1

theorem classify_capitals (h : IsSmall l w) : classify (String.ofList (w.map (capital l))) =
    ofLetters ((w.filter Text.isAlphabetic).map (capital l)) := by
  rw [classify, String.toList_ofList, letters_capitals h]

/-- The class of a small word in capitals, by the number of its letters. -/
theorem classify_capitals_eq (h : IsSmall l w) :
    classify (String.ofList (w.map (capital l))) =
      if (w.filter Text.isAlphabetic).length = 0 then plain
      else if (w.filter Text.isAlphabetic).length = 1 then first
      else all := by
  have hupper := isUppercase_capitals h
  rw [classify_capitals h]
  match hletters : w.filter Text.isAlphabetic with
  | [] => rfl
  | [a] =>
      rw [hletters] at hupper
      exact ofLetters_first (hupper _ List.mem_cons_self) nofun
  | a :: a' :: as =>
      rw [hletters] at hupper
      exact ofLetters_capitals hupper

theorem classify_capitalized {c : Char} {rest : List Char} (h : IsSmall l (c :: rest))
    (hletter : Text.isAlphabetic c = true) :
    classify (String.ofList (capital l c :: rest)) = first := by
  obtain ⟨hcapital, hupper, -⟩ := (h.paired List.mem_cons_self).letter hletter
  rw [classify, String.toList_ofList, List.filter_cons_of_pos hcapital]
  exact ofLetters_first hupper (letters_small h.tail)

/-- Only without letters is a word in capitals none of the capitalized ones. -/
theorem letters_of_classify_capitals (h : IsSmall l w)
    (hplain : classify (String.ofList (w.map (capital l))) = plain) :
    w.filter Text.isAlphabetic = [] := by
  rw [classify, String.toList_ofList, letters_capitals h] at hplain
  cases hletters : w.filter Text.isAlphabetic with
  | nil => rfl
  | cons c cs =>
      have hc : c ∈ w.filter Text.isAlphabetic := hletters ▸ List.mem_cons_self
      obtain ⟨hc, hletter⟩ := List.mem_filter.mp hc
      rw [hletters, List.map_cons] at hplain
      exact absurd hplain (ofLetters_ne_plain ((h.paired hc).letter hletter).2.1 _)

end Classes

/-! ## The spellings that are looked up -/

section Variants

variable {word : String} {k : Capitalization}

theorem mem_variants_self (k : Capitalization) (l : Locale) (word : String) :
    word ∈ k.variants l word := List.mem_cons_self

theorem mem_variants_lower (h : k.hasVariants = true) : lower l word ∈ k.variants l word := by
  simp [variants, h]

theorem mem_variants_capitalize : Casing.capitalize l word ∈ all.variants l word := by
  simp [variants]

end Variants

/-- A small word, itself or capitalized or in capitals, is looked up for its capitals. -/
theorem mem_variants_capitals (h : IsSmall l w) {cs : List Char}
    (hcs : cs = w ∨ cs = capitalizeChars l w ∨ cs = w.map (capital l)) :
    let s := String.ofList (w.map (capital l))
    String.ofList cs ∈ (classify s).variants l s := by
  intro s
  have hclass : classify s = _ := classify_capitals_eq h
  have hlower : lower l s = String.ofList w := by
    rw [lower, String.toList_ofList, h.lower_capitals]
  have hcapitalize : Casing.capitalize l s = String.ofList (capitalizeChars l w) := by
    rw [Casing.capitalize, String.toList_ofList, h.capitalize_capitals]
  rcases hletters : w.filter Text.isAlphabetic with - | ⟨a, - | ⟨a', as⟩⟩
  · -- no letter
    have hsame := h.capitals_of_others hletters
    have hself : cs = w.map (capital l) := by
      rcases hcs with rfl | rfl | rfl
      · exact hsame.symm
      · rcases h.capitalize_cases with heq | ⟨c, rest, rfl, hletter, -⟩
        · rw [heq, hsame]
        · simp [hletter] at hletters
      · rfl
    rw [hself]
    exact mem_variants_self ..
  · -- one letter
    have hfirst : classify s = first := by
      rw [hclass, hletters]
      rfl
    have hsmall : String.ofList w ∈ (classify s).variants l s := by
      rw [← hlower, hfirst]
      exact mem_variants_lower rfl
    rcases hcs with rfl | rfl | rfl
    · exact hsmall
    · rcases h.capitalize_cases with heq | ⟨c, rest, rfl, hletter, heq⟩
      · rw [heq]
        exact hsmall
      · -- its first character is the only letter, so that it is in capitals
        have hrest : rest.filter Text.isAlphabetic = [] := by
          rw [List.filter_cons_of_pos hletter] at hletters
          exact (List.cons.inj hletters).2
        have hself : capital l c :: rest = (c :: rest).map (capital l) := by
          rw [List.map_cons, h.tail.capitals_of_others hrest]
        rw [heq, hself]
        exact mem_variants_self ..
    · exact mem_variants_self ..
  · -- two letters or more
    have hall : classify s = all := by
      rw [hclass, hletters]
      rfl
    rcases hcs with rfl | rfl | rfl
    · rw [← hlower, hall]
      exact mem_variants_lower rfl
    · rw [← hcapitalize, hall]
      exact mem_variants_capitalize
    · exact mem_variants_self ..

/-- A small word is looked up for the word capitalized. -/
theorem mem_variants_capitalized (h : IsSmall l w) :
    let s := String.ofList (capitalizeChars l w)
    String.ofList w ∈ (classify s).variants l s := by
  intro s
  rcases h.capitalize_cases with heq | ⟨c, rest, rfl, hletter, heq⟩
  · rw [show s = String.ofList w from congrArg String.ofList heq]
    exact mem_variants_self ..
  · have hfirst : classify s = first := by
      rw [show s = String.ofList (capital l c :: rest) from congrArg String.ofList heq]
      exact classify_capitalized h hletter
    have hlower : lower l s = String.ofList (c :: rest) := by
      rw [lower, String.toList_ofList, heq, h.lower_capitalized]
    rw [← hlower, hfirst]
    exact mem_variants_lower rfl

/-- Words in a casing that words are listed in. -/
inductive Canonical (l : Locale) : String → Prop
  | small {w : List Char} : IsSmall l w → Canonical l (String.ofList w)
  | capitalized {w : List Char} : IsSmall l w →
      Canonical l (Casing.capitalize l (String.ofList w))
  | capitals {w : List Char} : IsSmall l w → Canonical l (upper l (String.ofList w))

/-- **A word in such a casing is looked up however it was recased.** -/
theorem Canonical.mem_variants {word : String} (h : Canonical l word) (typed : Capitalization) :
    let s := Verdict.recase l typed word
    word ∈ (classify s).variants l s := by
  cases typed with
  | plain | mixed => exact mem_variants_self ..
  | all =>
      cases h with
      | @small w hw =>
          have hs : Verdict.recase l .all (String.ofList w) =
              String.ofList (w.map (capital l)) := by
            rw [Verdict.recase, upper, String.toList_ofList, hw.upper]
          rw [hs]
          exact mem_variants_capitals hw (.inl rfl)
      | @capitalized w hw =>
          have hs : Verdict.recase l .all (Casing.capitalize l (String.ofList w)) =
              String.ofList (w.map (capital l)) := by
            rw [Verdict.recase, upper, Casing.capitalize, String.toList_ofList,
              String.toList_ofList, hw.upper_capitalize]
          rw [hs, Casing.capitalize, String.toList_ofList]
          exact mem_variants_capitals hw (.inr (.inl rfl))
      | @capitals w hw =>
          have hs : Verdict.recase l .all (upper l (String.ofList w)) =
              String.ofList (w.map (capital l)) := by
            rw [Verdict.recase, upper, upper, String.toList_ofList, String.toList_ofList, hw.upper,
              hw.upper_capitals]
          rw [hs, upper, String.toList_ofList, hw.upper]
          exact mem_variants_capitals hw (.inr (.inr rfl))
  | first =>
      intro s
      by_cases hplain : classify word = .plain
      · -- no first letter is a capital, so that the word is small
        obtain ⟨w, hw, rfl⟩ : ∃ w, IsSmall l w ∧ word = String.ofList w := by
          cases h with
          | @small w hw => exact ⟨w, hw, rfl⟩
          | @capitalized w hw =>
              rw [Casing.capitalize, String.toList_ofList] at hplain ⊢
              rcases hw.capitalize_cases with heq | ⟨c, rest, rfl, hletter, heq⟩
              · exact ⟨w, hw, congrArg String.ofList heq⟩
              · rw [heq, classify_capitalized hw hletter] at hplain
                cases hplain
          | @capitals w hw =>
              rw [upper, String.toList_ofList, hw.upper] at hplain ⊢
              refine ⟨w, hw, congrArg String.ofList ?_⟩
              exact hw.capitals_of_others (letters_of_classify_capitals hw hplain)
        have hs : s = String.ofList (capitalizeChars l w) := by
          show Verdict.recase l .first (String.ofList w) = _
          rw [Verdict.recase, if_pos hplain, Casing.capitalize, String.toList_ofList]
        rw [hs]
        exact mem_variants_capitalized hw
      · have hs : s = word := if_neg hplain
        rw [hs]
        exact mem_variants_self ..

/-- In capitals, neither a capital inside nor the sharp s is looked up any more. -/
example :
    let de := Locale.ofLanguage "de"
    ∀ word ∈ ["McDonald", "straße"],
      let s := Verdict.recase de .all word
      word ∉ (classify s).variants de s := by
  decide +kernel

end Spelling.Capitalization
