import Mathlib.Data.List.TakeWhile
import Spelling.Casing

/-!
# A sigma after the first letter

A word in capitals is looked up in small letters and capitalized.  The two spellings are alike after
the first letter, but for one case.  Whether a capital sigma ends a word hangs on what stands before
it, and capitalizing lowercases the rest of the word on its own:

    word      lowercase    capitalized
    ΟΔΟΣ      οδος         Οδος           a letter of the rest stands before the sigma
    ΑΣΕ       ασε          Ασε            the sigma does not end the word
    ΑΣ        ας           Ασ             only the first letter stands before the sigma

Case-ignorable characters, such as an apostrophe, are looked through on both sides.  What stands
before a character that is not looked through plays no part behind it (`lowerAfter_append_of_any`),
so a word has one such sigma at most.
-/

namespace Spelling.Text

variable {c d : Char} {before skipped after rest : List Char}

/-! ## What stands before -/

theorem isCaseIgnorable_capitalSigma : isCaseIgnorable 'Σ' = false := by decide +kernel

theorem meetsCased_append_of_all (h : ∀ d ∈ before, isCaseIgnorable d = true)
    (outer : List Char) : meetsCased (before ++ outer) = meetsCased outer := by
  rw [meetsCased, meetsCased, List.dropWhile_append_of_pos h]

theorem meetsCased_append_of_any (h : ∃ d ∈ before, isCaseIgnorable d = false)
    (outer : List Char) : meetsCased (before ++ outer) = meetsCased before := by
  obtain ⟨d, hd, hlooked⟩ := h
  have hne : before.dropWhile isCaseIgnorable ≠ [] := by
    rw [Ne, List.dropWhile_eq_nil_iff]
    exact fun hall => Bool.eq_false_iff.mp hlooked (hall d hd)
  obtain ⟨e, more, hdrop⟩ := List.exists_cons_of_ne_nil hne
  rw [meetsCased, meetsCased, List.dropWhile_append, hdrop]
  rfl

/-- Behind a character that is not looked through, what stands before it plays no part. -/
theorem lowerAfter_append_of_any (h : ∃ d ∈ before, isCaseIgnorable d = false)
    (outer cs : List Char) : lowerAfter (before ++ outer) cs = lowerAfter before cs := by
  induction cs generalizing before with
  | nil => rfl
  | cons c rest ih =>
      obtain ⟨d, hd, hlooked⟩ := h
      have hrest := ih ⟨d, List.mem_cons_of_mem c hd, hlooked⟩
      rw [List.cons_append] at hrest
      rw [lowerAfter, lowerAfter, hrest, lowerBetween, lowerBetween,
        meetsCased_append_of_any ⟨d, hd, hlooked⟩]

theorem lowerAfter_append (h : 'Σ' ∉ skipped) (before cs : List Char) :
    lowerAfter before (skipped ++ cs) =
      skipped.flatMap lowerChar ++ lowerAfter (skipped.reverse ++ before) cs := by
  induction skipped generalizing before with
  | nil => rfl
  | cons c rest ih =>
      rw [List.mem_cons, not_or] at h
      obtain ⟨hc, hrest⟩ := h
      rw [List.cons_append, lowerAfter, lowerBetween_of_ne (Ne.symm hc), ih hrest,
        List.flatMap_cons, List.append_assoc, List.reverse_cons, List.append_assoc,
        List.singleton_append]

theorem capitalSigma_not_mem (h : ∀ d ∈ skipped, isCaseIgnorable d = true) : 'Σ' ∉ skipped := by
  intro hmem
  exact Bool.eq_false_iff.mp isCaseIgnorable_capitalSigma (h _ hmem)

/-- The first character is lowercased as if it stood alone. -/
theorem lowerChars_first (c : Char) (rest : List Char) :
    lowerChars (c :: rest) = lowerChars [c] ++ lowerAfter [c] rest := by
  have hfirst : ∀ after, lowerBetween [] c after = lowerBetween [] c [] := by
    intro after
    rw [lowerBetween, lowerBetween]
    rfl
  rw [lowerChars, lowerChars, lowerAfter, lowerAfter, lowerAfter, hfirst, List.append_nil]

/-! ## A sigma behind the first letter -/

/-- A capital sigma ends a word, and of what stands before it only the first character counts. -/
structure SigmaAfterFirst (c : Char) (rest skipped after : List Char) : Prop where
  parts : rest = skipped ++ 'Σ' :: after
  skipped : ∀ d ∈ skipped, isCaseIgnorable d = true
  first : meetsCased [c] = true
  last : meetsCased after = false

/-- How a sigma is lowercased that comes right behind some text, as far as one looks. -/
theorem lowerAfter_sigma (h : ∀ d ∈ skipped, isCaseIgnorable d = true)
    (before after : List Char) :
    lowerAfter before (skipped ++ 'Σ' :: after) = skipped.flatMap lowerChar ++
      (if meetsCased before && !meetsCased after then 'ς' else 'σ') :: lowerAfter ['Σ'] after := by
  have hback : ∀ d ∈ skipped.reverse, isCaseIgnorable d = true := fun d hd =>
    h d (List.mem_reverse.mp hd)
  have hafter : lowerAfter ('Σ' :: (skipped.reverse ++ before)) after = lowerAfter ['Σ'] after :=
    lowerAfter_append_of_any ⟨'Σ', List.mem_singleton_self _, isCaseIgnorable_capitalSigma⟩
      (skipped.reverse ++ before) after
  rw [lowerAfter_append (capitalSigma_not_mem h), lowerAfter, lowerBetween, if_pos rfl,
    meetsCased_append_of_all hback, hafter]
  split <;> rfl

/-- Without such a sigma the first character makes no difference to the rest. -/
theorem lowerAfter_first (h : ¬ ∃ skipped after, SigmaAfterFirst c rest skipped after) :
    lowerAfter [c] rest = lowerAfter [] rest := by
  obtain ⟨skipped, tail, rfl, hskipped, htail⟩ : ∃ skipped tail, rest = skipped ++ tail ∧
      (∀ d ∈ skipped, isCaseIgnorable d = true) ∧
      ∀ d ∈ tail.head?, isCaseIgnorable d = false := by
    refine ⟨rest.takeWhile isCaseIgnorable, rest.dropWhile isCaseIgnorable,
      List.takeWhile_append_dropWhile.symm, fun d hd => List.mem_takeWhile_imp hd, ?_⟩
    intro d hd
    have hhead := List.head?_dropWhile_not isCaseIgnorable rest
    rwa [Option.mem_def.mp hd] at hhead
  cases tail with
  | nil =>
      have hsigma := capitalSigma_not_mem hskipped
      rw [lowerAfter_append hsigma, lowerAfter_append hsigma]
      rfl
  | cons d after =>
      have hd : isCaseIgnorable d = false := htail d rfl
      by_cases hsigma : d = 'Σ'
      · subst hsigma
        have hnot : (meetsCased [c] && !meetsCased after) = false := by
          rw [Bool.eq_false_iff, Ne, Bool.and_eq_true, Bool.not_eq_true']
          exact fun ⟨hfirst, hlast⟩ => h ⟨skipped, after, rfl, hskipped, hfirst, hlast⟩
        rw [lowerAfter_sigma hskipped, lowerAfter_sigma hskipped, hnot]
        rfl
      · have hafter : ∀ before, lowerAfter (d :: (skipped.reverse ++ before)) after =
            lowerAfter (d :: skipped.reverse) after := fun before =>
          lowerAfter_append_of_any ⟨d, List.mem_cons_self, hd⟩ before after
        have hskip := capitalSigma_not_mem hskipped
        rw [lowerAfter_append hskip, lowerAfter_append hskip, lowerAfter, lowerAfter, hafter,
          hafter, lowerBetween_of_ne hsigma, lowerBetween_of_ne hsigma]

end Spelling.Text

namespace Spelling.Casing

open Text

variable {l : Locale} {c : Char} {skipped after rest : List Char}

/-! ## Under the rules of a locale -/

/-- What is done to a character before lowercasing. -/
def dotted (l : Locale) : Char → Char := if l.hasTurkicCasing then turkicDot else id

theorem lowerChars_eq_map (l : Locale) (cs : List Char) :
    lowerChars l cs = Text.lowerChars (cs.map (dotted l)) := by
  rw [lowerChars, dotted]
  split
  · rfl
  · rw [List.map_id]

theorem dotted_cases (l : Locale) (c : Char) :
    dotted l c = c ∨ c = 'I' ∧ dotted l c = 'ı' ∨ c = 'İ' ∧ dotted l c = 'i' := by
  rw [dotted]
  split
  · rw [turkicDot]
    split
    · next hc => exact .inr (.inl ⟨hc, rfl⟩)
    · split
      · next hc => exact .inr (.inr ⟨hc, rfl⟩)
      · exact .inl rfl
  · exact .inl rfl

/-- The dots make no difference to what a sigma hangs on. -/
theorem dotted_alike (l : Locale) (c : Char) :
    isCaseIgnorable (dotted l c) = isCaseIgnorable c ∧ isCased (dotted l c) = isCased c ∧
      (dotted l c = 'Σ' ↔ c = 'Σ') := by
  rcases dotted_cases l c with h | ⟨rfl, h⟩ | ⟨rfl, h⟩
  · rw [h]
    exact ⟨rfl, rfl, Iff.rfl⟩
  · rw [h]
    decide +kernel
  · rw [h]
    decide +kernel

theorem meetsCased_map_dotted (l : Locale) (cs : List Char) :
    meetsCased (cs.map (dotted l)) = meetsCased cs := by
  have hsame : (isCaseIgnorable ∘ dotted l) = isCaseIgnorable := funext fun c =>
    (dotted_alike l c).1
  rw [meetsCased, meetsCased, List.dropWhile_map, hsame]
  cases cs.dropWhile isCaseIgnorable with
  | nil => rfl
  | cons d rest => exact (dotted_alike l d).2.1

theorem sigmaAfterFirst_dotted (h : SigmaAfterFirst c rest skipped after) (l : Locale) :
    SigmaAfterFirst (dotted l c) (rest.map (dotted l)) (skipped.map (dotted l))
      (after.map (dotted l)) where
  parts := by
    rw [h.parts, List.map_append, List.map_cons, (dotted_alike l 'Σ').2.2.mpr rfl]
  skipped d hd := by
    obtain ⟨e, he, rfl⟩ := List.mem_map.mp hd
    exact (dotted_alike l e).1.trans (h.skipped e he)
  first := (meetsCased_map_dotted l [c]).trans h.first
  last := (meetsCased_map_dotted l after).trans h.last

theorem exists_of_sigmaAfterFirst_dotted {skipped' after' : List Char}
    (h : SigmaAfterFirst (dotted l c) (rest.map (dotted l)) skipped' after') :
    ∃ skipped after, SigmaAfterFirst c rest skipped after := by
  obtain ⟨hparts, hskipped, hfirst, hlast⟩ := h
  obtain ⟨skipped, tail, rfl, rfl, htail⟩ := List.map_eq_append_iff.mp hparts
  obtain ⟨d, after, rfl, hd, rfl⟩ := List.map_eq_cons_iff.mp htail
  obtain rfl := (dotted_alike l d).2.2.mp hd
  refine ⟨skipped, after, rfl, ?_, ?_, ?_⟩
  · intro e he
    exact (dotted_alike l e).1.symm.trans (hskipped _ (List.mem_map_of_mem he))
  · exact (meetsCased_map_dotted l [c]).symm.trans hfirst
  · exact (meetsCased_map_dotted l after).symm.trans hlast

theorem lowerChars_first (l : Locale) (c : Char) (rest : List Char) :
    lowerChars l (c :: rest) =
      lowerChars l [c] ++ lowerAfter [dotted l c] (rest.map (dotted l)) := by
  rw [lowerChars_eq_map, lowerChars_eq_map, List.map_cons, Text.lowerChars_first]
  rfl

/-- The rest of a word is lowercased as on its own. -/
theorem lowerChars_cons_of_not (h : ¬ ∃ skipped after, SigmaAfterFirst c rest skipped after) :
    lowerChars l (c :: rest) = lowerChars l [c] ++ lowerChars l rest := by
  have hdotted : ¬ ∃ skipped after,
      SigmaAfterFirst (dotted l c) (rest.map (dotted l)) skipped after := by
    rintro ⟨_, _, hsigma⟩
    exact h (exists_of_sigmaAfterFirst_dotted hsigma)
  rw [lowerChars_first, lowerAfter_first hdotted, lowerChars_eq_map l rest]
  rfl

theorem lowerChars_cons (h : 'Σ' ∉ rest) :
    lowerChars l (c :: rest) = lowerChars l [c] ++ lowerChars l rest := by
  refine lowerChars_cons_of_not ?_
  rintro ⟨skipped, after, hsigma⟩
  rw [hsigma.parts] at h
  exact h (List.mem_append_right skipped List.mem_cons_self)

/-- The rest of a word is lowercased as on its own but for one sigma. -/
theorem lowerChars_of_sigmaAfterFirst (h : SigmaAfterFirst c rest skipped after) (l : Locale) :
    ∃ tail, lowerChars l (c :: rest) = lowerChars l [c] ++ (lowerChars l skipped ++ 'ς' :: tail) ∧
      lowerChars l rest = lowerChars l skipped ++ 'σ' :: tail := by
  obtain ⟨hparts, hskipped, hfirst, hlast⟩ := sigmaAfterFirst_dotted h l
  have hlower : lowerChars l skipped = (skipped.map (dotted l)).flatMap lowerChar := by
    rw [lowerChars_eq_map]
    exact lowerAfter_eq_flatMap (capitalSigma_not_mem hskipped) []
  refine ⟨lowerAfter ['Σ'] (after.map (dotted l)), ?_, ?_⟩
  · rw [lowerChars_first, hparts, lowerAfter_sigma hskipped, hfirst, hlast, hlower]
    rfl
  · rw [lowerChars_eq_map, hparts, Text.lowerChars, lowerAfter_sigma hskipped, hlower]
    rfl

/-- **The small and the capitalized spelling of a word differ in the first letter alone, unless a
final sigma follows it.**  After the lowercase and the uppercase of the first character they go on
alike, but for a capital sigma that ends a word and has only that letter before it.  Then one has a
final sigma where the other has not, and around it they are alike. -/
theorem small_and_capitalized_differ_in_first_letter_but (l : Locale) (c : Char)
    (rest : List Char) :
    let word := String.ofList (c :: rest)
    let first := String.singleton c
    ((∃ tail, capitalize l word = upper l first ++ tail ∧ lower l word = lower l first ++ tail) ↔
        ¬ ∃ skipped after, SigmaAfterFirst c rest skipped after) ∧
      ∀ skipped after, SigmaAfterFirst c rest skipped after →
        let middle := lower l (String.ofList skipped)
        ∃ tail, capitalize l word = upper l first ++ middle ++ "σ" ++ tail ∧
          lower l word = lower l first ++ middle ++ "ς" ++ tail := by
  intro word first
  have hcapitalize : (capitalize l word).toList = (upper l first).toList ++ lowerChars l rest := by
    simp [word, first, capitalize, capitalizeChars, upper]
  have hlower : ∀ cs, (lower l (String.ofList cs)).toList = lowerChars l cs := by
    intro cs
    rw [lower, String.toList_ofList, String.toList_ofList]
  have hword : (lower l word).toList = lowerChars l (c :: rest) := hlower (c :: rest)
  have hfirst : (lower l first).toList = lowerChars l [c] := hlower [c]
  have hsigma : ∀ skipped after, SigmaAfterFirst c rest skipped after →
      let middle := lower l (String.ofList skipped)
      ∃ tail, capitalize l word = upper l first ++ middle ++ "σ" ++ tail ∧
        lower l word = lower l first ++ middle ++ "ς" ++ tail := by
    intro skipped after h middle
    obtain ⟨tail, hsmall, hrest⟩ := lowerChars_of_sigmaAfterFirst h l
    refine ⟨String.ofList tail, String.toList_inj.mp ?_, String.toList_inj.mp ?_⟩
    · simp [middle, hcapitalize, hrest, hlower]
    · simp [middle, hword, hsmall, hfirst, hlower]
  refine ⟨⟨?_, fun h => ?_⟩, hsigma⟩
  · rintro ⟨tail, hcapital, hsmall⟩ ⟨skipped, after, h⟩
    obtain ⟨tail', hcapital', hsmall'⟩ := hsigma skipped after h
    have hcapital := congrArg String.toList (hcapital.symm.trans hcapital')
    have hsmall := congrArg String.toList (hsmall.symm.trans hsmall')
    simp only [String.toList_append, List.append_assoc, List.append_cancel_left_eq]
      at hcapital hsmall
    have hletters := List.append_cancel_left (hcapital.symm.trans hsmall)
    exact absurd (List.cons.inj hletters).1 (by decide)
  · refine ⟨String.ofList (lowerChars l rest), String.toList_inj.mp ?_, String.toList_inj.mp ?_⟩
    · simp [hcapitalize]
    · simp [hword, lowerChars_cons_of_not h, hfirst]

/-- An apostrophe between the first letter and the sigma is looked through. -/
theorem small_and_capitalized_differ_in_first_letter_but_of_apostrophe :
    let el := Locale.ofLanguage "el"
    SigmaAfterFirst 'Α' ['’', 'Σ'] ['’'] [] ∧
      ∃ tail, capitalize el "Α’Σ" = upper el "Α" ++ lower el "’" ++ "σ" ++ tail ∧
        lower el "Α’Σ" = lower el "Α" ++ lower el "’" ++ "ς" ++ tail := by
  intro el
  have h : SigmaAfterFirst 'Α' ['’', 'Σ'] ['’'] [] :=
    ⟨rfl, List.all_eq_true.mp (by decide +kernel), by decide +kernel, rfl⟩
  exact ⟨h, (small_and_capitalized_differ_in_first_letter_but el 'Α' ['’', 'Σ']).2 _ _ h⟩

/-- With only its first letter before it, a final sigma is lost in the capitalized spelling. -/
theorem final_sigma_is_lost_after_first_letter :
    let el := Locale.ofLanguage "el"
    (Capitalization.classify "ΑΣ").variants el "ΑΣ" = ["ΑΣ", "ας", "Ασ"] ∧
      ¬ ∃ tail, capitalize el "ΑΣ" = upper el "Α" ++ tail ∧
        lower el "ΑΣ" = lower el "Α" ++ tail := by
  intro el
  have hcapital : capitalize el "ΑΣ" = "Ασ" ∧ upper el "Α" = "Α" := by decide +kernel
  have hsmall : lower el "ΑΣ" = "ας" ∧ lower el "Α" = "α" := by decide +kernel
  refine ⟨by decide +kernel, ?_⟩
  rw [hcapital.1, hcapital.2, hsmall.1, hsmall.2]
  rintro ⟨tail, hcapital, hsmall⟩
  have hcapital := congrArg String.toList hcapital
  have hsmall := congrArg String.toList hsmall
  rw [String.toList_append] at hcapital hsmall
  have hletters : ['σ'] = ['ς'] :=
    (List.cons.inj hcapital).2.trans (List.cons.inj hsmall).2.symm
  exact absurd hletters (by decide)

end Spelling.Casing
