import Spelling.Proofs.Casing
import Spelling.Text.Words

/-!
# Words with capitals in them

The letters of an alphabet come in pairs, a small one and its capital:

    a to z        in every locale; `i` goes with `I`, or with `İ` under turkic casing
    ç ğ ı ö ş ü   under turkic casing, where `ı` goes with `I`

Digits, apostrophes and hyphens have no case.  A word of such characters (`isEither`) comes from a
small word, whose capitals are its own (`upperChars_eq`), and a small word comes back from its
capitals (`small_word_comes_back_from_capitals`).  So a listed word is found in capitals if
it is small, and if its first letter is its only capital (`mem_variants_upper_of_first`) unless both

    something stands before that letter, so that capitalizing does not reach it, and
    another letter comes after it, so that the capitals are not the word itself.
-/

namespace Spelling.Casing

variable {l : Locale} {c : Char} {w : List Char}

/-! ## Characters of either case -/

/-- The small one of a pair. -/
def small (l : Locale) (c : Char) : Char := (lowerChars l [c]).headD c

/-- Whether a character is the small one of a pair or the capital. -/
def isEither (l : Locale) (c : Char) : Bool :=
  isPaired l (small l c) && (c == small l c || c == capital l (small l c))

/-- Letters that turkic alphabets have besides those of ASCII. -/
def turkicLetters : List Char := ['ç', 'Ç', 'ğ', 'Ğ', 'ı', 'İ', 'ö', 'Ö', 'ş', 'Ş', 'ü', 'Ü']

/-- Whether a character is a letter of the alphabet of a locale, a digit, an apostrophe or a
hyphen. -/
def inAlphabet (l : Locale) (c : Char) : Bool :=
  c.isAlphanum || Text.isJoiner c || l.hasTurkicCasing && turkicLetters.contains c

/-- Only the turkic rules set a locale apart. -/
theorem isEither_congr {m : Locale} (h : l.hasTurkicCasing = m.hasTurkicCasing) (c : Char) :
    isEither l c = isEither m c := by
  have hsmall : small l c = small m c := by
    rw [small, small, lowerChars, lowerChars, h]
  have hcapital : ∀ c, capital l c = capital m c := by
    intro c
    rw [capital, capital, upperChar, upperChar, h]
  rw [isEither, isEither, hsmall, isPaired_congr h, hcapital]

theorem toNat_lt_of_isAlphanum (h : c.isAlphanum = true) : c.toNat < 128 := by
  have hbelow : ∀ {high : UInt32}, c.val ≤ high → high.toNat < 128 → c.toNat < 128 :=
    fun hle => Nat.lt_of_le_of_lt (UInt32.le_iff_toNat_le.mp hle)
  rcases Bool.or_eq_true_iff.mp h with hletter | hdigit
  · rcases Bool.or_eq_true_iff.mp hletter with hupper | hlower
    · have hbounds : c.val ≥ 'A'.val ∧ c.val ≤ 'Z'.val := of_decide_eq_true hupper
      exact hbelow hbounds.2 (by decide)
    · exact hbelow (of_decide_eq_true (Bool.and_eq_true_iff.mp hlower).2) (by decide)
  · exact hbelow (of_decide_eq_true (Bool.and_eq_true_iff.mp hdigit).2) (by decide)

/-- What holds with turkic casing and without holds in every locale. -/
theorem isEither_of_both
    (h : isEither (.ofLanguage "tr") c = true ∧ isEither (.ofLanguage "en") c = true) :
    isEither l c = true := by
  cases hl : l.hasTurkicCasing with
  | true => exact (isEither_congr (m := .ofLanguage "tr") (hl.trans rfl) c).trans h.1
  | false => exact (isEither_congr (m := .ofLanguage "en") (hl.trans rfl) c).trans h.2

/-- A character of ASCII is one of a pair, whatever the locale. -/
theorem isEither_ascii (h : c.toNat < 128) : isEither l c = true := by
  have hall : ∀ n : Fin 128, isEither (.ofLanguage "tr") (Char.ofNat n) = true ∧
      isEither (.ofLanguage "en") (Char.ofNat n) = true := by
    decide +kernel
  have hboth := hall ⟨c.toNat, h⟩
  rw [Char.ofNat_toNat] at hboth
  exact isEither_of_both hboth

/-- A character of an alphabet is one of a pair. -/
theorem isEither_of_inAlphabet (h : inAlphabet l c = true) : isEither l c = true := by
  simp only [inAlphabet, Bool.or_eq_true, Bool.and_eq_true] at h
  rcases h with (hascii | hjoiner) | ⟨hl, hletter⟩
  · exact isEither_ascii (toNat_lt_of_isAlphanum hascii)
  · simp only [Text.isJoiner, Bool.or_eq_true, beq_iff_eq] at hjoiner
    rcases hjoiner with (rfl | rfl) | rfl <;> exact isEither_of_both (by decide +kernel)
  · have hturkic : turkicLetters.all (isEither (.ofLanguage "tr")) = true := by
      decide +kernel
    rw [isEither_congr (m := .ofLanguage "tr") (hl.trans rfl)]
    exact List.all_eq_true.mp hturkic c (List.contains_iff_mem.mp hletter)

/-! ## Words of such characters -/

section Either

theorem isPaired_small (h : isEither l c = true) : isPaired l (small l c) = true :=
  (Bool.and_eq_true_iff.mp h).1

theorem paired_small (h : isEither l c = true) :
    Paired l (small l c) (capital l (small l c)) :=
  paired_of_isPaired (isPaired_small h)

theorem eq_small_or (h : isEither l c = true) : c = small l c ∨ c = capital l (small l c) := by
  simpa using (Bool.and_eq_true_iff.mp h).2

/-- Both of a pair have the same capital. -/
theorem upperChar_eq (h : isEither l c = true) : upperChar l c = [capital l (small l c)] := by
  rcases eq_small_or h with hc | hc
  · exact hc ▸ (paired_small h).upper
  · exact hc ▸ (paired_small h).upper_capital

/-- A character without case is both of its pair. -/
theorem eq_of_not_isAlphabetic (h : isEither l c = true) (hother : Text.isAlphabetic c = false) :
    small l c = c ∧ capital l (small l c) = c := by
  have hsmall : Text.isAlphabetic (small l c) = false := by
    rcases eq_small_or h with hc | hc
    · rwa [← hc]
    · rwa [← (paired_small h).isAlphabetic, ← hc]
  have hsame := (paired_small h).other hsmall
  rcases eq_small_or h with hc | hc
  · exact ⟨hc.symm, hsame.trans hc.symm⟩
  · exact ⟨hsame ▸ hc.symm, hc.symm⟩

/-- A character that is no capital is the small one of its pair. -/
theorem eq_small (h : isEither l c = true) (hlower : Text.isUppercase c = false) :
    small l c = c := by
  cases hletter : Text.isAlphabetic (small l c) with
  | false =>
      rcases eq_small_or h with hc | hc
      · exact hc.symm
      · exact (paired_small h).other hletter ▸ hc.symm
  | true =>
      rcases eq_small_or h with hc | hc
      · exact hc.symm
      · rw [hc, ((paired_small h).letter hletter).2.1] at hlower
        cases hlower

/-- A letter that is a capital is the capital of its pair. -/
theorem eq_capital (h : isEither l c = true) (hletter : Text.isAlphabetic c = true)
    (hupper : Text.isUppercase c = true) : capital l (small l c) = c := by
  rcases eq_small_or h with hc | hc
  · have hlower := ((paired_small h).letter (hc ▸ hletter)).2.2
    rw [← hc, hupper] at hlower
    cases hlower
  · exact hc.symm

theorem isAlphabetic_small (h : isEither l c = true) :
    Text.isAlphabetic (small l c) = Text.isAlphabetic c := by
  rcases eq_small_or h with hc | hc
  · rw [← hc]
  · exact (paired_small h).isAlphabetic.symm.trans (congrArg _ hc.symm)

theorem map_small_of_small (h : ∀ c ∈ w, small l c = c) : w.map (small l) = w := by
  have hself : ∀ c ∈ w, small l c = id c := h
  rw [List.map_congr_left hself, List.map_id]

variable (h : ∀ c ∈ w, isEither l c = true)

include h

/-- The small word that a word comes from. -/
theorem isSmall_map_small : IsSmall l (w.map (small l)) := by
  intro c hc
  obtain ⟨d, hd, rfl⟩ := List.mem_map.mp hc
  exact isPaired_small (h d hd)

/-- A word and the small word that it comes from have the same capitals. -/
theorem upperChars_eq : w.flatMap (upperChar l) = (w.map (small l)).map (capital l) := by
  induction w with
  | nil => rfl
  | cons c rest ih =>
      obtain ⟨hc, hrest⟩ := List.forall_mem_cons.mp h
      rw [List.flatMap_cons, upperChar_eq hc, ih hrest]
      rfl

theorem lowerChars_eq : lowerChars l w = w.map (small l) := by
  have hsmall : ∀ c ∈ w, lowerChars l [id c] = [small l c] ∧ id c ≠ 'Σ' := by
    intro c hc
    have hpaired := paired_small (h c hc)
    rcases eq_small_or (h c hc) with heq | heq
    · exact ⟨(congrArg (lowerChars l [·]) heq).trans hpaired.lower,
        heq ▸ hpaired.ne_capitalSigma.1⟩
    · exact ⟨(congrArg (lowerChars l [·]) heq).trans hpaired.lower_capital,
        heq ▸ hpaired.ne_capitalSigma.2⟩
  have hmap := lowerChars_map hsmall
  rwa [List.map_id] at hmap

theorem letters_map_small : (w.map (small l)).filter Text.isAlphabetic =
    (w.filter Text.isAlphabetic).map (small l) := by
  rw [List.filter_map]
  exact congrArg (List.map (small l)) (List.filter_congr fun c hc => isAlphabetic_small (h c hc))

theorem map_small_of_lowercase (hlower : ∀ c ∈ w, Text.isUppercase c = false) :
    w.map (small l) = w :=
  map_small_of_small fun c hc => eq_small (h c hc) (hlower c hc)

theorem map_small_of_others (hother : ∀ c ∈ w, Text.isAlphabetic c = false) :
    w.map (small l) = w :=
  map_small_of_small fun c hc => (eq_of_not_isAlphabetic (h c hc) (hother c hc)).1

end Either

end Spelling.Casing

namespace Spelling.Capitalization

open Casing

variable {l : Locale} {w : List Char}

theorem exists_of_ofLetters_first {cs : List Char} (h : ofLetters cs = first) :
    ∃ u rest, cs = u :: rest ∧ Text.isUppercase u = true ∧
      ∀ c ∈ rest, Text.isUppercase c = false := by
  cases cs with
  | nil => cases h
  | cons u rest =>
      rw [ofLetters] at h
      split at h
      · next hu =>
        refine ⟨u, rest, rfl, hu, ?_⟩
        dsimp only at h
        split at h
        · next hnone =>
          have hnil := List.filter_eq_nil_iff.mp (List.length_eq_zero_iff.mp hnone)
          exact fun c hc => Bool.eq_false_iff.mpr (hnil c hc)
        · split at h <;> cases h
      · cases h

/-- A word whose first letter is its only capital: characters before that letter, the letter, and
what comes after it as in the small word. -/
theorem exists_of_classify_first (h : ∀ c ∈ w, isEither l c = true)
    (hfirst : classify (String.ofList w) = first) :
    ∃ before c rest, w = before ++ capital l c :: rest ∧
      w.map (small l) = before ++ c :: rest ∧
      (∀ d ∈ before, Text.isAlphabetic d = false) ∧ Text.isAlphabetic c = true := by
  rw [classify, String.toList_ofList] at hfirst
  obtain ⟨u, cs, hletters, hu, hcs⟩ := exists_of_ofLetters_first hfirst
  obtain ⟨before, rest, rfl, hbefore, hletter, hrest⟩ := List.filter_eq_cons_iff.mp hletters
  have hother : ∀ d ∈ before, Text.isAlphabetic d = false := fun d hd =>
    Bool.eq_false_iff.mpr (hbefore d hd)
  have hc : isEither l u = true := h u (by simp)
  refine ⟨before, small l u, rest, ?_, ?_, hother, (isAlphabetic_small hc).trans hletter⟩
  · rw [eq_capital hc hletter hu]
  · have hsmall : ∀ d ∈ rest, small l d = d := by
      intro d hd
      have hd' : isEither l d = true := h d (by simp [hd])
      cases hletter' : Text.isAlphabetic d with
      | false => exact (eq_of_not_isAlphabetic hd' hletter').1
      | true => exact eq_small hd' (hcs d (hrest ▸ List.mem_filter.mpr ⟨hd, hletter'⟩))
    rw [List.map_append, List.map_cons, map_small_of_others (fun d hd => h d (by simp [hd])) hother,
      map_small_of_small hsmall]

/-- A word and its capitals, by the small word that it comes from. -/
theorem upper_eq (h : ∀ c ∈ w, isEither l c = true) :
    upper l (String.ofList w) = String.ofList ((w.map (small l)).map (capital l)) := by
  rw [upper, String.toList_ofList, upperChars_eq h]

/-- A small word is looked up for its capitals. -/
theorem mem_variants_upper_of_lowercase (h : ∀ c ∈ w, isEither l c = true)
    (hlower : ∀ c ∈ w, Text.isUppercase c = false) :
    let typed := upper l (String.ofList w)
    String.ofList w ∈ (classify typed).variants l typed := by
  intro typed
  rw [show typed = _ from upper_eq h]
  exact mem_variants_capitals (isSmall_map_small h) (.inl (map_small_of_lowercase h hlower).symm)

/-- For capitals with something before the first letter and with another letter, only they and the
small word are looked up. -/
theorem variants_of_capitals (h : IsSmall l w) (hhead : w.head?.any Text.isAlphabetic = false)
    (hletters : 2 ≤ (w.filter Text.isAlphabetic).length) :
    let typed := String.ofList (w.map (capital l))
    classify typed = all ∧
      (classify typed).variants l typed = [typed, String.ofList w, String.ofList w] := by
  intro typed
  have hall : classify typed = all := by
    rw [show classify typed = _ from classify_capitals_eq h, if_neg (by omega), if_neg (by omega)]
  have hlower : lower l typed = String.ofList w := by
    rw [lower, String.toList_ofList, h.lower_capitals]
  have hcapitalize : Casing.capitalize l typed = String.ofList w := by
    rw [Casing.capitalize, String.toList_ofList, h.capitalize_capitals]
    rcases h.capitalize_cases with hsame | ⟨c, rest, rfl, hletter, -⟩
    · rw [hsame]
    · rw [List.head?_cons, Option.any_some, hletter] at hhead
      cases hhead
  refine ⟨hall, ?_⟩
  rw [hall, variants, hlower, hcapitalize]
  rfl

section First

variable (h : ∀ c ∈ w, isEither l c = true) (hfirst : classify (String.ofList w) = first)

include h hfirst

/-- A word whose first letter is its only capital is looked up for its capitals, if it starts with
that letter or has no other. -/
theorem mem_variants_upper_of_first
    (hreach : w.head?.any Text.isAlphabetic = true ∨ (w.filter Text.isAlphabetic).length = 1) :
    let typed := upper l (String.ofList w)
    String.ofList w ∈ (classify typed).variants l typed := by
  intro typed
  have hbase := isSmall_map_small h
  obtain ⟨before, c, rest, hw, hsmall, hbefore, hletter⟩ := exists_of_classify_first h hfirst
  rw [show typed = _ from upper_eq h]
  rw [hsmall] at hbase ⊢
  rcases hreach with hhead | hone
  · -- nothing stands before the letter, so that it is capitalized
    cases before with
    | cons d ds =>
        rw [hw, List.cons_append, List.head?_cons, Option.any_some,
          hbefore d List.mem_cons_self] at hhead
        cases hhead
    | nil => exact mem_variants_capitals hbase (.inr (.inl (hw.trans hbase.capitalize.symm)))
  · -- the letter is the only one, so that the word is its own capitals
    have hletters := congrArg List.length (letters_map_small h)
    rw [hsmall, List.filter_append, List.filter_cons_of_pos hletter, List.length_append,
      List.length_cons, List.length_map, hone] at hletters
    have hrest : rest.filter Text.isAlphabetic = [] := List.length_eq_zero_iff.mp (by omega)
    have hbefore' : before.filter Text.isAlphabetic = [] := List.length_eq_zero_iff.mp (by omega)
    have hsmall_before : IsSmall l before := fun d hd => hbase d (by simp [hd])
    have hsmall_rest : IsSmall l rest := fun d hd => hbase d (by simp [hd])
    refine mem_variants_capitals hbase (.inr (.inr ?_))
    rw [hw, List.map_append, List.map_cons, hsmall_before.capitals_of_others hbefore',
      hsmall_rest.capitals_of_others hrest]

/-- Otherwise it is not looked up. -/
theorem variants_upper_of_first (hhead : w.head?.any Text.isAlphabetic = false)
    (hletters : (w.filter Text.isAlphabetic).length ≠ 1) :
    let typed := upper l (String.ofList w)
    let small := lower l (String.ofList w)
    String.ofList w ∉ (classify typed).variants l typed ∧
      (classify typed).variants l typed = [typed, small, small] := by
  intro typed small
  have hbase := isSmall_map_small h
  have htyped : typed = _ := upper_eq h
  have hsmall : small = String.ofList (w.map (Casing.small l)) := by
    show lower l (String.ofList w) = _
    rw [lower, String.toList_ofList, lowerChars_eq h]
  have hmany : 2 ≤ ((w.map (Casing.small l)).filter Text.isAlphabetic).length := by
    rw [letters_map_small h, List.length_map]
    have hpos : (w.filter Text.isAlphabetic).length ≠ 0 := by
      rw [Ne, List.length_eq_zero_iff]
      intro hnone
      rw [classify, String.toList_ofList, hnone] at hfirst
      cases hfirst
    omega
  have hhead' : (w.map (Casing.small l)).head?.any Text.isAlphabetic = false := by
    cases w with
    | nil => rfl
    | cons c rest =>
        rw [List.map_cons, List.head?_cons, Option.any_some,
          isAlphabetic_small (h c List.mem_cons_self)]
        exact hhead
  obtain ⟨hall, hvariants⟩ := variants_of_capitals hbase hhead' hmany
  rw [← htyped, ← hsmall] at hvariants
  rw [← htyped] at hall
  refine ⟨?_, hvariants⟩
  rw [hvariants]
  intro hmem
  have hcases : String.ofList w = typed ∨ String.ofList w = small := by simpa using hmem
  rcases hcases with heq | heq
  · rw [heq, hall] at hfirst
    cases hfirst
  · -- the small word has no capital
    rw [heq, hsmall, classify, String.toList_ofList] at hfirst
    obtain ⟨u, cs, hcs, hu, -⟩ := exists_of_ofLetters_first hfirst
    rw [letters_small hbase u (hcs ▸ List.mem_cons_self)] at hu
    cases hu

end First

/-! ## Back from capitals -/

theorem lower_upper (h : IsSmall l w) :
    lower l (upper l (String.ofList w)) = String.ofList w := by
  rw [upper, String.toList_ofList, h.upper, lower, String.toList_ofList, h.lower_capitals]

theorem capitalize_upper (h : IsSmall l w) :
    Casing.capitalize l (upper l (String.ofList w)) = Casing.capitalize l (String.ofList w) := by
  rw [upper, String.toList_ofList, h.upper, Casing.capitalize, String.toList_ofList,
    h.capitalize_capitals, Casing.capitalize, String.toList_ofList]

theorem classify_capitalize (h : IsSmall l w) (hhead : w.head?.any Text.isAlphabetic = true) :
    classify (Casing.capitalize l (String.ofList w)) = first := by
  cases w with
  | nil => cases hhead
  | cons c rest =>
      rw [Casing.capitalize, String.toList_ofList, h.capitalize]
      exact classify_capitalized h hhead

theorem classify_upper (h : IsSmall l w) : classify (upper l (String.ofList w)) =
    if (w.filter Text.isAlphabetic).length = 0 then plain
    else if (w.filter Text.isAlphabetic).length = 1 then first
    else all := by
  rw [upper, String.toList_ofList, h.upper, classify_capitals_eq h]

/-- **A small word of an alphabet comes back from its capitals.**  If it is made of small letters of
the alphabet of a locale, digits, apostrophes and hyphens, then lowercasing its capitals gives the
word, and capitalizing them gives the word capitalized, which is of class first if the word starts
with a letter.  The class of the capitals tells whether there is no letter, one or more. -/
theorem small_word_comes_back_from_capitals (l : Locale) (word : String)
    (h : ∀ c ∈ word.toList, inAlphabet l c = true ∧ Text.isUppercase c = false) :
    let capitals := upper l word
    let letters := word.toList.filter Text.isAlphabetic
    lower l capitals = word ∧ Casing.capitalize l capitals = Casing.capitalize l word ∧
      (word.toList.head?.any Text.isAlphabetic = true →
        classify (Casing.capitalize l word) = first) ∧
      classify capitals =
        if letters.length = 0 then plain else if letters.length = 1 then first else all := by
  intro capitals letters
  have heither : ∀ c ∈ word.toList, isEither l c = true := fun c hc =>
    isEither_of_inAlphabet (h c hc).1
  have hsmall : IsSmall l word.toList := by
    have hbase := isSmall_map_small heither
    rwa [map_small_of_lowercase heither fun c hc => (h c hc).2] at hbase
  have hword : String.ofList word.toList = word := String.ofList_toList
  have hlower := lower_upper hsmall
  have hcapitalize := capitalize_upper hsmall
  have hhead := classify_capitalize hsmall
  have hclass := classify_upper hsmall
  rw [hword] at hlower hcapitalize hhead hclass
  exact ⟨hlower, hcapitalize, hhead, hclass⟩

/-- Under turkic casing the dotless i comes back too. -/
theorem small_word_comes_back_from_capitals_of_dotless :
    let tr := Locale.ofLanguage "tr"
    (∀ c ∈ "ılık-4'ü".toList, inAlphabet tr c = true ∧ Text.isUppercase c = false) ∧
      "ılık-4'ü".toList.head?.any Text.isAlphabetic = true ∧
      upper tr "ılık-4'ü" = "ILIK-4'Ü" ∧ lower tr "ILIK-4'Ü" = "ılık-4'ü" ∧
      classify (Casing.capitalize tr "ılık-4'ü") = first ∧ classify "ILIK-4'Ü" = all := by
  intro tr
  have halphabet : ∀ c ∈ "ılık-4'ü".toList,
      inAlphabet tr c = true ∧ Text.isUppercase c = false := by
    have hall : ("ılık-4'ü".toList.all fun c => inAlphabet tr c && !Text.isUppercase c) = true := by
      decide +kernel
    intro c hc
    simpa using List.all_eq_true.mp hall c hc
  have hhead : "ılık-4'ü".toList.head?.any Text.isAlphabetic = true := by decide +kernel
  have hupper : upper tr "ılık-4'ü" = "ILIK-4'Ü" := by decide +kernel
  obtain ⟨hlower, -, hfirst, hclass⟩ :=
    small_word_comes_back_from_capitals tr "ılık-4'ü" halphabet
  rw [hupper] at hlower hclass
  exact ⟨halphabet, hhead, hupper, hlower, hfirst hhead, hclass.trans (by decide +kernel)⟩

end Spelling.Capitalization
