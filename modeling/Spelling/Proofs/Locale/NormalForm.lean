import Mathlib
import Spelling.Proofs.Locale.Grammar

/-!
# The normal form of locales

A tag may be written in any case and with either separator.  The locale that is read has each part
in its normal case, and is displayed as a tag of itself:

    tag              parts                       displayed
    SR-cyrl          sr, Cyrl                    sr_Cyrl
    en_us-posix      en, US, others posix        en_US_posix
    es_419           es, 419                     es_419

Displaying puts a part nowhere else (`Classified.normal`).  A subtag that could be a script or a
region is one of the others only behind such a part or behind one of the others, and so it stays.

Two tags are read as one locale exactly if they have the same parts, the others to the letter and the
rest in any case (`locale_inj_iff`).
-/

namespace Spelling.Locale

/-! ## Normal case -/

/-- The same letters in any case, and otherwise the same characters. -/
def SameLetters (a b : List Char) : Prop :=
  a.map Char.toLower = b.map Char.toLower

/-- The same parts, but for the case of letters outside of the others. -/
structure Parts.Agree (p q : Parts) : Prop where
  language : SameLetters p.language q.language
  script : Option.Rel SameLetters p.script? q.script?
  region : Option.Rel SameLetters p.region? q.region?
  others : p.others = q.others

/-- The subtags that parts are told apart in. -/
def Parts.subtags (p : Parts) : List (List Char) :=
  p.language :: (p.script?.toList ++ (p.region?.toList ++ p.others))

/-- The same parts, each in its normal case. -/
def Parts.normal (p : Parts) : Parts where
  language := p.language.map Char.toLower
  script? := p.script?.map asciiTitleChars
  region? := p.region?.map (List.map Char.toUpper)
  others := p.others

theorem map_toLower_title (s : List Char) :
    (asciiTitleChars s).map Char.toLower = s.map Char.toLower := by
  cases s <;> simp [asciiTitleChars]

theorem title_map_toLower (s : List Char) :
    asciiTitleChars (s.map Char.toLower) = asciiTitleChars s := by
  cases s <;> simp [asciiTitleChars]

theorem title_title (s : List Char) : asciiTitleChars (asciiTitleChars s) = asciiTitleChars s := by
  rw [← title_map_toLower, map_toLower_title, title_map_toLower]

theorem length_title (s : List Char) : (asciiTitleChars s).length = s.length := by
  cases s <;> simp [asciiTitleChars]

/-- A normal case keeps the letters and does not depend on their case. -/
theorem eq_iff_sameLetters (normal : List Char → List Char)
    (hkeeps : ∀ s, (normal s).map Char.toLower = s.map Char.toLower)
    (hcase : ∀ s, normal (s.map Char.toLower) = normal s) {a b : List Char} :
    normal a = normal b ↔ SameLetters a b := by
  constructor
  · intro h
    rw [SameLetters, ← hkeeps a, h, hkeeps b]
  · intro h
    rw [← hcase a, h, hcase b]

theorem asciiLower_inj_iff {a b : List Char} :
    asciiLower (String.ofList a) = asciiLower (String.ofList b) ↔ SameLetters a b := by
  simp only [asciiLower, String.toList_ofList, String.ofList_inj]
  exact Iff.rfl

theorem asciiUpper_inj_iff {a b : List Char} :
    asciiUpper (String.ofList a) = asciiUpper (String.ofList b) ↔ SameLetters a b := by
  simp only [asciiUpper, String.toList_ofList, String.ofList_inj]
  exact eq_iff_sameLetters (List.map Char.toUpper) (by simp) (by simp)

theorem asciiTitle_inj_iff {a b : List Char} :
    asciiTitle (String.ofList a) = asciiTitle (String.ofList b) ↔ SameLetters a b := by
  simp only [asciiTitle, String.toList_ofList, String.ofList_inj]
  exact eq_iff_sameLetters asciiTitleChars map_toLower_title title_map_toLower

/-- Parts in their normal case have their locale. -/
theorem locale_normal (p : Parts) : p.normal.locale = p.locale := by
  simp only [Parts.locale, Parts.normal, asciiLower, asciiTitle, asciiUpper, Option.map_map,
    String.toList_ofList, List.map_map]
  congr 1
  · simp [Function.comp_def]
  · simp [Function.comp_def, title_title]
  · simp [Function.comp_def]

/-! ## Codes in their normal case -/

theorem isDigit_toUpper {c : Char} (h : c.isDigit = true) : c.toUpper.isDigit = true := by
  have hlower : ¬ c.isLower = true := by
    simp only [Char.isDigit, Char.isLower, Bool.and_eq_true, decide_eq_true_eq,
      UInt32.le_iff_toNat_le, ge_iff_le] at h ⊢
    change 48 ≤ c.toNat ∧ c.toNat ≤ 57 at h
    change ¬ (97 ≤ c.toNat ∧ c.toNat ≤ 122)
    omega
  rwa [Char.toUpper_eq_of_not_isLower hlower]

theorem ScriptCode.title {s : List Char} (h : ScriptCode s) : ScriptCode (asciiTitleChars s) := by
  refine ⟨by rw [length_title, h.1], ?_⟩
  obtain ⟨-, hs⟩ := h
  cases s with
  | nil => simp [asciiTitleChars]
  | cons c s => simpa [asciiTitleChars] using hs

theorem RegionCode.upper {s : List Char} (h : RegionCode s) :
    RegionCode (s.map Char.toUpper) := by
  rcases h with ⟨hlength, hs⟩ | ⟨hlength, hs⟩
  · exact .inl ⟨by simpa using hlength, by simpa using hs⟩
  · refine .inr ⟨by simpa using hlength, ?_⟩
    simpa using fun c hc => isDigit_toUpper (hs c hc)

theorem LanguageCode.lower {s : List Char} (h : LanguageCode s) :
    LanguageCode (s.map Char.toLower) :=
  ⟨by simpa using h.1, by simpa using h.2⟩

theorem subtag_of_isAlpha {s : List Char} (hlength : s.length ≠ 0)
    (h : ∀ c ∈ s, c.isAlpha = true) : Subtag s :=
  ⟨List.ne_nil_of_length_pos (Nat.pos_of_ne_zero hlength),
    fun c hc => by rw [Char.isAlphanum, h c hc, Bool.true_or]⟩

theorem LanguageCode.subtag {s : List Char} (h : LanguageCode s) : Subtag s := by
  obtain ⟨hlength, hs⟩ := h
  exact subtag_of_isAlpha (by omega) hs

theorem ScriptCode.subtag {s : List Char} (h : ScriptCode s) : Subtag s := by
  obtain ⟨hlength, hs⟩ := h
  exact subtag_of_isAlpha (by omega) hs

theorem RegionCode.subtag {s : List Char} (h : RegionCode s) : Subtag s := by
  rcases h with ⟨hlength, hs⟩ | ⟨hlength, hs⟩
  · exact subtag_of_isAlpha (by omega) hs
  · exact ⟨List.ne_nil_of_length_pos (by omega),
      fun c hc => by rw [Char.isAlphanum, hs c hc, Bool.or_true]⟩

theorem RegionCode.not_scriptCode {s : List Char} (h : RegionCode s) : ¬ ScriptCode s := by
  intro hscript
  have hlength := hscript.1
  rcases h with ⟨h, -⟩ | ⟨h, -⟩ <;> omega

/-! ## Displaying -/

theorem Takes.eq_append {Fits : List Char → Prop} {subtags rest : List (List Char)}
    {s? : Option (List Char)} (h : Takes Fits subtags s? rest) : subtags = s?.toList ++ rest := by
  cases h <;> rfl

theorem Takes.fits {Fits : List Char → Prop} {subtags rest : List (List Char)}
    {s? : Option (List Char)} (h : Takes Fits subtags s? rest) : ∀ s ∈ s?, Fits s := by
  cases h with
  | fit hs => simpa using hs
  | unfit => simp

theorem Classified.eq_subtags {subtags : List (List Char)} {p : Parts}
    (h : Classified subtags p) : subtags = p.subtags := by
  obtain ⟨-, hscript, hregion⟩ := h
  rw [hscript.eq_append, hregion.eq_append, Parts.subtags]

/-- A part that is taken is taken in its normal case too. -/
theorem Takes.map {Fits : List Char → Prop} {f : List Char → List Char}
    {subtags rest rest' : List (List Char)} {s? : Option (List Char)}
    (h : Takes Fits subtags s? rest) (hf : ∀ s, Fits s → Fits (f s))
    (hno : (∀ s ∈ rest.head?, ¬ Fits s) → ∀ s ∈ rest'.head?, ¬ Fits s) :
    Takes Fits ((s?.map f).toList ++ rest') (s?.map f) rest' := by
  cases h with
  | fit hs => exact .fit (hf _ hs)
  | unfit hrest => exact .unfit (hno hrest)

/-- **Parts in their normal case are told apart as before.** -/
theorem Classified.normal {subtags : List (List Char)} {p : Parts} (h : Classified subtags p) :
    Classified p.normal.subtags p.normal := by
  obtain ⟨hlanguage, hscript, hregion⟩ := h
  refine .intro hlanguage.lower (hscript.map (fun _ => ScriptCode.title) ?_)
    (hregion.map (fun _ => RegionCode.upper) id)
  -- Where no script was taken, a region in its normal case is none either.
  intro hunfit
  cases hregion with
  | fit hr =>
      intro s hs
      obtain rfl := Option.some.inj (Option.mem_def.mp hs)
      exact hr.upper.not_scriptCode
  | unfit => exact hunfit

theorem Parts.subtag_normal {subtags : List (List Char)} {p : Parts} (h : Classified subtags p)
    (hsubtags : ∀ s ∈ subtags, Subtag s) : ∀ s ∈ p.normal.subtags, Subtag s := by
  have hothers : ∀ s ∈ p.others, Subtag s := fun s hs =>
    hsubtags s (by rw [h.eq_subtags, Parts.subtags]; simp [hs])
  obtain ⟨hlanguage, hscript, hregion⟩ := h.normal
  simp only [Parts.subtags, List.forall_mem_cons, List.forall_mem_append, Option.mem_toList]
  exact ⟨hlanguage.subtag, fun s hs => (hscript.fits s hs).subtag,
    fun s hs => (hregion.fits s hs).subtag, hothers⟩

theorem subtagsText_intercalate {subtags : List (List Char)} (hne : subtags ≠ [])
    (h : ∀ s ∈ subtags, Subtag s) :
    SubtagsText ("_".intercalate (subtags.map String.ofList)).toList subtags := by
  induction subtags with
  | nil => exact absurd rfl hne
  | cons s subtags ih =>
      obtain ⟨hs, hsubtags⟩ := List.forall_mem_cons.mp h
      cases subtags with
      | nil =>
          rw [List.map_singleton, String.intercalate_singleton, String.toList_ofList]
          exact .last hs
      | cons t subtags =>
          rw [List.map_cons, String.intercalate_cons_of_ne_nil (by simp), String.toList_append,
            String.toList_append, String.toList_ofList, List.append_assoc]
          exact .more hs (.inl rfl) (ih (List.cons_ne_nil t subtags) hsubtags)

/-- The others are joined first and then displayed behind the parts before them. -/
theorem intercalate_variantOf {parts : List String} (hne : parts ≠ [])
    (others : List (List Char)) :
    "_".intercalate (parts ++ (variantOf others).toList) =
      "_".intercalate (parts ++ others.map String.ofList) := by
  cases others with
  | nil => rfl
  | cons s others =>
      rw [String.intercalate_append_of_ne_nil hne (by simp [variantOf]),
        String.intercalate_append_of_ne_nil hne (by simp)]
      simp [variantOf]

/-- A locale is displayed as the subtags of its parts in their normal case. -/
theorem display_locale (p : Parts) :
    p.locale.display = "_".intercalate (p.normal.subtags.map String.ofList) := by
  have hmap (f : List Char → List Char) (s? : Option (List Char)) :
      (s?.map fun s => String.ofList (f s)).toList = (s?.map f).toList.map String.ofList := by
    cases s? <;> rfl
  have hparts : p.locale.language :: p.locale.subtags =
      (p.normal.language :: (p.normal.script?.toList ++ p.normal.region?.toList)).map
        String.ofList ++ (variantOf p.others).toList := by
    simp only [Locale.subtags, Parts.locale, Parts.normal, asciiLower, asciiTitle, asciiUpper,
      String.toList_ofList, hmap, List.map_cons, List.map_append, List.cons_append]
  rw [display, hparts, intercalate_variantOf (by simp)]
  simp only [Parts.subtags, List.map_cons, List.map_append, List.cons_append, List.append_assoc,
    Parts.normal]

/-- A locale is displayed as a tag of its parts in their normal case. -/
theorem Writes.display {tag : String} {p : Parts} (h : Writes tag p) :
    Writes p.locale.display p.normal := by
  obtain ⟨subtags, htag, hp⟩ := h
  refine ⟨p.normal.subtags, ?_, hp.normal⟩
  rw [display_locale]
  exact (subtagsText_intercalate (List.cons_ne_nil _ _)
    (Parts.subtag_normal hp (tagText_iff.mp htag).subtag)).tagText

/-- **A locale that is read from a tag is read again from its display form.** -/
theorem parse_display {tag : String} {l : Locale} (h : parse tag = .ok l) :
    parse l.display = .ok l := by
  obtain ⟨p, hp, rfl⟩ := parse_eq_ok_iff.mp h
  exact parse_eq_ok_iff.mpr ⟨p.normal, hp.display, locale_normal p⟩

/-- Locales that are read from tags are told apart by how they are displayed. -/
theorem eq_of_display_eq {tag tag' : String} {l m : Locale} (hl : parse tag = .ok l)
    (hm : parse tag' = .ok m) (h : l.display = m.display) : l = m := by
  have hread := parse_display hl
  rw [h, parse_display hm] at hread
  exact (Except.ok.inj hread).symm

/-- The bare language of a locale that is read from a tag has a tag too, its code. -/
theorem parse_language {tag : String} {l : Locale} (h : parse tag = .ok l) :
    parse l.language = .ok l.base := by
  obtain ⟨p, ⟨subtags, -, hp⟩, rfl⟩ := parse_eq_ok_iff.mp h
  have hlanguage := hp.exists_cons.1.lower
  have hcode : p.locale.language.toList = p.language.map Char.toLower := by
    simp only [Parts.locale, asciiLower, String.toList_ofList]
  refine parse_eq_ok_iff.mpr ⟨⟨p.language.map Char.toLower, none, none, []⟩,
    ⟨[p.language.map Char.toLower], ?_, ?_⟩, ?_⟩
  · rw [hcode]
    exact (SubtagsText.last hlanguage.subtag).tagText
  · exact .intro hlanguage (.unfit (by simp)) (.unfit (by simp))
  · rw [← hcode, Parts.locale, String.ofList_toList]
    rfl

/-! ## Equal locales -/

theorem variantOf_inj {a b : List (List Char)} (ha : ∀ s ∈ a, Subtag s) (hb : ∀ s ∈ b, Subtag s)
    (h : variantOf a = variantOf b) : a = b := by
  cases a with
  | nil =>
      cases b with
      | nil => rfl
      | cons t b => cases h
  | cons s a =>
      cases b with
      | nil => cases h
      | cons t b =>
          have htext := subtagsText_intercalate (List.cons_ne_nil s a) ha
          have hjoined := Option.some.inj h
          rw [hjoined] at htext
          exact htext.pieces.symm.trans (subtagsText_intercalate (List.cons_ne_nil t b) hb).pieces

theorem map_eq_map_iff_rel {normal : List Char → String}
    (hnormal : ∀ {a b}, normal a = normal b ↔ SameLetters a b) {s? t? : Option (List Char)} :
    s?.map normal = t?.map normal ↔ Option.Rel SameLetters s? t? := by
  cases s? with
  | none =>
      cases t? with
      | none => exact iff_of_true rfl .none
      | some t => exact iff_of_false nofun nofun
  | some s =>
      cases t? with
      | none => exact iff_of_false nofun nofun
      | some t =>
          rw [Option.map_some, Option.map_some, Option.some_inj, hnormal]
          exact ⟨.some, fun | .some h => h⟩

theorem Writes.subtag_others {tag : String} {p : Parts} (h : Writes tag p) :
    ∀ s ∈ p.others, Subtag s := by
  obtain ⟨subtags, htag, hp⟩ := h
  intro s hs
  refine (tagText_iff.mp htag).subtag s ?_
  rw [hp.eq_subtags, Parts.subtags]
  simp [hs]

/-- The parts of two tags agree exactly if they have one locale. -/
theorem locale_inj_iff {tag tag' : String} {p q : Parts} (hp : Writes tag p)
    (hq : Writes tag' q) : p.locale = q.locale ↔ p.Agree q := by
  constructor
  · intro h
    obtain ⟨hlanguage, hscript, hregion, hvariant⟩ := Locale.mk.inj h
    exact ⟨asciiLower_inj_iff.mp hlanguage, (map_eq_map_iff_rel asciiTitle_inj_iff).mp hscript,
      (map_eq_map_iff_rel asciiUpper_inj_iff).mp hregion,
      variantOf_inj hp.subtag_others hq.subtag_others hvariant⟩
  · rintro ⟨hlanguage, hscript, hregion, hothers⟩
    rw [Parts.locale, Parts.locale, asciiLower_inj_iff.mpr hlanguage,
      (map_eq_map_iff_rel asciiTitle_inj_iff).mpr hscript,
      (map_eq_map_iff_rel asciiUpper_inj_iff).mpr hregion, hothers]

/-! ## Tags as a whole -/

/-- **A locale tag is read exactly by its grammar, into a normal form that is a tag of itself.**  A
text is read as a locale exactly if it is subtags with white space around them, the first of which
is a language; the locale has the parts of the tag in their normal case.  If the text is no subtags
the failure has the whole text, and if the first subtag is no language that subtag.  A locale that
was read is read again from its display form.  Two tags are read as one locale exactly if their
language, script and region are the same in any case and their other subtags to the letter. -/
theorem tags_are_read_into_normal_form (tag : String) :
    ((∃ l, parse tag = .ok l) ↔
      ∃ first others, TagText tag.toList (first :: others) ∧ LanguageCode first) ∧
    (∀ l, parse tag = .ok l ↔ ∃ p, Writes tag p ∧ p.locale = l) ∧
    (∀ text, parse tag = .error (.malformed text) ↔
      text = tag ∧ ∀ subtags, ¬ TagText tag.toList subtags) ∧
    (∀ text, parse tag = .error (.language text) ↔ ∃ first others,
      TagText tag.toList (first :: others) ∧ ¬ LanguageCode first ∧
        text = String.ofList first) ∧
    (∀ l, parse tag = .ok l → parse l.display = .ok l) ∧
    ∀ tag' p q, Writes tag p → Writes tag' q → (parse tag = parse tag' ↔ p.Agree q) := by
  refine ⟨?_, fun l => parse_eq_ok_iff, fun text => parse_eq_malformed_iff,
    fun text => parse_eq_language_iff, fun l => parse_display, ?_⟩
  · constructor
    · rintro ⟨l, hl⟩
      obtain ⟨p, ⟨subtags, htag, hp⟩, -⟩ := parse_eq_ok_iff.mp hl
      obtain ⟨hlanguage, others, rfl⟩ := hp.exists_cons
      exact ⟨p.language, others, htag, hlanguage⟩
    · rintro ⟨first, others, htag, hlanguage⟩
      obtain ⟨p, hp⟩ := exists_classified hlanguage others
      exact ⟨p.locale, parse_eq_ok_iff.mpr ⟨p, ⟨_, htag, hp⟩, rfl⟩⟩
  · intro tag' p q hp hq
    rw [parse_eq_ok_iff.mpr ⟨p, hp, rfl⟩, parse_eq_ok_iff.mpr ⟨q, hq, rfl⟩, Except.ok.injEq]
    exact locale_inj_iff hp hq

example : parse " SR-cyrl_419-Latn " = .ok ⟨"sr", some "Cyrl", some "419", some "Latn"⟩ := by
  rfl

end Spelling.Locale
