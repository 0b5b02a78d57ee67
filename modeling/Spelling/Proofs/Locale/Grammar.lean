import Mathlib
import Spelling.Locale.Tag

/-!
# The grammar of locale tags

What a locale tag is, written as rules and apart from how it is read:

    tag          white* subtag ( separator subtag )* white*
    subtag       ( ASCII letter or digit )+
    separator    _ or -

The subtags are told apart from left to right.  A part that may be missing is missing only where the
next subtag does not fit it.

    language     the first subtag     two or three letters
    script       next, if it fits     four letters
    region       next, if it fits     two letters or three digits
    others       all that remain

A text is read as a tag exactly by these rules (`parse_eq_ok_iff`).  Of a text that is no sequence of
subtags the whole is reported, and of another one a first subtag that is no language.
-/

namespace Spelling.Locale

/-! ## Rules -/

/-- A run of ASCII letters and digits. -/
def Subtag (s : List Char) : Prop :=
  s ≠ [] ∧ ∀ c ∈ s, c.isAlphanum = true

/-- An underscore or a hyphen. -/
def Separator (c : Char) : Prop := c = '_' ∨ c = '-'

/-- Subtags with one separator between any two. -/
inductive SubtagsText : List Char → List (List Char) → Prop
  | last {s : List Char} : Subtag s → SubtagsText s [s]
  | more {s rest : List Char} {c : Char} {subtags : List (List Char)} : Subtag s → Separator c →
      SubtagsText rest subtags → SubtagsText (s ++ c :: rest) (s :: subtags)

/-- Subtags with white space around the whole. -/
inductive TagText : List Char → List (List Char) → Prop
  | intro {before cs after : List Char} {subtags : List (List Char)} :
      (∀ c ∈ before, Text.isWhitespace c = true) → SubtagsText cs subtags →
      (∀ c ∈ after, Text.isWhitespace c = true) → TagText (before ++ (cs ++ after)) subtags

/-- Two or three ASCII letters. -/
def LanguageCode (s : List Char) : Prop :=
  (s.length = 2 ∨ s.length = 3) ∧ ∀ c ∈ s, c.isAlpha = true

/-- Four ASCII letters. -/
def ScriptCode (s : List Char) : Prop :=
  s.length = 4 ∧ ∀ c ∈ s, c.isAlpha = true

/-- Two ASCII letters or three digits. -/
def RegionCode (s : List Char) : Prop :=
  (s.length = 2 ∧ ∀ c ∈ s, c.isAlpha = true) ∨ (s.length = 3 ∧ ∀ c ∈ s, c.isDigit = true)

/-- The next subtag is taken if it fits. -/
inductive Takes (Fits : List Char → Prop) :
    List (List Char) → Option (List Char) → List (List Char) → Prop
  | fit {s : List Char} {rest : List (List Char)} : Fits s → Takes Fits (s :: rest) (some s) rest
  | unfit {rest : List (List Char)} : (∀ s ∈ rest.head?, ¬ Fits s) → Takes Fits rest none rest

/-- Subtags that are told apart. -/
structure Parts where
  language : List Char
  script? : Option (List Char)
  region? : Option (List Char)
  others : List (List Char)

/-- Which part each subtag is. -/
inductive Classified : List (List Char) → Parts → Prop
  | intro {language : List Char} {script? region? : Option (List Char)}
      {subtags unscripted others : List (List Char)} : LanguageCode language →
      Takes ScriptCode subtags script? unscripted → Takes RegionCode unscripted region? others →
      Classified (language :: subtags) ⟨language, script?, region?, others⟩

/-- The tag of some parts. -/
def Writes (tag : String) (p : Parts) : Prop :=
  ∃ subtags, TagText tag.toList subtags ∧ Classified subtags p

/-- The locale of some parts, each in its normal case. -/
def Parts.locale (p : Parts) : Locale where
  language := asciiLower (String.ofList p.language)
  script? := p.script?.map fun s => asciiTitle (String.ofList s)
  region? := p.region?.map fun s => asciiUpper (String.ofList s)
  variant? := variantOf p.others

/-! ## Characters -/

theorem isSeparator_iff {c : Char} : isSeparator c = true ↔ Separator c := by
  simp [isSeparator, Separator]

theorem isSubtag_iff {s : List Char} : isSubtag s = true ↔ Subtag s := by
  simp [isSubtag, Subtag]

theorem Separator.not_isAlphanum {c : Char} (h : Separator c) : c.isAlphanum = false := by
  rcases h with rfl | rfl <;> rfl

theorem Separator.not_isWhitespace {c : Char} (h : Separator c) :
    Text.isWhitespace c = false := by
  rcases h with rfl | rfl <;> rfl

theorem not_isWhitespace_of_isAlphanum {c : Char} (h : c.isAlphanum = true) :
    Text.isWhitespace c = false := by
  simp only [Char.isAlphanum, Char.isAlpha, Char.isUpper, Char.isLower, Char.isDigit,
    Bool.or_eq_true, Bool.and_eq_true, decide_eq_true_eq, UInt32.le_iff_toNat_le, ge_iff_le] at h
  change ((65 ≤ c.toNat ∧ c.toNat ≤ 90) ∨ 97 ≤ c.toNat ∧ c.toNat ≤ 122) ∨
    48 ≤ c.toNat ∧ c.toNat ≤ 57 at h
  simp only [Text.isWhitespace, Bool.or_eq_false_iff, Bool.and_eq_false_iff,
    decide_eq_false_iff_not, beq_eq_false_iff_ne]
  omega

theorem Subtag.not_isSeparator {s : List Char} (h : Subtag s) :
    ∀ c ∈ s, isSeparator c = false := by
  intro c hc
  rw [← Bool.not_eq_true, isSeparator_iff]
  intro hsep
  exact absurd (h.2 c hc) (by rw [hsep.not_isAlphanum]; decide)

/-! ## Subtags -/

theorem pieces_of_forall {s : List Char} (h : ∀ c ∈ s, isSeparator c = false) :
    Text.pieces isSeparator s = [s] := by
  induction s with
  | nil => rfl
  | cons c s ih =>
      obtain ⟨hc, hs⟩ := List.forall_mem_cons.mp h
      rw [Text.pieces, if_neg (by simp [hc]), ih hs]

theorem pieces_append {s rest : List Char} {c : Char} (h : ∀ c ∈ s, isSeparator c = false)
    (hc : Separator c) :
    Text.pieces isSeparator (s ++ c :: rest) = s :: Text.pieces isSeparator rest := by
  induction s with
  | nil => rw [List.nil_append, Text.pieces, if_pos (isSeparator_iff.mpr hc)]
  | cons d s ih =>
      obtain ⟨hd, hs⟩ := List.forall_mem_cons.mp h
      rw [List.cons_append, Text.pieces, if_neg (by simp [hd]), ih hs]

theorem SubtagsText.pieces {cs : List Char} {subtags : List (List Char)}
    (h : SubtagsText cs subtags) : Text.pieces isSeparator cs = subtags := by
  induction h with
  | last hs => exact pieces_of_forall hs.not_isSeparator
  | more hs hc _ ih => rw [pieces_append hs.not_isSeparator hc, ih]

theorem SubtagsText.subtag {cs : List Char} {subtags : List (List Char)}
    (h : SubtagsText cs subtags) : ∀ s ∈ subtags, Subtag s := by
  induction h with
  | last hs => simpa using hs
  | more hs _ _ ih => exact List.forall_mem_cons.mpr ⟨hs, ih⟩

/-- The first piece goes up to a separator, or else it is the whole text. -/
theorem first_piece {cs s : List Char} {subtags : List (List Char)}
    (h : Text.pieces isSeparator cs = s :: subtags) :
    (s = cs ∧ subtags = []) ∨ ∃ c rest, Separator c ∧ cs = s ++ c :: rest ∧
      Text.pieces isSeparator rest = subtags := by
  induction cs generalizing s with
  | nil =>
      cases h
      exact .inl ⟨rfl, rfl⟩
  | cons c cs ih =>
      rw [Text.pieces] at h
      split at h
      · next hc =>
        cases h
        exact .inr ⟨c, cs, isSeparator_iff.mp hc, rfl, rfl⟩
      · split at h
        · next hnil => exact absurd hnil (Text.pieces_ne_nil _ _)
        · next heq =>
          cases h
          rcases ih heq with ⟨rfl, rfl⟩ | ⟨d, rest, hd, rfl, hrest⟩
          · exact .inl ⟨rfl, rfl⟩
          · exact .inr ⟨d, rest, hd, rfl, hrest⟩

theorem subtagsText_of_pieces {cs : List Char} {subtags : List (List Char)}
    (hpieces : Text.pieces isSeparator cs = subtags) (h : ∀ s ∈ subtags, Subtag s) :
    SubtagsText cs subtags := by
  induction subtags generalizing cs with
  | nil => exact absurd hpieces (Text.pieces_ne_nil _ _)
  | cons s subtags ih =>
      obtain ⟨hs, hsubtags⟩ := List.forall_mem_cons.mp h
      rcases first_piece hpieces with ⟨rfl, rfl⟩ | ⟨c, rest, hc, rfl, hrest⟩
      · exact .last hs
      · exact .more hs hc (ih hrest hsubtags)

/-- Subtags are the pieces between separators. -/
theorem subtagsText_iff {cs : List Char} {subtags : List (List Char)} :
    SubtagsText cs subtags ↔
      Text.pieces isSeparator cs = subtags ∧ subtags.all isSubtag = true := by
  simp only [List.all_eq_true, isSubtag_iff]
  exact ⟨fun h => ⟨h.pieces, h.subtag⟩, fun h => subtagsText_of_pieces h.1 h.2⟩

/-! ## White space around -/

theorem SubtagsText.ne_nil {cs : List Char} {subtags : List (List Char)}
    (h : SubtagsText cs subtags) : cs ≠ [] := by
  cases h with
  | last hs => exact hs.1
  | more => simp

theorem SubtagsText.not_isWhitespace {cs : List Char} {subtags : List (List Char)}
    (h : SubtagsText cs subtags) : ∀ c ∈ cs, Text.isWhitespace c = false := by
  induction h with
  | last hs => exact fun c hc => not_isWhitespace_of_isAlphanum (hs.2 c hc)
  | more hs hc _ ih =>
      rw [List.forall_mem_append, List.forall_mem_cons]
      exact ⟨fun c hc => not_isWhitespace_of_isAlphanum (hs.2 c hc), hc.not_isWhitespace, ih⟩

theorem dropWhile_isWhitespace_append {before cs : List Char}
    (hbefore : ∀ c ∈ before, Text.isWhitespace c = true)
    (hcs : ∀ c ∈ cs.head?, Text.isWhitespace c = false) :
    (before ++ cs).dropWhile Text.isWhitespace = cs := by
  rw [List.dropWhile_append_of_pos hbefore]
  cases cs with
  | nil => rfl
  | cons c cs => exact List.dropWhile_cons_of_neg (by simpa using hcs c rfl)

theorem SubtagsText.trimChars {before cs after : List Char} {subtags : List (List Char)}
    (h : SubtagsText cs subtags) (hbefore : ∀ c ∈ before, Text.isWhitespace c = true)
    (hafter : ∀ c ∈ after, Text.isWhitespace c = true) :
    Text.trimChars (before ++ (cs ++ after)) = cs := by
  have hhead : ∀ c ∈ (cs ++ after).head?, Text.isWhitespace c = false := by
    rw [List.head?_append_of_ne_nil _ h.ne_nil]
    exact fun c hc => h.not_isWhitespace c (List.mem_of_mem_head? hc)
  have hlast : ∀ c ∈ cs.reverse.head?, Text.isWhitespace c = false := fun c hc =>
    h.not_isWhitespace c (List.mem_reverse.mp (List.mem_of_mem_head? hc))
  rw [Text.trimChars, dropWhile_isWhitespace_append hbefore hhead, List.reverse_append,
    dropWhile_isWhitespace_append (by simpa using hafter) hlast, List.reverse_reverse]

/-- A text is what is left when the white space around it is taken away, and that. -/
theorem exists_trimChars (cs : List Char) :
    ∃ before after, (∀ c ∈ before, Text.isWhitespace c = true) ∧
      (∀ c ∈ after, Text.isWhitespace c = true) ∧
      before ++ (Text.trimChars cs ++ after) = cs := by
  have hall : ∀ cs : List Char, ∀ c ∈ cs.takeWhile Text.isWhitespace,
      Text.isWhitespace c = true := fun cs => List.all_eq_true.mp List.all_takeWhile
  refine ⟨cs.takeWhile Text.isWhitespace,
    ((cs.dropWhile Text.isWhitespace).reverse.takeWhile Text.isWhitespace).reverse,
    hall cs, fun c hc => hall _ c (List.mem_reverse.mp hc), ?_⟩
  rw [Text.trimChars, ← List.reverse_append, List.takeWhile_append_dropWhile,
    List.reverse_reverse, List.takeWhile_append_dropWhile]

/-- Subtags without white space around them are a tag. -/
theorem SubtagsText.tagText {cs : List Char} {subtags : List (List Char)}
    (h : SubtagsText cs subtags) : TagText cs subtags := by
  have hnone : ∀ c ∈ ([] : List Char), Text.isWhitespace c = true := by simp
  simpa using TagText.intro hnone h hnone

theorem tagText_iff {cs : List Char} {subtags : List (List Char)} :
    TagText cs subtags ↔ SubtagsText (Text.trimChars cs) subtags := by
  constructor
  · rintro ⟨hbefore, h, hafter⟩
    rwa [h.trimChars hbefore hafter]
  · intro h
    obtain ⟨before, after, hbefore, hafter, hcs⟩ := exists_trimChars cs
    rw [← hcs]
    exact .intro hbefore h hafter

/-! ## Parts -/

theorem isLanguage_iff {s : List Char} : isLanguage s = true ↔ LanguageCode s := by
  simp only [isLanguage, LanguageCode, Bool.and_eq_true, decide_eq_true_eq, List.all_eq_true]
  have hlength : (2 ≤ s.length ∧ s.length ≤ 3) ↔ (s.length = 2 ∨ s.length = 3) := by omega
  rw [hlength]

theorem isScript_iff {s : List Char} : isScript s = true ↔ ScriptCode s := by
  simp [isScript, ScriptCode]

theorem isRegion_iff {s : List Char} : isRegion s = true ↔ RegionCode s := by
  simp [isRegion, RegionCode]

theorem takes_takeIf {form : List Char → Bool} {Fits : List Char → Prop}
    (hform : ∀ {s}, form s = true ↔ Fits s) (subtags : List (List Char)) :
    Takes Fits subtags (takeIf form subtags).1 (takeIf form subtags).2 := by
  cases subtags with
  | nil => exact .unfit (by simp)
  | cons s rest =>
      rw [takeIf]
      split
      · next hs => exact .fit (hform.mp hs)
      · next hs => exact .unfit (by simpa [← hform] using hs)

/-- What is taken is settled by the subtags. -/
theorem Takes.unique {Fits : List Char → Prop} {subtags rest rest' : List (List Char)}
    {s? s'? : Option (List Char)} (h : Takes Fits subtags s? rest)
    (h' : Takes Fits subtags s'? rest') : s? = s'? ∧ rest = rest' := by
  cases h with
  | fit hs =>
      cases h' with
      | fit => exact ⟨rfl, rfl⟩
      | unfit hno => exact absurd hs (hno _ rfl)
  | unfit hno =>
      cases h' with
      | fit hs => exact absurd hs (hno _ rfl)
      | unfit => exact ⟨rfl, rfl⟩

/-- Subtags after a language are told apart in one way, the one in which they are read. -/
theorem classified_iff {language : List Char} {subtags : List (List Char)} {l : Locale} :
    (∃ p, Classified (language :: subtags) p ∧ p.locale = l) ↔
      LanguageCode language ∧ ofSubtags language subtags = l := by
  have hscript := takes_takeIf @isScript_iff subtags
  have hregion := takes_takeIf @isRegion_iff (takeIf isScript subtags).2
  constructor
  · rintro ⟨p, ⟨hlanguage, hs, hr⟩, rfl⟩
    obtain ⟨rfl, rfl⟩ := hs.unique hscript
    obtain ⟨rfl, rfl⟩ := hr.unique hregion
    exact ⟨hlanguage, rfl⟩
  · rintro ⟨hlanguage, rfl⟩
    exact ⟨_, .intro hlanguage hscript hregion, rfl⟩

theorem exists_classified {language : List Char} (h : LanguageCode language)
    (subtags : List (List Char)) : ∃ p, Classified (language :: subtags) p := by
  obtain ⟨p, hp, -⟩ := classified_iff.mpr ⟨h, Eq.refl (ofSubtags language subtags)⟩
  exact ⟨p, hp⟩

theorem Classified.exists_cons {subtags : List (List Char)} {p : Parts}
    (h : Classified subtags p) :
    LanguageCode p.language ∧ ∃ rest, subtags = p.language :: rest := by
  obtain ⟨hlanguage, -, -⟩ := h
  exact ⟨hlanguage, _, rfl⟩

/-! ## Reading -/

theorem SubtagsText.exists_cons {cs : List Char} {subtags : List (List Char)}
    (h : SubtagsText cs subtags) : ∃ first others, subtags = first :: others := by
  cases h <;> exact ⟨_, _, rfl⟩

theorem parse_of_tagText {tag : String} {first : List Char} {others : List (List Char)}
    (h : TagText tag.toList (first :: others)) :
    parse tag = if isLanguage first then .ok (ofSubtags first others)
      else .error (.language (String.ofList first)) := by
  obtain ⟨hpieces, hall⟩ := subtagsText_iff.mp (tagText_iff.mp h)
  rw [parse, hpieces]
  dsimp only
  rw [if_pos hall]

theorem parse_of_not_tagText {tag : String} (h : ∀ subtags, ¬ TagText tag.toList subtags) :
    parse tag = .error (.malformed tag) := by
  rw [parse]
  split
  · rfl
  · next first others hpieces =>
    rw [if_neg]
    intro hall
    exact h _ (tagText_iff.mpr (subtagsText_iff.mpr ⟨hpieces, hall⟩))

/-- A text is a tag of some subtags, at least one, or of none. -/
theorem tagText_cases (tag : String) :
    (∃ first others, TagText tag.toList (first :: others)) ∨
      ∀ subtags, ¬ TagText tag.toList subtags := by
  by_cases h : ∃ subtags, TagText tag.toList subtags
  · obtain ⟨subtags, h⟩ := h
    obtain ⟨first, others, rfl⟩ := (tagText_iff.mp h).exists_cons
    exact .inl ⟨first, others, h⟩
  · exact .inr (not_exists.mp h)

/-- **A text is read as the locale of the parts that it is a tag of.** -/
theorem parse_eq_ok_iff {tag : String} {l : Locale} :
    parse tag = .ok l ↔ ∃ p, Writes tag p ∧ p.locale = l := by
  constructor
  · intro h
    rcases tagText_cases tag with ⟨first, others, htag⟩ | hno
    · rw [parse_of_tagText htag] at h
      split at h
      · next hlanguage =>
        cases h
        obtain ⟨p, hp, hl⟩ := classified_iff.mpr
          ⟨isLanguage_iff.mp hlanguage, Eq.refl (ofSubtags first others)⟩
        exact ⟨p, ⟨_, htag, hp⟩, hl⟩
      · cases h
    · rw [parse_of_not_tagText hno] at h
      cases h
  · rintro ⟨p, ⟨subtags, htag, hp⟩, rfl⟩
    obtain ⟨-, others, rfl⟩ := hp.exists_cons
    obtain ⟨hlanguage, hl⟩ := classified_iff.mp ⟨p, hp, rfl⟩
    rw [parse_of_tagText htag, if_pos (isLanguage_iff.mpr hlanguage), hl]

theorem parse_eq_malformed_iff {tag text : String} :
    parse tag = .error (.malformed text) ↔
      text = tag ∧ ∀ subtags, ¬ TagText tag.toList subtags := by
  constructor
  · intro h
    rcases tagText_cases tag with ⟨first, others, htag⟩ | hno
    · rw [parse_of_tagText htag] at h
      split at h <;> cases h
    · rw [parse_of_not_tagText hno] at h
      cases h
      exact ⟨rfl, hno⟩
  · rintro ⟨rfl, hno⟩
    exact parse_of_not_tagText hno

theorem parse_eq_language_iff {tag text : String} :
    parse tag = .error (.language text) ↔ ∃ first others,
      TagText tag.toList (first :: others) ∧ ¬ LanguageCode first ∧ text = String.ofList first := by
  constructor
  · intro h
    rcases tagText_cases tag with ⟨first, others, htag⟩ | hno
    · rw [parse_of_tagText htag] at h
      split at h
      · cases h
      · next hlanguage =>
        cases h
        exact ⟨first, others, htag, fun h => hlanguage (isLanguage_iff.mpr h), rfl⟩
    · rw [parse_of_not_tagText hno] at h
      cases h
  · rintro ⟨first, others, htag, hlanguage, rfl⟩
    rw [parse_of_tagText htag, if_neg (by rwa [isLanguage_iff])]

end Spelling.Locale
