import Mathlib.Data.List.Induction
import Spelling.WordList.Parser

/-!
# The grammar of word lists

What may stand in the lines of a word list, written as rules and apart from how it is read:

    first line   number line-end              the number is below 2^64
    other line   line-end
                 word flags? field* line-end
    word         ( no blank, no /, no # )+
    flags        / ( no blank, no # )+
    field        blank+ fq: number            the number is at most 255
                 blank+ bg: ( no blank, no # )+
    line-end     blank* ( # anything )?
    number       digit+

A blank is a space or a tab.  A number may have leading zeros and has no sign.  The second half says
that a run of digits is read as the number that it writes (`nat?_eq_some_iff`).
-/

namespace Spelling.WordList

/-! ## Rules -/

/-- A space or a tab. -/
def Blank (c : Char) : Prop := c = ' ' ∨ c = '\t'

/-- A character that neither parts fields nor begins a comment. -/
def Inner (c : Char) : Prop := ¬ Blank c ∧ c ≠ '#'

/-- A number in decimal digits. -/
inductive Decimal : List Char → Nat → Prop
  | digit {d : Nat} : d < 10 → Decimal [Nat.digitChar d] d
  | more {cs : List Char} {n d : Nat} : Decimal cs n → d < 10 →
      Decimal (cs ++ [Nat.digitChar d]) (10 * n + d)

/-- A comment, or none. -/
inductive Comment : List Char → Prop
  | none : Comment []
  | some (text : List Char) : Comment ('#' :: text)

/-- The end of a line: blanks, and perhaps a comment. -/
inductive LineEnd : List Char → Prop
  | intro {blanks comment : List Char} : (∀ c ∈ blanks, Blank c) → Comment comment →
      LineEnd (blanks ++ comment)

/-- A line that announces a number. -/
inductive CountLine : List Char → Nat → Prop
  | intro {digits tail : List Char} {n : Nat} : Decimal digits n → n < UInt64.size → LineEnd tail →
      CountLine (digits ++ tail) n

/-- Flags after a slash, or none. -/
inductive FlagsText : List Char → List Char → Prop
  | none : FlagsText [] []
  | some {flags : List Char} : flags ≠ [] → (∀ c ∈ flags, Inner c) →
      FlagsText ('/' :: flags) flags

/-- A field. -/
inductive FieldText : List Char → Field → Prop
  | frequency {digits : List Char} {n : Nat} : Decimal digits n → n ≤ 255 →
      FieldText ('f' :: 'q' :: ':' :: digits) (.frequency n)
  | follows {word : List Char} : word ≠ [] → (∀ c ∈ word, Inner c) →
      FieldText ('b' :: 'g' :: ':' :: word) (.follows (String.ofList word))

/-- Fields, each after blanks. -/
inductive FieldsText : List Char → List Field → Prop
  | nil : FieldsText [] []
  | cons {blanks text rest : List Char} {f : Field} {fs : List Field} : blanks ≠ [] →
      (∀ c ∈ blanks, Blank c) → FieldText text f → FieldsText rest fs →
      FieldsText (blanks ++ (text ++ rest)) (f :: fs)

/-- A line that writes an entry. -/
inductive EntryText : List Char → EntryLine → Prop
  | intro {word flagsText flags fieldsText tail : List Char} {fields : List Field} :
      word ≠ [] → (∀ c ∈ word, Inner c ∧ c ≠ '/') → FlagsText flagsText flags →
      FieldsText fieldsText fields → LineEnd tail →
      EntryText (word ++ (flagsText ++ (fieldsText ++ tail))) ⟨String.ofList word, flags, fields⟩

/-! ## Characters -/

theorem isBlank_iff {c : Char} : Text.isBlank c = true ↔ Blank c := by
  simp [Text.isBlank, Blank]

theorem isBlank_eq_false_iff {c : Char} : Text.isBlank c = false ↔ ¬ Blank c := by
  rw [← isBlank_iff, Bool.not_eq_true]

theorem isWordPart_iff {c : Char} : isWordPart c = true ↔ ¬ Blank c ∧ c ≠ '/' := by
  simp [isWordPart, isBlank_eq_false_iff]

theorem Blank.ne_hash {c : Char} (h : Blank c) : c ≠ '#' := by
  rcases h with rfl | rfl <;> decide

theorem isDigit_iff {c : Char} : c.isDigit = true ↔ ∃ d, d < 10 ∧ c = Nat.digitChar d := by
  have hdigit : c.isDigit = true ↔ 48 ≤ c.toNat ∧ c.toNat ≤ 57 := by
    rw [Char.isDigit, Bool.and_eq_true, decide_eq_true_eq, decide_eq_true_eq]
    exact Iff.rfl
  rw [hdigit]
  constructor
  · intro h
    refine ⟨c.toNat - 48, by omega, ?_⟩
    apply Char.toNat_inj.mp
    rw [Nat.toNat_digitChar_of_lt_ten (by omega)]
    omega
  · rintro ⟨d, hd, rfl⟩
    rw [Nat.toNat_digitChar_of_lt_ten hd]
    omega

theorem inner_of_isDigit {c : Char} (h : c.isDigit = true) : Inner c := by
  refine ⟨?_, ?_⟩
  · rintro (rfl | rfl) <;> exact absurd h (by decide)
  · rintro rfl
    exact absurd h (by decide)

/-! ## Numbers -/

theorem natFrom_concat (n : Nat) (cs : List Char) {d : Nat} (hd : d < 10) :
    Number.natFrom n (cs ++ [Nat.digitChar d]) = 10 * Number.natFrom n cs + d := by
  have hvalue : (Nat.digitChar d).toNat - '0'.toNat = d := by
    rw [Nat.toNat_digitChar_of_lt_ten hd]
    exact Nat.add_sub_cancel_left 48 d
  simp only [Number.natFrom, List.foldl_append, List.foldl_cons, List.foldl_nil, hvalue]

theorem Decimal.ne_nil {cs : List Char} {n : Nat} (h : Decimal cs n) : cs ≠ [] := by
  cases h with
  | digit => exact List.cons_ne_nil _ _
  | more => simp

theorem Decimal.isDigit {cs : List Char} {n : Nat} (h : Decimal cs n) :
    ∀ c ∈ cs, c.isDigit = true := by
  induction h with
  | digit hd =>
      intro c hc
      exact isDigit_iff.mpr ⟨_, hd, List.mem_singleton.mp hc⟩
  | more _ hd ih =>
      intro c hc
      rcases List.mem_append.mp hc with hc | hc
      · exact ih c hc
      · exact isDigit_iff.mpr ⟨_, hd, List.mem_singleton.mp hc⟩

theorem Decimal.natFrom {cs : List Char} {n : Nat} (h : Decimal cs n) :
    Number.natFrom 0 cs = n := by
  induction h with
  | digit hd => simpa [Number.natFrom] using natFrom_concat 0 [] hd
  | more _ hd ih => rw [natFrom_concat 0 _ hd, ih]

/-- Digits write the number that they are taken as. -/
theorem decimal_natFrom {cs : List Char} (hne : cs ≠ []) (hdigits : ∀ c ∈ cs, c.isDigit = true) :
    Decimal cs (Number.natFrom 0 cs) := by
  induction cs using List.reverseRecOn with
  | nil => exact absurd rfl hne
  | append_singleton cs c ih =>
      obtain ⟨d, hd, rfl⟩ := isDigit_iff.mp (hdigits c (by simp))
      rw [natFrom_concat 0 cs hd]
      cases cs with
      | nil => simpa [Number.natFrom] using Decimal.digit hd
      | cons e es =>
          refine .more (ih (List.cons_ne_nil e es) ?_) hd
          intro x hx
          exact hdigits x (List.mem_append_left _ hx)

/-- A run of digits is read as the number that it writes. -/
theorem nat?_eq_some_iff {cs : List Char} {n : Nat} : Number.nat? cs = some n ↔ Decimal cs n := by
  rw [Number.nat?]
  constructor
  · intro h
    split at h
    · next hcs =>
      cases h
      simp only [Bool.and_eq_true, Bool.not_eq_true', List.isEmpty_eq_false_iff,
        List.all_eq_true] at hcs
      exact decimal_natFrom hcs.1 hcs.2
    · cases h
  · intro h
    have hempty : cs.isEmpty = false := List.isEmpty_eq_false_iff.mpr h.ne_nil
    have hall : cs.all Char.isDigit = true := List.all_eq_true.mpr h.isDigit
    rw [if_pos (by simp [hempty, hall]), h.natFrom]

end Spelling.WordList
