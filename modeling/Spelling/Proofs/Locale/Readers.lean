import Spelling.Proofs.Locale.Grammar
import Spelling.Proofs.Reader

/-!
# Locale tags by repetition

The subtags of a tag are a run of ASCII letters and digits, and another after each separator, as long
as there is one.  A separator with no run after it is given back, and then something is left of the
text, which is no tag.  This comes to the subtags of the rules (`whole_subtagsReader_eq_ok_iff`), so a tag
is read as it is from its pieces (`readTag_eq`).
-/

namespace Spelling.Locale

open Text Text.Reader

/-! ## Readers -/

/-- Takes a separator and a subtag. -/
def nextReader : Reader (List Char) := do
  let _ ← oneOf ['_', '-']
  alphanumeric1

/-- Takes subtags. -/
def subtagsReader : Reader (List (List Char)) := separated1 (oneOf ['_', '-']) alphanumeric1

/-- The locale of a tag. -/
def readTag (tag : String) : Except LocaleError Locale :=
  match whole subtagsReader (trimChars tag.toList) with
  | .error _ => .error (.malformed tag)
  | .ok ([], _) => .error (.malformed tag)
  | .ok (language :: subtags, _) =>
    if isLanguage language then .ok (ofSubtags language subtags)
    else .error (.language (String.ofList language))

/-! ## Subtags -/

variable {text left s : List Char} {subtags : List (List Char)}

theorem alphanumeric1_eq_ok_iff :
    alphanumeric1 text = .ok (s, left) ↔
      text = s ++ left ∧ Subtag s ∧ WordList.Stops Char.isAlphanum left := by
  rw [alphanumeric1, run1_eq_ok_iff, Subtag]
  tauto

theorem nextReader_eq_ok_iff :
    nextReader text = .ok (s, left) ↔ ∃ c, text = c :: (s ++ left) ∧ Separator c ∧ Subtag s ∧
      WordList.Stops Char.isAlphanum left := by
  have hseparator : ∀ c, ['_', '-'].contains c = true ↔ Separator c := by simp [Separator]
  constructor
  · intro h
    obtain ⟨c, mid, hone, hrun⟩ := bind_eq_ok_iff.mp h
    obtain ⟨rfl, hc⟩ := one_eq_ok_iff.mp hone
    obtain ⟨rfl, hs, hstop⟩ := alphanumeric1_eq_ok_iff.mp hrun
    exact ⟨c, rfl, (hseparator c).mp hc, hs, hstop⟩
  · rintro ⟨c, rfl, hc, hs, hstop⟩
    exact bind_eq_ok_iff.mpr ⟨c, _, one_eq_ok_iff.mpr ⟨rfl, (hseparator c).mpr hc⟩,
      alphanumeric1_eq_ok_iff.mpr ⟨rfl, hs, hstop⟩⟩

/-- What follows a subtag up to the end of the text. -/
def Following (text : List Char) (subtags : List (List Char)) : Prop :=
  (text = [] ∧ subtags = []) ∨ ∃ c rest, text = c :: rest ∧ Separator c ∧ SubtagsText rest subtags

theorem subtagsText_cons_iff :
    SubtagsText text (s :: subtags) ↔ ∃ rest, text = s ++ rest ∧ Subtag s ∧
      Following rest subtags := by
  constructor
  · rintro (hs | ⟨hs, hc, hrest⟩)
    · exact ⟨[], (List.append_nil _).symm, hs, .inl ⟨rfl, rfl⟩⟩
    · exact ⟨_, rfl, hs, .inr ⟨_, _, rfl, hc, hrest⟩⟩
  · rintro ⟨rest, rfl, hs, ⟨rfl, rfl⟩ | ⟨c, rest, rfl, hc, hrest⟩⟩
    · rw [List.append_nil]
      exact .last hs
    · exact .more hs hc hrest

theorem Following.stops (h : Following text subtags) : WordList.Stops Char.isAlphanum text := by
  rcases h with ⟨rfl, -⟩ | ⟨c, rest, rfl, hc, -⟩
  · exact WordList.stops_nil _
  · exact WordList.stops_cons.mpr hc.not_isAlphanum

/-- Repeated to the end of the text, a separator and a subtag are taken as the rules have them. -/
theorem many_nextReader_eq_ok_iff :
    many nextReader text = .ok (subtags, []) ↔ Following text subtags := by
  induction subtags generalizing text with
  | nil =>
      constructor
      · intro h
        rcases cases_of_many h with ⟨-, rfl⟩ | ⟨s, mid, others, hcons, -⟩
        · exact .inl ⟨rfl, rfl⟩
        · cases hcons
      · rintro (⟨rfl, -⟩ | ⟨c, rest, rfl, hc, hrest⟩)
        · refine many_of_refuses fun s left h => ?_
          obtain ⟨c, htext, -⟩ := nextReader_eq_ok_iff.mp h
          cases htext
        · cases hrest
  | cons s subtags ih =>
      constructor
      · intro h
        rcases cases_of_many h with ⟨hnil, -⟩ | ⟨s', mid, others, hcons, hnext, -, hothers⟩
        · cases hnil
        · cases hcons
          obtain ⟨c, rfl, hc, hs, -⟩ := nextReader_eq_ok_iff.mp hnext
          exact .inr ⟨c, _, rfl, hc, subtagsText_cons_iff.mpr ⟨mid, rfl, hs, ih.mp hothers⟩⟩
      · rintro (⟨-, hnil⟩ | ⟨c, rest, rfl, hc, hrest⟩)
        · cases hnil
        · obtain ⟨mid, rfl, hs, hfollowing⟩ := subtagsText_cons_iff.mp hrest
          refine many_of_ok (nextReader_eq_ok_iff.mpr ⟨c, rfl, hc, hs, hfollowing.stops⟩) ?_
            (ih.mpr hfollowing)
          simp only [List.length_cons, List.length_append]
          omega

/-- **Subtags are taken of a whole text exactly as the rules have them.** -/
theorem whole_subtagsReader_eq_ok_iff :
    whole subtagsReader text = .ok (subtags, left) ↔ SubtagsText text subtags ∧ left = [] := by
  rw [whole_eq_ok_iff, and_congr_left_iff]
  rintro -
  constructor
  · intro h
    obtain ⟨s, mid, hs, h⟩ := bind_eq_ok_iff.mp h
    obtain ⟨others, mid', hothers, h⟩ := bind_eq_ok_iff.mp h
    obtain ⟨rfl, rfl⟩ := pure_eq_ok_iff.mp h
    obtain ⟨rfl, hs, -⟩ := alphanumeric1_eq_ok_iff.mp hs
    exact subtagsText_cons_iff.mpr ⟨mid, rfl, hs, many_nextReader_eq_ok_iff.mp hothers⟩
  · intro h
    obtain ⟨s, others, rfl⟩ := h.exists_cons
    obtain ⟨rest, rfl, hs, hfollowing⟩ := subtagsText_cons_iff.mp h
    exact bind_eq_ok_iff.mpr ⟨s, rest, alphanumeric1_eq_ok_iff.mpr ⟨rfl, hs, hfollowing.stops⟩,
      bind_eq_ok_iff.mpr ⟨others, [], many_nextReader_eq_ok_iff.mpr hfollowing, rfl⟩⟩

/-- **The locale of a tag is what the repetition reads.** -/
theorem readTag_eq (tag : String) : readTag tag = parse tag := by
  rcases tagText_cases tag with ⟨first, others, htag⟩ | hno
  · rw [parse_of_tagText htag, readTag,
      whole_subtagsReader_eq_ok_iff.mpr ⟨tagText_iff.mp htag, rfl⟩]
  · rw [parse_of_not_tagText hno, readTag]
    cases hread : whole subtagsReader (trimChars tag.toList) with
    | error fault => rfl
    | ok p =>
        obtain ⟨subtags, left⟩ := p
        obtain ⟨hsubtags, -⟩ := whole_subtagsReader_eq_ok_iff.mp hread
        exact absurd (tagText_iff.mpr hsubtags) (hno subtags)

end Spelling.Locale
