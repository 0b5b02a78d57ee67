import Spelling.Text.Words

/-!
# Where the words of a text stand

A place of a text belongs to a word by what stands there and beside it:

    a letter, mark or digit              always
    an apostrophe of either kind,        if a letter, mark or digit stands directly before it and
      a hyphen                             another directly after it
    anything else                        never

The words are the longest parts of the text all of whose places belong to words.  Each has a place
at least, there is a place between any two, and no other parts are of this kind (`Marks.unique`).
So each word alone is found again as one word, and it makes no difference whether apostrophes are
made plain before or after.
-/

namespace Spelling.Text

/-! ## Places -/

/-- A letter, mark or digit stands at a place. -/
def WordCharAt (text : List Char) (i : Nat) : Prop := (text[i]?).any isWordChar = true

/-- An apostrophe or a hyphen stands at a place. -/
def JoinerAt (text : List Char) (i : Nat) : Prop := (text[i]?).any isJoiner = true

/-- What stands at a place belongs to a word. -/
def InWord (text : List Char) (i : Nat) : Prop :=
  WordCharAt text i ∨
    JoinerAt text i ∧ 0 < i ∧ WordCharAt text (i - 1) ∧ WordCharAt text (i + 1)

/-- Whether a text ends in a word character. -/
def endsWord (text : List Char) : Bool := text.getLast?.any isWordChar

section Places

variable {text before rest : List Char} {c : Char} {i : Nat}

theorem WordCharAt.lt (h : WordCharAt text i) : i < text.length := by
  refine Nat.lt_of_not_le fun hle => ?_
  rw [WordCharAt, List.getElem?_eq_none hle] at h
  cases h

theorem InWord.lt (h : InWord text i) : i < text.length := by
  rcases h with h | ⟨-, -, -, h⟩
  · exact h.lt
  · exact Nat.lt_trans (Nat.lt_succ_self i) h.lt

theorem wordCharAt_last : 0 < before.length ∧
    WordCharAt (before ++ rest) (before.length - 1) ↔ endsWord before = true := by
  rcases List.eq_nil_or_concat before with rfl | ⟨front, d, rfl⟩
  · simp [endsWord]
  · simp [endsWord, WordCharAt]

theorem wordCharAt_next : WordCharAt (before ++ c :: rest) (before.length + 1) ↔
    startsWord rest = true := by
  rw [WordCharAt, List.getElem?_append_right (Nat.le_add_right _ 1), Nat.add_sub_cancel_left]
  cases rest <;> simp [startsWord]

/-- Whether a place belongs to a word is seen from the text before it and the text after it. -/
theorem inWord_iff : InWord (before ++ c :: rest) before.length ↔
    isWordChar c = true ∨
      isJoiner c = true ∧ endsWord before = true ∧ startsWord rest = true := by
  have hhere : (before ++ c :: rest)[before.length]? = some c := by simp
  rw [InWord, ← and_assoc (a := 0 < before.length), wordCharAt_last, wordCharAt_next, WordCharAt,
    JoinerAt, hhere, Option.any_some, Option.any_some]

end Places

/-! ## Spans -/

/-- A part of a text: the places from one up to another. -/
structure Span where
  start : Nat
  /-- The first place after the part -/
  stop : Nat
  deriving DecidableEq, Repr

namespace Span

/-- A place lies in a span. -/
def Has (s : Span) (i : Nat) : Prop := s.start ≤ i ∧ i < s.stop

/-- What stands in a span of a text. -/
def of (s : Span) (text : List Char) : List Char := (text.take s.stop).drop s.start

end Span

/-- Spans that are not empty and stand in order, with a place at least between any two. -/
structure Apart (spans : List Span) : Prop where
  nonempty : ∀ s ∈ spans, s.start < s.stop
  parted : spans.Pairwise fun s t => s.stop < t.start

/-- Spans that mark what belongs to the words of a text. -/
structure Marks (text : List Char) (spans : List Span) : Prop extends Apart spans where
  covers : ∀ i, (∃ s ∈ spans, s.Has i) ↔ InWord text i

section Spans

variable {s t : Span} {spans spans' : List Span} {text : List Char} {i : Nat}

theorem apart_nil : Apart [] := ⟨by simp, .nil⟩

theorem apart_cons : Apart (s :: spans) ↔
    s.start < s.stop ∧ (∀ t ∈ spans, s.stop < t.start) ∧ Apart spans := by
  constructor
  · rintro ⟨hnonempty, hparted⟩
    obtain ⟨hs, hspans⟩ := List.forall_mem_cons.mp hnonempty
    obtain ⟨hfirst, hrest⟩ := List.pairwise_cons.mp hparted
    exact ⟨hs, hfirst, hspans, hrest⟩
  · rintro ⟨hs, hfirst, hspans, hrest⟩
    exact ⟨List.forall_mem_cons.mpr ⟨hs, hspans⟩, List.pairwise_cons.mpr ⟨hfirst, hrest⟩⟩

/-- Of two spans, one stands before the other, if they are not one. -/
theorem Apart.eq_or (h : Apart spans) (hs : s ∈ spans) (ht : t ∈ spans) :
    s = t ∨ s.stop < t.start ∨ t.stop < s.start := by
  induction spans with
  | nil => cases hs
  | cons first spans ih =>
      obtain ⟨-, hfirst, hspans⟩ := apart_cons.mp h
      rcases List.mem_cons.mp hs with heq | hs <;> rcases List.mem_cons.mp ht with heq' | ht
      · exact .inl (heq.trans heq'.symm)
      · exact .inr (.inl (heq ▸ hfirst t ht))
      · exact .inr (.inr (heq' ▸ hfirst s hs))
      · exact ih hspans hs ht

/-- A place lies in one of the spans only. -/
theorem Apart.eq_of_has (h : Apart spans) (hs : s ∈ spans) (ht : t ∈ spans) (hsi : s.Has i)
    (hti : t.Has i) : s = t := by
  have hor := h.eq_or hs ht
  unfold Span.Has at hsi hti
  exact hor.resolve_right (by omega)

theorem Apart.has_start (h : Apart (s :: spans)) : ∃ t ∈ s :: spans, t.Has s.start :=
  ⟨s, List.mem_cons_self, Nat.le_refl _, (apart_cons.mp h).1⟩

/-- The first span starts before the others. -/
theorem Apart.start_le (h : Apart (s :: spans)) (ht : t ∈ s :: spans) : s.start ≤ t.start := by
  obtain ⟨hs, hfirst, -⟩ := apart_cons.mp h
  rcases List.mem_cons.mp ht with rfl | ht
  · exact Nat.le_refl _
  · exact Nat.le_of_lt (Nat.lt_trans hs (hfirst t ht))

/-- The places of the other spans are those that do not lie in the first. -/
theorem Apart.exists_rest_iff (h : Apart (s :: spans)) : (∃ t ∈ spans, t.Has i) ↔
    (∃ t ∈ s :: spans, t.Has i) ∧ ¬ s.Has i := by
  constructor
  · rintro ⟨t, ht, hhas⟩
    refine ⟨⟨t, List.mem_cons_of_mem _ ht, hhas⟩, fun hs => ?_⟩
    have hlater := (apart_cons.mp h).2.1 t ht
    exact Nat.lt_irrefl _ (Nat.lt_of_lt_of_le (Nat.lt_trans hs.2 hlater) hhas.1)
  · rintro ⟨⟨t, ht, hhas⟩, hnot⟩
    rcases List.mem_cons.mp ht with rfl | ht
    · exact absurd hhas hnot
    · exact ⟨t, ht, hhas⟩

/-- Where the first of some spans starts and stops is seen from the places that lie in them. -/
theorem Apart.first_le (h : Apart (s :: spans)) (h' : Apart (t :: spans'))
    (hsame : ∀ i, (∃ u ∈ s :: spans, u.Has i) → ∃ u ∈ t :: spans', u.Has i) :
    t.start ≤ s.start ∧ (s.start = t.start → s.stop ≤ t.stop) := by
  obtain ⟨ht, hlater, -⟩ := apart_cons.mp h'
  constructor
  · obtain ⟨u, hu, hhas⟩ := hsame s.start h.has_start
    exact Nat.le_trans (h'.start_le hu) hhas.1
  · intro hstart
    refine Nat.le_of_not_lt fun hlt => ?_
    -- the place where `t` stops lies in `s`, but in none of the spans of `t`
    obtain ⟨u, hu, hhas⟩ :=
      hsame t.stop ⟨s, List.mem_cons_self, by rw [hstart]; exact Nat.le_of_lt ht, hlt⟩
    rcases List.mem_cons.mp hu with rfl | hu
    · exact Nat.lt_irrefl _ hhas.2
    · exact absurd hhas.1 (Nat.not_le.mpr (hlater u hu))

theorem Apart.first_eq (h : Apart (s :: spans)) (h' : Apart (t :: spans'))
    (hsame : ∀ i, (∃ u ∈ s :: spans, u.Has i) ↔ ∃ u ∈ t :: spans', u.Has i) : s = t := by
  obtain ⟨hle, hstop⟩ := h.first_le h' fun i => (hsame i).mp
  obtain ⟨hge, hstop'⟩ := h'.first_le h fun i => (hsame i).mpr
  have hstart : s.start = t.start := Nat.le_antisymm hge hle
  have hends : s.stop = t.stop := Nat.le_antisymm (hstop hstart) (hstop' hstart.symm)
  cases s
  cases t
  exact congr (congrArg Span.mk hstart) hends

/-- Spans are known from the places that lie in them. -/
theorem Apart.unique (h : Apart spans) (h' : Apart spans')
    (hsame : ∀ i, (∃ s ∈ spans, s.Has i) ↔ ∃ s ∈ spans', s.Has i) : spans = spans' := by
  induction spans generalizing spans' with
  | nil =>
      cases spans' with
      | nil => rfl
      | cons t spans' => simpa using (hsame t.start).mpr h'.has_start
  | cons s spans ih =>
      cases spans' with
      | nil => simpa using (hsame s.start).mp h.has_start
      | cons t spans' =>
          obtain rfl := h.first_eq h' hsame
          obtain ⟨-, -, hspans⟩ := apart_cons.mp h
          obtain ⟨-, -, hspans'⟩ := apart_cons.mp h'
          refine congrArg (s :: ·) (ih hspans hspans' fun i => ?_)
          rw [h.exists_rest_iff, h'.exists_rest_iff, hsame i]

/-- **A text is marked in one way.** -/
theorem Marks.unique (h : Marks text spans) (h' : Marks text spans') : spans = spans' :=
  h.toApart.unique h'.toApart fun i => (h.covers i).trans (h'.covers i).symm

/-- Of two places of words that are neighbours, both lie in one span or neither does. -/
theorem Marks.has_succ_iff (h : Marks text spans) (hs : s ∈ spans) (hi : InWord text i)
    (hnext : InWord text (i + 1)) : s.Has (i + 1) ↔ s.Has i := by
  obtain ⟨t, ht, hti⟩ := (h.covers i).mpr hi
  obtain ⟨u, hu, hui⟩ := (h.covers (i + 1)).mpr hnext
  -- between two spans there would be a place
  obtain rfl : t = u := by
    have hor := h.eq_or ht hu
    unfold Span.Has at hti hui
    exact hor.resolve_right (by omega)
  constructor
  · intro hhas
    obtain rfl := h.eq_of_has hs ht hhas hui
    exact hti
  · intro hhas
    obtain rfl := h.eq_of_has hs ht hhas hti
    exact hui

end Spans

/-! ## The words of a text -/

section Words

variable {text before word rest : List Char} {spans : List Span} {s : Span} {c : Char} {i : Nat}

theorem length_of (hstop : s.stop ≤ text.length) : (s.of text).length = s.stop - s.start := by
  rw [Span.of, List.length_drop, List.length_take, Nat.min_eq_left hstop]

theorem getElem?_of (h : s.start + i < s.stop) : (s.of text)[i]? = text[s.start + i]? := by
  rw [Span.of, List.getElem?_drop, List.getElem?_take, if_pos h]

theorem of_whole (text : List Char) : (Span.mk 0 text.length).of text = text := by
  simp [Span.of]

/-- What is read as one word stands in a span of its own. -/
theorem of_between (before word rest : List Char) :
    (Span.mk before.length (before.length + word.length)).of (before ++ (word ++ rest)) =
      word := by
  simp [Span.of, List.take_append]

/-- What is known while a text is read: all of the word so far belongs to words, and whether the
next character can go on with it is seen from the word and from what comes next. -/
structure Reading (before word rest : List Char) : Prop where
  inWord : ∀ i, before.length ≤ i → i < before.length + word.length →
    InWord (before ++ (word ++ rest)) i
  edge : word = [] ∧ endsWord before = false ∨
    word ≠ [] ∧ (endsWord word = true ∨ startsWord rest = true)

theorem endsWord_append_singleton : endsWord (before ++ [c]) = isWordChar c := by
  simp [endsWord]

theorem endsWord_append (h : word ≠ []) : endsWord (before ++ word) = endsWord word := by
  rw [endsWord, endsWord, List.getLast?_append, Option.or_of_isSome (List.getLast?_isSome.mpr h)]

/-- The next character belongs to a word exactly if it is taken into the word. -/
theorem Reading.inWord_iff (h : Reading before word (c :: rest)) :
    InWord (before ++ (word ++ c :: rest)) (before.length + word.length) ↔
      (isWordChar c || (!word.isEmpty && isJoiner c && startsWord rest)) = true := by
  rw [← List.append_assoc, ← List.length_append, Text.inWord_iff]
  cases hc : isWordChar c with
  | true => simp
  | false =>
      rcases h.edge with ⟨rfl, hbefore⟩ | ⟨hne, hedge⟩
      · simp [hbefore]
      · -- what comes next is no word character, so the word so far ends in one
        have hends : endsWord word = true := hedge.resolve_right (by simp [startsWord, hc])
        simp [endsWord_append hne, hends, hne]

theorem Reading.take (h : Reading before word (c :: rest))
    (hc : (isWordChar c || (!word.isEmpty && isJoiner c && startsWord rest)) = true) :
    Reading before (word ++ [c]) rest := by
  refine ⟨fun i hi hlt => ?_, .inr ⟨by simp, ?_⟩⟩
  · rw [List.append_assoc, List.singleton_append]
    rw [List.length_append, List.length_singleton, ← Nat.add_assoc] at hlt
    rcases Nat.lt_succ_iff_lt_or_eq.mp hlt with hlt | rfl
    · exact h.inWord i hi hlt
    · exact h.inWord_iff.mpr hc
  · rw [endsWord_append_singleton]
    rw [Bool.or_eq_true, Bool.and_eq_true] at hc
    exact hc.imp_right And.right

theorem Reading.skip (hc : isWordChar c = false) : Reading (before ++ (word ++ [c])) [] rest := by
  refine ⟨fun i hi hlt => absurd hi (Nat.not_le.mpr hlt), .inl ⟨rfl, ?_⟩⟩
  rw [← List.append_assoc, endsWord_append_singleton, hc]

/-- The spans of a finished word, if there is one. -/
def finishedSpans (before word : List Char) : List Span :=
  if word.isEmpty then [] else [⟨before.length, before.length + word.length⟩]

theorem finished_eq (before word rest : List Char) :
    finished word = (finishedSpans before word).map fun s => s.of (before ++ (word ++ rest)) := by
  rw [finished, finishedSpans]
  split
  · rfl
  · rw [List.map_singleton, of_between]

theorem exists_mem_finishedSpans (before word : List Char) (i : Nat) :
    (∃ s ∈ finishedSpans before word, s.Has i) ↔
      before.length ≤ i ∧ i < before.length + word.length := by
  rw [finishedSpans]
  cases word with
  | nil => simp
  | cons c word => simp [Span.Has]

theorem start_of_mem_finishedSpans (h : s ∈ finishedSpans before word) :
    before.length ≤ s.start := by
  rw [finishedSpans] at h
  split at h
  · cases h
  · obtain rfl := List.mem_singleton.mp h
    exact Nat.le_refl _

theorem apart_finishedSpans_append (h : Apart spans)
    (hlater : ∀ s ∈ spans, before.length + word.length < s.start) :
    Apart (finishedSpans before word ++ spans) := by
  rw [finishedSpans]
  cases word with
  | nil => exact h
  | cons c word => exact apart_cons.mpr ⟨by simp, hlater, h⟩

/-- The words that are read stand in spans that mark the rest of the text. -/
theorem exists_spans (h : Reading before word rest) : ∃ spans,
    wordsAfter word rest = spans.map (fun s => s.of (before ++ (word ++ rest))) ∧ Apart spans ∧
      (∀ s ∈ spans, before.length ≤ s.start) ∧
      ∀ i, before.length ≤ i →
        ((∃ s ∈ spans, s.Has i) ↔ InWord (before ++ (word ++ rest)) i) := by
  induction rest generalizing before word with
  | nil =>
      refine ⟨finishedSpans before word, finished_eq before word [], ?_,
        fun s => start_of_mem_finishedSpans, fun i hi => ?_⟩
      · rw [← List.append_nil (finishedSpans before word)]
        exact apart_finishedSpans_append apart_nil (by simp)
      · rw [exists_mem_finishedSpans]
        refine ⟨fun hlt => h.inWord i hlt.1 hlt.2, fun hin => ⟨hi, ?_⟩⟩
        simpa using hin.lt
  | cons c rest ih =>
      rw [wordsAfter]
      by_cases hc : (isWordChar c || (!word.isEmpty && isJoiner c && startsWord rest)) = true
      · rw [if_pos hc]
        have htaken := ih (h.take hc)
        rwa [List.append_assoc, List.singleton_append] at htaken
      · rw [if_neg hc]
        have hnone : isWordChar c = false := by
          rw [Bool.or_eq_true, not_or] at hc
          simpa using hc.1
        obtain ⟨spans, hwords, hapart, hstart, hcovers⟩ :=
          ih (Reading.skip hnone : Reading (before ++ (word ++ [c])) [] rest)
        have htext : before ++ (word ++ [c]) ++ ([] ++ rest) = before ++ (word ++ c :: rest) := by
          simp
        have hlength : (before ++ (word ++ [c])).length = before.length + word.length + 1 := by
          simp [Nat.add_assoc]
        rw [htext] at hwords hcovers
        rw [hlength] at hstart hcovers
        refine ⟨finishedSpans before word ++ spans, ?_, apart_finishedSpans_append hapart hstart,
          ?_, fun i hi => ?_⟩
        · rw [List.map_append, ← finished_eq, hwords]
        · intro s hs
          rcases List.mem_append.mp hs with hs | hs
          · exact start_of_mem_finishedSpans hs
          · exact Nat.le_trans (Nat.le_add_right _ (word.length + 1)) (hstart s hs)
        · simp only [List.mem_append, or_and_right, exists_or, exists_mem_finishedSpans]
          have hlate : i < before.length + word.length + 1 → ¬ ∃ s ∈ spans, s.Has i := by
            rintro hlt ⟨s, hs, hhas⟩
            exact absurd (Nat.lt_of_lt_of_le hlt (hstart s hs)) (Nat.not_lt.mpr hhas.1)
          rcases Nat.lt_trichotomy i (before.length + word.length) with hlt | rfl | hgt
          · simp [hi, hlt, h.inWord i hi hlt]
          · rw [h.inWord_iff]
            simp [hc, hlate (Nat.lt_succ_self _)]
          · rw [← hcovers i hgt]
            simp [Nat.not_lt.mpr (Nat.le_of_lt hgt)]

/-- **The words of a text stand in the spans that mark it.** -/
theorem exists_marks (text : List Char) :
    ∃ spans, Marks text spans ∧ wordChars text = spans.map (fun s => s.of text) := by
  have hstart : Reading [] [] text :=
    ⟨fun i _ hlt => absurd hlt (Nat.not_lt_zero i), .inl ⟨rfl, rfl⟩⟩
  obtain ⟨spans, hwords, hapart, -, hcovers⟩ := exists_spans hstart
  exact ⟨spans, ⟨hapart, fun i => hcovers i (Nat.zero_le i)⟩, hwords⟩

theorem wordChars_eq_of_marks (h : Marks text spans) :
    wordChars text = spans.map fun s => s.of text := by
  obtain ⟨spans', hmarks, hwords⟩ := exists_marks text
  rw [hwords, h.unique hmarks]

/-! ### A word alone -/

theorem Marks.stop_le (h : Marks text spans) (hs : s ∈ spans) : s.stop ≤ text.length := by
  have hlt := h.nonempty s hs
  have hlast := ((h.covers (s.stop - 1)).mp ⟨s, hs, by unfold Span.Has; omega⟩).lt
  omega

theorem Marks.getElem?_eq_none (h : Marks text spans) (hs : s ∈ spans) (hi : s.stop ≤ s.start + i) :
    (s.of text)[i]? = none := by
  rw [List.getElem?_eq_none_iff, length_of (h.stop_le hs)]
  omega

/-- A place of a word belongs to the word by what stands in it alone. -/
theorem Marks.inWord_of (h : Marks text spans) (hs : s ∈ spans) (hi : s.start + i < s.stop) :
    InWord (s.of text) i := by
  have hin := (h.covers (s.start + i)).mp ⟨s, hs, Nat.le_add_right _ _, hi⟩
  have hhere : (s.of text)[i]? = text[s.start + i]? := getElem?_of hi
  rcases hin with hchar | ⟨hjoiner, hpos, hbefore, hafter⟩
  · rw [WordCharAt, ← hhere] at hchar
    exact .inl hchar
  · -- the characters on both sides belong to a word, and so to this one
    have hhas : s.Has (s.start + i) := ⟨Nat.le_add_right _ _, hi⟩
    have hin : InWord text (s.start + i) := .inr ⟨hjoiner, hpos, hbefore, hafter⟩
    have hnext : s.Has (s.start + i + 1) := (h.has_succ_iff hs hin (.inl hafter)).mpr hhas
    have hprevious : s.Has (s.start + i - 1) := by
      refine (h.has_succ_iff hs (.inl hbefore) ?_).mp ?_
      · rwa [Nat.sub_add_cancel hpos]
      · rwa [Nat.sub_add_cancel hpos]
    have hi0 : 0 < i := by
      have := hprevious.1
      omega
    rw [Nat.add_assoc] at hafter hnext
    rw [show s.start + i - 1 = s.start + (i - 1) by omega] at hbefore hprevious
    rw [JoinerAt, ← hhere] at hjoiner
    rw [WordCharAt, ← getElem?_of hnext.2] at hafter
    rw [WordCharAt, ← getElem?_of hprevious.2] at hbefore
    exact .inr ⟨hjoiner, hi0, hbefore, hafter⟩

/-- A word alone is marked as a whole. -/
theorem Marks.whole (h : Marks text spans) (hs : s ∈ spans) :
    Marks (s.of text) [⟨0, (s.of text).length⟩] := by
  have hlength := length_of (h.stop_le hs)
  have hlt := h.nonempty s hs
  have hpos : 0 < (s.of text).length := by omega
  refine ⟨apart_cons.mpr ⟨hpos, by simp, apart_nil⟩, fun i => ?_⟩
  simp only [List.mem_singleton, exists_eq_left, Span.Has, Nat.zero_le, true_and]
  refine ⟨fun hi => h.inWord_of hs (by omega), InWord.lt⟩

/-- **A word that was found is found again alone.** -/
theorem wordChars_of_mem {w : List Char} (h : w ∈ wordChars text) : wordChars w = [w] := by
  obtain ⟨spans, hmarks, hwords⟩ := exists_marks text
  rw [hwords] at h
  obtain ⟨s, hs, rfl⟩ := List.mem_map.mp h
  rw [wordChars_eq_of_marks (hmarks.whole hs), List.map_singleton, of_whole]

/-! ### Plain apostrophes -/

theorem isWordChar_plainApostrophe (c : Char) :
    isWordChar (plainApostrophe c) = isWordChar c := by
  rw [plainApostrophe]
  split
  · next h => rw [h]; decide +kernel
  · rfl

theorem isJoiner_plainApostrophe (c : Char) : isJoiner (plainApostrophe c) = isJoiner c := by
  rw [plainApostrophe]
  split
  · next h => rw [h]; decide +kernel
  · rfl

theorem any_map_plainApostrophe {p : Char → Bool} (hp : ∀ c, p (plainApostrophe c) = p c)
    (text : List Char) (i : Nat) : ((text.map plainApostrophe)[i]?).any p = (text[i]?).any p := by
  rw [List.getElem?_map]
  cases text[i]? with
  | none => rfl
  | some c => exact hp c

/-- Which places belong to words does not hang on the kind of the apostrophes. -/
theorem inWord_map_plainApostrophe :
    InWord (text.map plainApostrophe) i ↔ InWord text i := by
  simp only [InWord, WordCharAt, JoinerAt, any_map_plainApostrophe isWordChar_plainApostrophe,
    any_map_plainApostrophe isJoiner_plainApostrophe]

theorem Marks.plain (h : Marks text spans) : Marks (text.map plainApostrophe) spans :=
  ⟨h.toApart, fun i => (h.covers i).trans inWord_map_plainApostrophe.symm⟩

theorem wordChars_map_plainApostrophe (text : List Char) :
    wordChars (text.map plainApostrophe) = (wordChars text).map (List.map plainApostrophe) := by
  obtain ⟨spans, hmarks, hwords⟩ := exists_marks text
  rw [wordChars_eq_of_marks hmarks.plain, hwords, List.map_map]
  refine List.map_congr_left fun s _ => ?_
  simp [Span.of, List.map_take, List.map_drop]

end Words

/-- **Words are parts of the text, told by what stands in it.**  One list of spans marks a text, and
no other: the spans are not empty, stand in order with a place between any two, and what lies in
them is exactly what belongs to words.  Each letter, mark or digit lies in one of them only.  The
words of the text are what stands in the spans.  Each of them alone is one word, and it makes no
difference whether apostrophes are made plain in the text or in its words. -/
theorem words_stand_in_spans (text : String) :
    ∃ spans, Marks text.toList spans ∧ (∀ spans', Marks text.toList spans' → spans' = spans) ∧
      (∀ i, WordCharAt text.toList i → ∃ s ∈ spans, s.Has i ∧ ∀ t ∈ spans, t.Has i → t = s) ∧
      words text = spans.map (fun s => String.ofList (s.of text.toList)) ∧
      (∀ w ∈ words text, words w = [w]) ∧
      words (normalizeApostrophes text) = (words text).map normalizeApostrophes := by
  obtain ⟨spans, hmarks, hwords⟩ := exists_marks text.toList
  refine ⟨spans, hmarks, fun _ h => h.unique hmarks, fun i hi => ?_, ?_, fun w hw => ?_, ?_⟩
  · obtain ⟨s, hs, hhas⟩ := (hmarks.covers i).mpr (.inl hi)
    exact ⟨s, hs, hhas, fun t ht hti => hmarks.eq_of_has ht hs hti hhas⟩
  · rw [words, hwords, List.map_map]
    rfl
  · obtain ⟨cs, hcs, rfl⟩ := List.mem_map.mp hw
    rw [words, String.toList_ofList, wordChars_of_mem hcs, List.map_singleton]
  · rw [words, words, normalizeApostrophes, String.toList_ofList, wordChars_map_plainApostrophe,
      List.map_map, List.map_map]
    refine List.map_congr_left fun cs _ => ?_
    simp [normalizeApostrophes]

/-- Marks and digits make words, and of several joiners in a row none does. -/
example : words "l’été's ''42nd'' rock--roll -x-" = ["l’été's", "42nd", "rock", "roll", "x"] := by
  decide +kernel

end Spelling.Text
