import Mathlib.Data.List.TakeWhile
import Spelling.Proofs.WordList.Lines
import Spelling.Text.Reader

/-!
# What readers read

Each reader is told by what it makes of a text: the value it gives and the text it leaves.

    one, run, run1, tag, number         what is taken, by its characters
    a >>= f, f <$> a, a <|> b, opt a    from what the parts do
    many a                              one round, and by it all rounds
    lineEnd                             an end of a line by its rule, with the line feed

A reader that reads what stands in a line, with the line feed after it, is the reader of a line
(`ReadsLines`).  If it is repeated on a text of lines, it takes them one by one, up to the first that
it does not read (`many_unlines`).
-/

namespace Spelling.Text.Reader

open WordList (Blank Comment LineEnd Decimal Stops)

variable {α β : Type} {a b : Reader α} {text left : List Char}

/-! ## Putting together -/

/-- A reader does not read a text. -/
def Refuses (a : Reader α) (text : List Char) : Prop :=
  ∀ x left, a text ≠ .ok (x, left)

theorem refuses_iff : Refuses a text ↔ ∃ fault, a text = .error fault := by
  rw [Refuses]
  cases a text with
  | ok p => simpa using ⟨p.1, p.2, rfl⟩
  | error fault => simp

theorem bind_eq_ok_iff {f : α → Reader β} {y : β} :
    (a >>= f) text = .ok (y, left) ↔
      ∃ x mid, a text = .ok (x, mid) ∧ f x mid = .ok (y, left) := by
  change (a text >>= fun p => f p.1 p.2) = .ok (y, left) ↔ _
  cases a text with
  | ok p =>
      obtain ⟨x, mid⟩ := p
      simp [Bind.bind, Except.bind]
  | error fault => simp [Bind.bind, Except.bind]

theorem bind_of_ok {f : α → Reader β} {x : α} {mid : List Char} (h : a text = .ok (x, mid)) :
    (a >>= f) text = f x mid := by
  change (a text >>= fun p => f p.1 p.2) = _
  rw [h]
  rfl

theorem bind_of_error {f : α → Reader β} {fault : Fault} (h : a text = .error fault) :
    (a >>= f) text = .error fault := by
  change (a text >>= fun p => f p.1 p.2) = _
  rw [h]
  rfl

theorem map_eq_ok_iff {g : α → β} {y : β} :
    (g <$> a) text = .ok (y, left) ↔ ∃ x, a text = .ok (x, left) ∧ g x = y := by
  change (a text >>= fun p => pure (g p.1, p.2)) = .ok (y, left) ↔ _
  cases a text with
  | ok p =>
      obtain ⟨x, mid⟩ := p
      simp [Bind.bind, Except.bind, pure, Except.pure]
      tauto
  | error fault => simp [Bind.bind, Except.bind]

theorem pure_eq_ok_iff {x y : α} :
    (pure x : Reader α) text = .ok (y, left) ↔ x = y ∧ text = left := by
  change Except.ok (x, text) = .ok (y, left) ↔ _
  simp

/-- The second of two alternatives counts where the first does not read the text. -/
theorem orElse_eq_ok_iff {x : α} :
    (a <|> b) text = .ok (x, left) ↔
      a text = .ok (x, left) ∨ Refuses a text ∧ b text = .ok (x, left) := by
  rw [refuses_iff]
  change tryCatch (a text) (fun _ => b text) = .ok (x, left) ↔ _
  cases a text with
  | ok p => simp [tryCatch, tryCatchThe, MonadExceptOf.tryCatch, Except.tryCatch]
  | error fault => simp [tryCatch, tryCatchThe, MonadExceptOf.tryCatch, Except.tryCatch]

theorem refuses_map {g : α → β} : Refuses (g <$> a) text ↔ Refuses a text := by
  simp only [Refuses, ne_eq, map_eq_ok_iff]
  grind

theorem opt_eq_ok_iff {x? : Option α} :
    opt a text = .ok (x?, left) ↔
      (∃ x, a text = .ok (x, left) ∧ x? = some x) ∨ Refuses a text ∧ x? = none ∧ left = text := by
  rw [opt, orElse_eq_ok_iff, map_eq_ok_iff, pure_eq_ok_iff, refuses_map]
  simp only [eq_comm]

/-! ## Characters -/

theorem one_eq_ok_iff {p : Char → Bool} {expected : Expected} {c : Char} :
    one p expected text = .ok (c, left) ↔ text = c :: left ∧ p c = true := by
  cases text with
  | nil => simp [one, missing]
  | cons d rest =>
      rw [one]
      split
      · next hd =>
        simp only [Except.ok.injEq, Prod.mk.injEq, List.cons.injEq]
        grind
      · next hd =>
        simp only [missing, reduceCtorEq, List.cons.injEq, false_iff]
        grind

theorem run_eq_ok_iff {p : Char → Bool} {taken : List Char} :
    run p text = .ok (taken, left) ↔
      text = taken ++ left ∧ (∀ c ∈ taken, p c = true) ∧ Stops p left := by
  rw [run, Except.ok.injEq, Prod.mk.injEq]
  constructor
  · rintro ⟨rfl, rfl⟩
    exact ⟨List.takeWhile_append_dropWhile.symm, List.all_eq_true.mp List.all_takeWhile,
      WordList.stops_dropWhile p text⟩
  · rintro ⟨rfl, htaken, hstop⟩
    exact ⟨WordList.takeWhile_append htaken hstop, WordList.dropWhile_append htaken hstop⟩

theorem run1_eq_ok_iff {p : Char → Bool} {expected : Expected} {taken : List Char} :
    run1 p expected text = .ok (taken, left) ↔
      taken ≠ [] ∧ text = taken ++ left ∧ (∀ c ∈ taken, p c = true) ∧ Stops p left := by
  rw [← run_eq_ok_iff, run1]
  split
  · next hempty =>
    simp only [missing, reduceCtorEq, false_iff, run, Except.ok.injEq, Prod.mk.injEq]
    rintro ⟨hne, rfl, -⟩
    exact hne (List.isEmpty_iff.mp hempty)
  · next hempty =>
    simp only [run, Except.ok.injEq, Prod.mk.injEq, iff_and_self]
    rintro ⟨rfl, -⟩ hnil
    exact hempty (List.isEmpty_iff.mpr hnil)

theorem tag_eq_ok_iff {fixed : List Char} :
    tag fixed text = .ok ((), left) ↔ text = fixed ++ left := by
  rw [tag]
  split
  · next hfixed =>
    obtain ⟨rest, rfl⟩ := List.isPrefixOf_iff_prefix.mp hfixed
    simp
  · next hfixed =>
    simp only [missing, reduceCtorEq, false_iff]
    rintro rfl
    exact hfixed (List.isPrefixOf_iff_prefix.mpr (List.prefix_append fixed left))

theorem space0_eq_ok_iff {blanks : List Char} :
    space0 text = .ok (blanks, left) ↔
      text = blanks ++ left ∧ (∀ c ∈ blanks, Blank c) ∧ Stops isBlank left := by
  rw [space0, run_eq_ok_iff]
  simp only [WordList.isBlank_iff]

theorem space1_eq_ok_iff {blanks : List Char} :
    space1 text = .ok (blanks, left) ↔
      blanks ≠ [] ∧ text = blanks ++ left ∧ (∀ c ∈ blanks, Blank c) ∧ Stops isBlank left := by
  rw [space1, run1_eq_ok_iff]
  simp only [WordList.isBlank_iff]

theorem newline_not_mem_of_blank {blanks : List Char} (h : ∀ c ∈ blanks, Blank c) :
    '\n' ∉ blanks := fun hmem => absurd (h _ hmem) (by simp [Blank])

theorem newline_eq_ok_iff {c : Char} :
    newline text = .ok (c, left) ↔ text = '\n' :: left ∧ c = '\n' := by
  rw [newline, one_eq_ok_iff, beq_iff_eq]
  grind

theorem number_eq_ok_iff {bound n : Nat} :
    number bound text = .ok (n, left) ↔
      ∃ digits, text = digits ++ left ∧ Decimal digits n ∧ n < bound ∧ Stops Char.isDigit left := by
  have hread : number bound text = .ok (n, left) ↔
      Decimal (text.takeWhile Char.isDigit) n ∧ n < bound ∧ text.dropWhile Char.isDigit = left := by
    rw [← WordList.nat?_eq_some_iff, number]
    cases hfilter : (Number.nat? (text.takeWhile Char.isDigit)).filter (· < bound) with
    | none =>
        rw [Option.filter_eq_none_iff] at hfilter
        simp only [missing, reduceCtorEq, false_iff]
        rintro ⟨hn, hbound, -⟩
        exact hfilter n hn (decide_eq_true hbound)
    | some m =>
        obtain ⟨hm, hbound⟩ := Option.filter_eq_some_iff.mp hfilter
        rw [decide_eq_true_eq] at hbound
        simp only [Except.ok.injEq, Prod.mk.injEq, hm, Option.some.injEq]
        grind
  rw [hread]
  constructor
  · rintro ⟨hdigits, hbound, rfl⟩
    exact ⟨_, List.takeWhile_append_dropWhile.symm, hdigits, hbound,
      WordList.stops_dropWhile _ _⟩
  · rintro ⟨digits, rfl, hdigits, hbound, hstop⟩
    rw [WordList.takeWhile_append hdigits.isDigit hstop,
      WordList.dropWhile_append hdigits.isDigit hstop]
    exact ⟨hdigits, hbound, rfl⟩

/-! ## Repetitions -/

theorem many_of_refuses (h : Refuses a text) : many a text = .ok ([], text) := by
  obtain ⟨fault, hfault⟩ := refuses_iff.mp h
  rw [many, hfault]

theorem many_of_ok {x : α} {xs : List α} {mid : List Char} (h : a text = .ok (x, mid))
    (hlt : mid.length < text.length) (hmany : many a mid = .ok (xs, left)) :
    many a text = .ok (x :: xs, left) := by
  rw [many, h]
  dsimp only
  rw [dif_pos hlt, hmany]

/-- A repetition ends at once, or it goes on after its first round. -/
theorem cases_of_many {xs : List α} (h : many a text = .ok (xs, left)) :
    (xs = [] ∧ left = text) ∨ ∃ x mid others, xs = x :: others ∧ a text = .ok (x, mid) ∧
      mid.length < text.length ∧ many a mid = .ok (others, left) := by
  rw [many] at h
  split at h
  · cases h
    exact .inl ⟨rfl, rfl⟩
  · next x mid ha =>
    split at h
    · next hlt =>
      split at h
      · cases h
      · next others _ hmany =>
        cases h
        exact .inr ⟨x, mid, others, rfl, ha, hlt, hmany⟩
    · cases h

theorem whole_eq_ok_iff {x : α} :
    whole a text = .ok (x, left) ↔ a text = .ok (x, []) ∧ left = [] := by
  rw [whole]
  cases a text with
  | error fault => simp
  | ok p =>
      obtain ⟨y, rest⟩ := p
      cases rest with
      | nil => simp [eq_comm]
      | cons c rest => simp [missing]

theorem whole_of_ok {x : α} {c : Char} (h : a text = .ok (x, c :: left)) :
    whole a text = .error ⟨String.ofList (c :: left), .eof⟩ := by
  rw [whole, h]
  rfl

/-! ## Lines -/

/-- A reader takes a line and its line feed, where the line and the value are as the rules have
them. -/
structure TakesLine (a : Reader α) (Rules : List Char → α → Prop) : Prop where
  iff : ∀ {text left : List Char} {x : α}, a text = .ok (x, left) ↔
    ∃ line, text = line ++ '\n' :: left ∧ '\n' ∉ line ∧ Rules line x

/-- A text has its first line in one way. -/
theorem line_unique {line line' rest rest' : List Char}
    (h : line ++ '\n' :: rest = line' ++ '\n' :: rest') (hline : '\n' ∉ line)
    (hline' : '\n' ∉ line') : line = line' ∧ rest = rest' := by
  have htake : ∀ {cs rest : List Char}, '\n' ∉ cs →
      (cs ++ '\n' :: rest).takeWhile (· != '\n') = cs := fun hcs =>
    WordList.takeWhile_append (by grind) (WordList.stops_cons.mpr rfl)
  obtain rfl : line = line' := by rw [← htake hline, h, htake hline']
  exact ⟨rfl, by simpa using h⟩

namespace TakesLine

variable {Rules Others : List Char → α → Prop} {line rest : List Char}

theorem eq_ok_iff (h : TakesLine a Rules) (hline : '\n' ∉ line) {x : α} :
    a (line ++ '\n' :: rest) = .ok (x, left) ↔ left = rest ∧ Rules line x := by
  rw [h.iff]
  constructor
  · rintro ⟨line', htext, hline', hx⟩
    obtain ⟨rfl, rfl⟩ := line_unique htext hline hline'
    exact ⟨rfl, hx⟩
  · rintro ⟨rfl, hx⟩
    exact ⟨line, rfl, hline, hx⟩

theorem refuses_iff (h : TakesLine a Rules) (hline : '\n' ∉ line) :
    Refuses a (line ++ '\n' :: rest) ↔ ∀ x, ¬ Rules line x := by
  simp only [Refuses, ne_eq, h.eq_ok_iff hline]
  grind

/-- What is not made of lines is not read. -/
theorem refuses_nil (h : TakesLine a Rules) : Refuses a [] := by
  intro x left hread
  obtain ⟨line, htext, -⟩ := h.iff.mp hread
  simp at htext

theorem map (h : TakesLine a Rules) (g : α → β) :
    TakesLine (g <$> a) fun line y => ∃ x, Rules line x ∧ g x = y := by
  refine ⟨fun {text left y} => ?_⟩
  rw [map_eq_ok_iff]
  constructor
  · rintro ⟨x, hread, rfl⟩
    obtain ⟨line, htext, hline, hx⟩ := h.iff.mp hread
    exact ⟨line, htext, hline, x, hx, rfl⟩
  · rintro ⟨line, htext, hline, x, hx, rfl⟩
    exact ⟨x, h.iff.mpr ⟨line, htext, hline, hx⟩, rfl⟩

/-- Alternatives that take lines take them together.  Where no line is of both kinds, their order does
not matter. -/
theorem orElse (ha : TakesLine a Rules) (hb : TakesLine b Others)
    (hapart : ∀ line x y, Others line y → ¬ Rules line x) :
    TakesLine (a <|> b) fun line x => Rules line x ∨ Others line x := by
  refine ⟨fun {text left x} => ?_⟩
  rw [orElse_eq_ok_iff, ha.iff, hb.iff]
  constructor
  · rintro (⟨line, rfl, hline, hx⟩ | ⟨-, line, rfl, hline, hx⟩)
    · exact ⟨line, rfl, hline, .inl hx⟩
    · exact ⟨line, rfl, hline, .inr hx⟩
  · rintro ⟨line, rfl, hline, hx | hx⟩
    · exact .inl ⟨line, rfl, hline, hx⟩
    · exact .inr ⟨(ha.refuses_iff hline).mpr fun y => hapart line y x hx, line, rfl, hline, hx⟩

/-- **A reader of lines, repeated, takes the lines of a text up to the first that it does not
read.** -/
theorem many_unlines {read : List Char → Option α}
    (h : TakesLine a fun line x => read line = some x) {lines : List (List Char)}
    (hlines : ∀ line ∈ lines, '\n' ∉ line) :
    many a (unlines lines) =
      .ok ((lines.takeWhile fun line => (read line).isSome).filterMap read,
        unlines (lines.dropWhile fun line => (read line).isSome)) := by
  induction lines with
  | nil => exact many_of_refuses h.refuses_nil
  | cons line lines ih =>
      obtain ⟨hline, hlines⟩ := List.forall_mem_cons.mp hlines
      have htext : unlines (line :: lines) = line ++ '\n' :: unlines lines := by
        simp [unlines]
      rw [htext]
      cases hread : read line with
      | none =>
          have hrefuses : Refuses a (line ++ '\n' :: unlines lines) :=
            (h.refuses_iff hline).mpr (by simp [hread])
          rw [many_of_refuses hrefuses, ← htext, List.takeWhile_cons_of_neg (by simp [hread]),
            List.dropWhile_cons_of_neg (by simp [hread])]
          rfl
      | some x =>
          have hfirst : a (line ++ '\n' :: unlines lines) = .ok (x, unlines lines) :=
            (h.eq_ok_iff hline).mpr ⟨rfl, hread⟩
          rw [many_of_ok hfirst (by simp; omega) (ih hlines),
            List.takeWhile_cons_of_pos (by simp [hread]), List.filterMap_cons_some hread,
            List.dropWhile_cons_of_pos (by simp [hread])]

/-- What is repeated on a whole text either takes all lines or stops at the first that is not read,
and nothing is looked for there but the end of the text. -/
theorem whole_many_unlines {read : List Char → Option α}
    (h : TakesLine a fun line x => read line = some x) {lines : List (List Char)}
    (hlines : ∀ line ∈ lines, '\n' ∉ line) :
    (lines.dropWhile (fun line => (read line).isSome) = [] ∧
        whole (many a) (unlines lines) = .ok (lines.filterMap read, [])) ∨
      ∃ bad after, lines.dropWhile (fun line => (read line).isSome) = bad :: after ∧
        whole (many a) (unlines lines) =
          .error ⟨String.ofList (unlines (bad :: after)), .eof⟩ := by
  have hmany := h.many_unlines hlines
  cases hdrop : lines.dropWhile fun line => (read line).isSome with
  | nil =>
      rw [hdrop, List.takeWhile_eq_self_iff.mpr (List.dropWhile_eq_nil_iff.mp hdrop)] at hmany
      exact .inl ⟨rfl, whole_eq_ok_iff.mpr ⟨hmany, rfl⟩⟩
  | cons bad after =>
      obtain ⟨c, rest, hrest⟩ : ∃ c rest, unlines (bad :: after) = c :: rest :=
        List.exists_cons_of_ne_nil (by simp [unlines])
      rw [hdrop, hrest] at hmany
      exact .inr ⟨bad, after, rfl, by rw [whole_of_ok hmany, hrest]⟩

/-- Rules that have the same lines are as good. -/
theorem congr (h : TakesLine a Rules) (hrules : ∀ line x, Rules line x ↔ Others line x) :
    TakesLine a Others := by
  refine ⟨fun {text left x} => ?_⟩
  rw [h.iff]
  simp only [hrules]

end TakesLine

/-! ## Ends of lines -/

theorem isNot_eq_ok_iff {chars taken : List Char} :
    isNot chars text = .ok (taken, left) ↔ taken ≠ [] ∧ text = taken ++ left ∧
      (∀ c ∈ taken, c ∉ chars) ∧ ∀ c ∈ left.head?, c ∈ chars := by
  rw [isNot, run1_eq_ok_iff]
  simp [Stops]

theorem refuses_isNot {chars rest : List Char} {c : Char} (h : c ∈ chars) :
    Refuses (isNot chars) (c :: rest) := by
  intro taken left hread
  obtain ⟨hne, htext, hnot, -⟩ := isNot_eq_ok_iff.mp hread
  obtain ⟨d, taken, rfl⟩ := List.exists_cons_of_ne_nil hne
  obtain ⟨rfl, -⟩ := List.cons.inj htext
  exact hnot c List.mem_cons_self h

theorem exists_of_comment {x? : Option (List Char)} (h : comment text = .ok (x?, left)) :
    ∃ note, text = '#' :: (note ++ left) ∧ '\n' ∉ note := by
  rw [comment, bind_eq_ok_iff] at h
  obtain ⟨⟨⟩, mid, htag, h⟩ := h
  rw [tag_eq_ok_iff] at htag
  subst htag
  rcases opt_eq_ok_iff.mp h with ⟨note, hnote, -⟩ | ⟨-, -, rfl⟩
  · obtain ⟨-, rfl, hnote, -⟩ := isNot_eq_ok_iff.mp hnote
    exact ⟨note, rfl, fun hmem => hnote _ hmem (List.mem_singleton.mpr rfl)⟩
  · exact ⟨[], rfl, List.not_mem_nil⟩

theorem exists_comment_eq_ok {note : List Char} (h : '\n' ∉ note) (rest : List Char) :
    ∃ x?, comment ('#' :: (note ++ '\n' :: rest)) = .ok (x?, '\n' :: rest) := by
  have htag : tag ['#'] ('#' :: (note ++ '\n' :: rest)) = .ok ((), note ++ '\n' :: rest) :=
    tag_eq_ok_iff.mpr rfl
  cases note with
  | nil =>
      exact ⟨none, bind_eq_ok_iff.mpr ⟨(), _, htag,
        opt_eq_ok_iff.mpr (.inr ⟨refuses_isNot List.mem_cons_self, rfl, rfl⟩)⟩⟩
  | cons c note =>
      refine ⟨some (c :: note), bind_eq_ok_iff.mpr ⟨(), _, htag, opt_eq_ok_iff.mpr
        (.inl ⟨c :: note, isNot_eq_ok_iff.mpr ⟨List.cons_ne_nil c note, rfl, ?_, ?_⟩, rfl⟩)⟩⟩
      · grind
      · simp

/-- The end of a line is taken by its rule, with the line feed. -/
theorem takesLine_lineEnd : TakesLine lineEnd fun line _ => LineEnd line := by
  refine ⟨fun {text left x} => ?_⟩
  constructor
  · intro h
    rw [lineEnd, bind_eq_ok_iff] at h
    obtain ⟨blanks, mid, hblanks, h⟩ := h
    obtain ⟨rfl, hblank, -⟩ := space0_eq_ok_iff.mp hblanks
    obtain ⟨note?, mid, hnote, h⟩ := bind_eq_ok_iff.mp h
    obtain ⟨_, mid, hfeed, h⟩ := bind_eq_ok_iff.mp h
    obtain ⟨-, rfl⟩ := pure_eq_ok_iff.mp h
    obtain ⟨rfl, -⟩ := newline_eq_ok_iff.mp hfeed
    have hinside := newline_not_mem_of_blank hblank
    rcases opt_eq_ok_iff.mp hnote with ⟨note?, hnote, -⟩ | ⟨-, -, rfl⟩
    · obtain ⟨note, rfl, hwithin⟩ := exists_of_comment hnote
      exact ⟨blanks ++ '#' :: note, by simp, by simp [hinside, hwithin], .intro hblank (.some note)⟩
    · exact ⟨blanks, rfl, hinside, by simpa using LineEnd.intro hblank .none⟩
  · rintro ⟨_, rfl, hfeed, ⟨hblank, hcomment⟩⟩
    rename_i blanks note
    have hend : ∀ cs, (newline >>= fun _ => pure ()) ('\n' :: cs) = .ok (x, cs) := fun cs =>
      bind_eq_ok_iff.mpr ⟨_, _, newline_eq_ok_iff.mpr ⟨rfl, rfl⟩, rfl⟩
    rw [List.append_assoc, lineEnd, bind_eq_ok_iff]
    refine ⟨blanks, _, space0_eq_ok_iff.mpr ⟨rfl, hblank, ?_⟩, ?_⟩
    · cases hcomment <;> exact WordList.stops_cons.mpr rfl
    · rw [bind_eq_ok_iff]
      cases hcomment with
      | none =>
          refine ⟨none, _, opt_eq_ok_iff.mpr (.inr ⟨?_, rfl, rfl⟩), hend left⟩
          intro note? rest hnote
          obtain ⟨note, htext, -⟩ := exists_of_comment hnote
          simp at htext
      | some note =>
          have hwithin : '\n' ∉ note := fun hmem => hfeed (by simp [hmem])
          obtain ⟨note?, hnote⟩ := exists_comment_eq_ok hwithin left
          exact ⟨some note?, _, opt_eq_ok_iff.mpr (.inl ⟨note?, hnote, rfl⟩), hend left⟩

/-- Where something else stands than the end of a line, the fault is after the blanks. -/
theorem lineEnd_eq_error {line : List Char} (rest : List Char) (hline : '\n' ∉ line) (h : ¬ LineEnd line) :
    lineEnd (line ++ '\n' :: rest) =
      .error ⟨String.ofList (line.dropWhile isBlank ++ '\n' :: rest), .char⟩ := by
  obtain ⟨blanks, after, rfl, hblanks, hafter⟩ := WordList.exists_run isBlank line
  have hblank : ∀ c ∈ blanks, Blank c := fun c hc => WordList.isBlank_iff.mp (hblanks c hc)
  rw [WordList.dropWhile_append hblanks hafter, List.append_assoc]
  cases after with
  | nil => exact absurd (.intro hblank .none) h
  | cons c after =>
      have hhash : c ≠ '#' := by
        rintro rfl
        exact h (.intro hblank (.some after))
      have hfeed : c ≠ '\n' := by
        rintro rfl
        simp at hline
      have hspace : space0 (blanks ++ (c :: after ++ '\n' :: rest)) =
          .ok (blanks, c :: after ++ '\n' :: rest) :=
        space0_eq_ok_iff.mpr ⟨rfl, hblank, WordList.stops_cons.mpr (WordList.stops_cons.mp hafter)⟩
      have hnote : opt comment (c :: after ++ '\n' :: rest) =
          .ok (none, c :: after ++ '\n' :: rest) := by
        refine opt_eq_ok_iff.mpr (.inr ⟨fun note? left hnote => ?_, rfl, rfl⟩)
        obtain ⟨note, htext, -⟩ := exists_of_comment hnote
        exact hhash (List.cons.inj htext).1
      rw [lineEnd, bind_of_ok hspace, bind_of_ok hnote]
      change (newline (c :: (after ++ '\n' :: rest)) >>= _) = _
      rw [newline, one, if_neg (by simpa using hfeed)]
      rfl

/-- A text begins with a character that ends every run of a line. -/
def Parted (text : List Char) : Prop :=
  ∃ c rest, text = c :: rest ∧ c ∈ [' ', '\t', '#', '\n']

theorem Parted.stops {p : Char → Bool} (h : Parted text)
    (hp : [' ', '\t', '#', '\n'].all (!p ·) = true) : Stops p text := by
  obtain ⟨c, rest, rfl, hc⟩ := h
  exact WordList.stops_cons.mpr (by simpa using List.all_eq_true.mp hp c hc)

theorem parted_of_blanks {blanks : List Char} (hne : blanks ≠ []) (hblank : ∀ c ∈ blanks, Blank c)
    (rest : List Char) : Parted (blanks ++ rest) := by
  obtain ⟨c, blanks, rfl⟩ := List.exists_cons_of_ne_nil hne
  refine ⟨c, blanks ++ rest, rfl, ?_⟩
  rcases hblank c List.mem_cons_self with rfl | rfl <;> simp

theorem parted_lineEnd {tail : List Char} (h : LineEnd tail) (rest : List Char) :
    Parted (tail ++ '\n' :: rest) := by
  obtain ⟨hblank, hcomment⟩ := h
  rename_i blanks note
  cases blanks with
  | nil =>
      cases hcomment with
      | none => exact ⟨'\n', rest, rfl, by simp⟩
      | some note => exact ⟨'#', note ++ '\n' :: rest, rfl, by simp⟩
  | cons c blanks =>
      rw [List.append_assoc]
      exact parted_of_blanks (List.cons_ne_nil c blanks) hblank _

/-- After the blanks before the end of a line comes a comment or the line feed. -/
theorem exists_of_space1_lineEnd {tail rest blanks mid : List Char} (h : LineEnd tail)
    (hspace : space1 (tail ++ '\n' :: rest) = .ok (blanks, mid)) :
    ∃ c after, mid = c :: after ∧ (c = '#' ∨ c = '\n') := by
  obtain ⟨-, htext, hblanks, hstop⟩ := run1_eq_ok_iff.mp hspace
  have hmid := WordList.dropWhile_append hblanks hstop
  rw [← htext] at hmid
  obtain ⟨htail, hcomment⟩ := h
  rename_i tail note
  have htail : ∀ c ∈ tail, isBlank c = true := fun c hc => WordList.isBlank_iff.mpr (htail c hc)
  rw [List.append_assoc, List.dropWhile_append_of_pos htail] at hmid
  cases hcomment with
  | none => exact ⟨'\n', rest, hmid.symm, .inr rfl⟩
  | some note => exact ⟨'#', note ++ '\n' :: rest, hmid.symm, .inl rfl⟩

/-! ## Parts of lines -/

theorem inner_iff {c : Char} (hfeed : c ≠ '\n') :
    WordList.Inner c ↔ c ∉ [' ', '\t', '#', '\n'] := by
  simp [WordList.Inner, Blank, hfeed, not_or, and_assoc]

theorem stops_isBlank_of_inner {word : List Char} (hne : word ≠ [])
    (hword : ∀ c ∈ word, WordList.Inner c) (rest : List Char) : Stops isBlank (word ++ rest) := by
  obtain ⟨c, word, rfl⟩ := List.exists_cons_of_ne_nil hne
  exact WordList.stops_cons.mpr (WordList.isBlank_eq_false_iff.mpr (hword c List.mem_cons_self).1)

theorem inner_eq_ok {word : List Char} (hne : word ≠ []) (hword : ∀ c ∈ word, WordList.Inner c)
    (hfeed : '\n' ∉ word) (hleft : Parted left) : inner (word ++ left) = .ok (word, left) := by
  refine run1_eq_ok_iff.mpr ⟨hne, rfl, fun c hc => ?_, hleft.stops rfl⟩
  have hc' : c ≠ '\n' := by
    rintro rfl
    exact hfeed hc
  simpa using (inner_iff hc').mp (hword c hc)

theorem exists_of_inner {word : List Char} (h : inner text = .ok (word, left)) :
    word ≠ [] ∧ text = word ++ left ∧ (∀ c ∈ word, WordList.Inner c) ∧ '\n' ∉ word := by
  obtain ⟨hne, htext, hnot, -⟩ := isNot_eq_ok_iff.mp h
  have hfeed : '\n' ∉ word := fun hmem => hnot _ hmem (by simp)
  refine ⟨hne, htext, fun c hc => (inner_iff ?_).mpr (hnot c hc), hfeed⟩
  rintro rfl
  exact hfeed hc

end Spelling.Text.Reader
