import Spelling.Proofs.Reader
import Spelling.Proofs.Settings.Reading

/-!
# Settings texts by alternatives

A line of a settings text is read by the first of three readers that takes it:

    a directive        blanks, a name, perhaps blanks and a value, the end of the line
    a comment          from the beginning of the line
    blanks             and nothing else

They are tried again and again until none of them takes anything, and then nothing may be left of the
text.  No reader is told where a line ends.  Still each takes one line, with its line feed
(`takesLine_line`), so the directives are those that are read line by line, and so is the fault
(`readDirectives_eq`).
-/

namespace Spelling.Settings

open Text Text.Reader
open WordList (Blank LineEnd Stops)

/-! ## Readers -/

/-- Takes blanks and a value, if they are there. -/
def valueReader : Reader (Option String) := opt do
  let _ ← space1
  let value ← inner
  pure (String.ofList value)

/-- Takes a directive, to the end of its line. -/
def directiveReader : Reader Directive := do
  let _ ← space0
  let name ← run1 Directive.isNameChar .takeWhile1
  let value? ← valueReader
  let _ ← lineEnd
  pure ⟨String.ofList name, value?⟩

/-- Takes a comment from the beginning of a line, to its end. -/
def noteReader : Reader (Option Directive) := do
  let _ ← comment
  let _ ← newline
  pure none

/-- Takes a line of blanks. -/
def blankReader : Reader (Option Directive) := do
  let _ ← space0
  let _ ← newline
  pure none

/-- Takes a line, which may hold no directive. -/
def lineReader : Reader (Option Directive) :=
  (some <$> directiveReader) <|> noteReader <|> blankReader

/-- The directives of a settings text. -/
def readDirectives (text : String) : Except Fault (List Directive) :=
  (whole (many lineReader) (terminated text.toList)).map fun p => p.1.filterMap id

/-! ## Values -/

variable {text left part tail line : List Char} {value? : Option String}

theorem exists_of_valueReader (h : valueReader text = .ok (value?, left)) :
    ∃ part, text = part ++ left ∧ '\n' ∉ part ∧ ValueText part value? := by
  rcases opt_eq_ok_iff.mp h with ⟨value, hread, rfl⟩ | ⟨-, rfl, rfl⟩
  · obtain ⟨blanks, mid, hspace, hread⟩ := bind_eq_ok_iff.mp hread
    obtain ⟨value, mid', hvalue, hread⟩ := bind_eq_ok_iff.mp hread
    obtain ⟨rfl, rfl⟩ := pure_eq_ok_iff.mp hread
    obtain ⟨hne, rfl, hblank, -⟩ := space1_eq_ok_iff.mp hspace
    obtain ⟨hne', rfl, hinner, hfeed⟩ := exists_of_inner hvalue
    refine ⟨blanks ++ value, by simp, ?_, .some hne hblank hne' hinner⟩
    rw [List.mem_append, not_or]
    exact ⟨newline_not_mem_of_blank hblank, hfeed⟩
  · exact ⟨[], rfl, List.not_mem_nil, .none⟩

theorem valueReader_eq_ok (h : ValueText part value?) (hpart : '\n' ∉ part) (htail : LineEnd tail) :
    valueReader (part ++ (tail ++ '\n' :: left)) = .ok (value?, tail ++ '\n' :: left) := by
  rw [valueReader, opt_eq_ok_iff]
  cases h with
  | none =>
      refine .inr ⟨fun value rest hread => ?_, rfl, rfl⟩
      obtain ⟨blanks, mid, hspace, hread⟩ := bind_eq_ok_iff.mp hread
      obtain ⟨value, _, hvalue, -⟩ := bind_eq_ok_iff.mp hread
      obtain ⟨c, after, rfl, hc⟩ := exists_of_space1_lineEnd htail hspace
      exact refuses_isNot (by rcases hc with rfl | rfl <;> simp) _ _ hvalue
  | some hne hblank hne' hinner =>
      rename_i blanks value
      rw [List.mem_append, not_or] at hpart
      rw [List.append_assoc]
      exact .inl ⟨_, bind_eq_ok_iff.mpr ⟨blanks, _, space1_eq_ok_iff.mpr
        ⟨hne, rfl, hblank, stops_isBlank_of_inner hne' hinner _⟩, bind_eq_ok_iff.mpr
        ⟨value, _, inner_eq_ok hne' hinner hpart.2 (parted_lineEnd htail left), rfl⟩⟩, rfl⟩

/-! ## Lines -/

theorem takesLine_directive : TakesLine directiveReader DirectiveText := by
  refine ⟨fun {text left d} => ?_⟩
  constructor
  · intro h
    obtain ⟨blanks, mid, hspace, h⟩ := bind_eq_ok_iff.mp h
    obtain ⟨name, mid, hname, h⟩ := bind_eq_ok_iff.mp h
    obtain ⟨value?, mid, hvalue, h⟩ := bind_eq_ok_iff.mp h
    obtain ⟨_, mid, hend, h⟩ := bind_eq_ok_iff.mp h
    obtain ⟨rfl, rfl⟩ := pure_eq_ok_iff.mp h
    obtain ⟨rfl, hblank, -⟩ := space0_eq_ok_iff.mp hspace
    obtain ⟨hne, rfl, hchars, -⟩ := run1_eq_ok_iff.mp hname
    obtain ⟨part, rfl, hpart, htext⟩ := exists_of_valueReader hvalue
    obtain ⟨tail, rfl, htail, hlast⟩ := takesLine_lineEnd.iff.mp hend
    refine ⟨blanks ++ (name ++ (part ++ tail)), by simp, ?_,
      .intro hblank hne (fun c hc => isNameChar_iff.mp (hchars c hc)) htext hlast⟩
    simp only [List.mem_append, not_or]
    exact ⟨newline_not_mem_of_blank hblank, fun hmem => absurd (hchars _ hmem) (by decide),
      hpart, htail⟩
  · rintro ⟨_, rfl, hline, ⟨hblank, hne, hname, hvalue, hend⟩⟩
    rename_i blanks name part tail value?
    simp only [List.mem_append, not_or] at hline
    obtain ⟨-, -, hpart, htail⟩ := hline
    simp only [List.append_assoc]
    have hinner : ∀ c ∈ name, WordList.Inner c := fun c hc => (hname c hc).inner
    refine bind_eq_ok_iff.mpr ⟨blanks, _,
        space0_eq_ok_iff.mpr ⟨rfl, hblank, stops_isBlank_of_inner hne hinner _⟩,
      bind_eq_ok_iff.mpr ⟨name, _, run1_eq_ok_iff.mpr ⟨hne, rfl, ?_, ?_⟩,
      bind_eq_ok_iff.mpr ⟨value?, _, valueReader_eq_ok hvalue hpart hend,
      bind_eq_ok_iff.mpr ⟨(), left, takesLine_lineEnd.iff.mpr ⟨tail, rfl, htail, hend⟩, rfl⟩⟩⟩⟩
    · exact fun c hc => isNameChar_iff.mpr (hname c hc)
    · cases hvalue with
      | none => exact (parted_lineEnd hend left).stops rfl
      | some hne hblank _ _ =>
          rw [List.append_assoc]
          exact (parted_of_blanks hne hblank _).stops rfl

theorem takesLine_note :
    TakesLine noteReader fun line d? => (∃ note, line = '#' :: note) ∧ d? = none := by
  refine ⟨fun {text left d?} => ?_⟩
  constructor
  · intro h
    obtain ⟨note?, mid, hnote, h⟩ := bind_eq_ok_iff.mp h
    obtain ⟨_, mid, hfeed, h⟩ := bind_eq_ok_iff.mp h
    obtain ⟨rfl, rfl⟩ := pure_eq_ok_iff.mp h
    obtain ⟨rfl, -⟩ := newline_eq_ok_iff.mp hfeed
    obtain ⟨note, rfl, hwithin⟩ := exists_of_comment hnote
    exact ⟨'#' :: note, rfl, by simpa using hwithin, ⟨note, rfl⟩, rfl⟩
  · rintro ⟨_, rfl, hline, ⟨note, rfl⟩, rfl⟩
    have hwithin : '\n' ∉ note := by simpa using hline
    obtain ⟨note?, hnote⟩ := exists_comment_eq_ok hwithin left
    exact bind_eq_ok_iff.mpr ⟨note?, _, hnote,
      bind_eq_ok_iff.mpr ⟨_, left, newline_eq_ok_iff.mpr ⟨rfl, rfl⟩, rfl⟩⟩

theorem takesLine_blank :
    TakesLine blankReader fun line d? => (∀ c ∈ line, Blank c) ∧ d? = none := by
  refine ⟨fun {text left d?} => ?_⟩
  constructor
  · intro h
    obtain ⟨blanks, mid, hspace, h⟩ := bind_eq_ok_iff.mp h
    obtain ⟨_, mid, hfeed, h⟩ := bind_eq_ok_iff.mp h
    obtain ⟨rfl, rfl⟩ := pure_eq_ok_iff.mp h
    obtain ⟨rfl, -⟩ := newline_eq_ok_iff.mp hfeed
    obtain ⟨rfl, hblank, -⟩ := space0_eq_ok_iff.mp hspace
    exact ⟨blanks, rfl, newline_not_mem_of_blank hblank, hblank, rfl⟩
  · rintro ⟨blanks, rfl, -, hblank, rfl⟩
    exact bind_eq_ok_iff.mpr
      ⟨blanks, _, space0_eq_ok_iff.mpr ⟨rfl, hblank, WordList.stops_cons.mpr rfl⟩,
        bind_eq_ok_iff.mpr ⟨_, left, newline_eq_ok_iff.mpr ⟨rfl, rfl⟩, rfl⟩⟩

theorem readLine?_eq_some_iff {d? : Option Directive} :
    Directive.readLine? line = some d? ↔
      (∃ d, DirectiveText line d ∧ some d = d?) ∨ IdleText line ∧ d? = none := by
  constructor
  · intro h
    rw [Directive.readLine?] at h
    split at h
    · next hidle =>
      cases h
      exact .inr ⟨isIdle_iff.mp hidle, rfl⟩
    · obtain ⟨d, hd, rfl⟩ := Option.map_eq_some_iff.mp h
      exact .inl ⟨d, directiveText_of_fields hd, rfl⟩
  · rintro (⟨d, hd, rfl⟩ | ⟨hidle, rfl⟩)
    · exact readLine?_of_directiveText hd
    · exact readLine?_of_idleText hidle

/-- A comment and blanks are the idle lines. -/
theorem takesLine_idle :
    TakesLine (noteReader <|> blankReader) fun line d? => IdleText line ∧ d? = none := by
  refine (takesLine_note.orElse takesLine_blank ?_).congr fun line d? => ?_
  · rintro line _ _ ⟨hblanks, -⟩ ⟨⟨note, rfl⟩, -⟩
    exact (hblanks '#' List.mem_cons_self).ne_hash rfl
  · constructor
    · rintro (⟨⟨note, rfl⟩, rfl⟩ | ⟨hblanks, rfl⟩)
      · exact ⟨.comment note, rfl⟩
      · exact ⟨.blank hblanks, rfl⟩
    · rintro ⟨⟨note⟩ | hblanks, rfl⟩
      · exact .inl ⟨⟨note, rfl⟩, rfl⟩
      · exact .inr ⟨hblanks, rfl⟩

/-- **The three alternatives take a line together, and what they make of it is what is read of the
line alone.** -/
theorem takesLine_line : TakesLine lineReader fun line d? => Directive.readLine? line = some d? := by
  refine ((takesLine_directive.map some).orElse takesLine_idle ?_).congr fun line d? =>
    readLine?_eq_some_iff.symm
  rintro line _ _ ⟨hidle, -⟩ ⟨d, hd, -⟩
  exact hd.not_idle hidle

/-- **The directives of a text are what the alternatives read, and its fault is theirs.** -/
theorem readDirectives_eq (text : String) : readDirectives text = directives text := by
  have hunlines : unlines (lines (terminated text.toList)) = terminated text.toList :=
    unlines_lines (WordList.getLast?_terminated _)
  have hlines : ∀ line ∈ lines (terminated text.toList), '\n' ∉ line := fun line =>
    WordList.newline_not_mem_of_mem_lines
  rw [readDirectives, directives, ← hunlines, lines_unlines hlines]
  rcases takesLine_line.whole_many_unlines hlines with ⟨hdrop, hread⟩ | ⟨bad, after, hdrop, hread⟩
  · rw [hread, show (lines (terminated text.toList)).dropWhile isReadable = [] from hdrop]
    simp only [Except.map, List.filterMap_filterMap, Except.ok.injEq]
    refine congrArg (List.filterMap · _) (funext fun line => ?_)
    cases Directive.readLine? line <;> rfl
  · rw [hread, show (lines (terminated text.toList)).dropWhile isReadable = bad :: after from hdrop]
    rfl

end Spelling.Settings
