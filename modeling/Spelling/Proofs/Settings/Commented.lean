import Spelling.Proofs.Settings.Composed

/-!
# Comments at the ends of lines

A space, a `#` and any note may be put at the end of a line of a settings text.  What comes of it
hangs on the line:

    line                          with a note at its end
    a directive                   the same directive
    a comment                     a comment
    blanks, or nothing at all     no line of a settings text, and the text breaks off there

So a note changes neither the settings nor the error of a faulty directive, unless the line was
blank (`notes_change_nothing_but_on_blank_lines`).  A line of a word list may have a note even if it
is blank.
-/

namespace Spelling.Settings

open WordList (Blank Comment LineEnd)

/-- A line with a note at its end. -/
def noted (line note : List Char) : List Char := line ++ ' ' :: '#' :: note

/-- What stands between two parts of a text is one of its lines.  What follows the last line feed is
a line only if there is something, or nothing else at all. -/
structure IsLineBetween (before line after : List Char) : Prop where
  begins : before = [] ∨ before.getLast? = some '\n'
  noFeed : '\n' ∉ line
  ends : after.head? = some '\n' ∨ after = [] ∧ (before = [] ∨ line ≠ [])

variable {before line after note : List Char}

/-! ## Lines with a note -/

theorem noted_of_blanks (line note : List Char) :
    noted line note = line ++ [' '] ++ '#' :: note := by
  rw [noted, List.append_assoc, List.singleton_append]

theorem blank_append_space (h : ∀ c ∈ line, Blank c) : ∀ c ∈ line ++ [' '], Blank c :=
  List.forall_mem_append.mpr ⟨h, by simp [Blank]⟩

theorem lineEnd_noted {tail : List Char} (h : LineEnd tail) (note : List Char) :
    LineEnd (noted tail note) := by
  obtain ⟨hblanks, hcomment⟩ := h
  rename_i blanks comment
  cases hcomment with
  | none =>
      rw [List.append_nil, noted_of_blanks]
      exact .intro (blank_append_space hblanks) (.some note)
  | some text =>
      rw [noted, List.append_assoc, List.cons_append]
      exact .intro hblanks (.some _)

/-- A directive stays as it is. -/
theorem DirectiveText.noted {d : Directive} (h : DirectiveText line d) (note : List Char) :
    DirectiveText (noted line note) d := by
  obtain ⟨hblanks, hne, hname, hvalue, htail⟩ := h
  have hnoted := DirectiveText.intro hblanks hne hname hvalue (lineEnd_noted htail note)
  simpa only [Settings.noted, List.append_assoc] using hnoted

theorem IdleText.noted (h : IdleText line) (hfilled : ∃ c ∈ line, ¬ Blank c) (note : List Char) :
    IdleText (noted line note) := by
  cases h with
  | comment text => exact .comment _
  | blank hblanks =>
      obtain ⟨c, hc, hfilled⟩ := hfilled
      exact absurd (hblanks c hc) hfilled

/-- Behind blanks alone, a note is neither a comment nor a directive. -/
theorem not_isLine_noted (h : ∀ c ∈ line, Blank c) (note : List Char) :
    ¬ IsLine (noted line note) := by
  have hspace := blank_append_space h
  rintro (hidle | ⟨d, hd⟩)
  · generalize hnoted : noted line note = whole at hidle
    cases hidle with
    | comment text =>
        have hhash : Blank '#' := by
          cases line with
          | nil => cases hnoted
          | cons c line =>
              obtain ⟨rfl, -⟩ := List.cons.inj hnoted
              exact h _ List.mem_cons_self
        exact hhash.ne_hash rfl
    | blank hall =>
        exact (hall '#' (by simp [← hnoted, noted])).ne_hash rfl
  · have hfields := fields_of_directiveText hd
    rw [noted_of_blanks, WordList.content_append (fun c hc => (hspace c hc).ne_hash) (.some note),
      WordList.fields_of_blanks hspace] at hfields
    cases hfields

/-! ## The lines around -/

theorem linesOf_line (h : '\n' ∉ line) : LinesOf (String.ofList line) [line] := by
  have hend : line.getLast? ≠ some '\n' := fun hlast => h (List.mem_of_getLast? hlast)
  rw [linesOf_iff, String.toList_ofList, Text.terminated, if_neg hend, lines_append_newline h]
  rfl

theorem linesOf_line_newline (h : '\n' ∉ line) :
    LinesOf (String.ofList (line ++ ['\n'])) [line] := by
  rw [linesOf_iff, String.toList_ofList, Text.terminated, if_pos (by simp),
    lines_append_newline h]
  rfl

/-- The lines after a line are the same, whatever the line is. -/
theorem exists_linesOf_append (hends : after.head? = some '\n' ∨ after = []) :
    ∃ post, ∀ line, '\n' ∉ line → LinesOf (String.ofList (line ++ after)) (line :: post) := by
  cases after with
  | nil =>
      refine ⟨[], fun line hline => ?_⟩
      rw [List.append_nil]
      exact linesOf_line hline
  | cons c rest =>
      obtain rfl : c = '\n' := by simpa using hends
      by_cases hrest : rest = []
      · exact ⟨[], fun line hline => hrest ▸ linesOf_line_newline hline⟩
      · obtain ⟨post, hpost⟩ := exists_linesOf (String.ofList rest)
        refine ⟨post, fun line hline => ?_⟩
        have hlines := (linesOf_line_newline hline).append (by simp) hpost (by simpa using hrest)
        rwa [← String.ofList_append, List.append_assoc, List.singleton_append] at hlines

/-- A text is parted at one of its lines, and the lines around it hang only on what stands there. -/
theorem exists_lines_around (hline : IsLineBetween before line after) :
    ∃ pre post, ∀ line, IsLineBetween before line after →
      LinesOf (String.ofList (before ++ (line ++ after))) (pre ++ line :: post) ∧
        LinesOf (String.ofList (line ++ after)) (line :: post) := by
  obtain ⟨post, hpost⟩ := exists_linesOf_append (hline.ends.imp_right And.left)
  rcases hline.begins with rfl | hbefore
  · exact ⟨[], post, fun line h => ⟨hpost line h.noFeed, hpost line h.noFeed⟩⟩
  · obtain ⟨pre, hpre⟩ := exists_linesOf (String.ofList before)
    refine ⟨pre, post, fun line h => ⟨?_, hpost line h.noFeed⟩⟩
    have hsome : line ++ after ≠ [] := by
      rcases h.ends with hfeed | ⟨rfl, rfl | hne⟩
      · rintro hnil
        rw [(List.append_eq_nil_iff.mp hnil).2] at hfeed
        cases hfeed
      · cases hbefore
      · simpa using hne
    rw [String.ofList_append]
    exact hpre.append (by simpa using hbefore) (hpost line h.noFeed) (by simpa using hsome)

theorem IsLineBetween.noted (h : IsLineBetween before line after) (hnote : '\n' ∉ note) :
    IsLineBetween before (noted line note) after := by
  refine ⟨h.begins, ?_, h.ends.imp_right fun hlast => ⟨hlast.1, .inr ?_⟩⟩
  · simp [Settings.noted, h.noFeed, hnote]
  · simp [Settings.noted]

/-- A line that writes what another does may take its place. -/
theorem LinesText.replace {pre post : List (List Char)} {line' : List Char} {ds : List Directive}
    (hidle : IdleText line → IdleText line') (hd : ∀ d, DirectiveText line d → DirectiveText line' d)
    (h : LinesText (pre ++ line :: post) ds) : LinesText (pre ++ line' :: post) ds := by
  obtain ⟨first, rest, hpre, hrest, rfl⟩ := linesText_append.mp h
  refine linesText_append.mpr ⟨first, rest, hpre, ?_, rfl⟩
  cases hrest with
  | idle hline hpost => exact .idle (hidle hline) hpost
  | directive hline hpost => exact .directive (hd _ hline) hpost

/-! ## The whole text -/

theorem exists_writes {text : String} (h : ¬ Malformed text) : ∃ ds, Writes text ds := by
  rw [malformed_iff] at h
  exact (writes_or_breaksOff text).resolve_right h

/-- **A note at the end of a line changes nothing, unless the line is blank.**  Let a text not be
malformed, and put a note at the end of one of its lines.  If there is more on the line than blanks,
what comes of the text stays as it is, be it settings or the error of a directive.  Else the text
breaks off at that line. -/
theorem notes_change_nothing_but_on_blank_lines (hline : IsLineBetween before line after)
    (hnote : '\n' ∉ note) (hwhole : ¬ Malformed (String.ofList (before ++ (line ++ after)))) :
    ((∃ c ∈ line, ¬ Blank c) →
      parse (String.ofList (before ++ (noted line note ++ after))) =
        parse (String.ofList (before ++ (line ++ after)))) ∧
    ((∀ c ∈ line, Blank c) →
      parse (String.ofList (before ++ (noted line note ++ after))) =
        .error (.parser
          ⟨String.ofList (Text.terminated (noted line note ++ after)), .eof⟩)) := by
  obtain ⟨pre, post, haround⟩ := exists_lines_around hline
  obtain ⟨hlines, -⟩ := haround line hline
  obtain ⟨hnoted, hrest⟩ := haround (noted line note) (hline.noted hnote)
  obtain ⟨ds, lines, hlines', hds⟩ := exists_writes hwhole
  obtain rfl := hlines'.eq hlines
  constructor
  · intro hfilled
    have hsame : LinesText (pre ++ noted line note :: post) ds :=
      hds.replace (fun hidle => hidle.noted hfilled note) fun d hd => hd.noted note
    rw [parse_of_writes ⟨_, hnoted, hsame⟩, parse_of_writes ⟨_, hlines, hds⟩]
  · intro hblank
    have hgood : ∀ l ∈ pre, IsLine l := fun l hl =>
      hds.isLine l (List.mem_append_left _ hl)
    have hbreaks := BreaksOff.intro hnoted hgood (not_isLine_noted hblank note)
    rw [parse_of_breaksOff hbreaks, hrest.unlines, String.toList_ofList]

/-- Behind a directive that has a note already, another one changes nothing. -/
theorem notes_change_nothing_but_on_blank_lines_of_directive :
    let before := "CACHECAPACITY 5\n".toList
    let line := "READERS 4  # one per core".toList
    let after := "\n\nNOCONTACTS".toList
    let note := " or more # for now".toList
    IsLineBetween before line after ∧ '\n' ∉ note ∧
      ¬ Malformed (String.ofList (before ++ (line ++ after))) ∧
      parse "CACHECAPACITY 5\nREADERS 4  # one per core # or more # for now\n\nNOCONTACTS" =
        parse "CACHECAPACITY 5\nREADERS 4  # one per core\n\nNOCONTACTS" := by
  intro before line after note
  have hline : IsLineBetween before line after :=
    ⟨.inr rfl, by decide, .inl rfl⟩
  have hnote : '\n' ∉ note := by decide
  have hwhole : ¬ Malformed (String.ofList (before ++ (line ++ after))) := by
    rintro ⟨fault, hfault⟩
    have hread : (parse (String.ofList (before ++ (line ++ after)))).toOption.isSome = true := by
      decide
    rw [hfault] at hread
    cases hread
  obtain ⟨hsame, -⟩ := notes_change_nothing_but_on_blank_lines hline hnote hwhole
  exact ⟨hline, hnote, hwhole, hsame ⟨'R', List.mem_cons_self, by simp [Blank]⟩⟩

/-- Where an empty line parts two directives, a note on it makes the text unreadable. -/
theorem blank_line_takes_no_note :
    IsLineBetween "NOCONTACTS\n".toList [] "\nREADERS 4\n".toList ∧
      (∃ s, parse "NOCONTACTS\n\nREADERS 4\n" = .ok s) ∧
      parse "NOCONTACTS\n # one per core\nREADERS 4\n" =
        .error (.parser ⟨" # one per core\nREADERS 4\n", .eof⟩) :=
  ⟨⟨.inr rfl, by decide, .inl rfl⟩, ⟨_, rfl⟩, rfl⟩

end Spelling.Settings
