import Spelling.Proofs.Settings.Grammar
import Spelling.Proofs.WordList.Reading

/-!
# Settings texts are read by their grammar

A text has its lines, and they are either all lines of the grammar or there is a first that is none.

    all lines          the directives that they write, in order        directives_eq_ok_iff
    a first bad line   the fault there, with all that follows          directives_eq_error_iff

No directive goes over a line feed.  So a text that ends in one may be followed by another text, and
each of the two has the lines that it has alone (`writes_append`).
-/

namespace Spelling.Settings

/-- A text stops being made of lines of the grammar: the first line that is none begins the rest. -/
inductive BreaksOff (text : String) : String → Prop
  | intro {good after : List (List Char)} {bad : List Char} : LinesOf text (good ++ bad :: after) →
      (∀ line ∈ good, IsLine line) → ¬ IsLine bad →
      BreaksOff text (String.ofList (Text.unlines (bad :: after)))

/-! ## Lines -/

theorem lines_append_newline {line rest : List Char} (h : '\n' ∉ line) :
    Text.lines (line ++ '\n' :: rest) = line :: Text.lines rest := by
  induction line with
  | nil => rfl
  | cons c line ih =>
      rw [List.mem_cons, not_or] at h
      rw [List.cons_append, Text.lines, if_neg (Ne.symm h.1), ih h.2]

theorem lines_unlines {lines : List (List Char)} (h : ∀ line ∈ lines, '\n' ∉ line) :
    Text.lines (Text.unlines lines) = lines := by
  induction lines with
  | nil => rfl
  | cons line lines ih =>
      obtain ⟨hline, hlines⟩ := List.forall_mem_cons.mp h
      rw [Text.unlines, List.flatMap_cons, List.append_assoc, List.singleton_append,
        lines_append_newline hline, ← Text.unlines, ih hlines]

/-- A text has its lines in one way. -/
theorem linesOf_iff {text : String} {lines : List (List Char)} :
    LinesOf text lines ↔ Text.lines (Text.terminated text.toList) = lines := by
  constructor
  · intro h
    rw [← h.unlines, lines_unlines h.noFeed]
  · rintro rfl
    exact ⟨Text.unlines_lines (WordList.getLast?_terminated _),
      fun line => WordList.newline_not_mem_of_mem_lines⟩

theorem LinesOf.eq {text : String} {lines lines' : List (List Char)} (h : LinesOf text lines)
    (h' : LinesOf text lines') : lines = lines' :=
  (linesOf_iff.mp h).symm.trans (linesOf_iff.mp h')

theorem exists_linesOf (text : String) : ∃ lines, LinesOf text lines :=
  ⟨_, linesOf_iff.mpr rfl⟩

/-- An empty text is one blank line. -/
theorem linesOf_empty : LinesOf "" [[]] :=
  linesOf_iff.mpr rfl

/-- After a line feed, the lines of another text follow. -/
theorem LinesOf.append {a b : String} {as bs : List (List Char)} (ha : LinesOf a as)
    (hend : a.toList.getLast? = some '\n') (hb : LinesOf b bs) (hne : b ≠ "") :
    LinesOf (a ++ b) (as ++ bs) := by
  have hb' : b.toList ≠ [] := by simpa using hne
  refine ⟨?_, List.forall_mem_append.mpr ⟨ha.noFeed, hb.noFeed⟩⟩
  have hunlines : Text.unlines (as ++ bs) = Text.unlines as ++ Text.unlines bs :=
    List.flatMap_append
  rw [hunlines, ha.unlines, hb.unlines, Text.terminated, if_pos hend, Text.terminated,
    Text.terminated, String.toList_append, List.getLast?_append,
    Option.or_of_isSome (List.getLast?_isSome.mpr hb')]
  split
  · rfl
  · rw [List.append_assoc]

/-! ## Directives of lines -/

/-- The directives that are read from some lines. -/
def directivesOf (lines : List (List Char)) : List Directive :=
  lines.filterMap fun line => (Directive.readLine? line).join

theorem linesText_directivesOf {lines : List (List Char)} (h : ∀ line ∈ lines, IsLine line) :
    LinesText lines (directivesOf lines) := by
  induction lines with
  | nil => exact .nil
  | cons line lines ih =>
      obtain ⟨hline, hlines⟩ := List.forall_mem_cons.mp h
      rcases hline with hidle | ⟨d, hd⟩
      · rw [directivesOf, List.filterMap_cons_none (by rw [readLine?_of_idleText hidle]; rfl)]
        exact .idle hidle (ih hlines)
      · rw [directivesOf, List.filterMap_cons_some (by rw [readLine?_of_directiveText hd]; rfl)]
        exact .directive hd (ih hlines)

theorem LinesText.isLine {lines : List (List Char)} {ds : List Directive}
    (h : LinesText lines ds) : ∀ line ∈ lines, IsLine line := by
  induction h with
  | nil => simp
  | idle hline _ ih => exact List.forall_mem_cons.mpr ⟨.inl hline, ih⟩
  | directive hline _ ih => exact List.forall_mem_cons.mpr ⟨.inr ⟨_, hline⟩, ih⟩

/-- Lines write what is read from them, and nothing else. -/
theorem LinesText.eq {lines : List (List Char)} {ds : List Directive} (h : LinesText lines ds) :
    ds = directivesOf lines := by
  induction h with
  | nil => rfl
  | idle hline _ ih =>
      rw [directivesOf, List.filterMap_cons_none (by rw [readLine?_of_idleText hline]; rfl)]
      exact ih
  | directive hline _ ih =>
      rw [directivesOf, List.filterMap_cons_some (by rw [readLine?_of_directiveText hline]; rfl)]
      exact congrArg _ ih

theorem linesText_append {as bs : List (List Char)} {ds : List Directive} :
    LinesText (as ++ bs) ds ↔
      ∃ before after, LinesText as before ∧ LinesText bs after ∧ ds = before ++ after := by
  constructor
  · intro h
    obtain ⟨has, hbs⟩ := List.forall_mem_append.mp h.isLine
    refine ⟨_, _, linesText_directivesOf has, linesText_directivesOf hbs, ?_⟩
    rw [h.eq, directivesOf, List.filterMap_append]
    rfl
  · rintro ⟨before, after, hbefore, hafter, rfl⟩
    induction hbefore with
    | nil => exact hafter
    | idle hline _ ih => exact .idle hline ih
    | directive hline _ ih => exact .directive hline ih

/-! ## Directives of texts -/

theorem directives_of_writes {text : String} {ds : List Directive} (h : Writes text ds) :
    directives text = .ok ds := by
  obtain ⟨lines, hlines, hds⟩ := h
  have hall : lines.dropWhile isReadable = [] :=
    List.dropWhile_eq_nil_iff.mpr fun line hline => isReadable_iff.mpr (hds.isLine line hline)
  rw [directives, linesOf_iff.mp hlines]
  rw [hall, hds.eq]
  rfl

theorem directives_of_breaksOff {text rest : String} (h : BreaksOff text rest) :
    directives text = .error ⟨rest, .eof⟩ := by
  obtain ⟨hlines, hgood, hbad⟩ := h
  rename_i good after bad
  have hdrop : (good ++ bad :: after).dropWhile isReadable = bad :: after := by
    rw [List.dropWhile_append_of_pos fun line hline => isReadable_iff.mpr (hgood line hline),
      List.dropWhile_cons_of_neg (by rwa [isReadable_iff])]
  rw [directives, linesOf_iff.mp hlines]
  rw [hdrop]

/-- Every text writes directives or breaks off. -/
theorem writes_or_breaksOff (text : String) :
    (∃ ds, Writes text ds) ∨ ∃ rest, BreaksOff text rest := by
  obtain ⟨lines, hlines⟩ := exists_linesOf text
  have hparted : lines.takeWhile isReadable ++ lines.dropWhile isReadable = lines :=
    List.takeWhile_append_dropWhile
  have hgood : ∀ line ∈ lines.takeWhile isReadable, IsLine line := fun line hline =>
    isReadable_iff.mp (List.all_eq_true.mp List.all_takeWhile line hline)
  have hstop := List.head?_dropWhile_not isReadable lines
  cases hdrop : lines.dropWhile isReadable with
  | nil =>
      rw [hdrop, List.append_nil] at hparted
      exact .inl ⟨_, lines, hlines, linesText_directivesOf (hparted ▸ hgood)⟩
  | cons bad after =>
      rw [hdrop] at hparted hstop
      refine .inr ⟨_, .intro (hparted.symm ▸ hlines) hgood fun hbad => ?_⟩
      simp [isReadable_iff.mpr hbad] at hstop

/-- **The directives of a text are those that its lines write.** -/
theorem directives_eq_ok_iff {text : String} {ds : List Directive} :
    directives text = .ok ds ↔ Writes text ds := by
  refine ⟨fun h => ?_, directives_of_writes⟩
  rcases writes_or_breaksOff text with ⟨ds', hds⟩ | ⟨rest, hrest⟩
  · obtain rfl : ds' = ds := Except.ok.inj ((directives_of_writes hds).symm.trans h)
    exact hds
  · rw [directives_of_breaksOff hrest] at h
    cases h

/-- **A text has a fault where it breaks off.** -/
theorem directives_eq_error_iff {text : String} {fault : Text.Fault} :
    directives text = .error fault ↔ ∃ rest, BreaksOff text rest ∧ fault = ⟨rest, .eof⟩ := by
  constructor
  · intro h
    rcases writes_or_breaksOff text with ⟨ds, hds⟩ | ⟨rest, hrest⟩
    · rw [directives_of_writes hds] at h
      cases h
    · exact ⟨rest, hrest, Except.error.inj (h.symm.trans (directives_of_breaksOff hrest))⟩
  · rintro ⟨rest, hrest, rfl⟩
    exact directives_of_breaksOff hrest

theorem exists_breaksOff_iff {text : String} :
    (∃ rest, BreaksOff text rest) ↔ ∀ ds, ¬ Writes text ds := by
  constructor
  · rintro ⟨rest, hrest⟩ ds hds
    have h := (directives_of_breaksOff hrest).symm.trans (directives_of_writes hds)
    cases h
  · intro h
    rcases writes_or_breaksOff text with ⟨ds, hds⟩ | hrest
    · exact absurd hds (h ds)
    · exact hrest

/-! ## One text after another -/

theorem writes_empty {ds : List Directive} : Writes "" ds ↔ ds = [] := by
  have hidle : LinesText [[]] [] := .idle (.blank (by simp)) .nil
  constructor
  · rintro ⟨lines, hlines, hds⟩
    obtain rfl := hlines.eq linesOf_empty
    exact hds.eq.trans hidle.eq.symm
  · rintro rfl
    exact ⟨[[]], linesOf_empty, hidle⟩

/-- **A text that ends in a line feed writes its directives before those of the next.** -/
theorem writes_append {a b : String} {ds : List Directive} (ha : a.toList.getLast? = some '\n') :
    Writes (a ++ b) ds ↔
      ∃ before after, Writes a before ∧ Writes b after ∧ ds = before ++ after := by
  by_cases hb : b = ""
  · -- The blank line of an empty text is not there behind another text.
    subst hb
    simp [writes_empty]
  · obtain ⟨as, has⟩ := exists_linesOf a
    obtain ⟨bs, hbs⟩ := exists_linesOf b
    have hab := has.append ha hbs hb
    constructor
    · rintro ⟨lines, hlines, hds⟩
      obtain rfl := hlines.eq hab
      obtain ⟨before, after, hbefore, hafter, rfl⟩ := linesText_append.mp hds
      exact ⟨before, after, ⟨as, has, hbefore⟩, ⟨bs, hbs, hafter⟩, rfl⟩
    · rintro ⟨before, after, ⟨as', has', hbefore⟩, ⟨bs', hbs', hafter⟩, rfl⟩
      obtain rfl := has.eq has'
      obtain rfl := hbs.eq hbs'
      exact ⟨as ++ bs, hab, linesText_append.mpr ⟨before, after, hbefore, hafter, rfl⟩⟩

theorem exists_breaksOff_append {a b : String} (ha : a.toList.getLast? = some '\n') :
    (∃ rest, BreaksOff (a ++ b) rest) ↔
      (∃ rest, BreaksOff a rest) ∨ ∃ rest, BreaksOff b rest := by
  simp only [exists_breaksOff_iff, writes_append ha]
  constructor
  · intro h
    by_contra hwrites
    push Not at hwrites
    obtain ⟨⟨before, hbefore⟩, after, hafter⟩ := hwrites
    exact h _ ⟨before, after, hbefore, hafter, rfl⟩
  · rintro (h | h) _ ⟨before, after, hbefore, hafter, -⟩
    · exact h before hbefore
    · exact h after hafter

end Spelling.Settings
