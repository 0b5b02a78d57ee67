import Mathlib.Data.List.TakeWhile
import Spelling.Proofs.WordList.Index
import Spelling.Proofs.WordList.Lines

/-!
# Word lists are read by their grammar

The rules for the lines of a whole text, with the entries that they stand for:

    list    a line that announces a number, then other lines
    other   blank lines, and lines that write an entry

The announced number puts no bound on the lines.  A text is read as a list exactly if its lines are
those of the list (`read_by_grammar`).  If some other line cannot be read, the first such line and
what comes after it are left over.
-/

namespace Spelling.WordList

/-! ## Rules -/

/-- The frequency of a field. -/
def Field.frequency? : Field → Option Nat
  | frequency n => some n
  | follows _ => none

/-- The word of a field. -/
def Field.word? : Field → Option String
  | frequency _ => none
  | follows word => some word

/-- The entry that a line stands for: the last frequency counts, and every word. -/
def EntryLine.meaning (line : EntryLine) : Entry where
  word := line.word
  frequency := (line.fields.filterMap Field.frequency?).getLast?.getD 0
  offensive := decide ('O' ∈ line.flags)
  neverSuggested := decide ('N' ∈ line.flags)
  follows := line.fields.filterMap Field.word?

/-- Lines after the first, and their entries. -/
inductive BodyText : List (List Char) → List Entry → Prop
  | nil : BodyText [] []
  | blank {line : List Char} {lines : List (List Char)} {es : List Entry} : LineEnd line →
      BodyText lines es → BodyText (line :: lines) es
  | entry {line : List Char} {lines : List (List Char)} {e : EntryLine} {es : List Entry} :
      EntryText line e → BodyText lines es → BodyText (line :: lines) (e.meaning :: es)

/-- The lines of a word list, and its entries. -/
inductive ListText : List (List Char) → List Entry → Prop
  | intro {first : List Char} {lines : List (List Char)} {n : Nat} {es : List Entry} :
      CountLine first n → BodyText lines es → ListText (first :: lines) es

/-- A line that may come after the first. -/
def OtherLine (line : List Char) : Prop :=
  LineEnd line ∨ ∃ e, EntryText line e

/-! ## Entries -/

theorem foldl_apply (fields : List Field) (e : Entry) :
    fields.foldl Field.apply e =
      { e with
        frequency := (fields.filterMap Field.frequency?).getLast?.getD e.frequency
        follows := e.follows ++ fields.filterMap Field.word? } := by
  induction fields generalizing e with
  | nil => simp
  | cons f fields ih =>
      rw [List.foldl_cons, ih]
      cases f with
      | frequency n =>
          simp only [Field.apply, List.filterMap_cons, Field.frequency?, Field.word?,
            List.getLast?_cons, Option.getD_some]
      | follows word =>
          simp only [Field.apply, List.filterMap_cons, Field.frequency?, Field.word?,
            List.append_assoc, List.singleton_append]

theorem entry_eq_meaning (line : EntryLine) : line.entry = line.meaning := by
  rw [EntryLine.entry, foldl_apply, EntryLine.meaning]
  simp only [List.contains_eq_mem, List.nil_append]

/-! ## Lines after the first -/

theorem readLine?_of_lineEnd {line : List Char} (h : LineEnd line) :
    readLine? line = some none := by
  rw [readLine?, if_pos (isBlankLine_iff.mpr h)]

theorem readLine?_of_entryText {line : List Char} {e : EntryLine} (h : EntryText line e) :
    readLine? line = some (some e) := by
  have hblank : ¬ Text.isBlankLine line = true := fun hblank =>
    h.not_lineEnd (isBlankLine_iff.mp hblank)
  rw [readLine?, if_neg hblank, ofLine?_eq_some_iff.mpr h, Option.map_some]

theorem isReadable_iff {line : List Char} : isReadable line = true ↔ OtherLine line := by
  rw [isReadable]
  constructor
  · intro h
    rw [readLine?] at h
    split at h
    · next hblank => exact .inl (isBlankLine_iff.mp hblank)
    · rw [Option.isSome_map, Option.isSome_iff_exists] at h
      obtain ⟨e, he⟩ := h
      exact .inr ⟨e, ofLine?_eq_some_iff.mp he⟩
  · rintro (h | ⟨e, h⟩)
    · rw [readLine?_of_lineEnd h]
      rfl
    · rw [readLine?_of_entryText h]
      rfl

/-- The entries that some lines write. -/
def written (lines : List (List Char)) : List Entry :=
  (lines.filterMap fun line => (readLine? line).join).map EntryLine.entry

theorem bodyText_written {lines : List (List Char)}
    (h : ∀ line ∈ lines, isReadable line = true) : BodyText lines (written lines) := by
  induction lines with
  | nil => exact .nil
  | cons line lines ih =>
      obtain ⟨hline, hlines⟩ := List.forall_mem_cons.mp h
      rcases isReadable_iff.mp hline with hblank | ⟨e, he⟩
      · rw [written, List.filterMap_cons_none (by rw [readLine?_of_lineEnd hblank]; rfl)]
        exact .blank hblank (ih hlines)
      · rw [written, List.filterMap_cons_some (by rw [readLine?_of_entryText he]; rfl),
          List.map_cons, entry_eq_meaning]
        exact .entry he (ih hlines)

theorem BodyText.isReadable {lines : List (List Char)} {es : List Entry} (h : BodyText lines es) :
    ∀ line ∈ lines, isReadable line = true := by
  induction h with
  | nil => simp
  | blank hline _ ih => exact List.forall_mem_cons.mpr ⟨isReadable_iff.mpr (.inl hline), ih⟩
  | entry hline _ ih => exact List.forall_mem_cons.mpr ⟨isReadable_iff.mpr (.inr ⟨_, hline⟩), ih⟩

theorem BodyText.eq_written {lines : List (List Char)} {es : List Entry} (h : BodyText lines es) :
    es = written lines := by
  induction h with
  | nil => rfl
  | blank hline _ ih =>
      rw [ih, written, written,
        List.filterMap_cons_none (by rw [readLine?_of_lineEnd hline]; rfl)]
  | entry hline _ ih =>
      rw [ih, written, written,
        List.filterMap_cons_some (by rw [readLine?_of_entryText hline]; rfl), List.map_cons,
        entry_eq_meaning]

/-- Lines are read to their end exactly if the grammar has them. -/
theorem readEntries_eq_ok_iff {announced : Nat} {lines : List (List Char)} {list : WordList} :
    (readEntries announced lines).value = .ok list ↔ BodyText lines list.entries := by
  have hread (hall : ∀ line ∈ lines, isReadable line = true) :
      (readEntries announced lines).value = .ok (.ofEntries (written lines)) := by
    rw [readEntries, List.dropWhile_eq_nil_iff.mpr hall, entryLines,
      List.takeWhile_eq_self_iff.mpr hall]
    rfl
  constructor
  · intro h
    cases hdrop : lines.dropWhile isReadable with
    | nil =>
        have hall := List.dropWhile_eq_nil_iff.mp hdrop
        obtain rfl : ofEntries (written lines) = list := Except.ok.inj ((hread hall).symm.trans h)
        exact bodyText_written hall
    | cons bad rest =>
        rw [readEntries, hdrop] at h
        cases h
  · intro h
    rw [hread h.isReadable, ← h.eq_written, ofEntries_entries]

/-- The first line that cannot be read is where reading stops. -/
theorem readEntries_of_bad {announced : Nat} {good rest : List (List Char)} {bad : List Char}
    (hgood : ∀ line ∈ good, OtherLine line) (hbad : ¬ OtherLine bad) :
    (readEntries announced (good ++ bad :: rest)).value =
      .error ⟨String.ofList (Text.unlines (bad :: rest)), .eof⟩ := by
  have hdrop : (good ++ bad :: rest).dropWhile isReadable = bad :: rest := by
    rw [List.dropWhile_append_of_pos fun line h => isReadable_iff.mpr (hgood line h),
      List.dropWhile_cons_of_neg (by rwa [isReadable_iff])]
  rw [readEntries, hdrop]

/-! ## The whole text -/

theorem newline_not_mem_of_mem_lines {cs line : List Char} (h : line ∈ Text.lines cs) :
    '\n' ∉ line := by
  induction cs generalizing line with
  | nil => cases h
  | cons c cs ih =>
      rw [Text.lines] at h
      split at h
      · rcases List.mem_cons.mp h with rfl | h
        · exact List.not_mem_nil
        · exact ih h
      · next hc =>
        split at h
        · obtain rfl := List.mem_singleton.mp h
          exact fun hmem => hc (List.mem_singleton.mp hmem).symm
        · next first rest heq =>
          rcases List.mem_cons.mp h with rfl | h
          · intro hmem
            rcases List.mem_cons.mp hmem with heqc | hmem
            · exact hc heqc.symm
            · exact ih (heq ▸ List.mem_cons_self) hmem
          · exact ih (heq ▸ List.mem_cons_of_mem _ h)

theorem getLast?_terminated (cs : List Char) : (Text.terminated cs).getLast? = some '\n' := by
  rw [Text.terminated]
  split
  · assumption
  · simp

theorem value_parse {text : String} {first : List Char} {rest : List (List Char)} {n : Nat}
    (hlines : Text.lines (Text.terminated text.toList) = first :: rest) (h : CountLine first n) :
    (parse text).value = (readEntries n rest).value := by
  rw [parse, hlines]
  dsimp only
  rw [readCount_eq_ok_iff.mpr h]

theorem parse_eq_ok_iff {text : String} {list : WordList} :
    (parse text).value = .ok list ↔
      ListText (Text.lines (Text.terminated text.toList)) list.entries := by
  constructor
  · intro h
    cases hlines : Text.lines (Text.terminated text.toList) with
    | nil =>
        rw [parse, hlines] at h
        cases h
    | cons first rest =>
        cases hcount : readCount first rest with
        | error fault =>
            rw [parse, hlines] at h
            dsimp only at h
            rw [hcount] at h
            cases h
        | ok n =>
            have hfirst := readCount_eq_ok_iff.mp hcount
            rw [value_parse hlines hfirst] at h
            exact .intro hfirst (readEntries_eq_ok_iff.mp h)
  · intro h
    cases hlines : Text.lines (Text.terminated text.toList) with
    | nil =>
        rw [hlines] at h
        cases h
    | cons first rest =>
        rw [hlines] at h
        obtain ⟨hfirst, hbody⟩ := h
        rw [value_parse hlines hfirst]
        exact readEntries_eq_ok_iff.mpr hbody

theorem ofText_eq_ok_iff {text : String} {list : WordList} :
    (ofText text).value = .ok list ↔ (parse text).value = .ok list := by
  rw [ofText, Logged.value_map]
  cases (parse text).value with
  | ok list => simp [Except.mapError]
  | error fault => simp [Except.mapError]

theorem ofText_eq_error {text : String} {fault : Text.Fault}
    (h : (parse text).value = .error fault) : (ofText text).value = .error (.parser fault) := by
  rw [ofText, Logged.value_map, h]
  rfl

/-- **A word list is read exactly by its grammar, line by line.**  A text, with a line feed at its
end, is some lines with a line feed after each.  It is read as a list exactly if these are the lines
of the list: a first line that announces any number, then blank lines and lines that write its
entries in order.  The entry of a word is the first with that word.  Where the first line is right
and some later line is not, the failure has the first such line and all that follows it. -/
theorem read_by_grammar (text : String) :
    ∃ lines : List (List Char), Text.unlines lines = Text.terminated text.toList ∧
      (∀ line ∈ lines, '\n' ∉ line) ∧
      (∀ list : WordList, (ofText text).value = .ok list ↔ ListText lines list.entries) ∧
      (∀ list : WordList, (ofText text).value = .ok list → ∀ word,
        (∀ e, list.get? word = some e ↔ e.word = word ∧
          ∃ before after, list.entries = before ++ e :: after ∧ ∀ d ∈ before, d.word ≠ word) ∧
        (list.get? word = none ↔ ∀ e ∈ list.entries, e.word ≠ word)) ∧
      ∀ first good bad rest n, lines = first :: (good ++ bad :: rest) → CountLine first n →
        (∀ line ∈ good, OtherLine line) → ¬ OtherLine bad →
        (ofText text).value =
          .error (.parser ⟨String.ofList (Text.unlines (bad :: rest)), .eof⟩) := by
  refine ⟨Text.lines (Text.terminated text.toList), Text.unlines_lines (getLast?_terminated _),
    fun line => newline_not_mem_of_mem_lines, fun list => ?_, fun list _ word => ?_, ?_⟩
  · rw [ofText_eq_ok_iff, parse_eq_ok_iff]
  · exact ⟨fun e => get?_eq_some_iff, get?_eq_none_iff⟩
  · intro first good bad rest n hlines hfirst hgood hbad
    apply ofText_eq_error
    rw [value_parse hlines hfirst, readEntries_of_bad hgood hbad]

example : (ofText "7\nhello fq:1 fq:20 # twice\nDarn/Ox bg:oh bg:well").value =
    .ok (.ofEntries [{ word := "hello", frequency := 20 },
      { word := "Darn", offensive := true, follows := ["oh", "well"] }]) := by
  rfl

end Spelling.WordList
