import Spelling.Proofs.Reader
import Spelling.Proofs.WordList.Reading

/-!
# Word lists by alternatives

The number that a list announces is read first, with the end of its line.  Then a line is read by the
first of two readers that takes it, again and again:

    an entry     a word, perhaps flags, fields as long as there are any, the end of the line
    a line end   blanks and perhaps a comment

A field stands after blanks, and it is read by the first of two readers as well.  So blanks at the
end of an entry are taken twice: as blanks before a field, given back when none comes, and as the end
of the line.  Each reader of a line takes one line, with its line feed (`takesLine_line`), and a text
is read as it is line by line, with the same fault (`readList_eq`).
-/

namespace Spelling.WordList

open Text Text.Reader

/-! ## Readers -/

/-- Takes a frequency, or a word that comes before. -/
def fieldReader : Reader Field :=
  (do
    tag ['f', 'q', ':']
    let n ← number 256
    pure (.frequency n)) <|>
  (do
    tag ['b', 'g', ':']
    let word ← inner
    pure (.follows (String.ofList word)))

/-- Takes blanks and a field. -/
def nextReader : Reader Field := do
  let _ ← space1
  fieldReader

/-- Takes a word. -/
def wordReader : Reader (List Char) := isNot [' ', '\t', '/', '#', '\n']

/-- Takes a slash and flags. -/
def flagsReader : Reader (List Char) := do
  tag ['/']
  inner

/-- Takes an entry, to the end of its line. -/
def entryReader : Reader EntryLine := do
  let word ← wordReader
  let flags? ← opt flagsReader
  let fields ← many nextReader
  let _ ← lineEnd
  pure ⟨String.ofList word, flags?.getD [], fields⟩

/-- Takes a line after the first, which may hold no entry. -/
def lineReader : Reader (Option EntryLine) :=
  (some <$> entryReader) <|> ((fun _ => none) <$> lineEnd)

/-- Takes the announced number, to the end of its line. -/
def countReader : Reader Nat := do
  let n ← number countBound
  let _ ← lineEnd
  pure n

/-- The word list of a text. -/
def readList (text : String) : Except Fault WordList :=
  (countReader (terminated text.toList)).bind fun counted =>
    (whole (many lineReader) counted.2).map fun p =>
      .ofEntries ((p.1.filterMap id).map EntryLine.entry)

/-! ## Fields -/

variable {text left part tail line : List Char} {f : Field} {fs : List Field} {flags : List Char}

theorem exists_of_fieldReader (h : fieldReader text = .ok (f, left)) :
    ∃ part, text = part ++ left ∧ '\n' ∉ part ∧ FieldText part f := by
  rcases orElse_eq_ok_iff.mp h with h | ⟨-, h⟩
  · obtain ⟨_, mid, htag, h⟩ := bind_eq_ok_iff.mp h
    obtain ⟨n, mid, hnumber, h⟩ := bind_eq_ok_iff.mp h
    obtain ⟨rfl, rfl⟩ := pure_eq_ok_iff.mp h
    obtain rfl := tag_eq_ok_iff.mp htag
    obtain ⟨digits, rfl, hdigits, hbound, -⟩ := number_eq_ok_iff.mp hnumber
    refine ⟨'f' :: 'q' :: ':' :: digits, rfl, fun hmem => ?_,
      .frequency hdigits (Nat.le_of_lt_succ hbound)⟩
    have hfeed : '\n' ∈ digits := by simpa using hmem
    exact absurd (hdigits.isDigit _ hfeed) (by decide)
  · obtain ⟨_, mid, htag, h⟩ := bind_eq_ok_iff.mp h
    obtain ⟨word, mid, hword, h⟩ := bind_eq_ok_iff.mp h
    obtain ⟨rfl, rfl⟩ := pure_eq_ok_iff.mp h
    obtain rfl := tag_eq_ok_iff.mp htag
    obtain ⟨hne, rfl, hinner, hfeed⟩ := exists_of_inner hword
    exact ⟨'b' :: 'g' :: ':' :: word, rfl, by simpa using hfeed, .follows hne hinner⟩

theorem fieldReader_eq_ok (h : FieldText part f) (hpart : '\n' ∉ part) (hleft : Parted left) :
    fieldReader (part ++ left) = .ok (f, left) := by
  rw [fieldReader, orElse_eq_ok_iff]
  cases h with
  | frequency hdigits hbound =>
      exact .inl (bind_eq_ok_iff.mpr ⟨(), _, tag_eq_ok_iff.mpr rfl, bind_eq_ok_iff.mpr
        ⟨_, left, number_eq_ok_iff.mpr ⟨_, rfl, hdigits, Nat.lt_succ_of_le hbound,
          hleft.stops rfl⟩, rfl⟩⟩)
  | follows hne hinner =>
      refine .inr ⟨fun g rest hread => ?_, bind_eq_ok_iff.mpr ⟨(), _, tag_eq_ok_iff.mpr rfl,
        bind_eq_ok_iff.mpr ⟨_, left, inner_eq_ok hne hinner (by simpa using hpart) hleft, rfl⟩⟩⟩
      obtain ⟨_, mid, htag, -⟩ := bind_eq_ok_iff.mp hread
      have htext := tag_eq_ok_iff.mp htag
      simp at htext

theorem exists_of_nextReader (h : nextReader text = .ok (f, left)) :
    ∃ blanks part, text = blanks ++ (part ++ left) ∧ '\n' ∉ blanks ++ part ∧ blanks ≠ [] ∧
      (∀ c ∈ blanks, Blank c) ∧ FieldText part f := by
  obtain ⟨blanks, mid, hspace, hnext⟩ := bind_eq_ok_iff.mp h
  obtain ⟨hne, rfl, hblank, -⟩ := space1_eq_ok_iff.mp hspace
  obtain ⟨part, rfl, hpart, hfield⟩ := exists_of_fieldReader hnext
  refine ⟨blanks, part, rfl, ?_, hne, hblank, hfield⟩
  rw [List.mem_append, not_or]
  exact ⟨newline_not_mem_of_blank hblank, hpart⟩

theorem exists_of_many_nextReader (h : many nextReader text = .ok (fs, left)) :
    ∃ part, text = part ++ left ∧ '\n' ∉ part ∧ FieldsText part fs := by
  induction hlength : text.length using Nat.strongRecOn generalizing text fs with
  | ind n ih =>
  rcases cases_of_many h with ⟨rfl, rfl⟩ | ⟨f, mid, others, rfl, hfirst, hlt, hothers⟩
  · exact ⟨[], rfl, List.not_mem_nil, .nil⟩
  · obtain ⟨blanks, part, rfl, hfeed, hne, hblank, hfield⟩ := exists_of_nextReader hfirst
    obtain ⟨rest, rfl, hrest, hfields⟩ := ih _ (hlength ▸ hlt) hothers rfl
    refine ⟨blanks ++ (part ++ rest), by simp, ?_, .cons hne hblank hfield hfields⟩
    rw [← List.append_assoc, List.mem_append, not_or]
    exact ⟨hfeed, hrest⟩

/-- No field comes where a line ends. -/
theorem refuses_nextReader (h : LineEnd tail) : Refuses nextReader (tail ++ '\n' :: left) := by
  intro f rest hread
  obtain ⟨blanks, mid, hspace, hread⟩ := bind_eq_ok_iff.mp hread
  obtain ⟨c, after, rfl, hc⟩ := exists_of_space1_lineEnd h hspace
  obtain ⟨part, htext, hpart, hfield⟩ := exists_of_fieldReader hread
  obtain ⟨d, part, rfl⟩ := List.exists_cons_of_ne_nil hfield.ne_nil
  obtain ⟨rfl, -⟩ := List.cons.inj htext
  rcases hc with rfl | rfl
  · exact (hfield.inner _ List.mem_cons_self).2 rfl
  · exact hpart List.mem_cons_self

theorem FieldsText.parted (h : FieldsText part fs) (hleft : Parted left) : Parted (part ++ left) := by
  cases h with
  | nil => exact hleft
  | cons hne hblank _ _ =>
      rw [List.append_assoc]
      exact parted_of_blanks hne hblank _

/-- Fields before the end of a line are all taken. -/
theorem many_nextReader_eq_ok (h : FieldsText part fs) (hpart : '\n' ∉ part) (htail : LineEnd tail) :
    many nextReader (part ++ (tail ++ '\n' :: left)) = .ok (fs, tail ++ '\n' :: left) := by
  induction h with
  | nil => exact many_of_refuses (refuses_nextReader htail)
  | cons hne hblank hfield hfields ih =>
      rename_i blanks text rest f fs
      simp only [List.mem_append, not_or] at hpart
      have hparted := hfields.parted (parted_lineEnd htail left)
      have hspace : space1 (blanks ++ (text ++ (rest ++ (tail ++ '\n' :: left)))) =
          .ok (blanks, text ++ (rest ++ (tail ++ '\n' :: left))) :=
        space1_eq_ok_iff.mpr
          ⟨hne, rfl, hblank, stops_isBlank_of_inner hfield.ne_nil hfield.inner _⟩
      simp only [List.append_assoc]
      refine many_of_ok (bind_eq_ok_iff.mpr ⟨blanks, _, hspace,
        fieldReader_eq_ok hfield hpart.2.1 hparted⟩) ?_ (ih hpart.2.2)
      have hpos := List.length_pos_iff.mpr hne
      simp only [List.length_append]
      omega

/-! ## Lines -/

theorem exists_of_flags {flags? : Option (List Char)} (h : opt flagsReader text = .ok (flags?, left)) :
    ∃ part, text = part ++ left ∧ '\n' ∉ part ∧ FlagsText part (flags?.getD []) := by
  rcases opt_eq_ok_iff.mp h with ⟨flags, hread, rfl⟩ | ⟨-, rfl, rfl⟩
  · obtain ⟨_, mid, htag, hflags⟩ := bind_eq_ok_iff.mp hread
    obtain rfl := tag_eq_ok_iff.mp htag
    obtain ⟨hne, rfl, hinner, hfeed⟩ := exists_of_inner hflags
    exact ⟨'/' :: flags, rfl, by simpa using hfeed, .some hne hinner⟩
  · exact ⟨[], rfl, List.not_mem_nil, .none⟩

theorem exists_flags_eq_ok (h : FlagsText part flags) (hpart : '\n' ∉ part) (hleft : Parted left) :
    ∃ flags?, opt flagsReader (part ++ left) = .ok (flags?, left) ∧ flags?.getD [] = flags := by
  cases h with
  | none =>
      refine ⟨none, opt_eq_ok_iff.mpr (.inr ⟨fun flags rest hread => ?_, rfl, rfl⟩), rfl⟩
      obtain ⟨_, mid, htag, -⟩ := bind_eq_ok_iff.mp hread
      obtain ⟨c, after, rfl, hc⟩ := hleft
      obtain ⟨rfl, -⟩ := List.cons.inj (tag_eq_ok_iff.mp htag)
      simp at hc
  | some hne hinner =>
      refine ⟨some flags, opt_eq_ok_iff.mpr (.inl ⟨flags, bind_eq_ok_iff.mpr ⟨(), _,
        tag_eq_ok_iff.mpr rfl, inner_eq_ok hne hinner ?_ hleft⟩, rfl⟩), rfl⟩
      simpa using hpart

theorem wordChar_iff {c : Char} (hfeed : c ≠ '\n') :
    (Inner c ∧ c ≠ '/') ↔ c ∉ [' ', '\t', '/', '#', '\n'] := by
  rw [inner_iff hfeed]
  simp
  tauto

theorem exists_of_wordReader {word : List Char} (h : wordReader text = .ok (word, left)) :
    word ≠ [] ∧ text = word ++ left ∧ (∀ c ∈ word, Inner c ∧ c ≠ '/') ∧ '\n' ∉ word := by
  obtain ⟨hne, htext, hnot, -⟩ := isNot_eq_ok_iff.mp h
  have hfeed : '\n' ∉ word := fun hmem => hnot _ hmem (by simp)
  refine ⟨hne, htext, fun c hc => (wordChar_iff ?_).mpr (hnot c hc), hfeed⟩
  rintro rfl
  exact hfeed hc

/-- A word goes up to its flags, or up to what ends it if there are none. -/
theorem wordReader_eq_ok {word : List Char} (hne : word ≠ []) (hword : ∀ c ∈ word, Inner c ∧ c ≠ '/')
    (hfeed : '\n' ∉ word) (hflags : FlagsText part flags) (hleft : Parted left) :
    wordReader (word ++ (part ++ left)) = .ok (word, part ++ left) := by
  refine isNot_eq_ok_iff.mpr ⟨hne, rfl, fun c hc => (wordChar_iff ?_).mp (hword c hc), ?_⟩
  · rintro rfl
    exact hfeed hc
  · cases hflags with
    | none =>
        obtain ⟨c, rest, rfl, hc⟩ := hleft
        simp at hc ⊢
        tauto
    | some => simp

theorem takesLine_entry : TakesLine entryReader EntryText := by
  refine ⟨fun {text left e} => ?_⟩
  constructor
  · intro h
    obtain ⟨word, mid, hword, h⟩ := bind_eq_ok_iff.mp h
    obtain ⟨flags?, mid, hflags, h⟩ := bind_eq_ok_iff.mp h
    obtain ⟨fields, mid, hfields, h⟩ := bind_eq_ok_iff.mp h
    obtain ⟨_, mid, hend, h⟩ := bind_eq_ok_iff.mp h
    obtain ⟨rfl, rfl⟩ := pure_eq_ok_iff.mp h
    obtain ⟨hne, rfl, hchars, hfeed⟩ := exists_of_wordReader hword
    obtain ⟨flagsText, rfl, hfeed', hflagsText⟩ := exists_of_flags hflags
    obtain ⟨fieldsText, rfl, hfeed'', hfieldsText⟩ := exists_of_many_nextReader hfields
    obtain ⟨tail, rfl, htail, hlast⟩ := takesLine_lineEnd.iff.mp hend
    refine ⟨word ++ (flagsText ++ (fieldsText ++ tail)), by simp, ?_,
      .intro hne hchars hflagsText hfieldsText hlast⟩
    simp only [List.mem_append, not_or]
    exact ⟨hfeed, hfeed', hfeed'', htail⟩
  · rintro ⟨_, rfl, hline, ⟨hne, hword, hflags, hfields, hend⟩⟩
    rename_i word flagsText flags fieldsText tail fields
    simp only [List.mem_append, not_or] at hline
    obtain ⟨hfeed, hfeed', hfeed'', htail⟩ := hline
    have hparted := hfields.parted (parted_lineEnd hend left)
    obtain ⟨flags?, hread, hvalue⟩ := exists_flags_eq_ok hflags hfeed' hparted
    simp only [List.append_assoc]
    exact bind_eq_ok_iff.mpr ⟨word, _, wordReader_eq_ok hne hword hfeed hflags hparted,
      bind_eq_ok_iff.mpr ⟨flags?, _, hread,
      bind_eq_ok_iff.mpr ⟨fields, _, many_nextReader_eq_ok hfields hfeed'' hend,
      bind_eq_ok_iff.mpr ⟨(), left, takesLine_lineEnd.iff.mpr ⟨tail, rfl, htail, hend⟩,
      by rw [hvalue]; rfl⟩⟩⟩⟩

theorem readLine?_eq_some_iff {e? : Option EntryLine} :
    readLine? line = some e? ↔ (∃ e, EntryText line e ∧ some e = e?) ∨ LineEnd line ∧ e? = none := by
  constructor
  · intro h
    rw [readLine?] at h
    split at h
    · next hblank =>
      cases h
      exact .inr ⟨isBlankLine_iff.mp hblank, rfl⟩
    · obtain ⟨e, he, rfl⟩ := Option.map_eq_some_iff.mp h
      exact .inl ⟨e, ofLine?_eq_some_iff.mp he, rfl⟩
  · rintro (⟨e, he, rfl⟩ | ⟨hblank, rfl⟩)
    · exact readLine?_of_entryText he
    · exact readLine?_of_lineEnd hblank

/-- **The two alternatives take a line together, and what they make of it is what is read of the
line alone.** -/
theorem takesLine_line : TakesLine lineReader fun line e? => readLine? line = some e? := by
  have hend : TakesLine ((fun _ => none) <$> lineEnd) fun line (e? : Option EntryLine) =>
      LineEnd line ∧ e? = none :=
    (takesLine_lineEnd.map fun _ => none).congr fun line e? => by grind
  refine ((takesLine_entry.map some).orElse hend ?_).congr fun line e? =>
    readLine?_eq_some_iff.symm
  rintro line _ _ ⟨hblank, -⟩ ⟨e, he, -⟩
  exact he.not_lineEnd hblank

/-! ## The whole text -/

/-- The announced number is read as it is from the first line, and so are the faults there. -/
theorem countReader_eq (hline : '\n' ∉ line) (rest : List (List Char)) :
    countReader (unlines (line :: rest)) =
      (readCount line rest).map fun n => (n, unlines rest) := by
  have hunlines : ∀ cs, unlines (cs :: rest) = cs ++ '\n' :: unlines rest := by simp [unlines]
  obtain ⟨digits, after, rfl, hdigits, hstop⟩ := exists_run Char.isDigit line
  have hstop' : Stops Char.isDigit (after ++ '\n' :: unlines rest) := by
    cases after with
    | nil => exact stops_cons.mpr rfl
    | cons c after => exact stops_cons.mpr (stops_cons.mp hstop)
  have hafter : '\n' ∉ after := fun hmem => hline (List.mem_append_right _ hmem)
  rw [hunlines, List.append_assoc, countReader, readCount, takeWhile_append hdigits hstop,
    dropWhile_append hdigits hstop]
  cases hn : (Number.nat? digits).filter (· < countBound) with
  | none =>
      have hnumber : number countBound (digits ++ (after ++ '\n' :: unlines rest)) =
          .error ⟨String.ofList (digits ++ (after ++ '\n' :: unlines rest)), .digit⟩ := by
        rw [number, takeWhile_append hdigits hstop', hn]
        rfl
      rw [bind_of_error hnumber, hunlines, List.append_assoc]
      rfl
  | some n =>
      have hnumber : number countBound (digits ++ (after ++ '\n' :: unlines rest)) =
          .ok (n, after ++ '\n' :: unlines rest) := by
        rw [number, takeWhile_append hdigits hstop', hn, dropWhile_append hdigits hstop']
      rw [bind_of_ok hnumber]
      dsimp only
      by_cases hend : LineEnd after
      · have hread : lineEnd (after ++ '\n' :: unlines rest) = .ok ((), unlines rest) :=
          (takesLine_lineEnd.eq_ok_iff hafter).mpr ⟨rfl, hend⟩
        rw [bind_of_ok hread, if_pos (isBlankLine_iff.mpr ((lineEnd_dropWhile after).mpr hend))]
        rfl
      · have hfault := lineEnd_eq_error (unlines rest) hafter hend
        have hno : ¬ isBlankLine (after.dropWhile isBlank) = true := fun h =>
          hend ((lineEnd_dropWhile after).mp (isBlankLine_iff.mp h))
        rw [bind_of_error hfault, if_neg hno, hunlines]
        rfl

/-- Lines after the first are read as the alternatives have them. -/
theorem whole_many_eq {announced : Nat} {rest : List (List Char)} (h : ∀ line ∈ rest, '\n' ∉ line) :
    ((whole (many lineReader) (unlines rest)).map fun p =>
        WordList.ofEntries ((p.1.filterMap id).map EntryLine.entry)) =
      (readEntries announced rest).value := by
  rw [readEntries]
  rcases takesLine_line.whole_many_unlines h with ⟨hdrop, hread⟩ | ⟨bad, after, hdrop, hread⟩
  · have hall : rest.takeWhile isReadable = rest :=
      List.takeWhile_eq_self_iff.mpr (List.dropWhile_eq_nil_iff.mp hdrop)
    rw [hread, show rest.dropWhile isReadable = [] from hdrop, entryLines, hall]
    simp only [Except.map, List.filterMap_filterMap, Except.ok.injEq]
    refine congrArg (fun read => ofEntries ((List.filterMap read _).map _)) (funext fun line => ?_)
    cases readLine? line <;> rfl
  · rw [hread, show rest.dropWhile isReadable = bad :: after from hdrop]
    rfl

/-- **The word list of a text is what the alternatives read, and its fault is theirs.** -/
theorem readList_eq (text : String) : readList text = (parse text).value := by
  have hunlines : unlines (lines (terminated text.toList)) = terminated text.toList :=
    unlines_lines (getLast?_terminated _)
  have hlines : ∀ line ∈ lines (terminated text.toList), '\n' ∉ line := fun line =>
    newline_not_mem_of_mem_lines
  rw [readList, parse]
  cases hcases : lines (terminated text.toList) with
  | nil =>
      rw [hcases] at hunlines
      rw [← hunlines]
      rfl
  | cons first rest =>
      rw [hcases] at hunlines hlines
      obtain ⟨hfirst, hrest⟩ := List.forall_mem_cons.mp hlines
      rw [← hunlines, countReader_eq hfirst]
      dsimp only
      cases readCount first rest with
      | error fault => rfl
      | ok announced => exact whole_many_eq hrest

end Spelling.WordList
