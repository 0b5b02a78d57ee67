import Spelling.Proofs.WordList.Grammar

/-!
# Lines are read as the grammar has them

Reading takes a line apart from the left, each time the longest run of some characters.  The rules
let nothing else be read.

    first line   as a line that announces a number      readCount_eq_ok_iff
    other line   as blank                               isBlankLine_iff
                 as an entry                            ofLine?_eq_some_iff

A field keeps no text back and gives none away, since a run ends at a blank and a field has none.
-/

namespace Spelling.WordList

/-! ## Runs of characters

A run is taken up to the first character that does not belong to it.
-/

/-- The text is empty or begins with a character that does not belong to the run. -/
def Stops (p : Char → Bool) (rest : List Char) : Prop :=
  ∀ c ∈ rest.head?, p c = false

theorem stops_nil (p : Char → Bool) : Stops p [] := by
  simp [Stops]

theorem stops_cons {p : Char → Bool} {c : Char} {rest : List Char} :
    Stops p (c :: rest) ↔ p c = false := by
  simp [Stops]

theorem stops_dropWhile (p : Char → Bool) (cs : List Char) : Stops p (cs.dropWhile p) := by
  intro c hc
  have h := List.head?_dropWhile_not p cs
  rw [Option.mem_def.mp hc] at h
  simpa using h

theorem takeWhile_append {p : Char → Bool} {run rest : List Char} (hrun : ∀ c ∈ run, p c = true)
    (hstop : Stops p rest) : (run ++ rest).takeWhile p = run := by
  rw [List.takeWhile_append_of_pos hrun]
  cases rest with
  | nil => simp
  | cons c rest => simp [stops_cons.mp hstop]

theorem dropWhile_append {p : Char → Bool} {run rest : List Char} (hrun : ∀ c ∈ run, p c = true)
    (hstop : Stops p rest) : (run ++ rest).dropWhile p = rest := by
  rw [List.dropWhile_append_of_pos hrun]
  cases rest with
  | nil => rfl
  | cons c rest => simp [stops_cons.mp hstop]

/-- Every text begins with a run, which may be empty. -/
theorem exists_run (p : Char → Bool) (cs : List Char) :
    ∃ run rest, run ++ rest = cs ∧ (∀ c ∈ run, p c = true) ∧ Stops p rest :=
  ⟨cs.takeWhile p, cs.dropWhile p, List.takeWhile_append_dropWhile,
    List.all_eq_true.mp List.all_takeWhile, stops_dropWhile p cs⟩

/-! ## Ends of lines -/

theorem Comment.stops {comment : List Char} (h : Comment comment) : Stops (· != '#') comment := by
  cases h with
  | none => exact stops_nil _
  | some text => simp [stops_cons]

theorem content_append {cs comment : List Char} (hcs : ∀ c ∈ cs, c ≠ '#') (h : Comment comment) :
    Text.content (cs ++ comment) = cs :=
  takeWhile_append (by simpa using hcs) h.stops

theorem ne_hash_of_mem_content (line : List Char) : ∀ c ∈ Text.content line, c ≠ '#' := by
  intro c hc
  simpa using List.all_eq_true.mp List.all_takeWhile c hc

/-- The end of a line ends every run without blanks and comments. -/
theorem LineEnd.stops {p : Char → Bool} {tail : List Char} (h : LineEnd tail)
    (hspace : p ' ' = false) (htab : p '\t' = false) (hhash : p '#' = false) : Stops p tail := by
  obtain ⟨hblanks, hcomment⟩ := h
  rename_i blanks comment
  cases blanks with
  | nil =>
      cases hcomment with
      | none => exact stops_nil p
      | some text => exact stops_cons.mpr hhash
  | cons c blanks =>
      rcases hblanks c List.mem_cons_self with rfl | rfl
      · exact stops_cons.mpr hspace
      · exact stops_cons.mpr htab

/-- A line is its content and a comment. -/
theorem exists_comment (line : List Char) :
    ∃ comment, Comment comment ∧ Text.content line ++ comment = line := by
  refine ⟨line.dropWhile (· != '#'), ?_, List.takeWhile_append_dropWhile⟩
  have hstop := stops_dropWhile (· != '#') line
  cases hdrop : line.dropWhile (· != '#') with
  | nil => exact .none
  | cons c text =>
      rw [hdrop, stops_cons] at hstop
      obtain rfl : c = '#' := by simpa using hstop
      exact .some text

/-- A line is found to be blank where it is only the end of a line. -/
theorem isBlankLine_iff {line : List Char} : Text.isBlankLine line = true ↔ LineEnd line := by
  rw [Text.isBlankLine, List.all_eq_true]
  constructor
  · intro h
    obtain ⟨comment, hcomment, hline⟩ := exists_comment line
    rw [← hline]
    exact .intro (fun c hc => isBlank_iff.mp (h c hc)) hcomment
  · rintro ⟨hblanks, hcomment⟩ c hc
    rw [content_append (fun c hc => (hblanks c hc).ne_hash) hcomment] at hc
    exact isBlank_iff.mpr (hblanks c hc)

/-- Blanks before the end of a line belong to it. -/
theorem lineEnd_append {blanks rest : List Char} (hblanks : ∀ c ∈ blanks, Blank c) :
    LineEnd (blanks ++ rest) ↔ LineEnd rest := by
  have hcontent : Text.content (blanks ++ rest) = blanks ++ Text.content rest :=
    List.takeWhile_append_of_pos (by simpa using fun c hc => (hblanks c hc).ne_hash)
  have hall : blanks.all Text.isBlank = true :=
    List.all_eq_true.mpr fun c hc => isBlank_iff.mpr (hblanks c hc)
  rw [← isBlankLine_iff, ← isBlankLine_iff, Text.isBlankLine, hcontent, List.all_append, hall,
    Bool.true_and, Text.isBlankLine]

theorem lineEnd_dropWhile (cs : List Char) :
    LineEnd (cs.dropWhile Text.isBlank) ↔ LineEnd cs := by
  conv_rhs => rw [← List.takeWhile_append_dropWhile (p := Text.isBlank) (l := cs)]
  refine (lineEnd_append fun c hc => isBlank_iff.mp ?_).symm
  exact List.all_eq_true.mp List.all_takeWhile c hc

/-! ## The first line -/

/-- **A first line is read exactly as a line that announces a number.** -/
theorem readCount_eq_ok_iff {line : List Char} {rest : List (List Char)} {n : Nat} :
    readCount line rest = .ok n ↔ CountLine line n := by
  have hrest := lineEnd_dropWhile (line.dropWhile Char.isDigit)
  rw [readCount]
  constructor
  · intro h
    split at h
    · cases h
    · next m hm =>
      obtain ⟨hdigits, hbound⟩ := Option.filter_eq_some_iff.mp hm
      dsimp only at h
      split at h
      · next hend =>
        cases h
        rw [← List.takeWhile_append_dropWhile (p := Char.isDigit) (l := line)]
        exact .intro (nat?_eq_some_iff.mp hdigits) (of_decide_eq_true hbound)
          (hrest.mp (isBlankLine_iff.mp hend))
      · cases h
  · rintro ⟨hdigits, hbound, hend⟩
    rename_i digits tail
    have hstop : Stops Char.isDigit tail := hend.stops rfl rfl rfl
    have hall := hdigits.isDigit
    rw [takeWhile_append hall hstop, nat?_eq_some_iff.mpr hdigits,
      Option.filter_some, if_pos (decide_eq_true (show n < countBound from hbound))]
    rw [dropWhile_append hall hstop] at hrest ⊢
    dsimp only
    rw [if_pos (isBlankLine_iff.mpr (hrest.mpr hend))]

/-! ## Fields -/

theorem FieldText.ne_nil {text : List Char} {f : Field} (h : FieldText text f) : text ≠ [] := by
  cases h <;> exact List.cons_ne_nil _ _

theorem FieldText.inner {text : List Char} {f : Field} (h : FieldText text f) :
    ∀ c ∈ text, Inner c := by
  have hletter : ∀ c ∈ ['f', 'q', 'b', 'g', ':'], Inner c := by
    simp [Inner, Blank]
  cases h with
  | frequency hdigits _ =>
      simp only [List.forall_mem_cons]
      exact ⟨hletter _ (by simp), hletter _ (by simp), hletter _ (by simp),
        fun c hc => inner_of_isDigit (hdigits.isDigit c hc)⟩
  | follows _ hword =>
      simp only [List.forall_mem_cons]
      exact ⟨hletter _ (by simp), hletter _ (by simp), hletter _ (by simp), hword⟩

/-- A run without blanks and comments is read exactly as a field. -/
theorem ofChars?_eq_some_iff {text : List Char} {f : Field} (hinner : ∀ c ∈ text, Inner c) :
    Field.ofChars? text = some f ↔ FieldText text f := by
  constructor
  · intro h
    unfold Field.ofChars? at h
    split at h
    · obtain ⟨n, hn, rfl⟩ := Option.map_eq_some_iff.mp h
      obtain ⟨hdigits, hbound⟩ := Option.filter_eq_some_iff.mp hn
      exact .frequency (nat?_eq_some_iff.mp hdigits) (of_decide_eq_true hbound)
    · next word =>
      split at h
      · cases h
      · next hempty =>
        cases h
        simp only [List.forall_mem_cons] at hinner
        exact .follows (by simpa using hempty) hinner.2.2.2
    · cases h
  · intro h
    cases h with
    | frequency hdigits hbound =>
        rw [Field.ofChars?, nat?_eq_some_iff.mpr hdigits, Option.filter_some,
          if_pos (decide_eq_true hbound), Option.map_some]
    | follows hne _ =>
        rw [Field.ofChars?, if_neg (by simpa using hne)]

theorem fieldsAfter_append {part run rest : List Char} (hrun : ∀ c ∈ run, ¬ Blank c) :
    Text.fieldsAfter part (run ++ rest) = Text.fieldsAfter (part ++ run) rest := by
  induction run generalizing part with
  | nil => simp
  | cons c run ih =>
      obtain ⟨hc, hrun⟩ := List.forall_mem_cons.mp hrun
      rw [List.cons_append, Text.fieldsAfter, if_neg (by simpa [isBlank_iff] using hc), ih hrun,
        List.append_assoc, List.singleton_append]

theorem fields_blanks_append {blanks rest : List Char} (hblanks : ∀ c ∈ blanks, Blank c) :
    Text.fields (blanks ++ rest) = Text.fields rest := by
  induction blanks with
  | nil => rfl
  | cons c blanks ih =>
      obtain ⟨hc, hblanks⟩ := List.forall_mem_cons.mp hblanks
      rw [← ih hblanks, List.cons_append, Text.fields, Text.fieldsAfter,
        if_pos (isBlank_iff.mpr hc)]
      rfl

theorem fields_of_blanks {blanks : List Char} (hblanks : ∀ c ∈ blanks, Blank c) :
    Text.fields blanks = [] := by
  rw [← List.append_nil blanks, fields_blanks_append hblanks]
  rfl

/-- A run without blanks, up to a blank or the end, is one field. -/
theorem fields_append {run rest : List Char} (hne : run ≠ []) (hrun : ∀ c ∈ run, ¬ Blank c)
    (hstop : Stops (!Text.isBlank ·) rest) :
    Text.fields (run ++ rest) = run :: Text.fields rest := by
  have hempty : run.isEmpty = false := List.isEmpty_eq_false_iff.mpr hne
  rw [Text.fields, fieldsAfter_append hrun, List.nil_append]
  cases rest with
  | nil => simp [Text.fieldsAfter, Text.fields, hempty]
  | cons c rest =>
      have hc : Text.isBlank c = true := by simpa using stops_cons.mp hstop
      simp [Text.fieldsAfter, Text.fields, hempty, hc]

/-- Fields and blanks begin with a blank, if anything. -/
theorem FieldsText.stops {text blanks : List Char} {fs : List Field} (h : FieldsText text fs)
    (hblanks : ∀ c ∈ blanks, Blank c) : Stops (!Text.isBlank ·) (text ++ blanks) := by
  intro c hc
  have hblank : Blank c := by
    cases h with
    | nil => exact hblanks c (List.mem_of_mem_head? hc)
    | cons hne hfirst _ _ =>
        rename_i first _ _ _ _
        obtain ⟨d, first, rfl⟩ := List.exists_cons_of_ne_nil hne
        obtain rfl : d = c := by simpa using hc
        exact hfirst d List.mem_cons_self
  simpa using isBlank_iff.mpr hblank

theorem FieldsText.mapM_fields {text blanks : List Char} {fs : List Field} (h : FieldsText text fs)
    (hblanks : ∀ c ∈ blanks, Blank c) :
    (Text.fields (text ++ blanks)).mapM Field.ofChars? = some fs := by
  induction h with
  | nil =>
      rw [List.nil_append, fields_of_blanks hblanks]
      rfl
  | cons _ hfirst htext hrest ih =>
      rw [List.append_assoc, fields_blanks_append hfirst, List.append_assoc,
        fields_append htext.ne_nil (fun c hc => (htext.inner c hc).1) (hrest.stops hblanks),
        List.mapM_cons, (ofChars?_eq_some_iff htext.inner).mpr htext, ih]
      rfl

/-- What is read as fields, from a blank on, is fields and blanks. -/
theorem exists_fieldsText {rest : List Char} {fs : List Field} (hhash : ∀ c ∈ rest, c ≠ '#')
    (hstop : Stops (!Text.isBlank ·) rest)
    (h : (Text.fields rest).mapM Field.ofChars? = some fs) :
    ∃ text blanks, text ++ blanks = rest ∧ FieldsText text fs ∧ ∀ c ∈ blanks, Blank c := by
  induction hlength : rest.length using Nat.strongRecOn generalizing rest fs with
  | ind length ih =>
    obtain ⟨blanks, after, rfl, hblanks, hafter⟩ := exists_run Text.isBlank rest
    have hblanks : ∀ c ∈ blanks, Blank c := fun c hc => isBlank_iff.mp (hblanks c hc)
    rw [fields_blanks_append hblanks] at h
    obtain ⟨run, more, rfl, hrun, hmore⟩ := exists_run (!Text.isBlank ·) after
    cases run with
    | nil =>
        -- Neither a blank nor another character comes next, so the text is at its end.
        cases more with
        | cons c more => simp [stops_cons.mp hafter, stops_cons] at hmore
        | nil =>
            obtain rfl : [] = fs := by simpa [Text.fields, Text.fieldsAfter] using h
            exact ⟨[], blanks, by simp, .nil, hblanks⟩
    | cons c run =>
        have hinner : ∀ d ∈ c :: run, Inner d := fun d hd =>
          ⟨isBlank_eq_false_iff.mp (by simpa using hrun d hd),
            hhash d (List.mem_append_right _ (List.mem_append_left _ hd))⟩
        rw [fields_append (List.cons_ne_nil c run) (fun d hd => (hinner d hd).1) hmore,
          List.mapM_cons] at h
        obtain ⟨f, hf, h⟩ := Option.bind_eq_some_iff.mp h
        obtain ⟨gs, hgs, h⟩ := Option.bind_eq_some_iff.mp h
        obtain rfl : f :: gs = fs := by simpa using h
        obtain ⟨text, last, rfl, htext, hlast⟩ := ih more.length (by simp at hlength; omega)
          (fun d hd => hhash d (by simp [hd])) hmore hgs rfl
        have hne : blanks ≠ [] := by
          rintro rfl
          simp [stops_cons, stops_cons.mp hafter] at hstop
        exact ⟨blanks ++ (c :: run ++ text), last, by simp,
          .cons hne hblanks ((ofChars?_eq_some_iff hinner).mp hf) htext, hlast⟩

/-! ## Entries -/

theorem FlagsText.ne_hash {text flags : List Char} (h : FlagsText text flags) :
    ∀ c ∈ text, c ≠ '#' := by
  cases h with
  | none => simp
  | some _ hflags =>
      rw [List.forall_mem_cons]
      exact ⟨by decide, fun c hc => (hflags c hc).2⟩

theorem FieldsText.ne_hash {text : List Char} {fs : List Field} (h : FieldsText text fs) :
    ∀ c ∈ text, c ≠ '#' := by
  induction h with
  | nil => simp
  | cons _ hblanks htext _ ih =>
      simp only [List.forall_mem_append]
      exact ⟨fun c hc => (hblanks c hc).ne_hash, fun c hc => (htext.inner c hc).2, ih⟩

/-- A word ends where its flags or fields begin, or at the end of the content. -/
theorem FlagsText.stops {text flags rest : List Char} (h : FlagsText text flags)
    (hrest : Stops (!Text.isBlank ·) rest) : Stops isWordPart (text ++ rest) := by
  cases h with
  | none =>
      intro c hc
      have hblank : Text.isBlank c = true := by simpa using hrest c hc
      simp [isWordPart, hblank]
  | some => exact stops_cons.mpr rfl

/-- Flags are split off exactly as they are written. -/
theorem splitFlags?_eq_some_iff {after flags rest : List Char} (hhash : ∀ c ∈ after, c ≠ '#')
    (hstop : Stops isWordPart after) :
    splitFlags? after = some (flags, rest) ↔
      ∃ text, text ++ rest = after ∧ FlagsText text flags ∧ Stops (!Text.isBlank ·) rest := by
  constructor
  · intro h
    unfold splitFlags? at h
    split at h
    · next rest' =>
      dsimp only at h
      split at h
      · cases h
      · next hempty =>
        cases h
        refine ⟨'/' :: rest'.takeWhile (!Text.isBlank ·), by simp, .some (by simpa using hempty) ?_,
          stops_dropWhile _ _⟩
        intro c hc
        refine ⟨isBlank_eq_false_iff.mp ?_, ?_⟩
        · simpa using List.all_eq_true.mp List.all_takeWhile c hc
        · exact hhash c (List.mem_cons_of_mem _ (List.takeWhile_subset _ hc))
    · next hslash =>
      cases h
      refine ⟨[], rfl, .none, ?_⟩
      cases after with
      | nil => exact stops_nil _
      | cons c after =>
          have hc := stops_cons.mp hstop
          rw [stops_cons]
          have : c ≠ '/' := by
            rintro rfl
            exact hslash after rfl
          simpa [isWordPart, this] using hc
  · rintro ⟨text, rfl, htext, hrest⟩
    cases htext with
    | none =>
        rw [List.nil_append]
        unfold splitFlags?
        split
        · simp [stops_cons, Text.isBlank] at hrest
        · rfl
    | some hne hflags =>
        have hall : ∀ c ∈ flags, (!Text.isBlank c) = true := by
          simpa [isBlank_eq_false_iff] using fun c hc => (hflags c hc).1
        rw [List.cons_append, splitFlags?]
        rw [takeWhile_append hall hrest, dropWhile_append hall hrest, if_neg (by simpa using hne)]

/-- **A line is read as an entry exactly if it writes it.** -/
theorem ofLine?_eq_some_iff {line : List Char} {e : EntryLine} :
    EntryLine.ofLine? line = some e ↔ EntryText line e := by
  constructor
  · intro h
    obtain ⟨comment, hcomment, hline⟩ := exists_comment line
    have hhash := ne_hash_of_mem_content line
    rw [EntryLine.ofLine?] at h
    obtain ⟨word, after, hcontent, hword, hafter⟩ := exists_run isWordPart (Text.content line)
    rw [← hcontent] at h hhash hline
    dsimp only at h
    rw [takeWhile_append hword hafter, dropWhile_append hword hafter] at h
    obtain ⟨⟨flags, rest⟩, hflags, h⟩ := Option.bind_eq_some_iff.mp h
    obtain ⟨fields, hfields, h⟩ := Option.bind_eq_some_iff.mp h
    split at h
    · cases h
    · next hempty =>
      cases h
      rw [List.forall_mem_append] at hhash
      obtain ⟨flagsText, rfl, hwritten, hrest⟩ :=
        (splitFlags?_eq_some_iff hhash.2 hafter).mp hflags
      rw [List.forall_mem_append] at hhash
      obtain ⟨fieldsText, blanks, rfl, hfields, hblanks⟩ :=
        exists_fieldsText hhash.2.2 hrest hfields
      rw [← hline]
      simp only [List.append_assoc]
      refine .intro (by simpa using hempty) (fun c hc => ?_) hwritten hfields
        (.intro hblanks hcomment)
      obtain ⟨hblank, hslash⟩ := isWordPart_iff.mp (hword c hc)
      exact ⟨⟨hblank, hhash.1 c hc⟩, hslash⟩
  · rintro ⟨hne, hword, hflags, hfields, ⟨hblanks, hcomment⟩⟩
    rename_i word flagsText flags fieldsText fields blanks comment
    have hhash : ∀ c ∈ flagsText ++ (fieldsText ++ blanks), c ≠ '#' := by
      simp only [List.forall_mem_append]
      exact ⟨hflags.ne_hash, hfields.ne_hash, fun c hc => (hblanks c hc).ne_hash⟩
    have hcontent := content_append
      (List.forall_mem_append.mpr ⟨fun c hc => (hword c hc).1.2, hhash⟩) hcomment
    simp only [List.append_assoc] at hcontent
    have hpart : ∀ c ∈ word, isWordPart c = true := fun c hc =>
      isWordPart_iff.mpr ⟨(hword c hc).1.1, (hword c hc).2⟩
    have hrest := hfields.stops hblanks
    have hstop := hflags.stops hrest
    have hsplit := (splitFlags?_eq_some_iff hhash hstop).mpr ⟨flagsText, rfl, hflags, hrest⟩
    rw [EntryLine.ofLine?, hcontent]
    dsimp only
    rw [takeWhile_append hpart hstop, dropWhile_append hpart hstop, hsplit]
    dsimp only [Option.bind_eq_bind, Option.bind_some]
    rw [hfields.mapM_fields hblanks, Option.bind_some, if_neg (by simpa using hne)]

/-- A line that writes an entry is not blank. -/
theorem EntryText.not_lineEnd {line : List Char} {e : EntryLine} (h : EntryText line e) :
    ¬ LineEnd line := by
  obtain ⟨hne, hword, -, -, -⟩ := h
  rename_i word _ _ _ _ _
  obtain ⟨c, word, rfl⟩ := List.exists_cons_of_ne_nil hne
  obtain ⟨hblank, hhash⟩ := (hword c List.mem_cons_self).1
  rw [← isBlankLine_iff, Text.isBlankLine, List.cons_append, Text.content,
    List.takeWhile_cons_of_pos (by simpa using hhash)]
  simp [isBlank_iff, hblank]

end Spelling.WordList
