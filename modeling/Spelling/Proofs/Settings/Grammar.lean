import Spelling.Proofs.WordList.Lines
import Spelling.Settings.Directive

/-!
# The grammar of settings texts

What may stand in the lines of a settings text, written as rules and apart from how it is read:

    line         directive line, or idle line
    directive    blank* name value? line-end
    name         ( A to Z or _ )+
    value        blank+ ( no blank, no # )+
    idle         # anything, or blank*

Blanks, comments and the ends of lines are those of word lists.  A comment takes a whole line only
from its start, and no comment stands behind blanks alone.  A line is read exactly as these rules
have it (`readLine?_of_directiveText`, `readLine?_of_idleText`, `isReadable_iff`).
-/

namespace Spelling.Settings

open WordList (Blank Inner Comment LineEnd Stops)

/-! ## Rules -/

/-- A capital ASCII letter or an underscore. -/
def NameChar (c : Char) : Prop := c.isUpper = true ∨ c = '_'

/-- A value after blanks, or none. -/
inductive ValueText : List Char → Option String → Prop
  | none : ValueText [] none
  | some {blanks value : List Char} : blanks ≠ [] → (∀ c ∈ blanks, Blank c) → value ≠ [] →
      (∀ c ∈ value, Inner c) → ValueText (blanks ++ value) (some (String.ofList value))

/-- A line that writes a directive. -/
inductive DirectiveText : List Char → Directive → Prop
  | intro {blanks name valueText tail : List Char} {value? : Option String} :
      (∀ c ∈ blanks, Blank c) → name ≠ [] → (∀ c ∈ name, NameChar c) → ValueText valueText value? →
      LineEnd tail →
      DirectiveText (blanks ++ (name ++ (valueText ++ tail))) ⟨String.ofList name, value?⟩

/-- A line without a directive. -/
inductive IdleText : List Char → Prop
  | comment (text : List Char) : IdleText ('#' :: text)
  | blank {blanks : List Char} : (∀ c ∈ blanks, Blank c) → IdleText blanks

/-- A line of a settings text. -/
def IsLine (line : List Char) : Prop :=
  IdleText line ∨ ∃ d, DirectiveText line d

/-- Lines, and the directives that they write. -/
inductive LinesText : List (List Char) → List Directive → Prop
  | nil : LinesText [] []
  | idle {line : List Char} {lines : List (List Char)} {ds : List Directive} : IdleText line →
      LinesText lines ds → LinesText (line :: lines) ds
  | directive {line : List Char} {lines : List (List Char)} {d : Directive} {ds : List Directive} :
      DirectiveText line d → LinesText lines ds → LinesText (line :: lines) (d :: ds)

/-- The lines of a text, which gets a line feed at its end if it has none. -/
structure LinesOf (text : String) (lines : List (List Char)) : Prop where
  unlines : Text.unlines lines = Text.terminated text.toList
  noFeed : ∀ line ∈ lines, '\n' ∉ line

/-- The directives that a text writes, line by line. -/
def Writes (text : String) (ds : List Directive) : Prop :=
  ∃ lines, LinesOf text lines ∧ LinesText lines ds

/-! ## Characters -/

theorem isNameChar_iff {c : Char} : Directive.isNameChar c = true ↔ NameChar c := by
  simp [Directive.isNameChar, NameChar]

theorem NameChar.inner {c : Char} (h : NameChar c) : Inner c := by
  refine ⟨?_, ?_⟩
  · rintro (rfl | rfl) <;> rcases h with h | h <;> exact absurd h (by decide)
  · rintro rfl
    rcases h with h | h <;> exact absurd h (by decide)

theorem all_isNameChar_iff {name : List Char} :
    name.all Directive.isNameChar = true ↔ ∀ c ∈ name, NameChar c := by
  simp only [List.all_eq_true, isNameChar_iff]

/-! ## Fields -/

/-- A text is blank, or its first field stands behind blanks and goes up to a blank or to the
end. -/
theorem blank_or_exists_field (cs : List Char) :
    (∀ c ∈ cs, Blank c) ∨ ∃ blanks run rest, cs = blanks ++ (run ++ rest) ∧
      (∀ c ∈ blanks, Blank c) ∧ run ≠ [] ∧ (∀ c ∈ run, ¬ Blank c) ∧
      Stops (!Text.isBlank ·) rest ∧ Text.fields cs = run :: Text.fields rest := by
  obtain ⟨blanks, after, rfl, hblanks, hafter⟩ := WordList.exists_run Text.isBlank cs
  have hblanks : ∀ c ∈ blanks, Blank c := fun c hc => WordList.isBlank_iff.mp (hblanks c hc)
  obtain ⟨run, rest, rfl, hrun, hrest⟩ := WordList.exists_run (!Text.isBlank ·) after
  cases run with
  | nil =>
      -- Neither a blank nor another character comes next, so the text is at its end.
      cases rest with
      | cons c rest => simp [WordList.stops_cons.mp hafter, WordList.stops_cons] at hrest
      | nil => exact .inl (by simpa using hblanks)
  | cons c run =>
      have hinner : ∀ d ∈ c :: run, ¬ Blank d := fun d hd =>
        WordList.isBlank_eq_false_iff.mp (by simpa using hrun d hd)
      refine .inr ⟨blanks, c :: run, rest, rfl, hblanks, List.cons_ne_nil c run, hinner, hrest, ?_⟩
      rw [WordList.fields_blanks_append hblanks,
        WordList.fields_append (List.cons_ne_nil c run) hinner hrest]

theorem blanks_of_fields_nil {cs : List Char} (h : Text.fields cs = []) : ∀ c ∈ cs, Blank c := by
  rcases blank_or_exists_field cs with hcs | ⟨_, _, _, -, -, -, -, -, hfields⟩
  · exact hcs
  · rw [hfields] at h
    cases h

theorem exists_of_fields_cons {cs run : List Char} {more : List (List Char)}
    (h : Text.fields cs = run :: more) :
    ∃ blanks rest, cs = blanks ++ (run ++ rest) ∧ (∀ c ∈ blanks, Blank c) ∧ run ≠ [] ∧
      (∀ c ∈ run, ¬ Blank c) ∧ Stops (!Text.isBlank ·) rest ∧ Text.fields rest = more := by
  rcases blank_or_exists_field cs with hcs | ⟨blanks, first, rest, hcs, hblanks, hfirst⟩
  · rw [WordList.fields_of_blanks hcs] at h
    cases h
  · obtain ⟨hne, hrun, hstop, hfields⟩ := hfirst
    rw [hfields] at h
    obtain ⟨rfl, rfl⟩ := List.cons.inj h
    exact ⟨blanks, rest, hcs, hblanks, hne, hrun, hstop, rfl⟩

theorem inner_of_content {line run : List Char} (hsub : ∀ c ∈ run, c ∈ Text.content line)
    (hrun : ∀ c ∈ run, ¬ Blank c) : ∀ c ∈ run, Inner c := fun c hc =>
  ⟨hrun c hc, WordList.ne_hash_of_mem_content line c (hsub c hc)⟩

/-! ## Directives -/

theorem directiveText_of_name {line name : List Char}
    (hfields : Text.fields (Text.content line) = [name]) (hname : ∀ c ∈ name, NameChar c) :
    DirectiveText line ⟨String.ofList name, none⟩ := by
  obtain ⟨comment, hcomment, hline⟩ := WordList.exists_comment line
  obtain ⟨blanks, rest, hcontent, hblanks, hne, -, -, hrest⟩ := exists_of_fields_cons hfields
  rw [← hline, hcontent, List.append_assoc, List.append_assoc, ← List.nil_append (rest ++ _)]
  exact .intro hblanks hne hname .none (.intro (blanks_of_fields_nil hrest) hcomment)

theorem directiveText_of_value {line name value : List Char}
    (hfields : Text.fields (Text.content line) = [name, value])
    (hname : ∀ c ∈ name, NameChar c) :
    DirectiveText line ⟨String.ofList name, some (String.ofList value)⟩ := by
  obtain ⟨comment, hcomment, hline⟩ := WordList.exists_comment line
  obtain ⟨blanks, rest, hcontent, hblanks, hne, -, hstop, hrest⟩ := exists_of_fields_cons hfields
  obtain ⟨between, last, rfl, hbetween, hvalue, hrun, -, hlast⟩ := exists_of_fields_cons hrest
  have hinner : ∀ c ∈ value, Inner c :=
    inner_of_content (fun c hc => by rw [hcontent]; simp [hc]) hrun
  have hparted : between ≠ [] := by
    rintro rfl
    obtain ⟨c, value, rfl⟩ := List.exists_cons_of_ne_nil hvalue
    have hblank : Text.isBlank c = true := by simpa using WordList.stops_cons.mp hstop
    exact hrun c List.mem_cons_self (WordList.isBlank_iff.mp hblank)
  rw [← hline, hcontent]
  simp only [List.append_assoc]
  rw [← List.append_assoc between]
  exact .intro hblanks hne hname (.some hparted hbetween hvalue hinner)
    (.intro (blanks_of_fields_nil hlast) hcomment)

theorem directiveText_of_fields {line : List Char} {d : Directive}
    (h : Directive.ofFields? (Text.fields (Text.content line)) = some d) :
    DirectiveText line d := by
  unfold Directive.ofFields? at h
  split at h
  · next name hfields =>
    split at h
    · next hname =>
      cases h
      exact directiveText_of_name hfields (all_isNameChar_iff.mp hname)
    · cases h
  · next name value hfields =>
    split at h
    · next hname =>
      cases h
      exact directiveText_of_value hfields (all_isNameChar_iff.mp hname)
    · cases h
  · cases h

theorem ValueText.fields {valueText blanks : List Char} {value? : Option String}
    (h : ValueText valueText value?) (hblanks : ∀ c ∈ blanks, Blank c) :
    Stops (!Text.isBlank ·) (valueText ++ blanks) ∧
      (Text.fields (valueText ++ blanks)).map String.ofList = value?.toList := by
  have hstop : ∀ cs : List Char, (∀ c ∈ cs.head?, Blank c) → Stops (!Text.isBlank ·) cs := by
    intro cs hcs c hc
    simpa using WordList.isBlank_iff.mpr (hcs c hc)
  cases h with
  | none =>
      refine ⟨hstop _ fun c hc => hblanks c (List.mem_of_mem_head? hc), ?_⟩
      rw [List.nil_append, WordList.fields_of_blanks hblanks]
      rfl
  | some hne hbetween hvalue hinner =>
      rename_i between value
      constructor
      · obtain ⟨b, between, rfl⟩ := List.exists_cons_of_ne_nil hne
        refine hstop _ fun c hc => ?_
        obtain rfl : b = c := by simpa using hc
        exact hbetween b List.mem_cons_self
      · rw [List.append_assoc, WordList.fields_blanks_append hbetween,
          WordList.fields_append hvalue (fun c hc => (hinner c hc).1)
            (hstop _ fun c hc => hblanks c (List.mem_of_mem_head? hc)),
          WordList.fields_of_blanks hblanks]
        rfl

theorem ValueText.ne_hash {valueText : List Char} {value? : Option String}
    (h : ValueText valueText value?) : ∀ c ∈ valueText, c ≠ '#' := by
  cases h with
  | none => simp
  | some _ hbetween _ hinner =>
      rw [List.forall_mem_append]
      exact ⟨fun c hc => (hbetween c hc).ne_hash, fun c hc => (hinner c hc).2⟩

theorem fields_of_directiveText {line : List Char} {d : Directive} (h : DirectiveText line d) :
    Directive.ofFields? (Text.fields (Text.content line)) = some d := by
  obtain ⟨hblanks, hne, hname, hvalue, ⟨hlast, hcomment⟩⟩ := h
  rename_i blanks name valueText value? last comment
  have hhash : ∀ c ∈ blanks ++ (name ++ (valueText ++ last)), c ≠ '#' := by
    simp only [List.forall_mem_append]
    exact ⟨fun c hc => (hblanks c hc).ne_hash, fun c hc => (hname c hc).inner.2,
      hvalue.ne_hash, fun c hc => (hlast c hc).ne_hash⟩
  have hcontent := WordList.content_append hhash hcomment
  simp only [List.append_assoc] at hcontent
  obtain ⟨hstop, hfields⟩ := hvalue.fields hlast
  rw [hcontent, WordList.fields_blanks_append hblanks,
    WordList.fields_append hne (fun c hc => (hname c hc).inner.1) hstop]
  have hall := all_isNameChar_iff.mpr hname
  cases value? with
  | none =>
      rw [Option.toList_none, List.map_eq_nil_iff] at hfields
      rw [hfields]
      exact if_pos hall
  | some value =>
      obtain ⟨v, hv, rfl⟩ := List.map_eq_singleton_iff.mp hfields
      rw [hv]
      exact if_pos hall

/-! ## Lines -/

theorem isIdle_iff {line : List Char} : Directive.isIdle line = true ↔ IdleText line := by
  simp only [Directive.isIdle, Bool.or_eq_true, beq_iff_eq, List.all_eq_true,
    WordList.isBlank_iff]
  constructor
  · rintro (h | h)
    · cases line with
      | nil => cases h
      | cons c text =>
          obtain rfl : c = '#' := Option.some.inj h
          exact .comment text
    · exact .blank h
  · rintro (⟨text⟩ | h)
    · exact .inl rfl
    · exact .inr h

/-- A line that writes a directive is not idle: a character of the name comes first, but for
blanks. -/
theorem DirectiveText.not_idle {line : List Char} {d : Directive} (h : DirectiveText line d) :
    ¬ IdleText line := by
  obtain ⟨hblanks, hne, hname, -, -⟩ := h
  rename_i blanks name _ _ _
  obtain ⟨c, name, rfl⟩ := List.exists_cons_of_ne_nil hne
  have hinner : Inner c := (hname c List.mem_cons_self).inner
  intro hidle
  generalize hline : blanks ++ (c :: name ++ (_ ++ _)) = line at hidle
  cases hidle with
  | comment text =>
      cases blanks with
      | nil => exact hinner.2 (List.cons.inj hline).1
      | cons b blanks => exact (hblanks b List.mem_cons_self).ne_hash (List.cons.inj hline).1
  | blank hall => exact hinner.1 (hall c (by simp [← hline]))

theorem readLine?_of_idleText {line : List Char} (h : IdleText line) :
    Directive.readLine? line = some none := by
  rw [Directive.readLine?, if_pos (isIdle_iff.mpr h)]

theorem readLine?_of_directiveText {line : List Char} {d : Directive}
    (h : DirectiveText line d) : Directive.readLine? line = some (some d) := by
  rw [Directive.readLine?, if_neg (fun hidle => h.not_idle (isIdle_iff.mp hidle)),
    fields_of_directiveText h, Option.map_some]

/-- **A line is read exactly if the grammar has it.** -/
theorem isReadable_iff {line : List Char} : isReadable line = true ↔ IsLine line := by
  rw [isReadable]
  constructor
  · intro h
    rw [Directive.readLine?] at h
    split at h
    · next hidle => exact .inl (isIdle_iff.mp hidle)
    · rw [Option.isSome_map, Option.isSome_iff_exists] at h
      obtain ⟨d, hd⟩ := h
      exact .inr ⟨d, directiveText_of_fields hd⟩
  · rintro (h | ⟨d, h⟩)
    · rw [readLine?_of_idleText h]
      rfl
    · rw [readLine?_of_directiveText h]
      rfl

end Spelling.Settings
