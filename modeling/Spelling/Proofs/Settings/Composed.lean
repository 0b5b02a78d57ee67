import Spelling.Proofs.Settings.Meaning
import Spelling.Proofs.Settings.Reading

/-!
# Settings texts are put together line by line

What comes of a settings text:

    it breaks off                         the fault there, whatever its directives say
    the first faulty directive            its error
    each directive says a change          the standard settings with all changes, the last ones win

A text that ends in a line feed may be followed by any other text.  Then the directives of both
stand one after the other, and a fault in either is a fault of the whole
(`texts_compose_line_by_line`).

## What is not so

An error of the first text alone need not be the error of the whole: where its directive is faulty
and the second text breaks off, the whole breaks off.  Nor is `  # note` a comment: with blanks
before it, a line must hold a directive.
-/

namespace Spelling.Settings

/-! ## One directive after another -/

/-- Each directive says its change. -/
abbrev SaysAll (ds : List Directive) (changes : List Change) : Prop :=
  List.Forall₂ Says ds changes

/-- The first directive that says nothing, and what is wrong with it. -/
inductive FirstFaulty : List Directive → SettingsError → Prop
  | intro {before after : List Directive} {d : Directive} {e : SettingsError} :
      (∀ d ∈ before, ∃ c, Says d c) → Faulty d e → FirstFaulty (before ++ d :: after) e

theorem saysAll_or_firstFaulty (ds : List Directive) :
    (∃ changes, SaysAll ds changes) ∨ ∃ e, FirstFaulty ds e := by
  induction ds with
  | nil => exact .inl ⟨[], .nil⟩
  | cons d ds ih =>
      rcases says_or_faulty d with ⟨c, hc⟩ | ⟨e, he⟩
      · rcases ih with ⟨changes, hchanges⟩ | ⟨e, ⟨hbefore, he⟩⟩
        · exact .inl ⟨c :: changes, .cons hc hchanges⟩
        · refine .inr ⟨e, ?_⟩
          rw [← List.cons_append]
          exact .intro (List.forall_mem_cons.mpr ⟨⟨c, hc⟩, hbefore⟩) he
      · refine .inr ⟨e, ?_⟩
        rw [← List.nil_append (d :: ds)]
        exact .intro (by simp) he

theorem SaysAll.foldlM {ds : List Directive} {changes : List Change} (h : SaysAll ds changes)
    (s : Settings) : ds.foldlM Directive.apply s = .ok (changes.foldl Change.apply s) := by
  induction h generalizing s with
  | nil => rfl
  | cons hc _ ih =>
      rw [List.foldlM_cons, hc.apply, List.foldl_cons]
      exact ih _

theorem FirstFaulty.foldlM {ds : List Directive} {e : SettingsError} (h : FirstFaulty ds e)
    (s : Settings) : ds.foldlM Directive.apply s = .error e := by
  obtain ⟨hbefore, he⟩ := h
  rename_i before after d
  induction before generalizing s with
  | nil =>
      rw [List.nil_append, List.foldlM_cons, he.apply]
      rfl
  | cons d' before ih =>
      obtain ⟨⟨c, hc⟩, hbefore⟩ := List.forall_mem_cons.mp hbefore
      rw [List.cons_append, List.foldlM_cons, hc.apply]
      exact ih _ hbefore

theorem foldlM_eq_ok_iff {ds : List Directive} {s : Settings} :
    ds.foldlM Directive.apply standard = .ok s ↔
      ∃ changes, SaysAll ds changes ∧ s = Change.settled standard changes := by
  constructor
  · intro h
    rcases saysAll_or_firstFaulty ds with ⟨changes, hchanges⟩ | ⟨e, he⟩
    · rw [hchanges.foldlM, Change.foldl_apply] at h
      exact ⟨changes, hchanges, (Except.ok.inj h).symm⟩
    · rw [he.foldlM] at h
      cases h
  · rintro ⟨changes, hchanges, rfl⟩
    rw [hchanges.foldlM, Change.foldl_apply]

theorem foldlM_eq_error_iff {ds : List Directive} {e : SettingsError} :
    ds.foldlM Directive.apply standard = .error e ↔ FirstFaulty ds e := by
  refine ⟨fun h => ?_, fun h => h.foldlM standard⟩
  rcases saysAll_or_firstFaulty ds with ⟨changes, hchanges⟩ | ⟨e', he⟩
  · rw [hchanges.foldlM] at h
    cases h
  · obtain rfl : e' = e := Except.error.inj ((he.foldlM standard).symm.trans h)
    exact he

/-! ## One text -/

/-- A text breaks off, and is no settings text at all. -/
def Malformed (text : String) : Prop :=
  ∃ fault, parse text = .error (.parser fault)

theorem parse_of_breaksOff {text rest : String} (h : BreaksOff text rest) :
    parse text = .error (.parser ⟨rest, .eof⟩) := by
  rw [parse, directives_of_breaksOff h]

theorem parse_of_writes {text : String} {ds : List Directive} (h : Writes text ds) :
    parse text = ds.foldlM Directive.apply standard := by
  rw [parse, directives_of_writes h]

theorem FirstFaulty.not_parser {ds : List Directive} {e : SettingsError} (h : FirstFaulty ds e)
    (fault : Text.Fault) : e ≠ .parser fault := by
  obtain ⟨-, he⟩ := h
  rintro rfl
  cases he

/-- A text has a fault exactly where it breaks off. -/
theorem parse_eq_parser_iff {text : String} {fault : Text.Fault} :
    parse text = .error (.parser fault) ↔ ∃ rest, BreaksOff text rest ∧ fault = ⟨rest, .eof⟩ := by
  constructor
  · intro h
    rcases writes_or_breaksOff text with ⟨ds, hds⟩ | ⟨rest, hrest⟩
    · rw [parse_of_writes hds, foldlM_eq_error_iff] at h
      exact absurd rfl (h.not_parser fault)
    · rw [parse_of_breaksOff hrest] at h
      cases h
      exact ⟨rest, hrest, rfl⟩
  · rintro ⟨rest, hrest, rfl⟩
    exact parse_of_breaksOff hrest

theorem malformed_iff {text : String} : Malformed text ↔ ∃ rest, BreaksOff text rest := by
  simp [Malformed, parse_eq_parser_iff]

/-- A text that does not break off has the error of its first faulty directive. -/
theorem parse_eq_error_iff {text : String} {e : SettingsError} :
    (parse text = .error e ∧ ∀ fault, e ≠ .parser fault) ↔
      ∃ ds, Writes text ds ∧ FirstFaulty ds e := by
  constructor
  · rintro ⟨h, hne⟩
    rcases writes_or_breaksOff text with ⟨ds, hds⟩ | ⟨rest, hrest⟩
    · rw [parse_of_writes hds, foldlM_eq_error_iff] at h
      exact ⟨ds, hds, h⟩
    · rw [parse_of_breaksOff hrest] at h
      exact absurd (Except.error.inj h).symm (hne _)
  · rintro ⟨ds, hds, he⟩
    exact ⟨(parse_of_writes hds).trans (he.foldlM standard), he.not_parser⟩

/-- A text gives settings exactly if each of its directives says a change. -/
theorem parse_eq_ok_iff {text : String} {s : Settings} :
    parse text = .ok s ↔ ∃ ds changes, Writes text ds ∧ SaysAll ds changes ∧
      s = Change.settled standard changes := by
  constructor
  · intro h
    rcases writes_or_breaksOff text with ⟨ds, hds⟩ | ⟨rest, hrest⟩
    · rw [parse_of_writes hds, foldlM_eq_ok_iff] at h
      obtain ⟨changes, hchanges⟩ := h
      exact ⟨ds, changes, hds, hchanges⟩
    · rw [parse_of_breaksOff hrest] at h
      cases h
  · rintro ⟨ds, changes, hds, hchanges⟩
    rw [parse_of_writes hds]
    exact foldlM_eq_ok_iff.mpr ⟨changes, hchanges⟩

/-! ## One text after another -/

/-- Two texts write directives, in order. -/
def WritesBoth (a b : String) (ds : List Directive) : Prop :=
  ∃ before after, Writes a before ∧ Writes b after ∧ ds = before ++ after

/-- **Settings texts are put together line by line.**  Let a text end in a line feed, and another
follow it.  The whole is malformed exactly if one of the two is.  Its fault then has all that comes
from the first line on that is no directive, comment or blank line, whatever the directives say.
Else the directives of both stand in order: the first that is faulty gives the error, and if there
is none, each setting has the value of the last directive that changes it, or its standard value. -/
theorem texts_compose_line_by_line {a : String} (b : String)
    (ha : a.toList.getLast? = some '\n') :
    (Malformed (a ++ b) ↔ Malformed a ∨ Malformed b) ∧
    (∀ fault, parse (a ++ b) = .error (.parser fault) ↔
      ∃ rest, BreaksOff (a ++ b) rest ∧ fault = ⟨rest, .eof⟩) ∧
    (∀ e, (parse (a ++ b) = .error e ∧ ∀ fault, e ≠ .parser fault) ↔
      ∃ ds, WritesBoth a b ds ∧ FirstFaulty ds e) ∧
    ∀ s, parse (a ++ b) = .ok s ↔ ∃ ds changes, WritesBoth a b ds ∧ SaysAll ds changes ∧
      s = Change.settled standard changes := by
  have hboth : ∀ ds, Writes (a ++ b) ds ↔ WritesBoth a b ds := fun ds => writes_append ha
  refine ⟨?_, fun fault => parse_eq_parser_iff, fun e => ?_, fun s => ?_⟩
  · simp only [malformed_iff]
    exact exists_breaksOff_append ha
  · simp only [parse_eq_error_iff, hboth]
  · simp only [parse_eq_ok_iff, hboth]

/-- A count of zero is no error of its own where a later line breaks off. -/
theorem texts_compose_past_a_faulty_directive :
    "READERS 0\n".toList.getLast? = some '\n' ∧
      parse ("READERS 0\n" ++ "NOCONTACTS\nreaders 4\n") =
        .error (.parser ⟨"readers 4\n", .eof⟩) := by
  have hlines : LinesOf ("READERS 0\n" ++ "NOCONTACTS\nreaders 4\n")
      (["READERS 0".toList, "NOCONTACTS".toList] ++ ["readers 4".toList]) :=
    linesOf_iff.mpr rfl
  have hgood : ∀ line ∈ ["READERS 0".toList, "NOCONTACTS".toList], IsLine line := by
    simp only [List.forall_mem_cons, ← isReadable_iff]
    exact ⟨rfl, rfl, by simp⟩
  have hbad : ¬ IsLine "readers 4".toList := by
    rw [← isReadable_iff]
    decide
  have hend : "READERS 0\n".toList.getLast? = some '\n' := rfl
  obtain ⟨-, hparser, -⟩ := texts_compose_line_by_line "NOCONTACTS\nreaders 4\n" hend
  exact ⟨hend, (hparser _).mpr ⟨_, .intro hlines hgood hbad, rfl⟩⟩

example : (parse ("READERS 4  # one per core\n" ++ "READERS 2\nPERMITTIMEOUT 250")).toOption.map
    (fun s => (s.maxReaders.val, s.permitTimeout?)) = some (2, some 250) := by
  rfl

end Spelling.Settings
