import Spelling.Proofs.Shown

/-!
# When the recommended correction is shown

Whether a correction is recommended is told from the candidate that ranks first, as it is listed.
What is shown are the candidates cased like the typed word, without those that come out as the typed
word itself:

    first candidate, recased    recommended              shown first
    another word                if it scores enough      that word
    the typed word              if it scores enough      the next candidate that is another word

So a correction can be recommended where nothing is shown.  A word that is not listed as it is typed,
nor in lowercase, may still be the capitals of the only candidate.
-/

namespace Spelling.Verdict

variable {typed : String} {l : Locale} {r : Results} {threshold : Float32} {max : Nat}

/-- The first correction other than the typed word is shown first. -/
theorem head?_suggestions (hmax : 0 < max) (hvalid : r.typedValid = false) :
    (ofResults typed l r threshold max).suggestions.head? =
      (recased typed l r).find? (· ≠ typed) := by
  rw [suggestions_eq hvalid, List.head?_take, if_neg (Nat.ne_of_gt hmax), head?_eraseDups,
    List.head?_filter]

/-- What recommending hangs on. -/
theorem hasRecommended_iff : (ofResults typed l r threshold max).hasRecommended = true ↔
    r.typedValid = false ∧ ∃ best, r.best? = some best ∧
      threshold ≤ Score.normalized typed best.word best.score := by
  rw [ofResults]
  cases r.typedValid with
  | true => simp [right]
  | false => cases r.best? <;> simp

/-- **A recommended correction is shown first unless it comes out as the typed word.**  When the
verdict recommends, some candidate ranks first and scores enough.  Recased, it is shown first exactly
if it is another word than the typed one; otherwise the next candidate that is another word stands
first, and nothing is shown if none is. -/
theorem recommended_is_shown_unless_typed (hmax : 0 < max)
    (h : (ofResults typed l r threshold max).hasRecommended = true) :
    ∃ best, r.best? = some best ∧ threshold ≤ Score.normalized typed best.word best.score ∧
      ((ofResults typed l r threshold max).suggestions.head? =
          some (recase l (.classify typed) best.word) ↔
        recase l (.classify typed) best.word ≠ typed) ∧
      (ofResults typed l r threshold max).suggestions.head? =
        (recased typed l r).find? (· ≠ typed) ∧
      ((ofResults typed l r threshold max).suggestions = [] ↔
        ∀ word ∈ recased typed l r, word = typed) := by
  obtain ⟨hvalid, best, hbest, hscore⟩ := hasRecommended_iff.mp h
  have hhead : (ofResults typed l r threshold max).suggestions.head? =
      (recased typed l r).find? (· ≠ typed) :=
    head?_suggestions hmax hvalid
  obtain ⟨rest, hcandidates⟩ := List.head?_eq_some_iff.mp hbest
  refine ⟨best, hbest, hscore, ?_, hhead, ?_⟩
  · rw [hhead, recased, hcandidates, List.map_cons]
    constructor
    · intro hfirst
      simpa using List.find?_some hfirst
    · intro hne
      rw [List.find?_cons_of_pos (by simpa using hne)]
  · rw [← List.head?_eq_none_iff, hhead, List.find?_eq_none]
    simp

/-- The first of two candidates is shown in the capitals of the typed word. -/
theorem recommended_is_shown_unless_typed_of_capitals :
    let r : Results := ⟨[⟨"straße", 510⟩, ⟨"straßen", 510⟩], false⟩
    let v := ofResults "STRASSEN" (.ofLanguage "de") r 0 1
    0 < 1 ∧ v.hasRecommended = true ∧ v.suggestions.head? = some "STRASSE" := by
  intro r v
  have hrecommended : v.hasRecommended = true := by decide +kernel
  obtain ⟨best, hbest, -, hshown, -, -⟩ :=
    recommended_is_shown_unless_typed Nat.one_pos hrecommended
  obtain rfl : ⟨"straße", 510⟩ = best := Option.some.inj hbest
  have hrecased : recase (.ofLanguage "de") (.classify "STRASSEN") "straße" = "STRASSE" := by
    decide +kernel
  rw [hrecased] at hshown
  exact ⟨Nat.one_pos, hrecommended, hshown.mpr (by decide)⟩

/-- Typed in the capitals of the only candidate, a word is shown no correction, but one is
recommended. -/
theorem correction_is_recommended_unshown :
    let r : Results := ⟨[⟨"straße", 510⟩], false⟩
    let v := ofResults "STRASSE" (.ofLanguage "de") r 0 5
    v.hasRecommended = true ∧ v.suggestions = [] := by
  decide +kernel

end Spelling.Verdict
