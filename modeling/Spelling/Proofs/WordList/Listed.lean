import Spelling.Proofs.WordList.Best
import Spelling.Proofs.WordList.Index
import Spelling.Proofs.WordList.Scratch
import Spelling.Proofs.WordList.Steady

/-!
# What is suggested is listed

Ranking makes up no word.  Each ranked correction is that of an entry, with the entry's own word and
a score that some entry of the word has (`mem_of_mem_rank`).  So a dictionary has every word that it
suggests, as it is.
-/

namespace Spelling.WordList

variable {l : Locale} {q : Query} {typed : List Char} {s : Suggestion} {e : Entry}

/-! ## Ranking -/

/-- **Each ranked correction is one that was offered.** -/
theorem mem_of_mem_rank {corrections : List Suggestion} (h : s ∈ rank corrections) :
    s ∈ corrections :=
  (mem_ranked_iff.mp (List.mem_of_mem_take h)).mem

theorem word_of_correction? (h : correction? l q typed e = some s) : s.word = e.word := by
  rw [correction?] at h
  split at h
  · obtain ⟨cost, -, rfl⟩ := Option.map_eq_some_iff.mp h
    rfl
  · cases h

/-! ## Dictionaries -/

namespace Dictionary

variable {d : Dictionary}

theorem contains_of_mem_entries (h : e ∈ d.entries) : d.contains e.word = true := by
  obtain ⟨w, hw, he⟩ := List.mem_flatMap.mp h
  exact List.any_eq_true.mpr ⟨w, hw, contains_iff_exists.mpr ⟨e, he, rfl⟩⟩

/-- **A dictionary has the words that it suggests.** -/
theorem contains_of_suggest {r : Results} {k : Nat} (h : d.suggest q k = .ok r)
    (hs : s ∈ r.candidates) : d.contains s.word = true := by
  obtain ⟨-, -, rfl⟩ := of_suggest_eq_ok h
  obtain ⟨e, he, hcorrection⟩ := List.mem_filterMap.mp (mem_of_mem_rank hs)
  rw [word_of_correction? hcorrection]
  exact contains_of_mem_entries he

end Dictionary

/-! ## Sources -/

/-- Whether an opening breaks off hangs on the number of sessions alone. -/
theorem Source.fresh_ne_broken {s : Source} {m : Locale} {o : Options} {d : Dictionary}
    (h : s.fresh l o = .opened d) (message : String) : s.fresh m o ≠ .broken message := by
  obtain ⟨-, -, hroom, -⟩ := fresh_eq_opened_iff.mp h
  exact fresh_ne_broken_of_room hroom message

end Spelling.WordList
