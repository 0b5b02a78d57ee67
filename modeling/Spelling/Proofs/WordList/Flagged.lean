import Spelling.Proofs.WordList.Ranked

/-!
# What flags keep from being suggested

A flag stands on an entry, and keeps that entry from being suggested:

    N    never
    O    while words that may offend are blocked

The flag of one entry says nothing about the others of its word.  A word is suggested as soon as one
of its entries is not kept back, so a word that is listed twice, or among the contacts once more, is
kept back only if all its entries are.
-/

namespace Spelling.WordList

variable {q : Query}

/-- A flag keeps an entry from being suggested. -/
def Withheld (q : Query) (e : Entry) : Prop :=
  e.neverSuggested = true ∨ e.offensive = true ∧ q.policy.blockOffensive = true

namespace Dictionary

variable {d d' : Dictionary} {e : Entry} {cost : Float32}

theorem Eligible.not_withheld (h : d.Eligible q e cost) : ¬ Withheld q e := by
  rintro (hnever | hoffensive)
  · rw [h.suggested] at hnever
    cases hnever
  · exact h.allowed hoffensive

theorem Eligible.of_searched (h : d.Eligible q e cost) (hlocale : d'.locale = d.locale)
    (he : d'.Searched e) : d'.Eligible q e cost := by
  obtain ⟨-, hsuggested, hallowed, hne, hle, hge, hdistance⟩ := h
  rw [lowered, lowered, ← hlocale] at hle hge hdistance
  exact ⟨he, hsuggested, hallowed, hne, hle, hge, hdistance⟩

/-- Entries that are kept back earn no score. -/
theorem earned_iff_of_unflagged (hlocale : d'.locale = d.locale)
    (hsearched : ∀ e, d'.Searched e ↔ d.Searched e ∧ ¬ Withheld q e) (s : Suggestion) :
    d'.Earned q s ↔ d.Earned q s := by
  constructor
  · rintro ⟨e, cost, h, hword, hscore⟩
    rw [lowered, hlocale] at hscore
    exact ⟨e, cost, h.of_searched hlocale.symm ((hsearched e).mp h.searched).1, hword, hscore⟩
  · rintro ⟨e, cost, h, hword, hscore⟩
    rw [lowered, ← hlocale] at hscore
    exact ⟨e, cost, h.of_searched hlocale ((hsearched e).mpr ⟨h.searched, h.not_withheld⟩), hword,
      hscore⟩

/-- **A word is suggested by an entry that no flag keeps back.**  Each candidate is the word of such
an entry, so a word is not suggested when all its entries are kept back; in particular no flagged
word is, when the entries of one word agree.  What is kept back does not count in otherwise either:
an open dictionary without those entries has the same candidates. -/
theorem suggested_by_unflagged_entry {k : Nat} {r : Results} (h : d.suggest q k = .ok r) :
    (∀ c ∈ r.candidates, ∃ e, d.Searched e ∧ e.word = c.word ∧ ¬ Withheld q e) ∧
    (∀ word, (∀ e, d.Searched e → e.word = word → Withheld q e) →
      ∀ c ∈ r.candidates, c.word ≠ word) ∧
    ((∀ e e', d.Searched e → d.Searched e' → e.word = e'.word → (Withheld q e ↔ Withheld q e')) →
      ∀ c ∈ r.candidates, ∀ e, d.Searched e → e.word = c.word → ¬ Withheld q e) ∧
    ∀ (d' : Dictionary) k', d'.locale = d.locale → d'.hasMain = true → k' < d'.sessions →
      (∀ e, d'.Searched e ↔ d.Searched e ∧ ¬ Withheld q e) →
      ∃ r', d'.suggest q k' = .ok r' ∧ r'.candidates = r.candidates := by
  obtain ⟨hopen, hsession, -⟩ := of_suggest_eq_ok h
  rw [suggest_eq hopen hsession] at h
  cases h
  have hentry : ∀ c ∈ (d.ranking q).take 18,
      ∃ e, d.Searched e ∧ e.word = c.word ∧ ¬ Withheld q e := by
    intro c hc
    obtain ⟨e, cost, heligible, hword, -⟩ := (mem_ranking_iff.mp (List.mem_of_mem_take hc)).earned
    exact ⟨e, heligible.searched, hword.symm, heligible.not_withheld⟩
  refine ⟨hentry, ?_, ?_, ?_⟩
  · rintro word hwithheld c hc rfl
    obtain ⟨e, he, hword, hnot⟩ := hentry c hc
    exact hnot (hwithheld e he hword)
  · intro hagree c hc e he hword
    obtain ⟨e', he', hword', hnot⟩ := hentry c hc
    rwa [hagree e e' he he' (hword.trans hword'.symm)]
  · intro d' k' hlocale hopen' hsession' hsearched
    refine ⟨_, suggest_eq hopen' hsession', ?_⟩
    rw [ranking_eq_of_earned (earned_iff_of_unflagged hlocale hsearched)]

/-- Of two words as far from the typed one, the one that may offend is kept back. -/
theorem suggested_by_unflagged_entry_of_offensive :
    let d := Dictionary.ofLists (.ofLanguage "en")
      (.ofEntries [{ word := "darn", offensive := true }, { word := "dawn" }]) none {}
    let q : Query := ⟨.typed "dan", .empty, .empty, {}⟩
    ∃ r, d.suggest q 0 = .ok r ∧ r.candidates.map (·.word) = ["dawn"] ∧
      ∀ c ∈ r.candidates, c.word ≠ "darn" := by
  intro d q
  have hran : ∃ r, d.suggest q 0 = .ok r ∧ r.candidates.map (·.word) = ["dawn"] :=
    ⟨_, rfl, by decide +kernel⟩
  obtain ⟨r, hsuggest, hwords⟩ := hran
  refine ⟨r, hsuggest, hwords, (suggested_by_unflagged_entry hsuggest).2.1 "darn" ?_⟩
  intro e he hword
  have hmem : e ∈ d.entries := mem_entries_iff.mpr he
  rcases List.mem_pair.mp hmem with rfl | rfl
  · exact .inr ⟨rfl, rfl⟩
  · exact absurd hword (by decide)

/-- A word that an entry flags is suggested, because another entry of it does not. -/
theorem flagged_word_listed_twice_is_suggested :
    let d := Dictionary.ofLists (.ofLanguage "en")
      (.ofEntries [{ word := "darn", neverSuggested := true, frequency := 90 },
        { word := "darn", frequency := 90 }]) none {}
    let q : Query := ⟨.typed "dran", .empty, .empty, {}⟩
    ∃ r, d.suggest q 0 = .ok r ∧ ∃ c ∈ r.candidates, ∃ e, d.Searched e ∧ e.word = c.word ∧
      e.neverSuggested = true := by
  intro d q
  have hran : ∃ r, d.suggest q 0 = .ok r ∧ r.candidates.map (·.word) = ["darn"] :=
    ⟨_, rfl, by decide +kernel⟩
  obtain ⟨r, hsuggest, hwords⟩ := hran
  obtain ⟨c, hc, hword⟩ : ∃ c ∈ r.candidates, c.word = "darn" :=
    List.mem_map.mp (hwords ▸ List.mem_singleton_self _)
  exact ⟨r, hsuggest, c, hc, _, mem_entries_iff.mp List.mem_cons_self, hword.symm, rfl⟩

end Dictionary

end Spelling.WordList
