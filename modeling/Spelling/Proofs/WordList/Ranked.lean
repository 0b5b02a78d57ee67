import Spelling.Proofs.WordList.Best
import Spelling.Proofs.WordList.Reading
import Spelling.Proofs.WordList.Scratch
import Spelling.WordList.Source

/-!
# What is suggested, and in what order

An entry of a searched list is eligible for a query unless one of these holds:

    never suggested           by its flag
    offensive                 while the query blocks such words
    the typed word            as it is typed
    of another length         lowercased, by more than 2 characters
    too far                   its weighted distance is beyond the limit

Every eligible entry has a score, and a word has the best score of its entries.  A dictionary that
is open suggests the first 18 words in the order of their scores, words of one score in the order of
their bytes.  So neither the order of the entries nor the place of duplicates tells in the answer,
and the lines of a list may stand in any order after the first
(`suggests_first_words_of_ranking`).
-/

namespace Spelling.WordList

variable {q : Query} {s t : Suggestion} {e : Entry}

namespace Dictionary

/-! ## Eligible entries -/

/-- An entry is in a list that is searched. -/
def Searched (d : Dictionary) (e : Entry) : Prop :=
  (∃ w, d.main? = some w ∧ e ∈ w.entries) ∨
    d.useContacts = true ∧ ∃ w, d.contacts? = some w ∧ e ∈ w.entries

/-- A word as it is compared, in the lowercase of the locale. -/
def lowered (d : Dictionary) (word : String) : List Char :=
  Casing.lowerChars d.locale word.toList

/-- An entry may correct the typed word, at some cost. -/
structure Eligible (d : Dictionary) (q : Query) (e : Entry) (cost : Float32) : Prop where
  searched : d.Searched e
  suggested : e.neverSuggested = false
  allowed : ¬ (e.offensive = true ∧ q.policy.blockOffensive = true)
  ne_typed : e.word ≠ q.composed.word
  length_le : (d.lowered e.word).length ≤ (d.lowered q.composed.word).length + 2
  le_length : (d.lowered q.composed.word).length ≤ (d.lowered e.word).length + 2
  distance : Distance.CostScale.single.align (Distance.CostScale.single.whole 2) (replaceCost q)
    (d.lowered q.composed.word) (d.lowered e.word) = some cost

/-- A word gets a score from an eligible entry. -/
def Earned (d : Dictionary) (q : Query) (s : Suggestion) : Prop :=
  ∃ e cost, d.Eligible q e cost ∧ s.word = e.word ∧
    s.score = score d.locale q (d.lowered q.composed.word).length e cost

/-- A word with the greatest score that it gets. -/
structure Best (d : Dictionary) (q : Query) (s : Suggestion) : Prop where
  earned : d.Earned q s
  le : ∀ t, d.Earned q t → t.word = s.word → t.score ≤ s.score

/-! ## Corrections -/

variable {d : Dictionary}

theorem mem_entries_iff : e ∈ d.entries ↔ d.Searched e := by
  simp only [entries, lists, Searched, List.mem_flatMap, List.mem_append, Option.mem_toList,
    or_and_right, exists_or]
  refine or_congr Iff.rfl ?_
  cases d.useContacts <;> simp

theorem isOffered_iff : Entry.isOffered e q = true ↔ e.neverSuggested = false ∧
    ¬ (e.offensive = true ∧ q.policy.blockOffensive = true) ∧ e.word ≠ q.composed.word := by
  simp only [Entry.isOffered, Bool.and_eq_true, Bool.not_eq_true', ← Bool.not_eq_true, bne_iff_ne,
    and_assoc]

theorem cost?_eq_some_iff {l : Locale} {typed : List Char} {cost : Float32} :
    cost? l q typed e = some cost ↔
      (Casing.lowerChars l e.word.toList).length ≤ typed.length + 2 ∧
      typed.length ≤ (Casing.lowerChars l e.word.toList).length + 2 ∧
      Distance.CostScale.single.align (Distance.CostScale.single.whole 2) (replaceCost q) typed
        (Casing.lowerChars l e.word.toList) = some cost := by
  rw [cost?, alignClose, compareClose_fst, Option.ite_none_right_eq_some, closeLengths,
    Bool.and_eq_true, decide_eq_true_eq, decide_eq_true_eq, and_assoc]
  rfl

/-- The corrections of the entries are the scores that are earned. -/
theorem mem_corrections_iff : s ∈ d.corrections q ↔ d.Earned q s := by
  rw [corrections, List.mem_filterMap]
  constructor
  · rintro ⟨e, he, hs⟩
    rw [correction?] at hs
    split at hs
    · next hoffered =>
      obtain ⟨hsuggested, hallowed, hne⟩ := isOffered_iff.mp hoffered
      obtain ⟨cost, hcost, rfl⟩ := Option.map_eq_some_iff.mp hs
      obtain ⟨hle, hge, hdistance⟩ := cost?_eq_some_iff.mp hcost
      exact ⟨e, cost, ⟨mem_entries_iff.mp he, hsuggested, hallowed, hne, hle, hge, hdistance⟩,
        rfl, rfl⟩
    · cases hs
  · rintro ⟨e, cost, h, hword, hscore⟩
    have hcost : cost? d.locale q (Casing.lowerChars d.locale q.composed.word.toList) e =
        some cost := cost?_eq_some_iff.mpr ⟨h.length_le, h.le_length, h.distance⟩
    refine ⟨e, mem_entries_iff.mpr h.searched, ?_⟩
    rw [correction?, if_pos (isOffered_iff.mpr ⟨h.suggested, h.allowed, h.ne_typed⟩), hcost]
    exact congrArg some (suggestion_ext hword.symm hscore.symm)

/-- All words that a dictionary can offer for a query, in order. -/
def ranking (d : Dictionary) (q : Query) : List Suggestion :=
  ranked (d.corrections q)

theorem mem_ranking_iff : s ∈ d.ranking q ↔ d.Best q s := by
  rw [ranking, mem_ranked_iff]
  constructor
  · rintro ⟨hmem, hle⟩
    exact ⟨mem_corrections_iff.mp hmem, fun t ht => hle t (mem_corrections_iff.mpr ht)⟩
  · rintro ⟨hearned, hle⟩
    exact ⟨mem_corrections_iff.mpr hearned, fun t ht => hle t (mem_corrections_iff.mp ht)⟩

theorem exists_best (h : d.Earned q s) :
    ∃ t, d.Best q t ∧ t.word = s.word ∧ s.score ≤ t.score := by
  obtain ⟨t, ht, hbetter⟩ := exists_isBest (mem_corrections_iff.mpr h)
  exact ⟨t, mem_ranking_iff.mp (mem_ranked_iff.mpr ht), hbetter⟩

/-! ## Answers -/

theorem suggest_eq {k : Nat} (hopen : d.hasMain = true) (hsession : k < d.sessions) :
    d.suggest q k =
      .ok ⟨(d.ranking q).take 18, d.isTypedValid q.composed.word⟩ := by
  rw [suggest_of_open hopen hsession]
  rfl

theorem contains_iff {word : String} :
    d.contains word = true ↔ ∃ e, d.Searched e ∧ e.word = word := by
  simp only [contains, contains_iff_exists, List.any_eq_true, ← mem_entries_iff, entries,
    List.mem_flatMap]
  constructor
  · rintro ⟨w, hw, e, he, hword⟩
    exact ⟨e, ⟨w, hw, he⟩, hword⟩
  · rintro ⟨e, ⟨w, hw, he⟩, hword⟩
    exact ⟨w, hw, e, he, hword⟩

theorem ranking_eq_of_earned {d' : Dictionary} (hearned : ∀ s, d'.Earned q s ↔ d.Earned q s) :
    d'.ranking q = d.ranking q := by
  refine eq_of_pairwise_of_mem_iff (pairwise_ranked _) (pairwise_ranked _) fun s => ?_
  rw [mem_ranking_iff, mem_ranking_iff]
  constructor
  · rintro ⟨hs, hle⟩
    exact ⟨(hearned s).mp hs, fun t ht => hle t ((hearned t).mpr ht)⟩
  · rintro ⟨hs, hle⟩
    exact ⟨(hearned s).mpr hs, fun t ht => hle t ((hearned t).mp ht)⟩

section Same

variable {d' : Dictionary} (hlocale : d'.locale = d.locale)
  (hsame : ∀ e, d'.Searched e ↔ d.Searched e)

include hlocale hsame

theorem ranking_eq_of_same (q : Query) : d'.ranking q = d.ranking q := by
  refine ranking_eq_of_earned fun s => ?_
  rw [← mem_corrections_iff, ← mem_corrections_iff, corrections, corrections, List.mem_filterMap,
    List.mem_filterMap]
  simp only [mem_entries_iff, hsame, hlocale]

theorem isTypedValid_eq_of_same (typed : String) : d'.isTypedValid typed = d.isTypedValid typed := by
  have hcontains : ∀ word, d'.contains word = d.contains word := fun word => by
    rw [Bool.eq_iff_iff, contains_iff, contains_iff]
    simp only [hsame]
  rw [isTypedValid, isTypedValid, hcontains, hcontains, hlocale]

theorem suggest_eq_of_same {k k' : Nat} (hopen : d.hasMain = true) (hsession : k < d.sessions)
    (hopen' : d'.hasMain = true) (hsession' : k' < d'.sessions) (q : Query) :
    d'.suggest q k' = d.suggest q k := by
  rw [suggest_eq hopen hsession, suggest_eq hopen' hsession', ranking_eq_of_same hlocale hsame,
    isTypedValid_eq_of_same hlocale hsame]

end Same

end Dictionary

/-! ## Lines in another order -/

/-- Two texts have one first line, and the same other lines in some order. -/
def Rearranged (text text' : String) : Prop :=
  ∃ first lines lines', Text.lines (Text.terminated text.toList) = first :: lines ∧
    Text.lines (Text.terminated text'.toList) = first :: lines' ∧ lines.Perm lines'

/-- A list is read from a text. -/
def Reads (text : String) (w : WordList) : Prop :=
  (ofText text).value = .ok w

theorem BodyText.perm {lines lines' : List (List Char)} {es : List Entry} (h : BodyText lines es)
    (hlines : lines.Perm lines') : ∃ es', BodyText lines' es' ∧ es.Perm es' := by
  have hreadable : ∀ line ∈ lines', WordList.isReadable line = true := fun line hline =>
    h.isReadable line (hlines.mem_iff.mpr hline)
  refine ⟨written lines', bodyText_written hreadable, ?_⟩
  rw [h.eq_written]
  exact (hlines.filterMap _).map _

/-- Lines in another order are read as the entries in another order. -/
theorem Reads.rearranged {text text' : String} {w : WordList} (h : Reads text w)
    (htexts : Rearranged text text') : ∃ w', Reads text' w' ∧ w.entries.Perm w'.entries := by
  obtain ⟨first, lines, lines', hfirst, hfirst', hlines⟩ := htexts
  rw [Reads, ofText_eq_ok_iff, parse_eq_ok_iff, hfirst] at h
  obtain ⟨hcount, hbody⟩ := h
  obtain ⟨es', hbody', hperm⟩ := hbody.perm hlines
  refine ⟨.ofEntries es', ?_, hperm⟩
  rw [Reads, ofText_eq_ok_iff, parse_eq_ok_iff, hfirst']
  exact .intro hcount hbody'

namespace Dictionary

variable {d : Dictionary}

/-- The lists of a dictionary are read from texts. -/
structure ReadFrom (d : Dictionary) (main : String) (contacts? : Option String) : Prop where
  main : Option.Rel Reads (some main) d.main?
  contacts : Option.Rel Reads contacts? d.contacts?

/-- Texts in another order are read as lists with the same entries. -/
theorem ReadFrom.rearranged {main main' : String} {contacts? contacts?' : Option String}
    (h : d.ReadFrom main contacts?) (hmain : Rearranged main main')
    (hcontacts : Option.Rel Rearranged contacts? contacts?') :
    ∃ d' : Dictionary, d'.ReadFrom main' contacts?' ∧ d'.locale = d.locale ∧
      d'.useContacts = d.useContacts ∧ d'.sessions = d.sessions ∧ d'.hasMain = true ∧
      ∀ e, d'.Searched e ↔ d.Searched e := by
  obtain ⟨hread, hreadContacts⟩ := h
  obtain ⟨locale, main?, listed?, useContacts, sessions⟩ := d
  cases hread with
  | some hread =>
  obtain ⟨w', hread', hperm⟩ := hread.rearranged hmain
  cases hcontacts with
  | none =>
      cases hreadContacts
      refine ⟨⟨locale, some w', none, useContacts, sessions⟩, ⟨.some hread', .none⟩, rfl, rfl, rfl,
        rfl, fun e => ?_⟩
      simp [Searched, hperm.mem_iff]
  | some hcontacts =>
      cases hreadContacts with
      | some hreadContacts =>
      obtain ⟨v', hv', hpermContacts⟩ := hreadContacts.rearranged hcontacts
      refine ⟨⟨locale, some w', some v', useContacts, sessions⟩, ⟨.some hread', .some hv'⟩, rfl, rfl,
        rfl, rfl, fun e => ?_⟩
      simp [Searched, hperm.mem_iff, hpermContacts.mem_iff]

/-! ## The first of the ranking -/

/-- **A dictionary suggests the first words of the ranking.**  Let it be open and have the session.
Some ranking has exactly the words of eligible entries, each with its best score, by falling score
and then by bytes, and the candidates are its first 18, whatever the scratch space of the session
holds.  So no word is suggested twice, and no word that is left out ranks above one that is
suggested.  Any open dictionary of the locale that searches the same entries gives the same answer,
wherever they stand and however often; in particular the lines of both lists may be put in another
order. -/
theorem suggests_first_words_of_ranking {d : Dictionary} (q : Query) {k : Nat}
    (hopen : d.hasMain = true) (hsession : k < d.sessions) :
    ∃ ranking : List Suggestion, ranking.Pairwise RanksAbove ∧
      (∀ s, s ∈ ranking ↔ d.Best q s) ∧
      ∃ r, d.suggest q k = .ok r ∧ r.candidates = ranking.take 18 ∧
        (∀ rows, (d.suggestIn rows q k).1 = .ok r) ∧ (r.candidates.map (·.word)).Nodup ∧
        (∀ t, d.Earned q t → (∀ s ∈ r.candidates, s.word ≠ t.word) →
          ∀ s ∈ r.candidates, RanksAbove s t) ∧
        (∀ (d' : Dictionary) k', d'.hasMain = true → k' < d'.sessions → d'.locale = d.locale →
          (∀ e, d'.Searched e ↔ d.Searched e) → d'.suggest q k' = .ok r) ∧
        ∀ main contacts? main' contacts?', d.ReadFrom main contacts? → Rearranged main main' →
          Option.Rel Rearranged contacts? contacts?' →
          ∃ d' : Dictionary, d'.ReadFrom main' contacts?' ∧ d'.locale = d.locale ∧
            d'.useContacts = d.useContacts ∧ d'.sessions = d.sessions ∧ d'.suggest q k = .ok r := by
  have hanswer := suggest_eq (q := q) hopen hsession
  have hsorted : (d.ranking q).Pairwise RanksAbove := pairwise_ranked _
  refine ⟨d.ranking q, hsorted, fun s => mem_ranking_iff, _, hanswer, rfl, ?_, ?_, ?_, ?_, ?_⟩
  · intro rows
    rw [← hanswer, suggestIn_fst, suggest_eq_answer]
  · exact ((List.take_sublist 18 (d.ranking q)).map _).nodup (nodup_words_ranked _)
  · intro t ht homitted s hs
    obtain ⟨best, hbest, hword, hscore⟩ := exists_best ht
    refine (ranksAbove_of_not_mem_take hsorted hs (mem_ranking_iff.mpr hbest) ?_).of_le hword hscore
    exact fun hmem => homitted best hmem hword
  · intro d' k' hopen' hsession' hlocale hsame
    rw [suggest_eq_of_same hlocale hsame hopen hsession hopen' hsession', hanswer]
  · intro main contacts? main' contacts?' hread hmain hcontacts
    obtain ⟨d', hread', hlocale, huse, hsessions, hopen', hsame⟩ := hread.rearranged hmain hcontacts
    refine ⟨d', hread', hlocale, huse, hsessions, ?_⟩
    rw [suggest_eq_of_same hlocale hsame hopen hsession hopen' (hsessions ▸ hsession), hanswer]

/-- A word of the main list and one of the contacts are ranked together. -/
theorem suggests_first_words_of_two_lists :
    let d := Dictionary.ofLists (.ofLanguage "en") (.ofEntries [{ word := "hello" }])
      (some (.ofEntries [{ word := "help" }, { word := "hello", frequency := 9 }])) {}
    let q : Query := ⟨.typed "helo", .empty, .empty, {}⟩
    d.hasMain = true ∧ 1 < d.sessions ∧ ∃ ranking : List Suggestion,
      ranking.Pairwise RanksAbove ∧ (∀ s, s ∈ ranking ↔ d.Best q s) ∧
      ∃ r, d.suggest q 1 = .ok r ∧ r.candidates = ranking.take 18 := by
  intro d q
  have hopen : d.hasMain = true := rfl
  have hsession : 1 < d.sessions := by decide
  obtain ⟨ranking, hsorted, hmem, r, hanswer, hfirst, -⟩ :=
    suggests_first_words_of_ranking q hopen hsession
  exact ⟨hopen, hsession, ranking, hsorted, hmem, r, hanswer, hfirst⟩

end Dictionary

end Spelling.WordList
