import Mathlib.Data.Finset.Max
import Mathlib.Data.List.Sort
import Spelling.Proofs.Bytewise
import Spelling.WordList.Ranking

/-!
# Best scores in order

Corrections are counted in one by one, a word in its alphabetical place keeping the best of its
scores, and are then sorted by their scores alone.  What comes of it does not hang on the order in
which they were counted in:

    members    the corrections with the best score of their word        counted_bestScores
    ties       stay in alphabetical order                                filter_ranked
    order      by falling score, then by the bytes of the words          pairwise_ranked
    no other   list has these members in this order                      eq_of_pairwise_of_mem_iff

Sorting knows nothing of words.  It keeps those of one score in the order in which it finds them,
and it finds them in the order of the words.
-/

namespace Spelling.WordList

variable {s t u : Suggestion} {corrections kept : List Suggestion}

/-! ## Best scores -/

theorem suggestion_ext (hword : s.word = t.word) (hscore : s.score = t.score) : s = t := by
  cases s
  cases t
  exact congrArg₂ Suggestion.mk hword hscore

/-- A correction that has the best of the scores that its word gets. -/
structure IsBest (corrections : List Suggestion) (s : Suggestion) : Prop where
  mem : s ∈ corrections
  le : ∀ t ∈ corrections, t.word = s.word → t.score ≤ s.score

theorem exists_isBest (h : s ∈ corrections) :
    ∃ t, IsBest corrections t ∧ t.word = s.word ∧ s.score ≤ t.score := by
  let rivals := (corrections.filter (·.word = s.word)).toFinset
  have hrivals : ∀ t, t ∈ rivals ↔ t ∈ corrections ∧ t.word = s.word := by
    simp [rivals]
  obtain ⟨t, ht, hbest⟩ := rivals.exists_max_image (·.score) ⟨s, (hrivals s).mpr ⟨h, rfl⟩⟩
  obtain ⟨hmem, hword⟩ := (hrivals t).mp ht
  refine ⟨t, ⟨hmem, fun u hu hsame => ?_⟩, hword, hbest s ((hrivals s).mpr ⟨h, rfl⟩)⟩
  exact hbest u ((hrivals u).mpr ⟨hu, hsame.trans hword⟩)

/-- Corrections stand in alphabetical order, no two of one word. -/
def Ascending (kept : List Suggestion) : Prop :=
  kept.Pairwise (·.word < ·.word)

/-- A word that is not kept yet is the word of no other. -/
theorem mem_cons_of_fresh (hfresh : ∀ v ∈ kept, v.word ≠ s.word) :
    t ∈ s :: kept ↔ (t ∈ kept ∧ (t.word = s.word → s.score ≤ t.score)) ∨
      (t = s ∧ ∀ v ∈ kept, v.word = s.word → v.score ≤ s.score) := by
  rw [List.mem_cons]
  constructor
  · rintro (rfl | ht)
    · exact .inr ⟨rfl, fun v hv hsame => absurd hsame (hfresh v hv)⟩
    · exact .inl ⟨ht, fun hsame => absurd hsame (hfresh t ht)⟩
  · rintro (⟨ht, -⟩ | ⟨rfl, -⟩)
    · exact .inr ht
    · exact .inl rfl

/-- Of two corrections of one word the better is kept, the other is not. -/
theorem keepBest_cons_of_same {rest : List Suggestion} (hword : s.word = u.word) :
    keepBest (u :: rest) s = (if u.score ≤ s.score then s else u) :: rest := by
  rw [keepBest, if_neg (hword ▸ lt_irrefl _), if_pos hword]
  split
  · next hle => rw [Int.max_eq_right hle, ← hword]
  · next hle => rw [Int.max_eq_left (Int.le_of_not_le hle)]

/-- Where the first word that is kept is the word counted in, no other is. -/
theorem mem_keepBest_cons_of_same {rest : List Suggestion} (hword : s.word = u.word)
    (hother : ∀ v ∈ rest, v.word ≠ s.word) :
    t ∈ keepBest (u :: rest) s ↔ (t ∈ u :: rest ∧ (t.word = s.word → s.score ≤ t.score)) ∨
      (t = s ∧ ∀ v ∈ u :: rest, v.word = s.word → v.score ≤ s.score) := by
  rw [keepBest_cons_of_same hword, List.mem_cons, List.mem_cons, List.forall_mem_cons]
  split
  · next hle =>
    constructor
    · rintro (rfl | ht)
      · exact .inr ⟨rfl, fun _ => hle, fun v hv hsame => absurd hsame (hother v hv)⟩
      · exact .inl ⟨.inr ht, fun hsame => absurd hsame (hother t ht)⟩
    · rintro (⟨rfl | ht, hge⟩ | ⟨rfl, -⟩)
      · exact .inl (suggestion_ext hword.symm (Int.le_antisymm hle (hge hword.symm)))
      · exact .inr ht
      · exact .inl rfl
  · next hgt =>
    constructor
    · rintro (rfl | ht)
      · exact .inl ⟨.inl rfl, fun _ => Int.le_of_not_le hgt⟩
      · exact .inl ⟨.inr ht, fun hsame => absurd hsame (hother t ht)⟩
    · rintro (⟨rfl | ht, -⟩ | ⟨rfl, hle, -⟩)
      · exact .inl rfl
      · exact .inr ht
      · exact absurd (hle hword.symm) hgt

/-- What is kept stays unless it is beaten, and what is counted in is kept if nothing beats it. -/
theorem mem_keepBest_iff (h : Ascending kept) :
    t ∈ keepBest kept s ↔ (t ∈ kept ∧ (t.word = s.word → s.score ≤ t.score)) ∨
      (t = s ∧ ∀ u ∈ kept, u.word = s.word → u.score ≤ s.score) := by
  induction kept with
  | nil => simp [keepBest]
  | cons u rest ih =>
      obtain ⟨hfirst, hrest⟩ := List.pairwise_cons.mp h
      rcases lt_trichotomy s.word u.word with hlt | hsame | hgt
      · rw [keepBest, if_pos hlt]
        refine mem_cons_of_fresh (List.forall_mem_cons.mpr ⟨hlt.ne', fun v hv => ?_⟩)
        exact (hlt.trans (hfirst v hv)).ne'
      · exact mem_keepBest_cons_of_same hsame fun v hv => (hsame ▸ hfirst v hv).ne'
      · have hne : u.word ≠ s.word := hgt.ne
        rw [keepBest, if_neg hgt.not_gt, if_neg hne.symm, List.mem_cons, ih hrest, List.mem_cons,
          List.forall_mem_cons]
        constructor
        · rintro (rfl | ⟨ht, hge⟩ | ⟨rfl, hle⟩)
          · exact .inl ⟨.inl rfl, fun hsame => absurd hsame hne⟩
          · exact .inl ⟨.inr ht, hge⟩
          · exact .inr ⟨rfl, fun hsame => absurd hsame hne, hle⟩
        · rintro (⟨rfl | ht, hge⟩ | ⟨rfl, -, hle⟩)
          · exact .inl rfl
          · exact .inr (.inl ⟨ht, hge⟩)
          · exact .inr (.inr ⟨rfl, hle⟩)

/-- Counting in puts a word in its alphabetical place. -/
theorem Ascending.keepBest (h : Ascending kept) (s : Suggestion) :
    Ascending (WordList.keepBest kept s) := by
  induction kept with
  | nil => exact List.pairwise_singleton _ s
  | cons u rest ih =>
      obtain ⟨hfirst, hrest⟩ := List.pairwise_cons.mp h
      rcases lt_trichotomy s.word u.word with hlt | hsame | hgt
      · rw [WordList.keepBest, if_pos hlt]
        refine List.pairwise_cons.mpr ⟨List.forall_mem_cons.mpr ⟨hlt, fun v hv => ?_⟩, h⟩
        exact hlt.trans (hfirst v hv)
      · rw [WordList.keepBest, if_neg (hsame ▸ lt_irrefl _), if_pos hsame]
        exact List.pairwise_cons.mpr ⟨hfirst, hrest⟩
      · rw [WordList.keepBest, if_neg hgt.not_gt, if_neg hgt.ne']
        refine List.pairwise_cons.mpr ⟨fun v hv => ?_, ih hrest⟩
        rcases (mem_keepBest_iff hrest).mp hv with ⟨hv, -⟩ | ⟨rfl, -⟩
        · exact hfirst v hv
        · exact hgt

/-- Corrections were counted in: each word is kept once, with the best of its scores. -/
structure Counted (corrections kept : List Suggestion) : Prop where
  ascending : Ascending kept
  mem_iff : ∀ t, t ∈ kept ↔ IsBest corrections t

/-- Counting in one more keeps this so. -/
theorem Counted.keepBest (h : Counted corrections kept) (s : Suggestion) :
    Counted (corrections ++ [s]) (WordList.keepBest kept s) := by
  refine ⟨h.ascending.keepBest s, fun t => ?_⟩
  rw [mem_keepBest_iff h.ascending]
  constructor
  · rintro (⟨ht, hge⟩ | ⟨rfl, hle⟩)
    · obtain ⟨hmem, hbest⟩ := (h.mem_iff t).mp ht
      refine ⟨List.mem_append_left _ hmem, List.forall_mem_append.mpr ⟨hbest, ?_⟩⟩
      simpa [eq_comm] using hge
    · refine ⟨by simp, List.forall_mem_append.mpr ⟨fun u hu hsame => ?_, by simp⟩⟩
      -- What beats `u` was kept, and it does not beat `t`.
      obtain ⟨v, hv, hword, hscore⟩ := exists_isBest hu
      exact Int.le_trans hscore (hle v ((h.mem_iff v).mpr hv) (hword.trans hsame))
  · rintro ⟨hmem, hle⟩
    obtain ⟨hbest, hlast⟩ := List.forall_mem_append.mp hle
    rcases List.mem_append.mp hmem with ht | ht
    · refine .inl ⟨(h.mem_iff t).mpr ⟨ht, hbest⟩, fun hsame => ?_⟩
      exact hlast s List.mem_cons_self hsame.symm
    · obtain rfl := List.mem_singleton.mp ht
      exact .inr ⟨rfl, fun u hu => hbest u ((h.mem_iff u).mp hu).mem⟩

theorem Counted.foldl (h : Counted corrections kept) (more : List Suggestion) :
    Counted (corrections ++ more) (more.foldl WordList.keepBest kept) := by
  induction more generalizing corrections kept with
  | nil => rwa [List.append_nil]
  | cons s more ih =>
      rw [List.foldl_cons, ← List.singleton_append, ← List.append_assoc]
      exact ih (h.keepBest s)

/-- **Each word is kept once, with the best of its scores.** -/
theorem counted_bestScores (corrections : List Suggestion) :
    Counted corrections (bestScores corrections) := by
  have hnone : Counted [] [] := by
    refine ⟨List.Pairwise.nil, fun t => ⟨fun h => absurd h List.not_mem_nil, fun h => h.mem⟩⟩
  exact hnone.foldl corrections

/-! ## Order -/

/-- One correction ranks above another: its score is greater, or it is the same and its word comes
first by its bytes. -/
def RanksAbove (s t : Suggestion) : Prop :=
  t.score < s.score ∨ s.score = t.score ∧ Text.bytes s.word < Text.bytes t.word

theorem RanksAbove.asymm (h : RanksAbove s t) : ¬ RanksAbove t s := by
  simp only [RanksAbove, Text.bytes_lt_bytes_iff] at h ⊢
  rintro (hscore | ⟨hscore, hword⟩)
  · rcases h with h | h <;> omega
  · rcases h with h | ⟨-, h⟩
    · omega
    · exact lt_asymm h hword

/-- A lesser score of the same word ranks no higher. -/
theorem RanksAbove.of_le (h : RanksAbove s t) (hword : t.word = u.word)
    (hscore : u.score ≤ t.score) : RanksAbove s u := by
  rcases h with h | ⟨heq, h⟩
  · exact .inl (by omega)
  · rcases Int.lt_or_eq_of_le hscore with hlt | hsame
    · exact .inl (by omega)
    · exact .inr ⟨by omega, hword ▸ h⟩

/-- What is not among the first of an order stands behind all of them. -/
theorem ranksAbove_of_not_mem_take {ranking : List Suggestion} (h : ranking.Pairwise RanksAbove)
    {n : Nat} (hs : s ∈ ranking.take n) (ht : t ∈ ranking) (hnot : t ∉ ranking.take n) :
    RanksAbove s t := by
  rw [← List.take_append_drop n ranking] at h ht
  exact (List.pairwise_append.mp h).2.2 s hs t ((List.mem_append.mp ht).resolve_left hnot)

theorem scoresAtLeast_iff : scoresAtLeast s t = true ↔ t.score ≤ s.score :=
  decide_eq_true_iff

theorem scoresAtLeast_trans (s t u : Suggestion) (hst : scoresAtLeast s t = true)
    (htu : scoresAtLeast t u = true) : scoresAtLeast s u = true := by
  rw [scoresAtLeast_iff] at *
  exact htu.trans hst

theorem scoresAtLeast_total (s t : Suggestion) :
    (scoresAtLeast s t || scoresAtLeast t s) = true := by
  rw [Bool.or_eq_true, scoresAtLeast_iff, scoresAtLeast_iff]
  exact le_total t.score s.score

/-- All corrections that some entries offer, each word once, in order. -/
def ranked (corrections : List Suggestion) : List Suggestion :=
  (bestScores corrections).mergeSort scoresAtLeast

theorem mem_ranked_iff : s ∈ ranked corrections ↔ IsBest corrections s := by
  rw [ranked, List.mem_mergeSort, (counted_bestScores corrections).mem_iff]

/-- **Words of one score stay as they stand.** -/
theorem filter_ranked (corrections : List Suggestion) (score : Int) :
    (ranked corrections).filter (·.score = score) =
      (bestScores corrections).filter (·.score = score) := by
  have htie : ((bestScores corrections).filter (·.score = score)).Pairwise
      (scoresAtLeast · ·) := by
    refine List.pairwise_of_forall_mem_list fun s hs t ht => ?_
    have hs : s.score = score := by simpa using (List.mem_filter.mp hs).2
    have ht : t.score = score := by simpa using (List.mem_filter.mp ht).2
    exact scoresAtLeast_iff.mpr (by rw [hs, ht])
  have hkept := List.sublist_mergeSort scoresAtLeast_trans scoresAtLeast_total htie
    List.filter_sublist
  have hsame := hkept.filter (·.score = score)
  simp only [List.filter_filter, Bool.and_self] at hsame
  have hperm := (List.mergeSort_perm (bestScores corrections) scoresAtLeast).filter
    (·.score = score)
  exact (hsame.eq_of_length hperm.length_eq.symm).symm

/-- **No two corrections tie.** -/
theorem pairwise_ranked (corrections : List Suggestion) :
    (ranked corrections).Pairwise RanksAbove := by
  rw [List.pairwise_iff_forall_sublist]
  intro s t hst
  have hsorted : (ranked corrections).Pairwise (scoresAtLeast · ·) :=
    List.pairwise_mergeSort scoresAtLeast_trans scoresAtLeast_total _
  have hle : t.score ≤ s.score := scoresAtLeast_iff.mp (hsorted.forall_sublist hst)
  rcases Int.lt_or_eq_of_le hle with hlt | htie
  · exact .inl hlt
  · have hpair := hst.filter (·.score = s.score)
    rw [filter_ranked] at hpair
    have hascending := (counted_bestScores corrections).ascending.sublist
      (hpair.trans List.filter_sublist)
    simp only [htie, decide_true, List.filter_cons_of_pos, List.filter_nil] at hascending
    exact .inr ⟨htie.symm, Text.bytes_lt_bytes_iff.mpr (List.rel_of_pairwise_cons hascending
      (List.mem_singleton_self t))⟩

theorem nodup_words_ranked (corrections : List Suggestion) :
    ((ranked corrections).map (·.word)).Nodup := by
  refine ((List.mergeSort_perm _ _).map _).nodup_iff.mpr (List.pairwise_map.mpr ?_)
  exact (counted_bestScores corrections).ascending.imp ne_of_lt

/-- **There is one order for some corrections.** -/
theorem eq_of_pairwise_of_mem_iff {as bs : List Suggestion} (has : as.Pairwise RanksAbove)
    (hbs : bs.Pairwise RanksAbove) (h : ∀ s, s ∈ as ↔ s ∈ bs) : as = bs := by
  have hnodup : ∀ {cs : List Suggestion}, cs.Pairwise RanksAbove → cs.Nodup := fun hcs =>
    hcs.imp fun hst heq => (heq ▸ hst).asymm (heq ▸ hst)
  refine List.Perm.eq_of_pairwise (fun s t _ _ hst hts => absurd hts hst.asymm) has hbs ?_
  exact (List.perm_ext_iff_of_nodup (hnodup has) (hnodup hbs)).mpr h

end Spelling.WordList
