import Spelling.Proofs.Distinct
import Spelling.Verdict

/-!
# Which corrections are shown

Gathering goes through the candidates once, cased like the typed word, and stops when there are
enough.  Nothing is gathered twice, so a candidate that comes out as another one before it, or as
the typed word, takes no place:

    typed     candidates               recased                  shown, two at most
    Helo      hello, Hello, help       Hello, Hello, Help       Hello, Help
    HELO      hello, helo, help        HELLO, HELO, HELP        HELLO, HELP

It comes to the same as leaving the typed word out, keeping the first of each spelling, and taking
as many from the front as may be shown (`gather_eq`).
-/

namespace Spelling.Verdict

variable {typed : String} {l : Locale} {r : Results} {threshold : Float32} {max : Nat}

/-- Candidates in the casing of the typed word. -/
def recased (typed : String) (l : Locale) (r : Results) : List String :=
  r.candidates.map fun s => recase l (.classify typed) s.word

/-- Whether a word is another one than the typed word and those shown already. -/
def isNew (typed : String) (shown : List String) (word : String) : Bool :=
  word ≠ typed ∧ word ∉ shown

theorem isNew_concat (typed : String) (shown : List String) (word w : String) :
    isNew typed (shown ++ [word]) w = (w != word && isNew typed shown w) := by
  rw [Bool.eq_iff_iff]
  simp only [isNew, decide_eq_true_eq, Bool.and_eq_true, bne_iff_ne, List.mem_append,
    List.mem_singleton, not_or]
  exact ⟨fun ⟨htyped, hshown, hword⟩ => ⟨hword, htyped, hshown⟩,
    fun ⟨hword, htyped, hshown⟩ => ⟨htyped, hshown, hword⟩⟩

/-- What is gathered comes after what is shown already. -/
theorem gather_eq {shown : List String} (h : shown.length ≤ max) (words : List String) :
    gather typed max shown words =
      shown ++ (words.filter (isNew typed shown)).eraseDups.take (max - shown.length) := by
  induction words generalizing shown with
  | nil => simp [gather]
  | cons word rest ih =>
      rw [gather]
      split
      · next hfull => simp [hfull]
      · next hroom =>
        split
        · next hskip =>
          have hout : ¬ isNew typed shown word = true := by
            simpa [isNew, Classical.or_iff_not_imp_left] using hskip
          rw [List.filter_cons_of_neg hout, ih h]
        · next hkeep =>
          have hin : isNew typed shown word = true := decide_eq_true (not_or.mp hkeep)
          have hlength : (shown ++ [word]).length = shown.length + 1 := List.length_append
          have hmax : max - shown.length = max - (shown ++ [word]).length + 1 := by omega
          have hrest : (rest.filter (isNew typed (shown ++ [word]))).eraseDups =
              (rest.filter (isNew typed shown)).eraseDups.filter (· != word) := by
            rw [← eraseDups_filter, List.filter_filter]
            exact congrArg _ (List.filter_congr fun w _ => isNew_concat typed shown word w)
          rw [ih (by omega), hrest, List.filter_cons_of_pos hin, eraseDups_cons_eq, hmax,
            List.take_succ_cons, List.append_assoc, List.singleton_append]

theorem suggestions_eq (hvalid : r.typedValid = false) :
    (ofResults typed l r threshold max).suggestions =
      ((recased typed l r).filter (· ≠ typed)).eraseDups.take max := by
  rw [ofResults, if_neg (by simp [hvalid])]
  show gather typed max [] (recased typed l r) = _
  rw [gather_eq (Nat.zero_le max), List.nil_append, List.length_nil, Nat.sub_zero]
  refine congrArg (fun words => (List.eraseDups words).take max) (List.filter_congr ?_)
  simp [isNew]

/-- Whatever is shown is a candidate, recased like the typed word. -/
theorem exists_of_mem_suggestions {word : String}
    (h : word ∈ (ofResults typed l r threshold max).suggestions) :
    ∃ c ∈ r.candidates, word = recase l (.classify typed) c.word := by
  cases hvalid : r.typedValid with
  | true =>
      rw [ofResults, if_pos hvalid] at h
      cases h
  | false =>
      rw [suggestions_eq hvalid] at h
      have hranked := List.mem_eraseDups.mp (List.mem_of_mem_take h)
      obtain ⟨c, hc, rfl⟩ := List.mem_map.mp (List.mem_filter.mp hranked).1
      exact ⟨c, hc, rfl⟩

/-- **The first distinct corrections are shown.**  For a word that is not right, what is shown are
the candidates cased like it, without the word itself, each spelling once and as many as may be
shown.  So nothing is shown twice, and the typed word not at all; of two that are shown, the one
whose best candidate ranks higher comes first; and if fewer may be shown, they are the first of
these. -/
theorem first_distinct_corrections_are_shown (hvalid : r.typedValid = false) :
    let ranked := recased typed l r
    let shown := fun max => (ofResults typed l r threshold max).suggestions
    shown max = (ranked.filter (· ≠ typed)).eraseDups.take max ∧
      (shown max).Nodup ∧ typed ∉ shown max ∧
      (shown max).Pairwise (fun word later => ranked.idxOf word < ranked.idxOf later) ∧
      ∀ fewer ≤ max, shown fewer <+: shown max := by
  intro ranked shown
  have hshown : ∀ max, shown max = (ranked.filter (· ≠ typed)).eraseDups.take max := fun max =>
    suggestions_eq hvalid
  have hsublist : (shown max).Sublist ranked.eraseDups := by
    rw [hshown, eraseDups_filter]
    exact (List.take_sublist max _).trans List.filter_sublist
  refine ⟨hshown max, (nodup_eraseDups ranked).sublist hsublist, ?_,
    (pairwise_idxOf_eraseDups ranked).sublist hsublist, ?_⟩
  · intro hmem
    rw [hshown] at hmem
    simpa using List.mem_of_mem_take hmem
  · intro fewer hfewer
    rw [hshown, hshown]
    exact List.take_prefix_take_left hfewer

/-- In the capitals of the typed word four candidates come to two corrections. -/
theorem first_distinct_corrections_are_shown_of_capitals :
    let r : Results := ⟨[⟨"hello", 90⟩, ⟨"Hello", 80⟩, ⟨"helo", 70⟩, ⟨"help", 60⟩], false⟩
    let shown := fun max => (ofResults "HELO" (.ofLanguage "en") r 0 max).suggestions
    r.typedValid = false ∧ 1 ≤ 3 ∧ shown 3 = ["HELLO", "HELP"] ∧ shown 1 <+: shown 3 := by
  intro r shown
  obtain ⟨hshown, -, -, -, hfewer⟩ :=
    @first_distinct_corrections_are_shown "HELO" (.ofLanguage "en") r 0 3 rfl
  have hfirst : ((recased "HELO" (.ofLanguage "en") r).filter (· ≠ "HELO")).eraseDups.take 3 =
      ["HELLO", "HELP"] := by
    decide +kernel
  exact ⟨rfl, by decide, hshown.trans hfirst, hfewer 1 (by decide)⟩

end Spelling.Verdict
