import Spelling.WordList.Basic

/-!
# The entry of a word is the first that is listed

The index of a list is made entry after entry, and a word keeps the place that it got first:

    entries     hello fq:9    world    hello fq:1    help
    index       hello 0       world 1                help 3

So the place of a word is that of its first entry (`lookup_index`), and the index finds what a search
through the entries would find.
-/

namespace Spelling.WordList

variable {word : String}

theorem lookup_place (index : List (String × Nat)) (word w : String) (i : Nat) :
    (place index word i).lookup w =
      (index.lookup w).or (if word = w then some i else none) := by
  rw [place]
  split
  · next hplaced =>
    split
    · next heq =>
      obtain ⟨j, hj⟩ := Option.isSome_iff_exists.mp (heq ▸ hplaced)
      rw [hj, Option.some_or]
    · rw [Option.or_none]
  · next hfresh =>
    rw [List.lookup_cons]
    by_cases heq : word = w
    · subst heq
      rw [beq_self_eq_true, Option.not_isSome_iff_eq_none.mp hfresh, if_pos rfl, Option.none_or]
    · rw [beq_false_of_ne (Ne.symm heq), if_neg heq, Option.or_none]

/-- A word that is in the index stays where it is, and another gets the place of its first entry. -/
theorem lookup_indexFrom (index : List (String × Nat)) (i : Nat) (entries : List Entry)
    (word : String) : (indexFrom index i entries).lookup word =
      (index.lookup word).or ((entries.findIdx? (·.word == word)).map (i + ·)) := by
  induction entries generalizing index i with
  | nil => rw [indexFrom, List.findIdx?_nil, Option.map_none, Option.or_none]
  | cons e rest ih =>
      rw [indexFrom, ih, lookup_place, Option.or_assoc, List.findIdx?_cons]
      congr 1
      by_cases heq : e.word = word
      · rw [if_pos heq, heq, beq_self_eq_true, if_pos rfl, Option.some_or, Option.map_some,
          Nat.add_zero]
      · rw [if_neg heq, beq_false_of_ne heq, if_neg Bool.false_ne_true, Option.none_or,
          Option.map_map]
        exact congrArg (Option.map · _) (funext fun j => Nat.add_right_comm i 1 j)

/-- **A word has the place of its first entry.** -/
theorem lookup_index (list : WordList) (word : String) :
    list.index.lookup word = list.entries.findIdx? (·.word == word) := by
  rw [list.indexed, lookup_indexFrom, List.lookup_nil, Option.none_or]
  simp only [Nat.zero_add, Option.map_id']

theorem get?_eq_find? (list : WordList) (word : String) :
    list.get? word = list.entries.find? (·.word == word) := by
  rw [get?, lookup_index, List.find?_eq_bind_findIdx?_getElem?]

theorem contains_eq_any (list : WordList) (word : String) :
    list.contains word = list.entries.any (·.word == word) := by
  rw [contains, lookup_index, List.findIdx?_isSome]

theorem contains_iff_exists {list : WordList} :
    list.contains word = true ↔ ∃ e ∈ list.entries, e.word = word := by
  simp only [contains_eq_any, List.any_eq_true, beq_iff_eq]

/-- A list is its entries. -/
theorem ofEntries_entries (list : WordList) : ofEntries list.entries = list := by
  obtain ⟨entries, index, rfl⟩ := list
  rfl

/-- The entry of a word is the first that is listed. -/
theorem get?_eq_some_iff {list : WordList} {e : Entry} :
    list.get? word = some e ↔ e.word = word ∧
      ∃ before after, list.entries = before ++ e :: after ∧ ∀ d ∈ before, d.word ≠ word := by
  simp only [get?_eq_find?, List.find?_eq_some_iff_append, beq_iff_eq, Bool.not_eq_true',
    beq_eq_false_iff_ne]

theorem get?_eq_none_iff {list : WordList} :
    list.get? word = none ↔ ∀ e ∈ list.entries, e.word ≠ word := by
  simp only [get?_eq_find?, List.find?_eq_none, beq_iff_eq]

end Spelling.WordList
