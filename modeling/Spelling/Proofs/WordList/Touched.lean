import Spelling.Proofs.Sigma
import Spelling.Proofs.WordList.Scratch

/-!
# Touch points in lowercase

A typed word may come with a touch point for each of its characters.  It is compared in lowercase,
and what stands at a place of the lowercase is priced with the touch point of the same place.  That
is the point of the character that it comes from, as long as lowercasing keeps the places.

One letter does not keep them.  Where casing is not turkic, `İ` becomes `i` and a dot above, so that
each character behind it is priced with the point of a later one, and the last ones without any:

    typed           İ       z   m   i   t
    touch point     0       1   2   3   4
    lowercase       i  dot  z   m   i   t
    comes from      0   0   1   2   3   4
    priced with     0   1   2   3   4
-/

namespace Spelling

/-! ## Where the characters of a lowercase come from -/

namespace Text

/-- The lowercase of a text that follows `before`, as in `lowerAfter`.  Each character has the place
of the one that it comes from beside it, the first place being `i`. -/
def tracedAfter (before : List Char) (i : Nat) : List Char → List (Char × Nat)
  | [] => []
  | c :: rest => (lowerBetween before c rest).map (·, i) ++ tracedAfter (c :: before) (i + 1) rest

variable {before cs : List Char} {i j k : Nat} {c t : Char}

theorem map_fst_tracedAfter (before : List Char) (i : Nat) (cs : List Char) :
    (tracedAfter before i cs).map Prod.fst = lowerAfter before cs := by
  induction cs generalizing before i with
  | nil => rfl
  | cons c rest ih =>
      rw [tracedAfter, List.map_append, ih, List.map_map, lowerAfter]
      congr 1
      exact List.map_id _

/-- All letters but one have a lowercase of one character. -/
theorem lowerBetween_cases (before : List Char) (c : Char) (after : List Char) :
    c = 'İ' ∧ lowerBetween before c after = ['i', '\u0307'] ∨
      c ≠ 'İ' ∧ ∃ d, lowerBetween before c after = [d] := by
  rw [lowerBetween]
  split
  · next hsigma =>
    subst hsigma
    refine .inr ⟨by decide, ?_⟩
    split
    · exact ⟨_, rfl⟩
    · exact ⟨_, rfl⟩
  · rw [lowerChar]
    split
    · next hascii =>
      refine .inr ⟨?_, _, rfl⟩
      rintro rfl
      exact absurd hascii (by decide)
    · split
      · next hdotted => exact .inl ⟨hdotted, rfl⟩
      · next hne => exact .inr ⟨hne, _, rfl⟩

/-- Without `İ` every character keeps its place. -/
theorem map_snd_tracedAfter (h : 'İ' ∉ cs) (before : List Char) (i : Nat) :
    (tracedAfter before i cs).map Prod.snd = List.range' i cs.length := by
  induction cs generalizing before i with
  | nil => rfl
  | cons c rest ih =>
      rw [List.mem_cons, not_or] at h
      rcases lowerBetween_cases before c rest with ⟨hdotted, -⟩ | ⟨-, d, hlower⟩
      · exact absurd hdotted.symm h.1
      · rw [tracedAfter, hlower, List.map_append, ih h.2]
        rfl

/-- A character comes from its own place, or from an earlier one if `İ` stands before it. -/
theorem place_of_tracedAfter (h : (tracedAfter before i cs)[k]? = some (t, j)) :
    i ≤ j ∧ j < i + cs.length ∧ j ≤ i + k ∧ (j = i + k ↔ 'İ' ∉ cs.take k) := by
  induction cs generalizing before i k with
  | nil => cases h
  | cons c rest ih =>
      rw [tracedAfter] at h
      rw [List.length_cons]
      rcases lowerBetween_cases before c rest with ⟨rfl, hlower⟩ | ⟨hne, d, hlower⟩
      · rw [hlower] at h
        match k with
        | 0 =>
            cases h
            simp
        | 1 =>
            cases h
            simp
        | k + 2 =>
            obtain ⟨hle, hlt, hk, -⟩ := ih h
            refine ⟨by omega, by omega, by omega, ?_⟩
            rw [List.take_succ_cons]
            exact iff_of_false (by omega) (not_not_intro List.mem_cons_self)
      · rw [hlower] at h
        match k with
        | 0 =>
            cases h
            simp
        | k + 1 =>
            obtain ⟨hle, hlt, hk, hplace⟩ := ih h
            refine ⟨by omega, by omega, by omega, ?_⟩
            rw [List.take_succ_cons, List.mem_cons, not_or, ← hplace]
            have hother : 'İ' ≠ c := Ne.symm hne
            simp only [hother, not_false_eq_true, true_and]
            omega

end Text

namespace Casing

/-- The lowercase of characters under the rules of a locale, each with the place of the one that it
comes from beside it. -/
def traced (l : Locale) (cs : List Char) : List (Char × Nat) :=
  Text.tracedAfter [] 0 (cs.map (dotted l))

/-- Some of the characters becomes two in lowercase. -/
def Lengthens (l : Locale) (cs : List Char) : Prop :=
  l.hasTurkicCasing = false ∧ 'İ' ∈ cs

variable {l : Locale} {cs : List Char} {j k : Nat} {t : Char}

theorem map_fst_traced (l : Locale) (cs : List Char) :
    (traced l cs).map Prod.fst = lowerChars l cs := by
  rw [traced, Text.map_fst_tracedAfter, lowerChars_eq_map]
  rfl

theorem mem_map_dotted_iff : 'İ' ∈ cs.map (dotted l) ↔ Lengthens l cs := by
  rw [Lengthens, dotted]
  cases l.hasTurkicCasing with
  | false => simp
  | true =>
      have hnot : ∀ c, turkicDot c ≠ 'İ' := by
        intro c
        rw [turkicDot]
        split
        · decide
        · split
          · decide
          · next hne => exact hne
      simp [hnot]

theorem map_snd_traced (h : ¬ Lengthens l cs) :
    (traced l cs).map Prod.snd = List.range cs.length := by
  rw [traced, Text.map_snd_tracedAfter (mt mem_map_dotted_iff.mp h), List.length_map,
    List.range_eq_range']

/-- A character comes from its own place, or from an earlier one behind a letter that becomes two
characters. -/
theorem place_of_traced (h : (traced l cs)[k]? = some (t, j)) :
    j < cs.length ∧ j ≤ k ∧ (j = k ↔ ¬ Lengthens l (cs.take k)) := by
  obtain ⟨-, hlt, hle, hplace⟩ := Text.place_of_tracedAfter h
  rw [← List.map_take, mem_map_dotted_iff] at hplace
  rw [List.length_map] at hlt
  rw [Nat.zero_add] at hlt hle hplace
  exact ⟨hlt, hle, hplace⟩

end Casing

/-! ## Which prices count -/

namespace Distance.CostScale

variable {α : Type} (scale : CostScale α)

theorem cell_eq_of_price {price price' : Char → Char → α} {t c : Char} (h : price t c = price' t c)
    (t' c' : Option Char) (diagonal up left : α) (swapped : Option α) :
    scale.cell price t' t c' c diagonal up left swapped =
      scale.cell price' t' t c' c diagonal up left swapped := by
  unfold cell
  rw [h]

/-- The cells of a row hang on what it costs to replace by characters of the candidate. -/
theorem cells_eq_of_prices {price price' : Char → Char → α} {t : Char} {cs : List Char}
    (h : ∀ c ∈ cs, price t c = price' t c) (t' c' : Option Char) (higher above : List α)
    (left : α) :
    scale.cells price t' t c' higher above left cs =
      scale.cells price' t' t c' higher above left cs := by
  induction cs generalizing c' higher above left with
  | nil => simp only [cells]
  | cons c rest ih =>
      obtain ⟨hc, hrest⟩ := List.forall_mem_cons.mp h
      rcases above with _ | ⟨diagonal, _ | ⟨up, above⟩⟩
      · rfl
      · rfl
      · simp only [cells]
        rw [cell_eq_of_price scale hc, ih hrest]

/-- The cost of the rest of a typed word hangs on what it costs to replace its characters, each at
its place, by characters of the candidate. -/
theorem alignFrom_eq_of_prices {price price' : Nat → Char → Char → α} {candidate ts : List Char}
    {i : Nat} (h : ∀ k t c, ts[k]? = some t → c ∈ candidate →
      price (i + k) t c = price' (i + k) t c)
    (limit : α) (t' : Option Char) (higher above : List α) :
    scale.alignFrom limit price candidate i t' higher above ts =
      scale.alignFrom limit price' candidate i t' higher above ts := by
  induction ts generalizing i t' higher above with
  | nil => rfl
  | cons t ts ih =>
      have hfirst : ∀ c ∈ candidate, price i t c = price' i t c := fun c hc => h 0 t c rfl hc
      have hrest : ∀ k u c, ts[k]? = some u → c ∈ candidate →
          price (i + 1 + k) u c = price' (i + 1 + k) u c := by
        intro k u c hu hc
        rw [Nat.add_right_comm]
        exact h (k + 1) u c hu hc
      have hrow : scale.row (price i) candidate i t' t higher above =
          scale.row (price' i) candidate i t' t higher above := by
        rw [row, row, cells_eq_of_prices scale hfirst]
      rw [alignFrom, alignFrom, hrow, ih hrest]

end Distance.CostScale

namespace WordList

open Distance

/-- What is compared costs what it costs to replace the characters of the typed word, each at its
place, by those of the candidate. -/
theorem alignClose_eq_of_prices {α : Type} (scale : CostScale α) (rows : Rows α)
    {price price' : Nat → Char → Char → α} {typed candidate : List Char}
    (h : ∀ k t c, typed[k]? = some t → c ∈ candidate → price k t c = price' k t c) :
    alignClose scale rows price typed candidate = alignClose scale rows price' typed candidate := by
  have hplaces : ∀ k t c, typed[k]? = some t → c ∈ candidate →
      price (0 + k) t c = price' (0 + k) t c := by
    intro k t c ht hc
    rw [Nat.zero_add]
    exact h k t c ht hc
  rw [alignClose, alignClose, compareClose_fst, compareClose_fst, CostScale.align, CostScale.align,
    scale.alignFrom_eq_of_prices hplaces]

/-! ## Touch points -/

/-- Cost of replacing a character with a touch point. -/
def touchCost (keyboard : Keyboard) (touch : Point) (candidate : Char) : Float32 :=
  match keyboard.distanceTo? touch candidate with
  | some distance => clampCost (distance / 2)
  | none => 1

/-- Cost of replacing a character without touch point. -/
def keyCost (keyboard : Keyboard) (typed candidate : Char) : Float32 :=
  match keyboard.proximity typed candidate with
  | .same => 0
  | .adjacent => 0.5
  | .distant | .unknown => 1

variable {q : Query} {ts : List Point} {l : Locale}

theorem replaceCost_eq (q : Query) (k : Nat) (t c : Char) : replaceCost q k t c =
    match q.composed.touch? k with
    | some touch => touchCost q.keyboard touch c
    | none => keyCost q.keyboard t c := rfl

theorem touch?_eq (hts : q.composed.touches? = some ts) (k : Nat) :
    q.composed.touch? k = ts[k]? := by
  rw [Composed.touch?, hts]
  rfl

end WordList

/-- The same query with a touch point for each character of the lowercase, that of the typed
character which it comes from. -/
def Query.retouched (q : Query) (l : Locale) : Query :=
  let places := Casing.traced l q.composed.word.toList
  let touches? := q.composed.touches?.map fun ts => places.filterMap fun place => ts[place.2]?
  { q with composed := { q.composed with touches? } }

namespace WordList

variable {q : Query} {ts : List Point} {l : Locale}

theorem filterMap_getElem?_range (ts : List Point) :
    (List.range ts.length).filterMap (ts[·]?) = ts := by
  induction ts with
  | nil => rfl
  | cons p ts ih =>
      rw [List.length_cons, List.range_succ_eq_map, List.filterMap_cons, List.filterMap_map]
      exact congrArg (p :: ·) ih

/-- Where every character keeps its place, so does every touch point. -/
theorem retouched_eq (hts : q.composed.touches? = some ts)
    (hlength : ts.length = q.composed.word.length)
    (h : ¬ Casing.Lengthens l q.composed.word.toList) : q.retouched l = q := by
  have hsame : (Casing.traced l q.composed.word.toList).filterMap (fun place => ts[place.2]?) =
      ts := by
    have hmap := List.filterMap_map (f := Prod.snd) (g := (ts[·]?))
      (l := Casing.traced l q.composed.word.toList)
    refine hmap.symm.trans ?_
    rw [Casing.map_snd_traced h, String.length_toList, ← hlength, filterMap_getElem?_range]
  rw [Query.retouched, hts, Option.map_some, hsame, ← hts]

/-- **A character is priced with its own touch point unless a letter before it becomes two.**  The
typed word has one touch point for each character, and is compared in lowercase.  What stands at a
place of the lowercase comes from a character of the typed word, which has a touch point.  If no
letter before it becomes two characters in lowercase, it comes from its own place, and replacing it
is priced with that point.  Otherwise it comes from an earlier place, and is priced with the point
of its own place, that of another character, or without any where there is none.  What a candidate
costs hangs on these prices only.  So a word without such a letter gets the suggestions that it
would get if each character of its lowercase had the touch point of the one that it comes from. -/
theorem own_touch_is_used_unless_lengthened (d : Dictionary)
    (hts : q.composed.touches? = some ts) (hlength : ts.length = q.composed.word.length) :
    let typed := q.composed.word.toList
    let lowered := Casing.lowerChars d.locale typed
    let places := Casing.traced d.locale typed
    places.map Prod.fst = lowered ∧
      (∀ k t i, places[k]? = some (t, i) → ∃ own, ts[i]? = some own ∧
        (¬ Casing.Lengthens d.locale (typed.take k) →
          i = k ∧ ∀ c, replaceCost q k t c = touchCost q.keyboard own c) ∧
        (Casing.Lengthens d.locale (typed.take k) → i < k ∧ ∀ c, replaceCost q k t c =
          match ts[k]? with
          | some other => touchCost q.keyboard other c
          | none => keyCost q.keyboard t c)) ∧
      (∀ (e : Entry) (price : Nat → Char → Char → Float32),
        let candidate := Casing.lowerChars d.locale e.word.toList
        (∀ k t c, lowered[k]? = some t → c ∈ candidate → price k t c = replaceCost q k t c) →
          cost? d.locale q lowered e = alignClose .single {} price lowered candidate) ∧
      (¬ Casing.Lengthens d.locale typed → ∀ session,
        d.suggest q session = d.suggest (q.retouched d.locale) session) := by
  intro typed lowered places
  refine ⟨Casing.map_fst_traced d.locale typed, ?_, ?_, ?_⟩
  · intro k t i hplace
    obtain ⟨hlt, hle, hkeeps⟩ := Casing.place_of_traced hplace
    rw [String.length_toList, ← hlength] at hlt
    have hown : ts[i]? = some ts[i] := List.getElem?_eq_getElem hlt
    refine ⟨ts[i], hown, fun hkept => ?_, fun hlengthens => ⟨?_, fun c => ?_⟩⟩
    · obtain rfl := hkeeps.mpr hkept
      refine ⟨rfl, fun c => ?_⟩
      rw [replaceCost_eq, touch?_eq hts, hown]
    · exact Nat.lt_of_le_of_ne hle fun heq => hkeeps.mp heq hlengthens
    · rw [replaceCost_eq, touch?_eq hts]
  · intro e price candidate hprices
    exact (alignClose_eq_of_prices .single {} hprices).symm
  · intro hkept session
    rw [retouched_eq hts hlength hkept]

/-- Three keys in a row, one unit wide each. -/
def threeKeys : Keyboard := .ofRows "three" ["aix"] 3 1

/-- The letter before `İ` and `İ` itself keep their touch points, and the letter behind it has
none. -/
theorem own_touch_is_used_unless_lengthened_of_middle :
    let d := Dictionary.ofLists (.ofLanguage "en") (.ofEntries [{ word := "Aix" }]) none {}
    let ts : List Point := [⟨0, 0⟩, ⟨1, 0⟩, ⟨2, 0⟩]
    let q : Query := ⟨⟨"Aİx", some ts⟩, .empty, threeKeys, {}⟩
    q.composed.touches? = some ts ∧ ts.length = q.composed.word.length ∧
      Casing.traced d.locale q.composed.word.toList =
        [('a', 0), ('i', 1), ('\u0307', 1), ('x', 2)] ∧
      (∀ c, replaceCost q 1 'i' c = touchCost threeKeys ⟨1, 0⟩ c) ∧
      ∀ c, replaceCost q 3 'x' c = keyCost threeKeys 'x' c := by
  intro d ts q
  have hlength : ts.length = q.composed.word.length := by decide +kernel
  have hplaces : Casing.traced d.locale q.composed.word.toList =
      [('a', 0), ('i', 1), ('\u0307', 1), ('x', 2)] := by decide +kernel
  have hturkic : d.locale.hasTurkicCasing = false := by decide +kernel
  obtain ⟨-, hprices, -, -⟩ := own_touch_is_used_unless_lengthened d rfl hlength
  obtain ⟨own, hown, hkept, -⟩ := hprices 1 'i' 1 (by rw [hplaces]; rfl)
  obtain ⟨-, -, -, hlengthens⟩ := hprices 3 'x' 2 (by rw [hplaces]; rfl)
  cases hown
  refine ⟨rfl, hlength, hplaces, (hkept ?_).2, (hlengthens ?_).2⟩
  · rintro ⟨-, hmem⟩
    revert hmem
    decide +kernel
  · exact ⟨hturkic, by decide +kernel⟩

/-- Behind `İ` no letter is priced with its own touch point: the next one has the point of the
letter after it, and the last one has none. -/
theorem touch_of_next_letter_is_used :
    let en := Locale.ofLanguage "en"
    let d := Dictionary.ofLists en (.ofEntries [{ word := "İzmir", frequency := 100 }]) none {}
    let ts : List Point := [⟨7.5, 0.5⟩, ⟨1.5, 2.5⟩, ⟨7.5, 2.5⟩, ⟨7.5, 0.5⟩, ⟨3.5, 0.5⟩]
    let keyboard := Keyboard.ofRows "" ["qwertyuiop", "asdfghjkl", "zxcvbnm"] 10 4
    let q : Query := ⟨⟨"İzmit", some ts⟩, .empty, keyboard, {}⟩
    let places := Casing.traced d.locale q.composed.word.toList
    ts.length = q.composed.word.length ∧
      places[2]? = some ('z', 1) ∧ q.composed.touch? 2 = ts[2]? ∧
      places[5]? = some ('t', 4) ∧ q.composed.touch? 5 = none ∧
      ¬ ∀ k t i, places[k]? = some (t, i) → q.composed.touch? k = ts[i]? := by
  intro en d ts keyboard q places
  have hplaces : places =
      [('i', 0), ('\u0307', 0), ('z', 1), ('m', 2), ('i', 3), ('t', 4)] := by decide +kernel
  have hlast : places[5]? = some ('t', 4) := by
    rw [hplaces]
    rfl
  refine ⟨by decide +kernel, by rw [hplaces]; rfl, rfl, hlast, rfl, fun hown => ?_⟩
  cases hown 5 't' 4 hlast

end WordList

end Spelling
