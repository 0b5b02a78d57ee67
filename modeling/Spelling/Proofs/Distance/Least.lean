import Mathlib.Order.Bounds.Image
import Spelling.Distance.Alignment
import Spelling.Proofs.Distance.Aligned

/-!
# The least cost of an alignment

With exact costs, the cell in which a prefix of the typed word meets a prefix of the candidate holds
the least cost of aligning the two.  A row holds that of one prefix of the typed word with every
prefix of the candidate (`Costs`), and two rows are enough to compute the next one
(`Standing.step`).

When every cell of a row is beyond the limit, no alignment that reads on is within it, although a
swap goes back to the row above: what an alignment makes of the prefix costs no more than all of it,
and the row has a cell for that.
-/

namespace Spelling.Distance

variable {K : Type} [CommRing K] [LinearOrder K]

/-- Exact costs. -/
def CostScale.exact (K : Type) [CommRing K] [LinearOrder K] : CostScale K where
  whole n := n
  add a b := a + b
  least a b := min a b
  exceeds a b := b < a
  within a b := a ≤ b

/-- A row is beyond the limit when all its cells are. -/
theorem beyond_iff {limit k : K} {ks : List K} :
    (CostScale.exact K).beyond limit (k :: ks) = true ↔ ∀ x ∈ k :: ks, limit < x := by
  rw [CostScale.beyond]
  simp only [CostScale.exact, decide_eq_true_eq, List.forall_mem_cons]
  induction ks generalizing k with
  | nil => simp
  | cons j ks ih => rw [List.foldl_cons, ih, lt_min_iff, List.forall_mem_cons, and_assoc]

/-- The least cost of aligning two words. -/
def LeastCost (replace : Nat → Char → Char → K) (typed candidate : List Char) (k : K) : Prop :=
  IsLeast {k | Aligned replace typed candidate k} k

/-- Cells of the row of `p`: the least costs of aligning it with `q`, and with `q` read on along
some characters of the candidate. -/
inductive Costs (replace : Nat → Char → Char → K) (p : List Char) :
    List Char → List Char → List K → Prop
  | last {q : List Char} {k : K} (h : LeastCost replace p q k) : Costs replace p q [] [k]
  | next {q : List Char} {c : Char} {cs : List Char} {k : K} {ks : List K}
      (h : LeastCost replace p q k) (rest : Costs replace p (q ++ [c]) cs ks) :
      Costs replace p q (c :: cs) (k :: ks)

/-- The two rows from which the row after `p` is computed.  There is none above the first one. -/
structure Standing (replace : Nat → Char → Char → K) (candidate p : List Char)
    (higher above : List K) : Prop where
  above : Costs replace p [] candidate above
  higher : p ≠ [] → Costs replace p.dropLast [] candidate higher

variable {replace : Nat → Char → Char → K} {p q cs candidate : List Char} {ks higher above : List K}

/-! ## Rows -/

namespace Costs

theorem head (h : Costs replace p q cs ks) : ∃ k rest, ks = k :: rest ∧ LeastCost replace p q k := by
  cases h with
  | last h => exact ⟨_, [], rfl, h⟩
  | next h rest => exact ⟨_, _, rfl, h⟩

theorem getLast? (h : Costs replace p q cs ks) :
    ∃ k, ks.getLast? = some k ∧ LeastCost replace p (q ++ cs) k := by
  induction h with
  | last h => exact ⟨_, rfl, by simpa using h⟩
  | next _ rest ih =>
      obtain ⟨k, hk, hleast⟩ := ih
      obtain ⟨_, _, rfl, -⟩ := rest.head
      exact ⟨k, by rwa [List.getLast?_cons_cons], by simpa using hleast⟩

/-- Every prefix of the candidate has a cell. -/
theorem exists_mem (h : Costs replace p q cs ks) {r : List Char} (hr : r <+: cs) :
    ∃ k ∈ ks, LeastCost replace p (q ++ r) k := by
  induction h generalizing r with
  | last h =>
      rw [List.prefix_nil.mp hr, List.append_nil]
      exact ⟨_, List.mem_cons_self, h⟩
  | @next q c cs k ks h _ ih =>
      obtain rfl | ⟨r, rfl, hr'⟩ := List.prefix_cons_iff.mp hr
      · exact ⟨_, List.mem_cons_self, by simpa using h⟩
      · obtain ⟨j, hj, hleast⟩ := ih hr'
        exact ⟨j, List.mem_cons_of_mem _ hj, by simpa using hleast⟩

/-- The cell that a swap goes back to, one column before. -/
theorem swapped (h : Costs replace p q.dropLast (q.getLast?.toList ++ cs) ks) (hq : q ≠ []) :
    ∃ s, (q.getLast?.bind fun _ => ks.head?) = some s ∧ LeastCost replace p q.dropLast s := by
  obtain ⟨k, rest, rfl, hk⟩ := h.head
  exact ⟨k, by simp [List.getLast?_eq_some_getLast hq], hk⟩

/-- From one column before, the cells go on from this column. -/
theorem shift (h : Costs replace p q.dropLast (q.getLast?.toList ++ cs) ks) :
    Costs replace p q cs (if q.getLast?.isSome then ks.tail else ks) := by
  obtain rfl | ⟨q, c, rfl⟩ := q.eq_nil_or_concat
  · simpa using h
  · rw [List.concat_eq_append] at h ⊢
    rw [List.getLast?_concat, List.dropLast_concat] at h
    cases h with
    | next _ rest => simpa using rest

end Costs

/-! ## Cells -/

theorem leastCost_nil_left : LeastCost replace [] q q.length :=
  ⟨Aligned.nil_left_iff.mpr rfl, fun _ h => (Aligned.nil_left_iff.mp h).ge⟩

theorem leastCost_nil_right : LeastCost replace p [] p.length :=
  ⟨Aligned.nil_right_iff.mpr rfl, fun _ h => (Aligned.nil_right_iff.mp h).ge⟩

theorem costs_first :
    Costs replace [] q cs ((List.range' q.length (cs.length + 1)).map (CostScale.exact K).whole) := by
  induction cs generalizing q with
  | nil => exact .last leastCost_nil_left
  | cons c cs ih =>
      have hrest := ih (q := q ++ [c])
      rw [List.length_append, List.length_singleton] at hrest
      exact .next leastCost_nil_left hrest

theorem Standing.first : Standing replace candidate [] []
    ((List.range (candidate.length + 1)).map (CostScale.exact K).whole) where
  above := List.range_eq_range' ▸ costs_first
  higher h := absurd rfl h

variable [IsStrictOrderedRing K]

/-- Adding to all costs adds to the least. -/
theorem isLeast_add {costs : Set K} {k : K} (h : IsLeast costs k) (more : K) :
    IsLeast ((· + more) '' costs) (k + more) :=
  Monotone.map_isLeast (fun _ _ hle => add_le_add_left hle more) h

/-- A cell is the least cost, when the cells that it is computed from are. -/
theorem leastCost_cell {t c : Char} {diagonal up left : K} {swapped : Option K}
    (hdiagonal : LeastCost replace p q diagonal) (hup : LeastCost replace p (q ++ [c]) up)
    (hleft : LeastCost replace (p ++ [t]) q left)
    (hswapped : p ≠ [] → q ≠ [] →
      ∃ s, swapped = some s ∧ LeastCost replace p.dropLast q.dropLast s) :
    LeastCost replace (p ++ [t]) (q ++ [c]) ((CostScale.exact K).cell (replace p.length) p.getLast? t
      q.getLast? c diagonal up left swapped) := by
  have hothers := ((isLeast_add hdiagonal (if t = c then 0 else replace p.length t c)).union
    (isLeast_add hup 1)).union (isLeast_add hleft 1)
  rw [LeastCost, Aligned.setOf_concat]
  by_cases hswap : q.getLast? = some t ∧ p.getLast? = some c
  · obtain ⟨⟨q, rfl⟩, ⟨p, rfl⟩⟩ := hswap.imp List.getLast?_eq_some_iff.mp List.getLast?_eq_some_iff.mp
    obtain ⟨s, rfl, hs⟩ := hswapped (by simp) (by simp)
    rw [List.dropLast_concat, List.dropLast_concat] at hs
    rw [Aligned.setOf_swap]
    simpa [CostScale.cell, CostScale.succ, CostScale.exact] using hothers.union (isLeast_add hs 1)
  · have hnone : {k | ∃ p' q', p = p' ++ [c] ∧ q = q' ++ [t] ∧
        ∃ j, Aligned replace p' q' j ∧ j + 1 = k} = ∅ := by
      refine Set.eq_empty_of_forall_notMem ?_
      rintro k ⟨p', q', rfl, rfl, -⟩
      simp at hswap
    rw [hnone, Set.union_empty]
    cases swapped <;> simpa [CostScale.cell, CostScale.succ, CostScale.exact, hswap] using hothers

/-! ## From row to row -/

/-- A row is computed from the two before it. -/
theorem costs_cells {t : Char} {left : K} (habove : Costs replace p q cs above)
    (hleft : LeastCost replace (p ++ [t]) q left)
    (hhigher : p ≠ [] → Costs replace p.dropLast q.dropLast (q.getLast?.toList ++ cs) higher) :
    Costs replace (p ++ [t]) q cs (left :: (CostScale.exact K).cells (replace p.length) p.getLast? t
      q.getLast? higher above left cs) := by
  induction cs generalizing q higher above left with
  | nil =>
      obtain ⟨diagonal, rest, rfl, -⟩ := habove.head
      simpa [CostScale.cells] using Costs.last hleft
  | cons c cs ih =>
      cases habove with
      | @next _ _ _ diagonal _ hdiagonal rest =>
          obtain ⟨up, above, rfl, hup⟩ := rest.head
          have hhere := leastCost_cell hdiagonal hup hleft fun hp hq => (hhigher hp).swapped hq
          have hcells := ih rest hhere fun hp => by
            rw [List.getLast?_concat, List.dropLast_concat]
            exact (hhigher hp).shift
          rw [List.getLast?_concat] at hcells
          exact .next hleft hcells

theorem Standing.step (h : Standing replace candidate p higher above) (t : Char) :
    Standing replace candidate (p ++ [t]) above ((CostScale.exact K).row (replace p.length) candidate
      p.length p.getLast? t higher above) where
  above := by
    have hfirst : LeastCost replace (p ++ [t]) [] (p ++ [t]).length := leastCost_nil_right
    rw [List.length_append, List.length_singleton] at hfirst
    exact costs_cells h.above hfirst h.higher
  higher _ := by simpa using h.above

/-- There is a least cost of aligning two words. -/
theorem exists_leastCost (replace : Nat → Char → Char → K) (typed candidate : List Char) :
    ∃ k, LeastCost replace typed candidate k := by
  have hrows : ∃ higher above, Standing replace candidate typed higher above := by
    induction typed using List.reverseRecOn with
    | nil => exact ⟨_, _, .first⟩
    | append_singleton p t ih =>
        obtain ⟨higher, above, h⟩ := ih
        exact ⟨_, _, h.step t⟩
  obtain ⟨_, _, h⟩ := hrows
  obtain ⟨k, -, hk⟩ := h.above.getLast?
  exact ⟨k, hk⟩

/-! ## Up to a limit -/

variable (hreplace : ∀ i t c, 0 ≤ replace i t c)
include hreplace

/-- No alignment that reads on from a row beyond the limit is within it. -/
theorem Costs.lt_of_beyond {limit k : K} (h : Costs replace p [] candidate ks)
    (hbeyond : (CostScale.exact K).beyond limit ks = true) {ts : List Char} (hp : p <+: ts)
    (hk : Aligned replace ts candidate k) : limit < k := by
  obtain ⟨first, rest, rfl, -⟩ := h.head
  obtain ⟨q, hq, j, hjk, hj⟩ := hk.exists_prefix hreplace hp
  obtain ⟨least, hmem, hleast⟩ := h.exists_mem hq
  calc limit < least := beyond_iff.mp hbeyond least hmem
    _ ≤ j := hleast.2 hj
    _ ≤ k := hjk

/-- Reading on from two rows finds the least cost if it is within the limit. -/
theorem Standing.alignFrom_eq_some_iff (h : Standing replace candidate p higher above) {limit k : K}
    {ts : List Char} :
    (CostScale.exact K).alignFrom limit replace candidate p.length p.getLast? higher above ts =
      some k ↔ LeastCost replace (p ++ ts) candidate k ∧ k ≤ limit := by
  induction ts generalizing p higher above with
  | nil =>
      obtain ⟨least, hlast, hleast⟩ := h.above.getLast?
      rw [List.nil_append] at hleast
      rw [CostScale.alignFrom, hlast, List.append_nil, Option.bind_some]
      simp only [CostScale.exact, decide_eq_true_eq, Option.ite_none_right_eq_some, Option.some_inj]
      constructor
      · rintro ⟨hle, rfl⟩
        exact ⟨hleast, hle⟩
      · rintro ⟨hk, hle⟩
        obtain rfl := hleast.unique hk
        exact ⟨hle, rfl⟩
  | cons t ts ih =>
      have hnext := h.step t
      have hrest := ih hnext
      rw [List.length_append, List.length_singleton, List.getLast?_concat, List.append_assoc,
        List.singleton_append] at hrest
      rw [CostScale.alignFrom]
      split
      · next hbeyond =>
        refine iff_of_false nofun ?_
        rintro ⟨hk, hle⟩
        have hlt := hnext.above.lt_of_beyond hreplace hbeyond ⟨ts, by simp⟩ hk.1
        exact hle.not_gt hlt
      · exact hrest

/-- Aligning two words finds their least cost if it is within the limit. -/
theorem align_eq_some_iff {limit k : K} {typed candidate : List Char} :
    (CostScale.exact K).align limit replace typed candidate = some k ↔
      LeastCost replace typed candidate k ∧ k ≤ limit :=
  Standing.first.alignFrom_eq_some_iff hreplace

end Spelling.Distance
