import Mathlib.Data.List.Perm.Subperm
import Spelling.Proofs.Cache.Debts

/-!
# How many dictionaries are open

The residents alone do not bound the open dictionaries: an evicted one stays open while its readers
finish, and a slot may be evicted while it is still being opened.  But whoever was given a slot
opens it only after the one evicted for it is closed.  So count the slots that are open or being
opened:

    each is      resident                  as many as there are residents
                 evicted for a newcomer    as many as slots that wait to be opened
                 taken out by a drain      as many as drains have still to close

The slots being opened cancel against the evicted ones, and what is open is bounded by the residents
and by what drains have still to close (`Accounts.length_unclosed_le`).
-/

namespace Spelling.Cache

variable {σ δ : Type} {b : Backend σ δ}

namespace Caller

/-- The slots that a caller has still to close of those that it took out of the residents. -/
def drains : Caller → List Nat
  | closing slots => slots
  | closed _ rest => rest
  | finding .. | evicting .. | evicted .. | retiring .. | retired .. | choosing .. | opening ..
  | entering .. | asking .. | answering .. | forgetting .. | retrying .. | leaving ..
  | inspecting _ | draining | switching _ | collecting _ | applying .. | peeking _ | done _ => []

/-- Whether a caller goes over all residents, to close them or to change them. -/
def sweeps : Caller → Bool
  | draining | closing _ | closed .. | switching _ | collecting _ | applying .. => true
  | finding .. | evicting .. | evicted .. | retiring .. | retired .. | choosing .. | opening ..
  | entering .. | asking .. | answering .. | forgetting .. | retrying .. | leaving ..
  | inspecting _ | peeking _ | done _ => false

theorem sweeps_of_drains {x : Caller} (h : x.drains ≠ []) : x.sweeps = true := by
  cases x with
  | closing | closed => rfl
  | finding | evicting | evicted | retiring | retired | choosing | opening | entering | asking
  | answering | forgetting | retrying | leaving | inspecting | draining | switching | collecting
  | applying | peeking | done => exact absurd rfl h

theorem sweeps_begin (k : Nat) (e? p? : Option Nat) (w : Want) :
    (begin k e? p? w).sweeps = false := by
  cases e? <;> cases p? <;> rfl

theorem sweeps_entered (s : CacheState σ δ) (i : Nat) (a : Ask) (f : Fallback) :
    (entered s i a f).sweeps = false := by
  simp only [entered]
  cases s.cache.phase i <;> cases f <;> rfl

/-- Nobody goes over the residents who did not set out to. -/
theorem Turn.sweeps {s t : CacheState σ δ} {x y : Caller} {n : Nat} (h : Turn b n s x t y)
    (hy : y.sweeps = true) : x.sweeps = true := by
  cases h with
  | lock _ _ => exact hy
  | visit _ h =>
      cases h with
      | draining | closed | collecting => rfl
      | @hit l w i _ => cases w <;> cases hy
      | miss _ =>
          rw [sweeps_begin] at hy
          cases hy
      | @evicted k j p? w => cases p? <;> cases hy
      | retired | forgetting | peeking => cases hy
  | stride h =>
      cases h with
      | closing _ | closedAll | switching | applying _ | appliedAll => rfl
      | @opened k on w _ => cases w <;> cases hy
      | entering _ =>
          rw [sweeps_entered] at hy
          cases hy
      | evicting | retiring | choosing | broken | exhausted | found | missed | starting | main
      | standIn | answering | retrying | leaving | inspecting => cases hy

theorem Idle.drains {x : Caller} (h : x.Idle) : x.drains = [] := by
  cases h with
  | @start call => cases call <;> rfl
  | done => rfl

/-- A caller closes what it drained, or one slot for the one that it is going to open. -/
theorem length_shuts_le (x : Caller) :
    x.shuts.length ≤ x.opens?.toList.length + x.drains.length := by
  cases x with
  | evicting | closing | closed => simp [shuts, opens?, drains]
  | finding | evicted | retiring | retired | choosing | opening | entering | asking | answering
  | forgetting | retrying | leaving | inspecting | draining | switching | collecting | applying
  | peeking | done => exact Nat.zero_le _

end Caller

namespace Crowd

variable {c : Crowd σ δ} {label capacity : Nat}

/-- No two callers open one slot. -/
theorem Sound.openers_nodup (hc : c.Sound) : (c.callers.filterMap Caller.opens?).Nodup := by
  refine List.nodup_iff_count_le_one.mpr ?_
  intro k
  rw [count_filterMap]
  refine Nat.le_trans (Nat.le_of_eq (hc.openers k)) ?_
  cases c.state.cache.isOpening k <;> decide

/-- Slots that are open or being opened are resident or owed a close. -/
theorem Accounts.mem_shuts (hc : c.Accounts label capacity) {i : Nat}
    (hi : i < c.state.cache.slots.length) (hdead : ¬ c.state.cache.Dead i) :
    i ∈ c.state.cache.residentSlots ++ c.callers.flatMap Caller.shuts := by
  rcases hc.debts.shuts i hi hdead with hres | ⟨x, hx, hshuts⟩
  · exact List.mem_append_left _ (List.mem_map_of_mem hres)
  · exact List.mem_append_right _ (List.mem_flatMap.mpr ⟨x, hx, hshuts⟩)

/-- **As many as residents, and as drains have still to close.** -/
theorem Accounts.length_unclosed_le (hc : c.Accounts label capacity) :
    (Event.unclosedIn label c.state.world.events).length ≤
      c.state.cache.resident.length + (c.callers.map fun x => x.drains.length).sum := by
  have hheld : ∀ i ∈ Event.unclosedIn label c.state.world.events, c.state.cache.Holds i := by
    intro i hi
    exact (hc.ledger.holds_iff i).mpr hi
  have hopening : ∀ k ∈ c.callers.filterMap Caller.opens?, c.state.cache.isOpening k = true := by
    intro k hk
    obtain ⟨x, hx, hopens⟩ := List.mem_filterMap.mp hk
    exact hc.sound.isOpening hx hopens
  have hnodup : (Event.unclosedIn label c.state.world.events ++
      c.callers.filterMap Caller.opens?).Nodup := by
    refine List.nodup_append.mpr ⟨hc.ledger.unclosed_nodup, hc.sound.openers_nodup, ?_⟩
    rintro i hi k hk rfl
    obtain ⟨d, hd⟩ := hheld i hi
    rw [hc.sound.lineage.loading_of_opening i (hopening i hk)] at hd
    cases hd
  have hsubset : Event.unclosedIn label c.state.world.events ++
      c.callers.filterMap Caller.opens? ⊆
        c.state.cache.residentSlots ++ c.callers.flatMap Caller.shuts := by
    intro i hi
    rcases List.mem_append.mp hi with hi | hi
    · exact hc.mem_shuts (hheld i hi).lt fun hdead => hdead.not_holds (hheld i hi)
    · have hopen := hopening i hi
      refine hc.mem_shuts ?_ fun hdead => ?_
      · refine Nat.lt_of_not_le ?_
        intro hle
        rw [isOpening_of_length_le _ hle] at hopen
        cases hopen
      · rw [hdead.unopened] at hopen
        cases hopen
  have hcount := (List.subperm_of_subset hnodup hsubset).length_le
  have hshuts := sum_map_le_add (l := c.callers) fun x _ => x.length_shuts_le
  simp only [List.length_append, List.length_flatMap, residentSlots, List.length_map] at hcount
  omega

/-! ## What a drain takes out -/

/-- Whoever has drained slots still to close took every resident out, and no more than there was
room for. -/
def Drained (c : Cache δ) (x : Caller) : Prop :=
  x.drains ≠ [] → c.resident = [] ∧ x.drains.length ≤ c.capacity

variable {s t : CacheState σ δ} {x y : Caller} {n : Nat}

theorem drained_closeNext {c : Cache δ} {slots : List Nat}
    (h : slots ≠ [] → c.resident = [] ∧ slots.length ≤ c.capacity) :
    Drained c (.closeNext slots) := by
  cases slots with
  | nil => exact fun hne => absurd rfl hne
  | cons i rest => exact h

theorem Drained.turn (hx : Drained s.cache x) (hs : s.cache.Compact)
    (h : Caller.Turn b n s x t y) : Drained t.cache y := by
  cases h with
  | lock _ _ => exact hx
  | visit _ h =>
      cases h with
      | draining =>
          refine drained_closeNext ?_
          intro _
          simp only [Caller.relock, CacheState.cache_onCache, CacheState.cache_reportDrain]
          refine ⟨rfl, ?_⟩
          simpa [drain] using hs.bounded
      | closed => exact drained_closeNext hx
      | @hit l w i _ => cases w <;> exact fun hne => absurd rfl hne
      | @miss l w _ =>
          cases s.cache.victim? <;> cases s.cache.closing.lookup l <;>
            exact fun hne => absurd rfl hne
      | @evicted k j p? w => cases p? <;> exact fun hne => absurd rfl hne
      | @collecting on => cases s.cache.residentSlots <;> exact fun hne => absurd rfl hne
      | retired | forgetting | peeking => exact fun hne => absurd rfl hne
  | stride h =>
      cases h with
      | @closing i rest _ =>
          intro hne
          obtain ⟨hempty, hle⟩ := hx (List.cons_ne_nil _ _)
          rw [CacheState.resident_shut, CacheState.cache_shut]
          exact ⟨hempty, Nat.le_trans (Nat.le_succ _) hle⟩
      | @opened k on w _ => cases w <;> exact fun hne => absurd rfl hne
      | @entering i a f _ =>
          intro hne
          refine absurd ?_ hne
          simp only [Caller.entered]
          cases s.cache.phase i <;> cases f <;> rfl
      | @applying on i rest _ => cases rest <;> exact fun hne => absurd rfl hne
      | evicting | retiring | choosing | broken | exhausted | found | missed | starting | main
      | standIn | answering | retrying | leaving | inspecting | closedAll | switching
      | appliedAll => exact fun hne => absurd rfl hne

end Crowd

end Spelling.Cache
