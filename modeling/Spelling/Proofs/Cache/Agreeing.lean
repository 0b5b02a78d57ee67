import Spelling.Proofs.Cache.Debts
import Spelling.Proofs.WordList.Steady

/-!
# Slots that agree with the option for contacts

A slot agrees with an option (`Agrees`) if its dictionary has it, and whoever opens one there has
read it so.  Once an option is stored, no step of anybody brings a slot that does not agree, unless
it is the step of a caller who switches the contacts to something else (`Stored.turn`):

    a dictionary that the slot has after a step      its option
    was there before                                 as before
    was opened                                       as its caller had read it
    was told an option                               as its caller stored it

A slot that is told the option agrees with it, since nobody opens it at that time (`Stored.told`).
And a slot that was taken from the residents is no resident again (`Gone.turn`).
-/

namespace Spelling

variable {σ δ : Type} {b : Backend σ δ}

/-- The dictionaries of a backend have the option for contacts that they were opened with, until
they are told another. -/
structure Backend.Heeds (b : Backend σ δ) (contacts : δ → Bool) : Prop where
  load : ∀ (st : σ) (l : Locale) (o : Options) (d : δ),
    (b.load st l o).2.value = .opened d → contacts d = o.useContacts
  setContacts : ∀ (d : δ) (on : Bool), contacts (b.setContacts d on) = on

theorem WordList.Source.heeds (s : Source) :
    (Backend.rehearsed s.kind).Heeds Dictionary.useContacts where
  load st l o d h := by
    rw [Backend.rehearsed] at h
    dsimp only at h
    split at h
    · cases h
    · obtain ⟨main, -, -, rfl⟩ := fresh_eq_opened_iff.mp h
      rfl
  setContacts _ _ := rfl

namespace Cache

namespace Caller

/-! ## Who switches the contacts, and who has read the option -/

/-- What a caller switches the contacts to. -/
def switches? : Caller → Option Bool
  | switching on | collecting on | applying on _ => some on
  | finding .. | evicting .. | evicted .. | retiring .. | retired .. | choosing .. | opening ..
  | entering .. | asking .. | answering .. | forgetting .. | retrying .. | leaving ..
  | inspecting _ | draining | closing _ | closed .. | peeking _ | done _ => none

/-- The slot that a caller opens, and the option that it has read for it. -/
def chose? : Caller → Option (Nat × Bool)
  | opening k on _ => some (k, on)
  | finding .. | evicting .. | evicted .. | retiring .. | retired .. | choosing .. | entering ..
  | asking .. | answering .. | forgetting .. | retrying .. | leaving .. | inspecting _ | draining
  | closing _ | closed .. | switching _ | collecting _ | applying .. | peeking _ | done _ => none

theorem eq_opening_of_chose {x : Caller} {i : Nat} {on : Bool} (h : x.chose? = some (i, on)) :
    ∃ w, x = opening i on w := by
  cases x with
  | opening k v w =>
      cases h
      exact ⟨w, rfl⟩
  | finding | evicting | evicted | retiring | retired | choosing | entering | asking | answering
  | forgetting | retrying | leaving | inspecting | draining | closing | closed | switching
  | collecting | applying | peeking | done => cases h

theorem switches?_next (i : Nat) (w : Want) : (next i w).switches? = none := by
  cases w <;> rfl

theorem switches?_begin (k : Nat) (e? p? : Option Nat) (w : Want) :
    (begin k e? p? w).switches? = none := by
  cases e? <;> cases p? <;> rfl

theorem switches?_afterEviction (k : Nat) (p? : Option Nat) (w : Want) :
    (afterEviction k p? w).switches? = none := by
  cases p? <;> rfl

theorem switches?_closeNext (slots : List Nat) : (closeNext slots).switches? = none := by
  cases slots <;> rfl

theorem switches?_applyNext {on v : Bool} {slots : List Nat}
    (h : (applyNext on slots).switches? = some v) : on = v := by
  cases slots with
  | nil => cases h
  | cons i rest => exact Option.some.inj h

theorem chose?_next (i : Nat) (w : Want) : (next i w).chose? = none := by
  cases w <;> rfl

theorem chose?_begin (k : Nat) (e? p? : Option Nat) (w : Want) :
    (begin k e? p? w).chose? = none := by
  cases e? <;> cases p? <;> rfl

theorem chose?_afterEviction (k : Nat) (p? : Option Nat) (w : Want) :
    (afterEviction k p? w).chose? = none := by
  cases p? <;> rfl

theorem chose?_closeNext (slots : List Nat) : (closeNext slots).chose? = none := by
  cases slots <;> rfl

theorem chose?_applyNext (on : Bool) (slots : List Nat) : (applyNext on slots).chose? = none := by
  cases slots <;> rfl

theorem Idle.chose {x : Caller} (h : x.Idle) : x.chose? = none := by
  cases h with
  | @start call => cases call <;> rfl
  | done => rfl

section Step

variable {s t : CacheState σ δ} {x y : Caller} {n : Nat}

theorem switches?_entered (i : Nat) (a : Ask) (f : Fallback) :
    (entered s i a f).switches? = none := by
  simp only [entered]
  cases s.cache.phase i <;> cases f <;> rfl

theorem chose?_entered (i : Nat) (a : Ask) (f : Fallback) : (entered s i a f).chose? = none := by
  simp only [entered]
  cases s.cache.phase i <;> cases f <;> rfl

/-- No step takes a caller to switching the contacts who was not at it. -/
theorem Turn.switches (h : Turn b n s x t y) {on : Bool} (hy : y.switches? = some on) :
    x.switches? = some on := by
  cases h with
  | lock _ _ => exact hy
  | visit _ h =>
      cases h with
      | collecting =>
          rw [switches?_applyNext hy]
          rfl
      | hit | miss | evicted | draining | closed =>
          simp only [switches?_next, switches?_begin, switches?_afterEviction,
            switches?_closeNext] at hy
          cases hy
      | retired | forgetting | peeking => cases hy
  | stride h =>
      cases h with
      | applying _ =>
          rw [switches?_applyNext hy]
          rfl
      | switching => exact hy
      | opened | entering =>
          simp only [switches?_next, switches?_entered] at hy
          cases hy
      | evicting | retiring | choosing | broken | exhausted | found | missed | starting | main
      | standIn | answering | retrying | leaving | inspecting | closing | closedAll
      | appliedAll => cases hy

/-- What is read of the option is what is stored. -/
theorem Turn.chose (h : Turn b n s x t y) {i : Nat} {on : Bool} (hy : y.chose? = some (i, on)) :
    on = s.cache.useContacts := by
  cases h with
  | lock hvisits _ =>
      obtain ⟨w, rfl⟩ := eq_opening_of_chose hy
      cases hvisits
  | visit _ h =>
      cases h with
      | hit | miss | evicted | draining | closed | collecting =>
          simp only [chose?_next, chose?_begin, chose?_afterEviction, chose?_closeNext,
            chose?_applyNext] at hy
          cases hy
      | retired | forgetting | peeking => cases hy
  | stride h =>
      cases h with
      | choosing =>
          cases hy
          rfl
      | opened | entering | applying =>
          simp only [chose?_next, chose?_entered, chose?_applyNext] at hy
          cases hy
      | evicting | retiring | broken | exhausted | found | missed | starting | main | standIn
      | answering | retrying | leaving | inspecting | closing | closedAll | switching
      | appliedAll => cases hy

/-- Only a caller who switches the contacts stores the option. -/
theorem Turn.useContacts (h : Turn b n s x t y) : t.cache.useContacts = s.cache.useContacts ∨
    ∃ on, x.switches? = some on ∧ t.cache.useContacts = on := by
  cases h with
  | lock _ _ => exact .inl rfl
  | visit _ h =>
      refine .inl ?_
      rw [relock, CacheState.cache_onCache]
      cases h with
      | miss _ =>
          rw [CacheState.cache_reportFirst]
          rfl
      | evicted =>
          rw [CacheState.cache_reportPrevious?]
          rfl
      | draining =>
          rw [CacheState.cache_reportDrain]
          rfl
      | hit | retired | forgetting | closed | collecting | peeking => rfl
  | stride h =>
      cases h with
      | switching => exact .inr ⟨_, rfl, rfl⟩
      | evicting _ | retiring _ | closing _ =>
          rw [CacheState.cache_shut]
          exact .inl rfl
      | opened _ | broken _ =>
          rw [CacheState.cache_fill]
          exact .inl rfl
      | applying _ =>
          rw [CacheState.cache_switchContacts]
          exact .inl rfl
      | choosing | entering | exhausted | found | missed | starting | main | standIn | answering
      | retrying | leaving | inspecting | closedAll | appliedAll => exact .inl rfl

/-- A slot that was not resident and is there is no resident again. -/
theorem Turn.residentSlots (h : Turn b n s x t y) {i : Nat} (hi : i ∈ t.cache.residentSlots) :
    i ∈ s.cache.residentSlots ∨ s.cache.slots.length ≤ i := by
  obtain ⟨e, he, rfl⟩ := List.mem_map.mp hi
  have hstays : e ∈ s.cache.resident → e.2 ∈ s.cache.residentSlots ∨ s.cache.slots.length ≤ e.2 :=
    fun hmem => .inl (List.mem_map_of_mem hmem)
  cases h with
  | lock _ _ => exact hstays he
  | visit _ h =>
      rw [relock, CacheState.cache_onCache] at he
      cases h with
      | hit hl =>
          rcases mem_put.mp he with rfl | ⟨he, -⟩
          · exact hstays (mem_of_lookup hl)
          · exact hstays he
      | miss hnone =>
          rw [CacheState.cache_reportFirst, CacheState.cache_onCache] at he
          rcases List.mem_cons.mp he with rfl | he
          · exact .inr (Nat.le_refl _)
          · exact hstays ((mem_resident_iff e).mpr (.inl he))
      | evicted =>
          rw [CacheState.cache_reportPrevious?] at he
          exact hstays he
      | draining =>
          rw [CacheState.cache_reportDrain] at he
          exact absurd he List.not_mem_nil
      | forgetting => exact hstays (List.mem_filter.mp he).1
      | retired | closed | collecting | peeking => exact hstays he
  | stride h =>
      cases h with
      | evicting _ | retiring _ | closing _ =>
          rw [CacheState.resident_shut] at he
          exact hstays he
      | opened _ | broken _ =>
          rw [CacheState.resident_fill] at he
          exact hstays he
      | applying _ =>
          rw [CacheState.resident_switchContacts] at he
          exact hstays he
      | choosing | entering | exhausted | found | missed | starting | main | standIn | answering
      | retrying | leaving | inspecting | closedAll | switching | appliedAll => exact hstays he

end Step

end Caller

/-! ## Slots that agree -/

namespace Crowd

variable {contacts : δ → Bool} {on : Bool} {but but' : Nat → Prop} {c : Crowd σ δ} {m n : Nat}
  {x y z : Caller} {t : CacheState σ δ}

/-- The dictionary in a slot has an option, and whoever opens one there has read it so. -/
structure Agrees (contacts : δ → Bool) (on : Bool) (c : Crowd σ δ) (i : Nat) : Prop where
  held : ∀ d, c.state.cache.phase i = .ready (.dictionary d) → contacts d = on
  chosen : ∀ x ∈ c.callers, ∀ v, x.chose? = some (i, v) → v = on

/-- An option is stored, and the slots agree with it but for some. -/
structure Stored (contacts : δ → Bool) (on : Bool) (but : Nat → Prop) (c : Crowd σ δ) : Prop where
  useContacts : c.state.cache.useContacts = on
  agrees : ∀ i, but i ∨ c.Agrees contacts on i

/-- A slot was taken from the residents. -/
def Gone (c : Crowd σ δ) (i : Nat) : Prop :=
  i < c.state.cache.slots.length ∧ i ∉ c.state.cache.residentSlots

theorem Stored.mono (h : c.Stored contacts on but) (hbut : ∀ i, but i → but' i) :
    c.Stored contacts on but' :=
  ⟨h.useContacts, fun i => (h.agrees i).imp_left (hbut i)⟩

/-- A slot that is not there yet agrees with anything. -/
theorem Sound.agrees_of_length_le (hc : c.Sound) {i : Nat}
    (hi : c.state.cache.slots.length ≤ i) : c.Agrees contacts on i := by
  refine ⟨?_, ?_⟩
  · intro d hd
    exact absurd (lt_of_phase_ready hd) (Nat.not_lt.mpr hi)
  · intro x hx v hv
    obtain ⟨w, rfl⟩ := Caller.eq_opening_of_chose hv
    have hheir : c.state.cache.Heir i none := hc.fits _ hx
    exact absurd hheir.lt (Nat.not_lt.mpr hi)

/-- Slots go on to agree while a caller is at work who switches the contacts to nothing else. -/
theorem Stored.turn (h : c.Stored contacts on but) (hb : b.Heeds contacts) (hmem : x ∈ c.callers)
    (hon : ∀ v, x.switches? = some v → v = on) (hturn : Caller.Turn b m c.state x t y) :
    Stored contacts on but ⟨t, c.callers.set m y⟩ := by
  refine ⟨?_, ?_⟩
  · rcases hturn.useContacts with hsame | ⟨v, hv, hstores⟩
    · exact hsame.trans h.useContacts
    · exact hstores.trans (hon v hv)
  · intro i
    refine (h.agrees i).imp_right ?_
    intro hagrees
    refine ⟨?_, ?_⟩
    · intro d hd
      cases hturn.origin hd with
      | kept hwas => exact hagrees.held d hwas
      | opened hx hloads =>
          subst hx
          exact (hb.load _ _ _ _ hloads).trans (hagrees.chosen _ hmem _ rfl)
      | switched hx _ heq =>
          subst hx
          rw [← heq, hb.setContacts]
          exact hon _ rfl
    · intro z hz v hv
      rcases List.mem_or_eq_of_mem_set hz with hz | rfl
      · exact hagrees.chosen z hz v hv
      · exact (hturn.chose hv).trans h.useContacts

theorem Stored.arrive (h : c.Stored contacts on but) (call : Call) :
    (c.arrive call).Stored contacts on but := by
  refine ⟨h.useContacts, ?_⟩
  intro i
  refine (h.agrees i).imp_right ?_
  intro hagrees
  refine ⟨hagrees.held, ?_⟩
  intro x hx v hv
  rcases List.mem_append.mp hx with hx | hx
  · exact hagrees.chosen x hx v hv
  · cases List.mem_singleton.mp hx
    have hidle : call.start.Idle := .start
    rw [hidle.chose] at hv
    cases hv

/-- A slot that is told the option agrees with it, since nobody opens it meanwhile. -/
theorem Stored.told (h : c.Stored contacts on but) (hc : c.Sound) (hb : b.Heeds contacts)
    {i : Nat} {rest : List Nat} (hmem : .applying on (i :: rest) ∈ c.callers)
    (hcan : c.state.cache.canWrite i = true) :
    Stored contacts on (fun j => but j ∧ j ≠ i)
      ⟨c.state.switchContacts b on i, c.callers.set m (.applyNext on rest)⟩ := by
  have hnext := h.turn (m := m) hb hmem (fun v hv => (Option.some.inj hv).symm)
    (.stride (.applying hcan))
  refine ⟨hnext.useContacts, ?_⟩
  intro j
  by_cases hij : i = j
  · subst hij
    refine .inr ⟨?_, ?_⟩
    · intro d hd
      rw [CacheState.phase_switchContacts, if_pos rfl] at hd
      simp only [CacheState.switched] at hd
      split at hd
      · cases hd
        exact hb.setContacts _ on
      · next hother => exact absurd hd (hother d)
    · intro z hz v hv
      obtain ⟨w, rfl⟩ := Caller.eq_opening_of_chose hv
      rcases List.mem_or_eq_of_mem_set hz with hz | hz
      · have hopen := hc.isOpening hz rfl
        rw [(canWrite_iff.mp hcan).2.1] at hopen
        cases hopen
      · rw [hz, Caller.chose?_applyNext] at hv
        cases hv
  · exact (hnext.agrees j).imp_left fun hbut => ⟨hbut, Ne.symm hij⟩

theorem Gone.turn (hc : c.Sound) (hmem : x ∈ c.callers) (hturn : Caller.Turn b m c.state x t y)
    {i : Nat} (h : c.Gone i) : Gone ⟨t, c.callers.set m y⟩ i := by
  obtain ⟨hlt, hres⟩ := h
  obtain ⟨-, hlater, -⟩ := hturn.keeps hc.lineage (hc.fits x hmem) fun k => hc.isOpening hmem
  refine ⟨Nat.lt_of_lt_of_le hlt hlater.length_le, ?_⟩
  intro hi
  rcases hturn.residentSlots hi with hi | hle
  · exact hres hi
  · exact absurd hlt (Nat.not_lt.mpr hle)

end Crowd

end Cache

end Spelling
