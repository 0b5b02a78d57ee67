import Spelling.Proofs.Cache.Answers
import Spelling.Proofs.Cache.Carried
import Spelling.Proofs.WordList.Scratch
import Spelling.WordList.Source

/-!
# Word lists are steady

The dictionary of a locale depends on what its source has for the locale and for the contacts, and
the option for contacts only decides whether these are searched.  So a dictionary made of word lists
whose contacts are turned on or off is the one that is opened so, and a list that cannot be read
cannot be read with either option.
-/

namespace Spelling

/-- A backend is steady if turning the contacts on or off gives the dictionary that is opened so,
and openings fail with either option or with none. -/
theorem Backend.steady_of_switch {σ δ : Type} {b : Backend σ δ}
    {fresh : Locale → Options → Loaded δ}
    (hload : ∀ st l o, (b.load st l o).2.value = fresh l o ∨
      ∃ message, (b.load st l o).2.value = .broken message)
    (hopened : ∀ l n was on d, fresh l ⟨was, n⟩ = .opened d →
      fresh l ⟨on, n⟩ = .opened (b.setContacts d on))
    (hfailed : ∀ l n was on e, fresh l ⟨was, n⟩ = .failed e → fresh l ⟨on, n⟩ = .failed e) :
    b.Steady fresh := by
  refine ⟨hload, ?_⟩
  intro l n on r hr a
  have hsame : (∃ d, fresh l ⟨on, n⟩ = .opened d ∧ r = .dictionary d) ∨
      ∃ e, fresh l ⟨on, n⟩ = .failed e ∧ r = .unavailable (.ofError l e) := by
    induction hr with
    | opened hd => exact .inl ⟨_, hd, rfl⟩
    | failed he => exact .inr ⟨_, he, rfl⟩
    | switched _ ih =>
        rcases ih with ⟨d, hd, heq⟩ | ⟨e, -, heq⟩
        · cases heq
          exact .inl ⟨_, hopened l n _ _ _ hd, rfl⟩
        · cases heq
    | unswitched _ ih =>
        rcases ih with ⟨d, -, heq⟩ | ⟨e, he, heq⟩
        · cases heq
        · cases heq
          exact .inr ⟨e, hfailed l n _ _ e he, rfl⟩
  rcases hsame with ⟨d, hd, rfl⟩ | ⟨e, he, rfl⟩
  · rw [hd]
    rfl
  · rw [he]
    rfl

namespace WordList

/-- What opening the dictionary of a locale comes to. -/
def Source.fresh (s : Source) (l : Locale) (o : Options) : Loaded Dictionary :=
  (s.load l o).value

variable {s : Source} {l : Locale} {n : Nat} {was on : Bool}

theorem Dictionary.open?_eq (l : Locale) (main : WordList) (contacts? : Option WordList)
    (o : Options) : Dictionary.open? l main contacts? o =
      (layList o.sessions Dictionary.scratchBytes).map fun _ =>
        Dictionary.ofLists l main contacts? o := rfl

theorem Source.fresh_eq (s : Source) (l : Locale) (o : Options) : s.fresh l o =
    match (s.mainList l).value with
    | .error error => .failed error
    | .ok main =>
      match Dictionary.open? l main s.contactsList.value o with
      | .ok d => .opened d
      | .error overflow => .broken overflow.message := by
  rw [fresh, load]
  rw [Logged.value_bind]
  cases (s.mainList l).value with
  | error error => rfl
  | ok main =>
      simp only [Logged.value_bind]
      cases Dictionary.open? l main s.contactsList.value o with
      | ok d => rfl
      | error overflow => rfl

/-- What an opened dictionary is made of, and the room that it needs. -/
theorem Source.fresh_eq_opened_iff {o : Options} {d : Dictionary} :
    s.fresh l o = .opened d ↔ ∃ main, (s.mainList l).value = .ok main ∧
      layList o.sessions Dictionary.scratchBytes = .ok () ∧
        Dictionary.ofLists l main s.contactsList.value o = d := by
  rw [fresh_eq]
  cases (s.mainList l).value with
  | error error => simp
  | ok main =>
      simp only [Dictionary.open?_eq]
      cases layList o.sessions Dictionary.scratchBytes with
      | error overflow => simp [Except.map]
      | ok _ => simp [Except.map]

/-- No opening breaks off where there is room for the sessions. -/
theorem Source.fresh_ne_broken_of_room {o : Options}
    (hroom : layList o.sessions Dictionary.scratchBytes = .ok ()) (message : String) :
    s.fresh l o ≠ .broken message := by
  rw [fresh_eq]
  cases (s.mainList l).value with
  | error error => nofun
  | ok main =>
      simp only [Dictionary.open?_eq, hroom]
      nofun

/-- A dictionary whose contacts are turned on or off is the one that is opened so. -/
theorem Source.fresh_setContacts {d : Dictionary} (h : s.fresh l ⟨was, n⟩ = .opened d) :
    s.fresh l ⟨on, n⟩ = .opened (d.setContacts on) := by
  rw [fresh_eq_opened_iff] at h ⊢
  obtain ⟨main, hmain, hroom, rfl⟩ := h
  exact ⟨main, hmain, hroom, rfl⟩

theorem Source.fresh_failed {e : OpenError} (h : s.fresh l ⟨was, n⟩ = .failed e) :
    s.fresh l ⟨on, n⟩ = .failed e := by
  rw [fresh_eq] at h ⊢
  cases hmain : (s.mainList l).value with
  | error error =>
      rw [hmain] at h
      exact h
  | ok main =>
      rw [hmain] at h
      simp only [Dictionary.open?_eq] at h
      cases hroom : layList n Dictionary.scratchBytes with
      | error overflow =>
          rw [hroom] at h
          cases h
      | ok _ =>
          rw [hroom] at h
          cases h

/-- The dictionaries of a source are steady. -/
theorem Source.steady (s : Source) : (Backend.ofKind s.kind).Steady s.fresh :=
  Backend.steady_of_switch (fun _ _ _ => .inl rfl) (fun _ _ _ _ _ h => fresh_setContacts h)
    (fun _ _ _ _ _ h => fresh_failed h)

theorem Source.sessions_of_fresh {o : Options} {d : Dictionary} (h : s.fresh l o = .opened d) :
    d.sessions = o.sessions := by
  obtain ⟨main, -, -, rfl⟩ := fresh_eq_opened_iff.mp h
  rfl

/-- The dictionaries of a source open alike at any time, and rank alike in every session. -/
theorem Source.dependable (s : Source) : (Backend.ofKind s.kind).Dependable s.fresh where
  toSteady := s.steady
  sure _ _ _ := rfl
  session l o d hd q i j hi hj := by
    have hsessions := sessions_of_fresh hd
    show Answered.ofExcept (d.suggest q i) = Answered.ofExcept (d.suggest q j)
    rw [Dictionary.suggest_eq_answer, Dictionary.suggest_eq_answer, Dictionary.answer,
      Dictionary.answer, hsessions, if_neg (Nat.not_le.mpr hi), if_neg (Nat.not_le.mpr hj)]

/-- They are steady too when a script lets openings break off. -/
theorem Source.steady_rehearsed (s : Source) : (Backend.rehearsed s.kind).Steady s.fresh := by
  refine Backend.steady_of_switch ?_ (fun _ _ _ _ _ h => fresh_setContacts h)
    (fun _ _ _ _ _ h => fresh_failed h)
  intro st l o
  rw [Backend.rehearsed]
  dsimp only
  split
  · exact .inr ⟨_, rfl⟩
  · exact .inl rfl

/-! ## Room for sessions -/

/-- Dictionaries made of word lists keep the number of sessions that they were opened with. -/
theorem Source.rooms (s : Source) : (Backend.rehearsed s.kind).Rooms Dictionary.sessions where
  load st l o d h := by
    rw [Backend.rehearsed] at h
    dsimp only at h
    split at h
    · cases h
    · exact sessions_of_fresh h
  setContacts _ _ := rfl

/-- A dictionary that has room for a session does not find that it has none. -/
theorem Dictionary.suggest_ne_outOfSessions {d : Dictionary} {q : Query} {k : Nat}
    (h : k < d.sessions) (k' : Nat) : d.suggest q k ≠ .error (d.outOfSessions k') := by
  rw [suggest_eq_answer, answer]
  split
  · intro hanswer
    cases hanswer
  · rw [if_neg (Nat.not_le.mpr h)]
    intro hanswer
    cases hanswer

end WordList

end Spelling
