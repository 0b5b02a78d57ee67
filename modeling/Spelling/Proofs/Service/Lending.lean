import Spelling.Proofs.Service.Inside
import Spelling.Proofs.Service.Plain

/-!
# A session number for everybody who needs one

A session number is idle or lent to one caller, who holds a permit.  There are as many as there are
permits, so nobody inside finds them all lent out, and every number that is lent is below their
count.
-/

namespace Spelling.Service

variable {σ δ : Type} {b : Backend σ δ}

namespace Caller

/-- The session number that a caller was lent. -/
def lease? : Caller → Option Nat
  | working _ _ (.corrections _ _ session) _ => some session
  | restoring session _ _ => some session
  | _ => none

variable {c c' : Crowd σ δ} {m : Nat} {x y : Caller}

theorem lease?_begin (p : Permit) (call : Call) : (begin p call).lease? = none := by
  cases call <;> rfl

theorem search_keeps (s : Service σ δ) (word : String) (cap : Capitalization) (cache : Nat)
    (all : List Locale) (p : Permit) (locales : List Locale) :
    (search s word cap cache all p locales).1.sessions = s.sessions ∧
      (search s word cap cache all p locales).2.lease? = none := by
  cases locales <;> exact ⟨rfl, rfl⟩

theorem follow_keeps (s : Service σ δ) (p : Permit) (plan : Plan) :
    (follow s p plan).1.sessions = s.sessions ∧ (follow s p plan).2.lease? = none := by
  cases plan with
  | search word cap => exact search_keeps ..
  | close | contacts _ => exact ⟨rfl, rfl⟩

theorem conclude_keeps (s : Service σ δ) (a : Cache.Answer) (p : Permit) (i : Nat)
    (x : Cache.Caller) (after : After) :
    (conclude s a p after).1.sessions = s.sessions ∧
      (conclude s a p after).2.lease? = (working i x after p).lease? := by
  cases after with
  | search word cap cache l rest all =>
      simp only [conclude]
      cases outcomeOf a with
      | returned r =>
          simp only []
          split
          · exact ⟨rfl, rfl⟩
          · exact search_keeps ..
      | broken message => exact ⟨rfl, rfl⟩
      | endless => exact ⟨rfl, rfl⟩
  | corrections typed l session =>
      obtain ⟨w, hw, -⟩ := corrections_snd (s := s) typed l (outcomeOf a)
      refine ⟨?_, rfl⟩
      show (s.corrections typed l (outcomeOf a)).2.sessions = _
      rw [hw]
  | flag | look _ | closed | contacts _ | replace _ => exact ⟨rfl, rfl⟩

/-- A caller that gave up reports at most. -/
theorem giveUp_fst (s : Service σ δ) (call : Call) (requested : Nat) :
    ∃ w, (giveUp s call requested).1 = { s with world := w } := by
  cases call with
  | suggest l composed context keyboard patience => cases patience <;> exact ⟨_, rfl⟩
  | isValid | isValidAnywhere | hasMain | closeAll | setContacts | refresh => exact ⟨_, rfl⟩

/-- No session number is made or lost. -/
theorem Turn.pool (h : Turn b c m x c' y) :
    (c'.service.sessions.idle ++ y.lease?.toList).Perm
      (c.service.sessions.idle ++ x.lease?.toList) := by
  cases h with
  | gate | refused => exact .refl _
  | begin =>
      rw [lease?_begin]
      exact .refl _
  | @gone call r =>
      obtain ⟨w, hw⟩ := giveUp_fst c.service call r.count
      rw [hw]
      exact .refl _
  | stride h =>
      cases h with
      | looking _ =>
          rw [(follow_keeps ..).1, (follow_keeps ..).2]
          exact .refl _
      | @concluding i a after p =>
          obtain ⟨hsessions, hlease⟩ := conclude_keeps c.service a p i (.done a) after
          rw [hsessions, hlease]
      | @lent l composed context keyboard p session sessions hl =>
          have hhead := c.service.sessions.lend_fst
          have htail := c.service.sessions.idle_lend
          rw [hl] at hhead htail
          have hidle := List.eq_cons_of_mem_head? hhead.symm
          show (sessions.idle ++ [session]).Perm (c.service.sessions.idle ++ [])
          rw [htail, List.append_nil]
          exact List.perm_append_comm.trans (.of_eq hidle.symm)
      | @restoring session a p =>
          show ((c.service.sessions.takeBack session).idle ++ []).Perm
            (c.service.sessions.idle ++ [session])
          rw [Sessions.idle_takeBack, List.append_nil]
          exact (List.perm_append_singleton session _).symm
      | unlent | same | differing | replacing | exiting | announcing => exact .refl _
      | @working i z z' t after p _ => cases after <;> exact .refl _

end Caller

/-! ## The callers of a service -/

/-- Every session number is idle or lent to one caller. -/
def Pooled (n : Nat) (c : Crowd σ δ) : Prop :=
  (c.service.sessions.idle ++ c.callers.filterMap Caller.lease?).Perm (List.range n)

variable {c c' : Crowd σ δ} {n : Nat}

theorem pooled_ofService {s : Service σ δ} (h : s.sessions.idle = List.range n) :
    Pooled n (Crowd.ofService s) := by
  show (s.sessions.idle ++ []).Perm _
  rw [List.append_nil, h]

theorem Pooled.happens {call? : Option Call} {g? : Option Grant} (hc : Pooled n c)
    (h : Happens b c call? g? c') : Pooled n c' := by
  cases h with
  | nothing => exact hc
  | @arrival call =>
      have hnew : [call.start c.service.settings c.gate].filterMap Caller.lease? = [] := rfl
      rw [Pooled, Crowd.arrive]
      rw [List.filterMap_append, hnew, List.append_nil]
      exact hc
  | @turn i x y c₁ hx h =>
      obtain ⟨before, after, hsplit, hset⟩ := exists_set_split hx
      rw [Pooled] at hc ⊢
      rw [hsplit] at hc
      rw [hset]
      refine List.Perm.trans (List.perm_iff_count.mpr ?_) hc
      intro t
      have hpool := h.pool.count_eq t
      simp only [List.filterMap_append, filterMap_cons_toList, List.count_append] at hpool ⊢
      omega

/-- Whoever was lent a number holds a permit. -/
theorem Admits.lease_le_held {calls : List Call} {gs : List Grant} (hn : 0 < n)
    (hadmits : Admits n calls gs c) {y : Caller} (hy : y ∈ c.callers) :
    y.lease?.toList.length ≤ y.atGate.held := by
  obtain ⟨j, hj⟩ := List.getElem?_of_mem hy
  cases hl : y.lease? with
  | none => exact Nat.zero_le _
  | some session =>
      obtain ⟨q, hq⟩ : ∃ q, y.permit? = some q := by
        cases y with
        | working | restoring => exact ⟨_, rfl⟩
        | entering | leasing | looking | comparing | replacing | exiting | announcing | done =>
            cases hl
      rw [Caller.held_of_permit hq]
      exact hadmits.permit_pos hn hj hq

/-- A caller that needs a session number is lent one of them. -/
theorem Pooled.lend {calls : List Call} {gs : List Grant} (hn : 0 < n)
    (hadmits : Admits n calls gs c) (hc : Pooled n c) {i : Nat} {x : Caller} {p : Permit}
    (hx : c.callers[i]? = some x) (hp : x.permit? = some p) (hnone : x.lease? = none) :
    ∃ session sessions, c.service.sessions.lend = (some session, sessions) ∧ session < n := by
  have hheld : 0 < x.atGate.held := by
    rw [Caller.held_of_permit hp]
    exact hadmits.permit_pos hn hx hp
  have hle : ∀ y ∈ c.callers, y.lease?.toList.length ≤ y.atGate.held := by
    intro y hy
    exact hadmits.lease_le_held hn hy
  have hlt := length_filterMap_lt_sum (g := fun y : Caller => y.atGate.held) hle
    (List.mem_of_getElem? hx) hnone hheld
  have hlength := hc.length_eq
  have hpermits := hadmits.permits
  rw [List.length_append, List.length_range] at hlength
  cases hidle : c.service.sessions.idle with
  | nil =>
      rw [hidle, List.length_nil] at hlength
      omega
  | cons session rest =>
      have hhead := c.service.sessions.lend_fst
      rw [hidle] at hhead
      refine ⟨session, c.service.sessions.lend.2, Prod.ext hhead rfl, ?_⟩
      refine List.mem_range.mp (hc.mem_iff.mp (List.mem_append_left _ ?_))
      rw [hidle]
      exact List.mem_cons_self

end Spelling.Service
