import Mathlib.Data.List.Nodup
import Spelling.Gate.Basic

/-!
# The gate is a fair queue

A fair queue holds the tickets that are waited on, in the order in which they were drawn.

    join       a ticket is drawn and goes to the end of the queue
    grant      the first ticket takes permits, of which there are enough, and leaves
    leave      a ticket leaves from any place, and nobody else moves
    giveBack   permits come back

`Gate.queue` reads such a queue off a gate: the live tickets are those from the one being served to
the next one drawn that are not abandoned.  The tidiness of a gate (`Gate.Tidy`) is what its
operations keep, and on a tidy gate each operation is the deal of that name on the queue.
-/

namespace Spelling.Gate

/-- A fair queue for permits. -/
structure Queue where
  /-- Permits nobody holds -/
  free : Nat
  /-- Ticket drawn next -/
  next : Nat
  /-- Tickets waited on, the oldest first -/
  waiting : List Nat := []
  deriving DecidableEq, Repr

/-- What can happen in a fair queue. -/
inductive Deal where
  | join (ticket : Nat)
  | grant (ticket count : Nat)
  | leave (ticket : Nat)
  | giveBack (count : Nat)
  deriving DecidableEq, Repr

/-- The ticket that a deal grants permits to. -/
def Deal.granted? : Deal → Option Nat
  | grant ticket _ => some ticket
  | _ => none

namespace Queue

/-- The queue after a deal, if the queue admits it. -/
def deal? (q : Queue) : Deal → Option Queue
  | .join ticket =>
    if ticket = q.next then
      some { q with next := q.next + 1, waiting := q.waiting ++ [ticket] }
    else none
  | .grant ticket count =>
    if q.waiting.head? = some ticket ∧ count ≤ q.free then
      some { q with free := q.free - count, waiting := q.waiting.tail }
    else none
  | .leave ticket =>
    if ticket ∈ q.waiting then some { q with waiting := q.waiting.erase ticket } else none
  | .giveBack count => some { q with free := q.free + count }

/-- The queue after some deals, if it admits them all. -/
def deals? (q : Queue) (deals : List Deal) : Option Queue :=
  deals.foldlM deal? q

@[simp] theorem deals?_nil (q : Queue) : q.deals? [] = some q := rfl

@[simp] theorem deals?_cons (q : Queue) (d : Deal) (ds : List Deal) :
    q.deals? (d :: ds) = (q.deal? d).bind (·.deals? ds) := rfl

@[simp] theorem deals?_append (q : Queue) (ds es : List Deal) :
    q.deals? (ds ++ es) = (q.deals? ds).bind (·.deals? es) :=
  List.foldlM_append

/-- A queue in which everybody stands in the order of arrival. -/
structure Ordered (q : Queue) : Prop where
  sorted : q.waiting.Pairwise (· < ·)
  drawn : ∀ t ∈ q.waiting, t < q.next

theorem Ordered.deal {q q' : Queue} {d : Deal} (ho : q.Ordered) (h : q.deal? d = some q') :
    q'.Ordered := by
  cases d with
  | join ticket =>
      simp only [deal?, Option.ite_none_right_eq_some, Option.some.injEq] at h
      obtain ⟨rfl, rfl⟩ := h
      refine ⟨?_, ?_⟩
      · exact List.pairwise_append.mpr ⟨ho.sorted, List.pairwise_singleton _ _,
          fun a ha b hb => List.mem_singleton.mp hb ▸ ho.drawn a ha⟩
      · intro t ht
        rcases List.mem_append.mp ht with ht | ht
        · exact Nat.lt_succ_of_lt (ho.drawn t ht)
        · exact List.mem_singleton.mp ht ▸ Nat.lt_succ_self _
  | grant ticket count =>
      simp only [deal?, Option.ite_none_right_eq_some, Option.some.injEq] at h
      obtain ⟨-, rfl⟩ := h
      exact ⟨ho.sorted.sublist (List.tail_sublist _),
        fun t ht => ho.drawn t (List.mem_of_mem_tail ht)⟩
  | leave ticket =>
      simp only [deal?, Option.ite_none_right_eq_some, Option.some.injEq] at h
      obtain ⟨-, rfl⟩ := h
      exact ⟨ho.sorted.sublist List.erase_sublist,
        fun t ht => ho.drawn t (List.mem_of_mem_erase ht)⟩
  | giveBack count =>
      simp only [deal?, Option.some.injEq] at h
      subst h
      exact ⟨ho.sorted, ho.drawn⟩

/-- Who is granted permits later waited behind, or comes later. -/
theorem Ordered.granted_bound {ds : List Deal} :
    ∀ {q q' : Queue}, q.Ordered → q.deals? ds = some q' →
      ∀ t ∈ ds.filterMap Deal.granted?, t ∈ q.waiting ∨ q.next ≤ t := by
  induction ds with
  | nil => intro q q' _ _ t ht; simp at ht
  | cons d ds ih =>
      intro q q' ho h t ht
      obtain ⟨r, hd, hr⟩ := Option.bind_eq_some_iff.mp h
      have hrest : t ∈ ds.filterMap Deal.granted? → t ∈ r.waiting ∨ r.next ≤ t :=
        ih (ho.deal hd) hr t
      cases d with
      | join ticket =>
          simp only [deal?, Option.ite_none_right_eq_some, Option.some.injEq] at hd
          obtain ⟨rfl, rfl⟩ := hd
          rcases hrest ht with hw | hn
          · rcases List.mem_append.mp hw with hw | hw
            · exact Or.inl hw
            · exact Or.inr (Nat.le_of_eq (List.mem_singleton.mp hw).symm)
          · exact Or.inr (Nat.le_of_succ_le hn)
      | grant ticket count =>
          simp only [deal?, Option.ite_none_right_eq_some, Option.some.injEq] at hd
          obtain ⟨⟨hhead, -⟩, rfl⟩ := hd
          rcases List.mem_cons.mp ht with rfl | ht
          · exact Or.inl (List.mem_of_head? hhead)
          · exact (hrest ht).imp List.mem_of_mem_tail id
      | leave ticket =>
          simp only [deal?, Option.ite_none_right_eq_some, Option.some.injEq] at hd
          obtain ⟨-, rfl⟩ := hd
          exact (hrest ht).imp List.mem_of_mem_erase id
      | giveBack count =>
          simp only [deal?, Option.some.injEq] at hd
          subst hd
          exact hrest ht

/-- Permits are granted in the order of arrival. -/
theorem Ordered.granted_sorted {ds : List Deal} :
    ∀ {q q' : Queue}, q.Ordered → q.deals? ds = some q' →
      (ds.filterMap Deal.granted?).Pairwise (· < ·) := by
  induction ds with
  | nil => intro q q' _ _; exact .nil
  | cons d ds ih =>
      intro q q' ho h
      obtain ⟨r, hd, hr⟩ := Option.bind_eq_some_iff.mp h
      have hrest := ih (ho.deal hd) hr
      have hbound := Ordered.granted_bound (ho.deal hd) hr
      cases d with
      | grant ticket count =>
          simp only [deal?, Option.ite_none_right_eq_some, Option.some.injEq] at hd
          obtain ⟨⟨hhead, -⟩, rfl⟩ := hd
          obtain ⟨rest, hw⟩ : ∃ rest, q.waiting = ticket :: rest :=
            List.head?_eq_some_iff.mp hhead
          refine List.pairwise_cons.mpr ⟨?_, hrest⟩
          intro t ht
          have hsorted := hw ▸ ho.sorted
          rcases hbound t ht with hin | hn
          · exact List.rel_of_pairwise_cons hsorted (by simpa [hw] using hin)
          · exact Nat.lt_of_lt_of_le (ho.drawn ticket (List.mem_of_head? hhead)) hn
      | join ticket => exact hrest
      | leave ticket => exact hrest
      | giveBack count => exact hrest

end Queue

/-! ## The queue of a gate -/

/-- The tickets from one on to another that are not abandoned. -/
def liveBetween (first next : Nat) (abandoned : List Nat) : List Nat :=
  (List.range' first (next - first)).filter (· ∉ abandoned)

/-- The tickets that are waited on, the oldest first. -/
def live (g : Gate) : List Nat :=
  liveBetween g.serving g.nextTicket g.abandoned

/-- The queue that a gate stands for. -/
def queue (g : Gate) : Queue :=
  ⟨g.available, g.nextTicket, g.live⟩

theorem mem_liveBetween {first next t : Nat} {abandoned : List Nat} :
    t ∈ liveBetween first next abandoned ↔ first ≤ t ∧ t < next ∧ t ∉ abandoned := by
  simp only [liveBetween, List.mem_filter, List.mem_range'_1, decide_eq_true_eq, ← and_assoc]
  refine and_congr_left fun _ => and_congr_right ?_
  intro hge
  omega

theorem liveBetween_sorted (first next : Nat) (abandoned : List Nat) :
    (liveBetween first next abandoned).Pairwise (· < ·) :=
  (List.pairwise_lt_range' 1).sublist List.filter_sublist

/-- One ticket more comes last. -/
theorem liveBetween_succ {first next : Nat} {abandoned : List Nat} (hle : first ≤ next)
    (hnew : next ∉ abandoned) :
    liveBetween first (next + 1) abandoned = liveBetween first next abandoned ++ [next] := by
  have hlast : first + (next - first) = next := by omega
  rw [liveBetween, Nat.succ_sub hle, List.range'_1_concat, hlast, List.filter_append,
    liveBetween, List.filter_cons_of_pos (by simpa using hnew), List.filter_nil]

/-- An abandoned first ticket can be passed over. -/
theorem liveBetween_skip {first next : Nat} {abandoned : List Nat} (hlt : first < next)
    (hmem : first ∈ abandoned) (hnodup : abandoned.Nodup) :
    liveBetween (first + 1) next (abandoned.erase first) = liveBetween first next abandoned := by
  have hrange : List.range' first (next - first) =
      first :: List.range' (first + 1) (next - (first + 1)) := by
    rw [show next - first = next - (first + 1) + 1 by omega, List.range'_succ]
  simp only [liveBetween, hrange]
  rw [List.filter_cons_of_neg (by simpa using hmem)]
  refine List.filter_congr ?_
  intro t ht
  have hne : t ≠ first := by
    have := (List.mem_range'_1.mp ht).1
    omega
  simp [hnodup.mem_erase_iff, hne]

/-- A live first ticket stands first. -/
theorem liveBetween_cons {first next : Nat} {abandoned : List Nat} (hlt : first < next)
    (hlive : first ∉ abandoned) :
    liveBetween first next abandoned = first :: liveBetween (first + 1) next abandoned := by
  rw [liveBetween, show next - first = next - (first + 1) + 1 by omega, List.range'_succ,
    List.filter_cons_of_pos (by simpa using hlive), liveBetween]

/-- What every operation of a gate keeps: the abandoned tickets lie behind the one being served,
each once. -/
structure Tidy (g : Gate) : Prop where
  serving_le : g.serving ≤ g.nextTicket
  abandoned_bound : ∀ t ∈ g.abandoned, g.serving < t ∧ t < g.nextTicket
  nodup : g.abandoned.Nodup

namespace Tidy

variable {g : Gate}

theorem serving_not_mem (h : g.Tidy) : g.serving ∉ g.abandoned :=
  fun hmem => Nat.lt_irrefl _ (h.abandoned_bound _ hmem).1

theorem mem_live {t : Nat} (_ : g.Tidy) :
    t ∈ g.live ↔ g.serving ≤ t ∧ t < g.nextTicket ∧ t ∉ g.abandoned :=
  mem_liveBetween

/-- Every ticket not served yet is live, abandoned or still to be drawn. -/
theorem serving_add_length (h : g.Tidy) :
    g.serving + g.abandoned.length + g.live.length = g.nextTicket := by
  have hperm : ((List.range' g.serving (g.nextTicket - g.serving)).filter
      (· ∈ g.abandoned)).Perm g.abandoned := by
    refine (List.perm_ext_iff_of_nodup ((List.nodup_range' 1).filter _) h.nodup).mpr ?_
    intro t
    simp only [List.mem_filter, List.mem_range'_1, decide_eq_true_eq, and_iff_right_iff_imp]
    intro ht
    have := h.abandoned_bound t ht
    omega
  have hsplit := List.length_eq_length_filter_add (l := List.range' g.serving
    (g.nextTicket - g.serving)) (· ∈ g.abandoned)
  simp only [List.length_range', hperm.length_eq, ← decide_not] at hsplit
  have hle := h.serving_le
  simp only [live, liveBetween]
  omega

/-- The tickets that are waited on are counted without counting them one by one. -/
theorem waiting_eq_length (h : g.Tidy) : g.waiting = g.live.length := by
  have hsum := h.serving_add_length
  rw [waiting]
  omega

theorem ordered (_ : g.Tidy) : g.queue.Ordered :=
  ⟨liveBetween_sorted _ _ _, fun _ ht => (mem_liveBetween.mp ht).2.1⟩

/-- While somebody waits, the ticket being served is the first of the queue. -/
theorem live_eq_cons (h : g.Tidy) (hlt : g.serving < g.nextTicket) :
    g.live = g.serving :: liveBetween (g.serving + 1) g.nextTicket g.abandoned :=
  liveBetween_cons hlt h.serving_not_mem

/-- Only the ticket being served stands first. -/
theorem head?_live (h : g.Tidy) {t : Nat} (ht : t ∈ g.live) (hserving : g.serving = t) :
    g.live.head? = some t := by
  have hlt : g.serving < g.nextTicket := hserving ▸ (mem_liveBetween.mp ht).2.1
  rw [h.live_eq_cons hlt, List.head?_cons, hserving]

end Tidy

/-! ## Each operation of a gate as a deal -/

section Operations

variable {g : Gate}

/-- Passing over abandoned tickets passes over nobody who waits. -/
theorem passOver_spec {serving next : Nat} {abandoned : List Nat} (hle : serving ≤ next)
    (hbound : ∀ t ∈ abandoned, serving ≤ t ∧ t < next) (hnodup : abandoned.Nodup) :
    liveBetween (passOver serving abandoned).1 next (passOver serving abandoned).2 =
        liveBetween serving next abandoned ∧
      (passOver serving abandoned).1 ≤ next ∧
      (∀ t ∈ (passOver serving abandoned).2, (passOver serving abandoned).1 < t ∧ t < next) ∧
      (passOver serving abandoned).2.Nodup := by
  induction serving, abandoned using passOver.induct with
  | case1 serving abandoned hmem ih =>
      have hlt : serving < next := (hbound serving hmem).2
      rw [passOver, dif_pos hmem, ← liveBetween_skip hlt hmem hnodup]
      refine ih hlt ?_ (hnodup.erase _)
      intro t ht
      obtain ⟨hne, ht⟩ := hnodup.mem_erase_iff.mp ht
      obtain ⟨hge, hlt'⟩ := hbound t ht
      exact ⟨Nat.lt_of_le_of_ne hge (Ne.symm hne), hlt'⟩
  | case2 serving abandoned hmem =>
      rw [passOver, dif_neg hmem]
      refine ⟨rfl, hle, ?_, hnodup⟩
      intro t ht
      obtain ⟨hge, hlt'⟩ := hbound t ht
      have hne : serving ≠ t := by
        intro heq
        exact hmem (heq ▸ ht)
      exact ⟨Nat.lt_of_le_of_ne hge hne, hlt'⟩

/-- Serving the next ticket takes the one being served from the head of the queue. -/
theorem advance_spec (h : g.Tidy) (hlt : g.serving < g.nextTicket) :
    g.advance.Tidy ∧ g.advance.queue = { g.queue with waiting := g.queue.waiting.tail } := by
  have hle : g.serving + 1 ≤ g.nextTicket := hlt
  obtain ⟨hlive, hle, hbound, hnodup⟩ := passOver_spec hle h.abandoned_bound h.nodup
  refine ⟨⟨hle, hbound, hnodup⟩, ?_⟩
  have htail : g.live.tail = liveBetween (g.serving + 1) g.nextTicket g.abandoned := by
    rw [h.live_eq_cons hlt, List.tail_cons]
  simp only [queue, live] at htail ⊢
  rw [htail, ← hlive]
  rfl

theorem Tidy.takeTicket (h : g.Tidy) : g.takeTicket.2.Tidy where
  serving_le := Nat.le_succ_of_le h.serving_le
  abandoned_bound t ht := (h.abandoned_bound t ht).imp_right Nat.lt_succ_of_lt
  nodup := h.nodup

theorem queue_takeTicket (h : g.Tidy) :
    g.queue.deal? (.join g.nextTicket) = some g.takeTicket.2.queue := by
  have hnew : g.nextTicket ∉ g.abandoned :=
    fun hmem => Nat.lt_irrefl _ (h.abandoned_bound _ hmem).2
  simp only [Queue.deal?, queue, ↓reduceIte, Gate.takeTicket, live,
    liveBetween_succ h.serving_le hnew]

theorem canGrant_iff {t count : Nat} :
    g.canGrant t count = true ↔ g.serving = t ∧ count ≤ g.available := by
  simp [canGrant]

theorem grant_spec (h : g.Tidy) {t count : Nat} (ht : t ∈ g.live)
    (hcan : g.canGrant t count = true) :
    (g.grant count).Tidy ∧
      g.queue.deal? (.grant t count) = some (g.grant count).queue := by
  obtain ⟨hserving, hcount⟩ := canGrant_iff.mp hcan
  have hlt : g.serving < g.nextTicket := hserving ▸ (mem_liveBetween.mp ht).2.1
  have hpaid : Tidy { g with available := g.available - count } :=
    ⟨h.serving_le, h.abandoned_bound, h.nodup⟩
  obtain ⟨htidy, hqueue⟩ := advance_spec hpaid hlt
  refine ⟨htidy, ?_⟩
  have hguard : g.queue.waiting.head? = some t ∧ count ≤ g.queue.free :=
    ⟨h.head?_live ht hserving, hcount⟩
  rw [Queue.deal?, if_pos hguard]
  exact congrArg some hqueue.symm

/-- Giving up takes one's own ticket from the queue and no other, whether it is being served or
stands behind others. -/
theorem withdraw_spec (h : g.Tidy) {t : Nat} (ht : t ∈ g.live) :
    (g.withdraw t).Tidy ∧ g.queue.deal? (.leave t) = some (g.withdraw t).queue := by
  obtain ⟨hge, hlt, hnew⟩ := mem_liveBetween.mp ht
  have hmem : t ∈ g.queue.waiting := ht
  rw [Queue.deal?, if_pos hmem, withdraw]
  by_cases hserving : g.serving = t
  · rw [if_pos hserving]
    obtain ⟨htidy, hqueue⟩ := advance_spec h (hserving ▸ hlt)
    refine ⟨htidy, ?_⟩
    have hcons := h.live_eq_cons (hserving ▸ hlt)
    rw [hqueue, show g.queue.waiting = g.live from rfl, hcons, hserving, List.erase_cons_head,
      List.tail_cons]
  · rw [if_neg hserving]
    refine ⟨⟨h.serving_le, ?_, List.nodup_cons.mpr ⟨hnew, h.nodup⟩⟩, ?_⟩
    · intro u hu
      rcases List.mem_cons.mp hu with rfl | hu
      · exact ⟨Nat.lt_of_le_of_ne hge hserving, hlt⟩
      · exact h.abandoned_bound u hu
    · have herase : g.live.erase t =
          liveBetween g.serving g.nextTicket (t :: g.abandoned) := by
        rw [live, liveBetween, List.Nodup.erase_eq_filter ((List.nodup_range' 1).filter _),
          List.filter_filter, liveBetween]
        refine List.filter_congr ?_
        intro u _
        by_cases hu : u = t
        · simp [hu]
        · simp [hu, List.mem_cons]
      simp only [queue, live] at herase ⊢
      rw [herase]

end Operations

end Spelling.Gate
