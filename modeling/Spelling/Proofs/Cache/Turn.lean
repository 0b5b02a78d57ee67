import Spelling.Proofs.Cache.Slots

/-!
# What one step of a caller can do

The steps of a caller of the cache, row by row: where the caller is, what becomes of the cache and
the world, and where the caller goes.  `Visit` has the work inside the lock on the residents,
`Stride` the work outside of it, and a `Turn` is either, or the taking of that lock.

Later proofs go through these rows and do not unfold the steps again.  `Origin` sums up what they do
to the dictionaries in slots.
-/

namespace Spelling.Cache.Caller

variable {σ δ : Type}

/-- The work of a caller inside the lock on the residents. -/
inductive Visit (s : CacheState σ δ) : Caller → CacheState σ δ → Caller → Prop
  | hit {l : Locale} {w : Want} {i : Nat} : s.cache.resident.lookup l = some i →
      Visit s (finding l w)
        (s.onCache fun c => { c with
          resident := put c.resident l i
          stats := { c.stats with hits := c.stats.hits + 1 } })
        (next i w)
  | miss {l : Locale} {w : Want} : s.cache.resident.lookup l = none →
      Visit s (finding l w)
        ((s.onCache fun c => (c.enroll l).2).reportFirst s.cache.slots.length
          (s.cache.victim?.map (·.2)) (s.cache.closing.lookup l))
        (begin s.cache.slots.length (s.cache.victim?.map (·.2)) (s.cache.closing.lookup l) w)
  | evicted {k j : Nat} {p? : Option Nat} {w : Want} :
      Visit s (evicted k j p? w)
        ((s.onCache fun c => (c.settled j).countEviction).reportPrevious? p?)
        (afterEviction k p? w)
  | retired {k p : Nat} {w : Want} :
      Visit s (retired k p w) (s.onCache (·.settled p)) (choosing k w)
  | forgetting {i : Nat} {a : Ask} :
      Visit s (forgetting i a) (s.onCache (·.forget i)) (retrying i a)
  | draining : Visit s draining
      ((s.onCache fun c => c.drain.2).reportDrain s.cache.drain.1) (closeNext s.cache.drain.1)
  | closed {i : Nat} {rest : List Nat} :
      Visit s (closed i rest) (s.onCache (·.settled i)) (closeNext rest)
  | collecting {on : Bool} :
      Visit s (collecting on) s (applyNext on s.cache.residentSlots)
  | peeking {l : Locale} : Visit s (peeking l) s (done (.flag (s.cache.contains l)))

/-- The work of a caller outside the lock on the residents. -/
inductive Stride (b : Backend σ δ) (s : CacheState σ δ) :
    Caller → CacheState σ δ → Caller → Prop
  | evicting {k j : Nat} {p? : Option Nat} {w : Want} : s.cache.canWrite j = true →
      Stride b s (evicting k j p? w) (s.shut b j) (evicted k j p? w)
  | retiring {k p : Nat} {w : Want} : s.cache.canWrite p = true →
      Stride b s (retiring k p w) (s.shut b p) (retired k p w)
  | choosing {k : Nat} {w : Want} :
      Stride b s (choosing k w) s (opening k s.cache.useContacts w)
  | opened {k : Nat} {on : Bool} {w : Want} : (s.loads b k on).message? = none →
      Stride b s (opening k on w) (s.fill b k on).2 (next k w)
  | broken {k : Nat} {on : Bool} {w : Want} {message : String} :
      (s.loads b k on).message? = some message →
      Stride b s (opening k on w) (s.fill b k on).2 (done (.broken message))
  | entering {i : Nat} {a : Ask} {f : Fallback} : s.cache.canRead i = true →
      Stride b s (entering i a f) (s.onCache (·.lockRead i)) (entered s i a f)
  | exhausted {i : Nat} {d : δ} : s.cache.phase i = .ready (.dictionary d) →
      Stride b s (asking i (.contains [])) s (leaving i (.reply (.flag false)))
  /-- The word was found, or looking it up broke off -/
  | found {i : Nat} {word : String} {rest : List String} {d : δ} :
      s.cache.phase i = .ready (.dictionary d) → b.contains d word ≠ .ok false →
      Stride b s (asking i (.contains (word :: rest))) (s.note i (.lookedUp word))
        (leaving i (.ofOutcome .reply (.ofFlag (b.contains d word))))
  | missed {i : Nat} {word : String} {rest : List String} {d : δ} :
      s.cache.phase i = .ready (.dictionary d) → b.contains d word = .ok false →
      Stride b s (asking i (.contains (word :: rest))) (s.note i (.lookedUp word))
        (asking i (.contains rest))
  | starting {i session : Nat} {q : Query} {d : δ} :
      s.cache.phase i = .ready (.dictionary d) →
      Stride b s (asking i (.suggest q session))
        (s.note i (.queried q.composed.word session)) (answering i q session)
  | main {i : Nat} {d : δ} : s.cache.phase i = .ready (.dictionary d) →
      Stride b s (asking i .hasMain) s (leaving i (.ofOutcome .reply (.ofFlag (b.hasMain d))))
  | standIn {i : Nat} {a : Ask} {u : Unavailable} :
      s.cache.phase i = .ready (.unavailable u) →
      Stride b s (asking i a) s (leaving i (.reply a.ofUnavailable))
  | answering {i session : Nat} {q : Query} {d : δ} :
      s.cache.phase i = .ready (.dictionary d) →
      Stride b s (answering i q session) s
        (leaving i (.ofOutcome .reply (b.suggest d q session).outcome))
  | retrying {i : Nat} {a : Ask} :
      Stride b s (retrying i a)
        ((s.onCache (·.unlockRead i)).reportRetry (s.cache.localeOf i))
        (finding (s.cache.localeOf i) (.ask a))
  | leaving {i : Nat} {answer : Answer} :
      Stride b s (leaving i answer) (s.onCache (·.unlockRead i)) (done answer)
  | inspecting {i : Nat} {shut : Bool} : s.cache.canRead i = true →
      Stride b s (inspecting i) s (done (.flag shut))
  | closing {i : Nat} {rest : List Nat} : s.cache.canWrite i = true →
      Stride b s (closing (i :: rest)) (s.shut b i) (closed i rest)
  | closedAll : Stride b s (closing []) s (done .nothing)
  | switching {on : Bool} :
      Stride b s (switching on) (s.onCache fun c => { c with useContacts := on }) (collecting on)
  | applying {on : Bool} {i : Nat} {rest : List Nat} : s.cache.canWrite i = true →
      Stride b s (applying on (i :: rest)) (s.switchContacts b on i) (applyNext on rest)
  | appliedAll {on : Bool} : Stride b s (applying on []) s (done .nothing)

/-- A cache with the lock on its residents taken or free. -/
def relock (holder? : Option Nat) (s : CacheState σ δ) : CacheState σ δ :=
  s.onCache fun c => { c with lockedBy? := holder? }

/-- One step of the caller of some number. -/
inductive Turn (b : Backend σ δ) (n : Nat) (s : CacheState σ δ) :
    Caller → CacheState σ δ → Caller → Prop
  | lock {x : Caller} : x.visits = true → s.cache.lockedBy? = none →
      Turn b n s x (relock (some n) s) x
  | visit {x y : Caller} {t : CacheState σ δ} : s.cache.lockedBy? = some n → Visit s x t y →
      Turn b n s x (relock none t) y
  | stride {x y : Caller} {t : CacheState σ δ} : Stride b s x t y → Turn b n s x t y

theorem visit_of_visit? {s t : CacheState σ δ} {x y : Caller} (h : x.visit? s = some (t, y)) :
    Visit s x t y := by
  cases x with
  | finding l w =>
      cases hl : s.cache.resident.lookup l with
      | some i =>
          simp only [visit?, find, hl] at h
          cases h
          exact .hit hl
      | none =>
          simp only [visit?, find, hl] at h
          cases h
          exact .miss hl
  | evicted k j p? w => cases h; exact .evicted
  | retired k p w => cases h; exact .retired
  | forgetting i a => cases h; exact .forgetting
  | draining => cases h; exact .draining
  | closed i rest => cases h; exact .closed
  | collecting on => cases h; exact .collecting
  | peeking l => cases h; exact .peeking
  | evicting | retiring | choosing | opening | entering | asking | answering | retrying
  | leaving | inspecting | closing | switching | applying | done => cases h

theorem stride_of_stride {b : Backend σ δ} {s t : CacheState σ δ} {x y : Caller}
    (h : x.stride b s = some (t, y)) : Stride b s x t y := by
  cases x with
  | evicting k j p? w =>
      simp only [stride, Option.ite_none_right_eq_some, Option.some.injEq, Prod.mk.injEq] at h
      obtain ⟨hcan, rfl, rfl⟩ := h
      exact .evicting hcan
  | retiring k p w =>
      simp only [stride, Option.ite_none_right_eq_some, Option.some.injEq, Prod.mk.injEq] at h
      obtain ⟨hcan, rfl, rfl⟩ := h
      exact .retiring hcan
  | choosing k w => cases h; exact .choosing
  | opening k on w =>
      have hfst := s.fill_fst b k on
      simp only [stride] at h
      split at h
      · next t' hfill =>
        cases h
        rw [hfill] at hfst
        have hsnd : (s.fill b k on).2 = t := by rw [hfill]
        exact hsnd ▸ .opened hfst.symm
      · next message t' hfill =>
        cases h
        rw [hfill] at hfst
        have hsnd : (s.fill b k on).2 = t := by rw [hfill]
        exact hsnd ▸ .broken hfst.symm
  | entering i a f =>
      simp only [stride, Option.ite_none_right_eq_some, Option.some.injEq, Prod.mk.injEq] at h
      obtain ⟨hcan, rfl, rfl⟩ := h
      exact .entering hcan
  | asking i a =>
      simp only [stride] at h
      split at h
      · next d hd =>
        cases a with
        | contains words =>
            cases words with
            | nil => cases h; exact .exhausted hd
            | cons word rest =>
                simp only [question] at h
                split at h
                · next hword => cases h; exact .missed hd hword
                · next hword => cases h; exact .found hd hword
        | suggest q session => cases h; exact .starting hd
        | hasMain => cases h; exact .main hd
      · next u hu => cases h; exact .standIn hu
      · cases h
  | answering i q session =>
      simp only [stride] at h
      split at h
      · next d hd => cases h; exact .answering hd
      · cases h
  | retrying i a => cases h; exact .retrying
  | leaving i answer => cases h; exact .leaving
  | inspecting i =>
      simp only [stride, Option.ite_none_right_eq_some, Option.some.injEq, Prod.mk.injEq] at h
      obtain ⟨hcan, rfl, rfl⟩ := h
      exact .inspecting hcan
  | closing slots =>
      cases slots with
      | nil => cases h; exact .closedAll
      | cons i rest =>
          simp only [stride, Option.ite_none_right_eq_some, Option.some.injEq,
            Prod.mk.injEq] at h
          obtain ⟨hcan, rfl, rfl⟩ := h
          exact .closing hcan
  | switching on => cases h; exact .switching
  | applying on slots =>
      cases slots with
      | nil => cases h; exact .appliedAll
      | cons i rest =>
          simp only [stride, Option.ite_none_right_eq_some, Option.some.injEq,
            Prod.mk.injEq] at h
          obtain ⟨hcan, rfl, rfl⟩ := h
          exact .applying hcan
  | finding | evicted | retired | forgetting | draining | closed | collecting | peeking
  | done => cases h

theorem turn_of_step {b : Backend σ δ} {n : Nat} {s t : CacheState σ δ} {x y : Caller}
    (h : x.step b n s = some (t, y)) : Turn b n s x t y := by
  rw [step] at h
  by_cases hv : x.visits = true
  · rw [if_pos hv] at h
    split at h
    · next hfree => cases h; exact .lock hv hfree
    · next m hlocked =>
      rw [Option.ite_none_right_eq_some] at h
      obtain ⟨rfl, h⟩ := h
      obtain ⟨⟨t', y'⟩, hvisit, heq⟩ := Option.map_eq_some_iff.mp h
      cases heq
      exact .visit hlocked (visit_of_visit? hvisit)
  · rw [if_neg hv] at h
    exact .stride (stride_of_stride h)

/-! ## Where an open dictionary comes from -/

section Origin

variable {b : Backend σ δ} {n : Nat} {s t : CacheState σ δ} {x y : Caller} {i : Nat} {d : δ}

/-- Where a dictionary comes from that a slot has after a step: the slot had it before, the caller
opened it, or the caller switched the contacts of the one before. -/
inductive Origin (b : Backend σ δ) (s : CacheState σ δ) (x : Caller) (i : Nat) (d : δ) : Prop
  | kept : s.cache.phase i = .ready (.dictionary d) → Origin b s x i d
  | opened {on : Bool} {w : Want} : x = opening i on w → s.loads b i on = .opened d →
      Origin b s x i d
  | switched {on : Bool} {rest : List Nat} {was : δ} : x = applying on (i :: rest) →
      s.cache.phase i = .ready (.dictionary was) → b.setContacts was on = d → Origin b s x i d

theorem origin_shut (j : Nat) (hd : (s.shut b j).cache.phase i = .ready (.dictionary d)) :
    Origin b s x i d := by
  rw [CacheState.phase_shut] at hd
  split at hd
  · cases hd
  · exact .kept hd

theorem origin_fill {k : Nat} {on : Bool} {w : Want}
    (hd : (s.fill b k on).2.cache.phase i = .ready (.dictionary d)) :
    Origin b s (opening k on w) i d := by
  rw [CacheState.cache_fill, phase_eq, getElem?_modifySlot] at hd
  by_cases hki : k = i
  · subst hki
    rw [if_pos rfl] at hd
    cases hslot : s.cache.slots[k]? with
    | none =>
        rw [hslot] at hd
        cases hd
    | some slot =>
        rw [hslot] at hd
        cases hloads : s.loads b k on with
        | opened d' =>
            rw [hloads] at hd
            cases hd
            exact .opened rfl hloads
        | failed e | broken message =>
            rw [hloads] at hd
            cases hd
  · rw [if_neg hki, ← phase_eq] at hd
    exact .kept hd

theorem origin_switchContacts {on : Bool} {j : Nat} {rest : List Nat}
    (hd : (s.switchContacts b on j).cache.phase i = .ready (.dictionary d)) :
    Origin b s (applying on (j :: rest)) i d := by
  rw [CacheState.phase_switchContacts] at hd
  by_cases hji : j = i
  · subst hji
    rw [if_pos rfl] at hd
    simp only [CacheState.switched] at hd
    split at hd
    · next was hwas =>
      cases hd
      exact .switched rfl hwas rfl
    · exact .kept hd
  · rw [if_neg hji] at hd
    exact .kept hd

theorem Visit.phase_of_ready (h : Visit s x t y) {r : Resource δ}
    (hr : t.cache.phase i = .ready r) : s.cache.phase i = .ready r := by
  cases h with
  | miss _ =>
      rw [CacheState.cache_reportFirst, CacheState.cache_onCache, phase_enroll] at hr
      split at hr
      · cases hr
      · exact hr
  | evicted =>
      rw [CacheState.cache_reportPrevious?] at hr
      exact hr
  | draining =>
      rw [CacheState.cache_reportDrain] at hr
      exact hr
  | hit | retired | forgetting | closed | collecting | peeking => exact hr

theorem Turn.origin (h : Turn b n s x t y) (hd : t.cache.phase i = .ready (.dictionary d)) :
    Origin b s x i d := by
  cases h with
  | lock _ _ => exact .kept hd
  | visit _ h => exact .kept (h.phase_of_ready hd)
  | stride h =>
      cases h with
      | evicting _ | retiring _ | closing _ => exact origin_shut _ hd
      | opened _ | broken _ => exact origin_fill hd
      | applying _ => exact origin_switchContacts hd
      | entering _ => exact .kept ((phase_lockRead s.cache _ i).symm.trans hd)
      | retrying =>
          rw [CacheState.reportRetry] at hd
          exact .kept ((phase_unlockRead s.cache _ i).symm.trans hd)
      | leaving => exact .kept ((phase_unlockRead s.cache _ i).symm.trans hd)
      | choosing | exhausted | found | missed | starting | main | standIn | answering | inspecting
      | closedAll | switching | appliedAll => exact .kept hd

end Origin

end Spelling.Cache.Caller
