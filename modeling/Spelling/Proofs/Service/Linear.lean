import Spelling.Proofs.Service.Changing
import Spelling.Proofs.Service.Quiet
import Spelling.Proofs.WordList.Steady

/-!
# Calls run in the order of their tickets

Calls of a service that are under way at the same time answer as if each had waited for the one
before it.  The plain service is the measure: each call that was granted its permits meets the plain
service that the calls granted before it have left (`Plain.meets`), and is owed what that answers.

At any time either all callers inside ask, and the service stands for the plain one after all calls
that were granted; or the last of these changes the service, and all others are over (`Phase`).

Which dictionaries are resident, and which session number a query has, differs from a run one after
another.  So a dictionary must answer as if opened with the contacts as they are, and alike with
every session number (`Backend.Dependable`), as those made of word lists do.
-/

namespace Spelling.Service

variable {σ δ : Type} {b : Backend σ δ} {fresh : Locale → Options → Loaded δ} {n : Nat}

/-! ## Calls in a row -/

namespace Plain

/-- Some calls that were granted their permits, each with the plain service that it meets. -/
def meets (p : Plain) : List Grant → List (Plain × Grant)
  | [] => []
  | g :: gs => (p, g) :: (p.after g.call).meets gs

variable (p : Plain)

theorem after_of_asks {call : Call} (h : call.changes = false) : p.after call = p := by
  cases call with
  | isValid | isValidAnywhere | suggest | hasMain => rfl
  | closeAll | setContacts _ | refresh _ => cases h

theorem afterAll_concat (calls : List Call) (call : Call) :
    p.afterAll (calls ++ [call]) = (p.afterAll calls).after call := by
  simp [afterAll]

theorem meets_concat (gs : List Grant) (g : Grant) :
    p.meets (gs ++ [g]) = p.meets gs ++ [(p.afterAll (gs.map Grant.call), g)] := by
  induction gs generalizing p with
  | nil => rfl
  | cons h gs ih => exact congrArg ((p, h) :: ·) (ih _)

theorem map_snd_meets (gs : List Grant) : (p.meets gs).map Prod.snd = gs := by
  induction gs generalizing p with
  | nil => rfl
  | cons g gs ih => exact congrArg (g :: ·) (ih _)

/-- The answers of the plain service are what each call is owed by the one it meets. -/
theorem answers_map_call (gs : List Grant) :
    p.answers b fresh n (gs.map Grant.call) =
      (p.meets gs).map fun e => e.1.answer b fresh n e.2.call := by
  induction gs generalizing p with
  | nil => rfl
  | cons g gs ih => exact congrArg (p.answer b fresh n g.call :: ·) (ih _)

end Plain

/-- Calls on a service, one after another, answer as on the plain service. -/
theorem answers_of_quiet (hb : b.Dependable fresh) (calls : List Call) :
    ∀ {p : Plain} {s : Service σ δ}, s.Quiet b fresh n p →
      s.answers b calls = p.answers b fresh n calls := by
  induction calls with
  | nil =>
      intro p s _
      rfl
  | cons call calls ih =>
      intro p s h
      rw [Service.answers, Plain.answers, h.answer hb, ih (h.run hb.counted call).1]

/-! ## One step of anybody -/

namespace Caller

variable {c c' : Crowd σ δ} {m : Nat} {x y : Caller} {p : Plain} {owed : Answer} {call : Call}

/-- A caller without permits does nothing to the caches. -/
theorem Turn.outside (h : Turn b c m x c' y) (hnone : x.permit? = none) :
    c'.service.settings = c.service.settings ∧ c'.service.policy = c.service.policy ∧
      c'.service.enabled = c.service.enabled ∧ c'.service.caches = c.service.caches := by
  cases h with
  | gate | refused => exact ⟨rfl, rfl, rfl, rfl⟩
  | @gone call r =>
      obtain ⟨w, hw⟩ := giveUp_fst c.service call r.count
      rw [hw]
      exact ⟨rfl, rfl, rfl, rfl⟩
  | begin => cases hnone
  | stride h =>
      cases h with
      | announcing => exact ⟨rfl, rfl, rfl, rfl⟩
      | unlent | lent | looking | working | concluding | same | differing | replacing | restoring
      | exiting => cases hnone

theorem Asking.turn (hb : b.Dependable fresh) (hs : c.service.Serves b fresh n p)
    (hlend : ∀ q, x.permit? = some q → x.lease? = none → ∃ session sessions,
      c.service.sessions.lend = (some session, sessions) ∧ session < n)
    (hx : Asking b fresh n p c.service owed x) (h : Turn b c m x c' y) :
    c.service.Grows b fresh c'.service ∧ Asking b fresh n p c'.service owed y := by
  cases h with
  | gate hout h =>
      refine ⟨.refl _, ?_⟩
      cases hx with
      | granted hcall howed =>
          cases h with
          | hold => exact .holding hcall howed
      | holding => exact absurd rfl (hout _)
  | begin => exact ⟨.refl _, hx.begin⟩
  | gone | refused => cases hx
  | stride h => exact hx.stride hb hs hlend h

theorem Changing.turn (hx : Changing b fresh n p c.service call x) (h : Turn b c m x c' y) :
    Changing b fresh n p c'.service call y ∨
      ∃ q, y = .exiting (p.answer b fresh n call) q ∧
        c'.service.Serves b fresh n (p.after call) := by
  cases h with
  | gate hout h =>
      refine .inl ?_
      cases hx with
      | granted hcall hs =>
          cases h with
          | hold => exact .holding hcall hs
      | holding => exact absurd rfl (hout _)
  | @begin call' q =>
      refine .inl ?_
      cases hx with
      | holding hcall hs => exact (Changing.holding hcall hs).begin
  | gone | refused => cases hx
  | stride h => exact hx.stride h

theorem Over.turn (hx : Over owed x) (h : Turn b c m x c' y) : Over owed y := by
  cases hx with
  | announcing =>
      cases h with
      | stride h =>
          cases h with
          | announcing => exact .done
  | done =>
      cases h with
      | stride h => cases h

end Caller

/-! ## Everybody -/

/-- What is known of the callers that were granted their permits, of each with what it is owed. -/
def Attends (b : Backend σ δ) (fresh : Locale → Options → Loaded δ) (n : Nat) (p₀ : Plain)
    (P : Answer → Caller → Prop) (gs : List Grant) (callers : List Caller) : Prop :=
  ∀ e ∈ p₀.meets gs, ∃ x, callers[e.2.caller]? = some x ∧ P (e.1.answer b fresh n e.2.call) x

/-- Either all callers inside ask, or one changes the service and all others are over. -/
inductive Phase (b : Backend σ δ) (fresh : Locale → Options → Loaded δ) (n : Nat) (p₀ : Plain) :
    List Grant → Crowd σ δ → Prop
  | asking {gs : List Grant} {c : Crowd σ δ} :
      c.service.Serves b fresh n (p₀.afterAll (gs.map Grant.call)) →
      Attends b fresh n p₀ (Caller.Asking b fresh n (p₀.afterAll (gs.map Grant.call)) c.service)
        gs c.callers →
      Phase b fresh n p₀ gs c
  | changing {gs : List Grant} {g : Grant} {c : Crowd σ δ} {x : Caller} :
      c.callers[g.caller]? = some x →
      x.Changing b fresh n (p₀.afterAll (gs.map Grant.call)) c.service g.call →
      Attends b fresh n p₀ Caller.Over gs c.callers →
      Phase b fresh n p₀ (gs ++ [g]) c

variable {p₀ : Plain}

section Attends

variable {P P' : Answer → Caller → Prop} {gs : List Grant} {callers : List Caller} {i : Nat}
  {x y : Caller}

theorem Attends.set (h : Attends b fresh n p₀ P gs callers) (hx : callers[i]? = some x)
    (hmoved : ∀ owed, P owed x → P' owed y) (hother : ∀ owed z, P owed z → P' owed z) :
    Attends b fresh n p₀ P' gs (callers.set i y) := by
  intro e he
  obtain ⟨z, hz, hP⟩ := h e he
  rcases getElem?_set_moved hx y hz with ⟨-, rfl, hset⟩ | ⟨-, hsame⟩
  · exact ⟨y, hset, hmoved _ hP⟩
  · exact ⟨z, hsame, hother _ _ hP⟩

theorem Attends.concat {g : Grant} (h : Attends b fresh n p₀ P gs callers)
    (hx : callers[g.caller]? = some x)
    (hP : P ((p₀.afterAll (gs.map Grant.call)).answer b fresh n g.call) x) :
    Attends b fresh n p₀ P (gs ++ [g]) callers := by
  intro e he
  rw [Plain.meets_concat] at he
  rcases List.mem_append.mp he with he | he
  · exact h e he
  · cases List.mem_singleton.mp he
    exact ⟨x, hx, hP⟩

theorem Attends.append (h : Attends b fresh n p₀ P gs callers) (callers' : List Caller) :
    Attends b fresh n p₀ P gs (callers ++ callers') := by
  intro e he
  obtain ⟨z, hz, hP⟩ := h e he
  exact ⟨z, getElem?_append_of_some hz _, hP⟩

/-- Whoever was granted permits is attended to. -/
theorem Attends.of_mem (h : Attends b fresh n p₀ P gs callers) {g : Grant} (hg : g ∈ gs)
    (hx : callers[g.caller]? = some x) : ∃ owed, P owed x := by
  have hmem : g ∈ (p₀.meets gs).map Prod.snd := (p₀.map_snd_meets gs).symm ▸ hg
  obtain ⟨e, he, rfl⟩ := List.mem_map.mp hmem
  obtain ⟨z, hz, hP⟩ := h e he
  cases hx.symm.trans hz
  exact ⟨_, hP⟩

end Attends

/-! ## One thing that happens -/

section Phase

variable {c c' : Crowd σ δ} {calls : List Call} {gs : List Grant} {i : Nat} {x y : Caller}

/-- A caller is granted its permits. -/
theorem Phase.grant {r : Grant} (hn : 0 < n) (hadmits : Admits n calls gs c)
    (h : Phase b fresh n p₀ gs c) (hx : c.callers[i]? = some x) (hgrant : x.Granting c i c' y r) :
    Phase b fresh n p₀ (gs ++ [r]) { c' with callers := c.callers.set i y } := by
  cases hgrant with
  | @row call g q t gate hnone hle hwanted =>
      have hcount : q.count = call.count n := (hadmits.entering i call g hx hnone).2 _ hwanted
      have hself : (c.callers.set i (.entering call (.granted q)))[i]? =
          some (Caller.entering call (.granted q)) := getElem?_set_of_some hx _
      cases h with
      | asking hs hall =>
          -- a caller that waits at the gate is owed nothing yet
          have hwaits : ∀ {owed p s}, Caller.Asking b fresh n p s owed (.entering call g) →
              False := by
            intro owed p s hasking
            cases hasking with
            | granted | holding => cases hnone
          cases hchanges : call.changes with
          | false =>
              have hsame : p₀.afterAll ((gs ++ [Grant.mk i t call]).map Grant.call) =
                  p₀.afterAll (gs.map Grant.call) := by
                rw [List.map_append]
                exact (p₀.afterAll_concat _ _).trans (Plain.after_of_asks _ hchanges)
              refine .asking (hsame ▸ hs) ?_
              rw [hsame]
              refine Attends.concat ?_ hself (.granted hchanges rfl)
              exact hall.set hx (fun _ hP => (hwaits hP).elim) fun _ _ hP => hP
          | true =>
              have hroom : n ≤ c.gate.available := by
                rw [hcount, Call.count_of_changes hchanges] at hle
                exact hle
              refine .changing hself (.granted hchanges hs) ?_
              intro e he
              obtain ⟨z, hz, hP⟩ := hall e he
              rcases getElem?_set_moved hx _ hz with ⟨-, rfl, -⟩ | ⟨-, hset⟩
              · exact (hwaits hP).elim
              · exact ⟨z, hset, hP.over (hadmits.permit_eq_none hn hroom hz)⟩
      | @changing gs g' _ z hz hchanging hover =>
          obtain ⟨q', hq'⟩ := hchanging.permit
          have hmem : g' ∈ gs ++ [g'] := List.mem_append_right _ (List.mem_singleton.mpr rfl)
          have hall := hadmits.count_eq hmem hchanging.changes hz hq'
          have hzero := hadmits.available_eq_zero hz hq' hall
          have hpos := Call.count_pos hn call
          omega

/-- A caller makes a step in which nothing is granted. -/
theorem Phase.turn (hn : 0 < n) (hb : b.Dependable fresh) (hadmits : Admits n calls gs c)
    (hpool : Pooled n c) (h : Phase b fresh n p₀ gs c) (hx : c.callers[i]? = some x)
    (ht : Caller.Turn b c i x c' y) :
    Phase b fresh n p₀ gs { c' with callers := c.callers.set i y } := by
  cases h with
  | asking hs hall =>
      have hlend := fun q (hq : x.permit? = some q) => hpool.lend hn hadmits hx hq
      have hturn : ∀ {owed}, x.Asking b fresh n _ c.service owed →
          c.service.Grows b fresh c'.service ∧ y.Asking b fresh n _ c'.service owed :=
        fun hasking => hasking.turn hb hs hlend ht
      have hgrows : c.service.Grows b fresh c'.service := by
        cases hp : x.permit? with
        | none =>
            obtain ⟨hsettings, hpolicy, henabled, hcaches⟩ := ht.outside hp
            exact .of_caches hsettings hpolicy henabled hcaches
        | some q =>
            obtain ⟨g, hg, rfl⟩ := hadmits.holders i x q hx hp
            obtain ⟨owed, hasking⟩ := hall.of_mem hg hx
            exact (hturn hasking).1
      exact .asking (hs.grows hgrows)
        (hall.set hx (fun _ hP => (hturn hP).2) fun _ _ hP => hP.grows hgrows)
  | @changing gs g _ z hz hchanging hover =>
      obtain ⟨q, hq⟩ := hchanging.permit
      have hmem : g ∈ gs ++ [g] := List.mem_append_right _ (List.mem_singleton.mpr rfl)
      have hcount := hadmits.count_eq hmem hchanging.changes hz hq
      have hover' := hover.set hx (fun _ hP => hP.turn ht) fun _ _ hP => hP
      rcases getElem?_set_moved hx y hz with ⟨rfl, rfl, hself⟩ | ⟨hother, hset⟩
      · rcases hchanging.turn ht with hchanging' | ⟨q', rfl, hs⟩
        · exact .changing hself hchanging' hover'
        · have hafter : p₀.afterAll ((gs ++ [g]).map Grant.call) =
              (p₀.afterAll (gs.map Grant.call)).after g.call := by
            rw [List.map_append]
            exact p₀.afterAll_concat _ _
          refine .asking (hafter ▸ hs) (Attends.concat ?_ hself .exiting)
          intro e he
          obtain ⟨w, hw, hP⟩ := hover' e he
          exact ⟨w, hw, hP.asking⟩
      · have hnone : x.permit? = none := by
          cases hp : x.permit? with
          | none => rfl
          | some r => exact absurd (hadmits.alone hn hz hq hcount hx hp).symm hother
        obtain ⟨hsettings, hpolicy, henabled, hcaches⟩ := ht.outside hnone
        exact .changing hset (hchanging.of_caches hsettings hpolicy henabled hcaches) hover'

theorem Phase.happens {call? : Option Call} {g? : Option Grant} (hn : 0 < n)
    (hb : b.Dependable fresh) (hadmits : Admits n calls gs c) (hpool : Pooled n c)
    (h : Phase b fresh n p₀ gs c) (hh : Happens b c call? g? c') :
    Phase b fresh n p₀ (gs ++ g?.toList) c' := by
  cases hh with
  | nothing => simpa using h
  | arrival =>
      rw [Option.toList_none, List.append_nil]
      cases h with
      | asking hs hall => exact .asking hs (hall.append _)
      | changing hz hchanging hover =>
          exact .changing (getElem?_append_of_some hz _) hchanging (hover.append _)
  | turn hx ht =>
      rcases ht.granting with ⟨r, hr, hgrant⟩ | ⟨hnone, -⟩
      · rw [hr]
        exact h.grant hn hadmits hx hgrant
      · rw [hnone, Option.toList_none, List.append_nil]
        exact h.turn hn hb hadmits hpool hx ht

end Phase

/-! ## Along every run -/

/-- What holds of a service and its callers at all times. -/
structure Linear (b : Backend σ δ) (fresh : Locale → Options → Loaded δ) (n : Nat) (p₀ : Plain)
    (calls : List Call) (gs : List Grant) (c : Crowd σ δ) : Prop where
  admits : Admits n calls gs c
  pooled : Pooled n c
  phase : Phase b fresh n p₀ gs c

theorem Quiet.linear {s : Service σ δ} (h : s.Quiet b fresh n p₀) :
    Linear b fresh n p₀ [] [] (Crowd.ofService s) where
  admits := admits_ofService h.readers
  pooled := pooled_ofService h.idle
  phase := .asking (h.imp (fun _ hc => hc.toContent) fun _ hc => hc.toContent)
    fun _ he => absurd he List.not_mem_nil

theorem Linear.run (hn : 0 < n) (hb : b.Dependable fresh) {calls : List Call} {gs : List Grant}
    {c : Crowd σ δ} (h : Linear b fresh n p₀ calls gs c) (acts : List Happening) :
    Linear b fresh n p₀ (calls ++ acts.filterMap Happening.call?) (gs ++ c.grants b acts)
      (c.run b acts) :=
  Crowd.run_keeps (fun h hh => ⟨h.admits.happens hh, h.pooled.happens hh,
    h.phase.happens hn hb h.admits h.pooled hh⟩) acts h

/-- Whoever was granted permits and is done has the answer that was owed. -/
theorem Phase.answer_of_done {gs : List Grant} {c : Crowd σ δ} (h : Phase b fresh n p₀ gs c)
    {e : Plain × Grant} (he : e ∈ p₀.meets gs) {a : Answer}
    (ha : c.callers[e.2.caller]? = some (.done a)) : e.1.answer b fresh n e.2.call = a := by
  cases h with
  | asking _ hall =>
      obtain ⟨x, hx, hP⟩ := hall e he
      cases ha.symm.trans hx
      cases hP with
      | done => rfl
  | @changing gs g _ x hx hchanging hover =>
      rw [Plain.meets_concat] at he
      rcases List.mem_append.mp he with he | he
      · obtain ⟨x, hx, hP⟩ := hover e he
        cases ha.symm.trans hx
        cases hP with
        | done => rfl
      · cases List.mem_singleton.mp he
        cases ha.symm.trans hx
        exact nomatch hchanging.permit

/-- **Calls run in the order of their tickets.**  Whoever calls a service and moves in whatever
order: permits are granted in the order of the tickets, to every call once; a call that was granted
its permits and is done has the answer that it has when all calls that were granted theirs run one
after another in that order; whoever is inside was granted permits; and while a caller is inside
that changes the service, nobody else is. -/
theorem Crowd.calls_run_in_ticket_order (hb : b.Dependable fresh) (settings : Settings) (st : σ)
    (locales : List Locale) (acts : List Happening) :
    let s : Service σ δ := ofSettings settings st locales
    let c := (Crowd.ofService s).run b acts
    let granted := (Crowd.ofService s).grants b acts
    (granted.map Grant.ticket).Pairwise (· < ·) ∧
      (granted.map Grant.caller).Nodup ∧
      (∀ g ∈ granted, (acts.filterMap Happening.call?)[g.caller]? = some g.call) ∧
      (∀ (k : Nat) (g : Grant) (a : Answer), granted[k]? = some g →
        c.callers[g.caller]? = some (.done a) →
        (s.answers b (granted.map Grant.call))[k]? = some a) ∧
      (∀ (i : Nat) (x : Caller) (p : Permit), c.callers[i]? = some x → x.permit? = some p →
        ∃ g ∈ granted, g.caller = i) ∧
      (∀ g ∈ granted, g.call.changes = true → ∀ (x : Caller) (p : Permit),
        c.callers[g.caller]? = some x → x.permit? = some p →
        ∀ (j : Nat) (y : Caller) (q : Permit), c.callers[j]? = some y → y.permit? = some q →
          g.caller = j) := by
  intro s c granted
  let n := settings.maxReaders.1
  let p₀ : Plain := ⟨locales, settings.useContacts⟩
  have hn : 0 < n := settings.maxReaders.2
  have hquiet : s.Quiet b fresh n p₀ := quiet_ofSettings settings st locales
  have hstart := hquiet.linear
  have hrun : Linear b fresh n p₀ (acts.filterMap Happening.call?) granted c :=
    hstart.run hn hb acts
  refine ⟨grants_sorted hstart.admits.orderly acts, hrun.admits.once,
    fun g hg => (hrun.admits.granted g hg).1, ?_, hrun.admits.holders,
    fun g hg hchanges x p hx hp j y q hy hq =>
      hrun.admits.alone hn hx hp (hrun.admits.count_eq hg hchanges hx hp) hy hq⟩
  intro k g a hg ha
  rw [answers_of_quiet hb _ hquiet, Plain.answers_map_call]
  have hk : ((p₀.meets granted).map Prod.snd)[k]? = some g := (p₀.map_snd_meets granted).symm ▸ hg
  rw [List.getElem?_map] at hk ⊢
  obtain ⟨e, he, rfl⟩ := Option.map_eq_some_iff.mp hk
  rw [he, Option.map_some, hrun.phase.answer_of_done (List.mem_of_getElem? he) ha]

theorem Caller.eq_done {x : Caller} {a : Answer} (h : x.answer? = some a) : x = .done a := by
  cases x with
  | done => exact congrArg Caller.done (Option.some.inj h)
  | entering | leasing | looking | working | comparing | replacing | restoring | exiting
  | announcing => cases h

/-- While a name of the contacts is looked up, the contacts are turned off and the name is looked up
again: the second look waits for the contacts, and answers as after that. -/
theorem Crowd.calls_run_in_ticket_order_of_contacts :
    let en := Locale.ofLanguage "en"
    let source : WordList.Source := .memory [(en, "1\nhello fq:200\n")] (some "1\nzoe fq:5\n")
    let b := Backend.ofKind source.kind
    let s : Service Unit WordList.Dictionary := ofSettings {} () [en]
    let acts : List Happening :=
      [.arrive (.isValid en "zoe"), .arrive (.setContacts false), .arrive (.isValid en "zoe")] ++
        (List.replicate 40 [Happening.move 0 .go, .move 1 .go, .move 2 .go]).flatten
    (((Crowd.ofService s).run b acts).callers[2]?.bind Caller.answer?) = some (.flag false) ∧
      (s.answers b (((Crowd.ofService s).grants b acts).map Grant.call))[2]? =
        some (.flag false) := by
  intro en source b s acts
  have hcaller : ((Crowd.ofService s).grants b acts)[2]?.map Grant.caller = some 2 := by
    decide +kernel
  have hanswer : ((Crowd.ofService s).run b acts).callers[2]?.bind Caller.answer? =
      some (.flag false) := by
    decide +kernel
  obtain ⟨g, hg, htwo⟩ := Option.map_eq_some_iff.mp hcaller
  obtain ⟨x, hx, hdone⟩ := Option.bind_eq_some_iff.mp hanswer
  rw [← htwo, Caller.eq_done hdone] at hx
  exact ⟨hanswer, (calls_run_in_ticket_order source.dependable {} () [en] acts).2.2.2.1 2 g
    (.flag false) hg hx⟩

end Spelling.Service
