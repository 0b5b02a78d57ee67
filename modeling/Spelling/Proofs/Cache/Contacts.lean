import Spelling.Proofs.Cache.Agreeing
import Spelling.Proofs.Cache.Rest

/-!
# The contacts as they were switched last

A caller who switches the contacts stores the option first, lists the residents then, and tells the
slots that it listed one after another.  A caller who opens a slot makes it a resident first, reads
the option then, and opens the slot with what it has read.  So the slot of whoever reads the option
too early is listed, and whoever makes a slot a resident later reads the option as it was stored.

    place of the caller       what is known
    switching on
    collecting on             the option is stored
    applying on slots         and every resident agrees with it but for the slots
    done                      and every resident agrees with it

## What is not so

A slot that leaves the residents is not listed.  Let its caller have read the option before another
one is stored, and let it be evicted or drained before the residents are listed: then its dictionary
is opened with the option that was read, even if the call that stored the other one has returned by
then (`drained_dictionary_is_opened_with_stale_contacts`).  Whoever took the slot from the residents
waits to close it, and it is no resident again.  It takes others who are at work between the reading
and the opening: if these are one step, nobody is in between when the call returns.
-/

namespace Spelling.Cache.Crowd

variable {σ δ : Type} {b : Backend σ δ} {contacts : δ → Bool} {on : Bool} {but : Nat → Prop}
  {c : Crowd σ δ} {m n : Nat} {x y z : Caller} {t : CacheState σ δ}

/-! ## The caller who switches the contacts -/

/-- How far a caller has come who switches the contacts. -/
inductive Progress (contacts : δ → Bool) (on : Bool) (c : Crowd σ δ) : Caller → Prop
  | switching : Progress contacts on c (.switching on)
  | collecting : c.state.cache.useContacts = on → Progress contacts on c (.collecting on)
  | applying {slots : List Nat} : c.Stored contacts on (fun i => c.Gone i ∨ i ∈ slots) →
      Progress contacts on c (.applying on slots)
  | done {a : Answer} : c.Stored contacts on c.Gone → Progress contacts on c (.done a)

theorem progress_applyNext {slots : List Nat}
    (h : c.Stored contacts on fun i => c.Gone i ∨ i ∈ slots) :
    c.Progress contacts on (.applyNext on slots) := by
  cases slots with
  | nil => exact .done (h.mono fun i hi => hi.resolve_right List.not_mem_nil)
  | cons i rest => exact .applying h

/-- A step of any caller takes nothing back. -/
theorem Progress.beside (h : c.Progress contacts on z) (hc : c.Sound) (hb : b.Heeds contacts)
    (hmem : x ∈ c.callers) (hon : ∀ v, x.switches? = some v → v = on)
    (hturn : Caller.Turn b m c.state x t y) :
    Progress contacts on ⟨t, c.callers.set m y⟩ z := by
  cases h with
  | switching => exact .switching
  | collecting hstored =>
      refine .collecting ?_
      rcases hturn.useContacts with hsame | ⟨v, hv, hstores⟩
      · exact hsame.trans hstored
      · exact hstores.trans (hon v hv)
  | applying hstored =>
      refine .applying ((hstored.turn hb hmem hon hturn).mono ?_)
      exact fun i => Or.imp_left fun hgone => hgone.turn hc hmem hturn
  | done hstored =>
      exact .done ((hstored.turn hb hmem hon hturn).mono fun i hgone => hgone.turn hc hmem hturn)

/-- A step of the caller who switches the contacts takes it further. -/
theorem Progress.turn (h : c.Progress contacts on x) (hc : c.Sound) (hb : b.Heeds contacts)
    (hx : c.callers[n]? = some x) (hturn : Caller.Turn b n c.state x t y) :
    Progress contacts on ⟨t, c.callers.set n y⟩ y := by
  have hmem := List.mem_of_getElem? hx
  have hsound := hc.turn hx hturn
  have hbeside := fun hon => h.beside hc hb hmem hon hturn
  cases h with
  | switching =>
      cases hturn with
      | lock hvisits _ => cases hvisits
      | visit _ hv => cases hv
      | stride hs =>
          cases hs with
          | switching => exact .collecting rfl
  | collecting hstored =>
      cases hturn with
      | lock _ _ => exact hbeside fun v hv => (Option.some.inj hv).symm
      | visit _ hv =>
          cases hv with
          | collecting =>
              refine progress_applyNext ⟨hstored, ?_⟩
              intro i
              by_cases hres : i ∈ c.state.cache.residentSlots
              · exact .inl (.inr hres)
              · rcases Nat.lt_or_ge i c.state.cache.slots.length with hlt | hge
                · exact .inl (.inl ⟨hlt, hres⟩)
                · exact .inr (hsound.agrees_of_length_le hge)
      | stride hs => cases hs
  | applying hstored =>
      have hgone := fun i (hi : c.Gone i) => hi.turn hc hmem hturn
      cases hturn with
      | lock hvisits _ => cases hvisits
      | visit _ hv => cases hv
      | stride hs =>
          cases hs with
          | @applying _ i rest hcan =>
              refine progress_applyNext ((hstored.told hc hb hmem hcan).mono ?_)
              rintro j ⟨hj | hj, hne⟩
              · exact .inl (hgone j hj)
              · exact .inr ((List.mem_cons.mp hj).resolve_left hne)
          | appliedAll =>
              cases hbeside fun v hv => (Option.some.inj hv).symm with
              | applying hall => exact progress_applyNext hall
  | done _ =>
      cases hturn with
      | lock hvisits _ => cases hvisits
      | visit _ hv => cases hv
      | stride hs => cases hs

theorem Progress.arrive (h : c.Progress contacts on z) (call : Call) :
    (c.arrive call).Progress contacts on z := by
  cases h with
  | switching => exact .switching
  | collecting hstored => exact .collecting hstored
  | applying hstored => exact .applying (hstored.arrive call)
  | done hstored => exact .done (hstored.arrive call)

/-- One caller switches the contacts, or has done so, and nobody else does. -/
structure Switches (contacts : δ → Bool) (n : Nat) (on : Bool) (c : Crowd σ δ) : Prop where
  sound : c.Sound
  place : ∃ x, c.callers[n]? = some x ∧ c.Progress contacts on x
  sole : ∀ (m : Nat) (x : Caller) (v : Bool), c.callers[m]? = some x → x.switches? = some v →
    m = n ∧ v = on

theorem Sound.switches (hc : c.Sound) (hnone : ∀ x ∈ c.callers, x.switches? = none) (on : Bool) :
    (c.arrive (.setContacts on)).Switches contacts c.callers.length on := by
  refine ⟨hc.append .start, ⟨_, List.getElem?_concat_length, .switching⟩, ?_⟩
  intro m x v hx hv
  rcases getElem?_append_cases hx with hx | ⟨rfl, rfl⟩
  · rw [hnone x (List.mem_of_getElem? hx)] at hv
    cases hv
  · exact ⟨rfl, (Option.some.inj hv).symm⟩

theorem Switches.turn (h : c.Switches contacts n on) (hb : b.Heeds contacts)
    (hx : c.callers[m]? = some x) (hturn : Caller.Turn b m c.state x t y) :
    Switches contacts n on ⟨t, c.callers.set m y⟩ := by
  have hmem := List.mem_of_getElem? hx
  refine ⟨h.sound.turn hx hturn, ?_, ?_⟩
  · obtain ⟨z, hz, hprogress⟩ := h.place
    rcases getElem?_set_moved hx y hz with ⟨rfl, rfl, hy⟩ | ⟨-, hz⟩
    · exact ⟨y, hy, hprogress.turn h.sound hb hx hturn⟩
    · exact ⟨z, hz, hprogress.beside h.sound hb hmem (fun v hv => (h.sole m x v hx hv).2) hturn⟩
  · intro j z v hz hv
    rcases getElem?_set_cases hz with ⟨rfl, rfl⟩ | ⟨-, hz⟩
    · exact h.sole m x v hx (hturn.switches hv)
    · exact h.sole j z v hz hv

theorem Switches.arrive (h : c.Switches contacts n on) {call : Call}
    (hcall : call.start.switches? = none) : (c.arrive call).Switches contacts n on := by
  refine ⟨h.sound.append .start, ?_, ?_⟩
  · obtain ⟨z, hz, hprogress⟩ := h.place
    exact ⟨z, getElem?_append_of_some hz _, hprogress.arrive call⟩
  · intro m x v hx hv
    rcases getElem?_append_cases hx with hx | ⟨-, rfl⟩
    · exact h.sole m x v hx hv
    · rw [hcall] at hv
      cases hv

theorem Switches.act (h : c.Switches contacts n on) (hb : b.Heeds contacts) {a : Happening}
    (ha : ∀ v, a ≠ .arrive (.setContacts v)) : (c.act b a).Switches contacts n on := by
  cases a with
  | arrive call =>
      refine h.arrive ?_
      cases call with
      | setContacts v => exact absurd rfl (ha v)
      | resolve | ask | askSlot | isClosed | closeAll | contains => rfl
  | step m =>
      rcases step_cases b c m with hsame | ⟨x, t, y, hx, hturn, hnext⟩
      · rw [hsame]
        exact h
      · rw [hnext]
        exact h.turn hb hx hturn

theorem Switches.run (h : c.Switches contacts n on) (hb : b.Heeds contacts)
    {acts : List Happening} (hacts : ∀ v, .arrive (.setContacts v) ∉ acts) :
    (c.run b acts).Switches contacts n on := by
  induction acts generalizing c with
  | nil => exact h
  | cons a acts ih =>
      have ha : ∀ v, a ≠ .arrive (.setContacts v) := by
        rintro v rfl
        exact hacts v List.mem_cons_self
      exact ih (h.act hb ha) fun v hv => hacts v (List.mem_cons_of_mem _ hv)

theorem Stored.act (hs : c.Stored contacts on but) (h : c.Switches contacts n on)
    (hb : b.Heeds contacts) (a : Happening) : (c.act b a).Stored contacts on but := by
  cases a with
  | arrive call => exact hs.arrive call
  | step m =>
      rcases step_cases b c m with hsame | ⟨x, t, y, hx, hturn, hnext⟩
      · rw [hsame]
        exact hs
      · rw [hnext]
        exact hs.turn hb (List.mem_of_getElem? hx) (fun v hv => (h.sole m x v hx hv).2) hturn

/-- The slots that agree go on to agree. -/
theorem Stored.run (hs : c.Stored contacts on but) (h : c.Switches contacts n on)
    (hb : b.Heeds contacts) {acts : List Happening}
    (hacts : ∀ v, .arrive (.setContacts v) ∉ acts) : (c.run b acts).Stored contacts on but := by
  induction acts generalizing c with
  | nil => exact hs
  | cons a acts ih =>
      have ha : ∀ v, a ≠ .arrive (.setContacts v) := by
        rintro v rfl
        exact hacts v List.mem_cons_self
      exact ih (hs.act h hb a) (h.act hb ha) fun v hv => hacts v (List.mem_cons_of_mem _ hv)

/-- A slot that was taken from the residents stays away from them. -/
theorem Gone.run (hc : c.Sound) {i : Nat} (h : c.Gone i) (acts : List Happening) :
    (c.run b acts).Gone i := by
  induction acts generalizing c with
  | nil => exact h
  | cons a acts ih =>
      refine ih (hc.act a) ?_
      have hhappens := happens_of_act (b := b) c a
      generalize c.act b a = c' at hhappens
      cases hhappens with
      | arrival | nothing => exact h
      | turn hx hturn => exact h.turn hc (List.mem_of_getElem? hx) hturn

/-- Somebody waits to close a slot that was taken from the residents, unless it is done with. -/
theorem Accounts.shuts_of_gone {label capacity : Nat} (hc : c.Accounts label capacity) {i : Nat}
    (hgone : c.Gone i) (hlive : ¬ c.state.cache.Dead i) : ∃ x ∈ c.callers, i ∈ x.shuts := by
  rcases hc.debts.shuts i hgone.1 hlive with hres | howed
  · exact absurd (List.mem_map_of_mem hres) hgone.2
  · exact howed

/-- What a slot holds does not agree: it was open when the call returned, or is opened with the other
option that its caller had read. -/
theorem held_or_chosen_of_not_agrees {i : Nat} (h : ¬ c.Agrees contacts on i) :
    c.state.cache.Holds i ∨ ∃ w, .opening i (!on) w ∈ c.callers := by
  by_contra hneither
  obtain ⟨hheld, hopening⟩ := not_or.mp hneither
  refine h ⟨fun d hd => absurd ⟨d, hd⟩ hheld, ?_⟩
  intro x hx v hv
  obtain ⟨w, rfl⟩ := Caller.eq_opening_of_chose hv
  by_contra hne
  exact hopening ⟨w, Bool.eq_not_of_ne hne ▸ hx⟩

/-- **No stale contacts but on the way out.**  Whoever calls a cache and steps on in whatever order.
A dictionary that is told to switch its contacts is open.  And let a call switch the contacts that no
other such call overlaps.  From its return on, until another such call begins, every open dictionary
of a resident has the option that the call stored.  So has any other open dictionary, unless its slot
was taken from the residents by the time that the call returned: then it stays away from them, and
somebody waits to close it.  Such a dictionary was open at the return, or whoever opens it had read
the other option by then, so what is opened later has the option as it was stored.  An opening that
is under way at the return has read that option too, or its slot was taken from the residents and
somebody waits to close it. -/
theorem contacts_are_not_stale {contacts : δ → Bool} (hb : b.Heeds contacts) (label : Nat)
    {capacity : Nat} (hroom : 0 < capacity) (o : Options) (st : σ) :
    (∀ (acts : List Happening) (es es' : List Event) (e : Event) (v : Bool),
      ((ofCapacity label capacity o st : Crowd σ δ).run b acts).state.world.events =
        es ++ e :: es' → e.deed = .contactsSet v → Lives (some e.slot) (Event.about e.locale es)) ∧
    ∀ (before during after : List Happening) (on : Bool),
      let c₀ := (ofCapacity label capacity o st : Crowd σ δ).run b before
      let c₁ := (c₀.arrive (.setContacts on)).run b during
      let c₂ := c₁.run b after
      (∀ x ∈ c₀.callers, x.switches? = none) → (∀ v, .arrive (.setContacts v) ∉ during) →
      (∀ v, .arrive (.setContacts v) ∉ after) →
      ∀ a, c₁.callers[c₀.callers.length]? = some (.done a) →
        (∀ i ∈ c₂.state.cache.residentSlots, ∀ d,
          c₂.state.cache.phase i = .ready (.dictionary d) → contacts d = on) ∧
        (∀ i d, c₂.state.cache.phase i = .ready (.dictionary d) → contacts d = on ∨
          (c₁.state.cache.Holds i ∨ ∃ w, .opening i (!on) w ∈ c₁.callers) ∧
          i ∉ c₁.state.cache.residentSlots ∧ i ∉ c₂.state.cache.residentSlots ∧
          ∃ x ∈ c₂.callers, i ∈ x.shuts) ∧
        (∀ i v w, .opening i v w ∈ c₁.callers → v = on ∨
          i ∉ c₁.state.cache.residentSlots ∧ ∃ x ∈ c₁.callers, i ∈ x.shuts) := by
  have hsound : (ofCapacity label capacity o st : Crowd σ δ).Sound := sound_ofCapacity ..
  have hbooks : (ofCapacity label capacity o st : Crowd σ δ).Accounts label capacity :=
    accounts_ofCapacity ..
  refine ⟨?_, ?_⟩
  · intro acts es es' e v hevents hdeed
    obtain ⟨open?, hlives, -⟩ := living_run (b := b) hsound living_ofCapacity acts e.locale
    have hsplit : Event.about e.locale (es ++ e :: es') =
        Event.about e.locale es ++ e :: Event.about e.locale es' := by
      simp [Event.about, List.filter_append]
    rw [hevents] at hlives
    refine hlives.before hsplit ?_
    rw [hdeed]
    rfl
  · intro before during after on c₀ c₁ c₂ hnone hduring hafter a hdone
    have hc₁ : c₁.Switches contacts c₀.callers.length on :=
      ((hsound.run before).switches hnone on).run hb hduring
    have hbooks₁ : c₁.Accounts label capacity :=
      ((hbooks.run hroom before).append .start).run hroom during
    have hstored : c₁.Stored contacts on c₁.Gone := by
      obtain ⟨x, hx, hprogress⟩ := hc₁.place
      cases hx.symm.trans hdone
      cases hprogress with
      | done h => exact h
    -- what does not agree when the call has returned is all that may not agree later
    have hlater : c₂.Stored contacts on fun i => c₁.Gone i ∧ ¬ c₁.Agrees contacts on i := by
      refine Stored.run ⟨hstored.useContacts, ?_⟩ hc₁ hb hafter
      intro i
      by_cases hagrees : c₁.Agrees contacts on i
      · exact .inr hagrees
      · exact .inl ⟨(hstored.agrees i).resolve_right hagrees, hagrees⟩
    refine ⟨?_, ?_, ?_⟩
    · intro i hi d hd
      rcases hlater.agrees i with ⟨hgone, -⟩ | hagrees
      · exact absurd hi (hgone.run hc₁.sound after).2
      · exact hagrees.held d hd
    · intro i d hd
      rcases hlater.agrees i with ⟨hgone, hnot⟩ | hagrees
      · have hgone₂ : c₂.Gone i := hgone.run hc₁.sound after
        have howed := (hbooks₁.run hroom after).shuts_of_gone hgone₂ fun hdead =>
          hdead.not_holds ⟨d, hd⟩
        exact .inr ⟨held_or_chosen_of_not_agrees hnot, hgone.2, hgone₂.2, howed⟩
      · exact .inl (hagrees.held d hd)
    · intro i v w hmem
      rcases hstored.agrees i with hgone | hagrees
      · have hopening := hc₁.sound.isOpening hmem rfl
        exact .inr ⟨hgone.2, hbooks₁.shuts_of_gone hgone fun hdead => by
          rw [hdead.unopened] at hopening
          cases hopening⟩
      · exact .inl (hagrees.chosen _ hmem v rfl)

/-- German is being opened with the contacts when they are switched off, and is told so as soon as
it is open; French is opened without them, and English makes room for it. -/
theorem contacts_are_not_stale_of_early_opening :
    let en := Locale.ofLanguage "en"
    let de := Locale.ofLanguage "de"
    let fr := Locale.ofLanguage "fr"
    let source : WordList.Source :=
      .memory [(en, "1\nhello"), (de, "1\nhallo"), (fr, "1\nsalut")] none
    let b := Backend.rehearsed source.kind
    let before : List Happening := [.arrive (.resolve en), .arrive (.resolve de)] ++
      [0, 0, 0, 0, 0, 1, 1, 1].map .step
    let during : List Happening := [2, 2, 2, 1, 2, 2].map .step
    let after : List Happening := .arrive (.resolve fr) :: List.replicate 8 (.step 3)
    let c₀ := (ofCapacity 0 2 ⟨true, 1⟩ []).run b before
    let c₁ := (c₀.arrive (.setContacts false)).run b during
    let c₂ := c₁.run b after
    0 < 2 ∧ b.Heeds WordList.Dictionary.useContacts ∧
      c₀.callers.map Caller.chose? = [none, some (1, true)] ∧
      (∀ x ∈ c₀.callers, x.switches? = none) ∧ (∃ a, c₁.callers[2]? = some (.done a)) ∧
      Event.unclosedIn 0 c₂.state.world.events = [1, 2] ∧
      c₂.state.cache.residentSlots = [2, 1] ∧
      ∀ i ∈ c₂.state.cache.residentSlots, ∀ d,
        c₂.state.cache.phase i = .ready (.dictionary d) → d.useContacts = false := by
  intro en de fr source b before during after c₀ c₁ c₂
  have hb : b.Heeds WordList.Dictionary.useContacts := source.heeds
  have hduring : ∀ v, .arrive (.setContacts v) ∉ during := by simp [during]
  have hafter : ∀ v, .arrive (.setContacts v) ∉ after := by simp [after]
  have hall := (contacts_are_not_stale hb 0 Nat.zero_lt_two ⟨true, 1⟩ []).2 before during after
    false
  extract_lets d₀ d₁ d₂ at hall
  have hchose : d₀.callers.map Caller.chose? = [none, some (1, true)] := by decide +kernel
  have hnone : ∀ x ∈ d₀.callers, x.switches? = none := by decide +kernel
  have hlength : d₀.callers.length = 2 := by decide +kernel
  have hend : d₁.callers[2]?.bind Caller.answer? = some .nothing := by decide +kernel
  have hopen : Event.unclosedIn 0 d₂.state.world.events = [1, 2] := by decide +kernel
  have hresident : d₂.state.cache.residentSlots = [2, 1] := by decide +kernel
  have hdone : ∃ a, d₁.callers[2]? = some (.done a) := by
    obtain ⟨x, hx, hanswer⟩ := Option.bind_eq_some_iff.mp hend
    obtain ⟨a, rfl⟩ := Caller.eq_done_of_isSome (Option.isSome_of_mem hanswer)
    exact ⟨a, hx⟩
  obtain ⟨a, ha⟩ := hdone
  have hagree := (hall hnone hduring hafter a (hlength ▸ ha)).1
  rw [show c₀ = d₀ from rfl, show c₁ = d₁ from rfl, show c₂ = d₂ from rfl]
  exact ⟨Nat.zero_lt_two, hb, hchose, hnone, ⟨a, ha⟩, hopen, hresident, hagree⟩

/-- The option of the dictionary that a slot has, if it has one. -/
def option? (contacts : δ → Bool) (c : Crowd σ δ) (i : Nat) : Option Bool :=
  match c.state.cache.phase i with
  | .ready (.dictionary d) => some (contacts d)
  | .ready (.unavailable _) | .loading | .closed => none

theorem option?_eq_some_iff {i : Nat} {v : Bool} : c.option? contacts i = some v ↔
    ∃ d, c.state.cache.phase i = .ready (.dictionary d) ∧ contacts d = v := by
  rw [option?]
  split <;> simp_all

/-- **A dictionary may be opened with stale contacts.**  English is being opened with the contacts,
and closing everything takes it from the residents, when they are switched off.  The call returns,
and English is not open yet.  Then it is opened, with the contacts all the same, before it is
closed. -/
theorem drained_dictionary_is_opened_with_stale_contacts :
    let en := Locale.ofLanguage "en"
    let source : WordList.Source := .memory [(en, "1\nhello")] none
    let b := Backend.rehearsed source.kind
    let before : List Happening :=
      [.arrive (.resolve en), .arrive .closeAll] ++ [0, 0, 0, 1, 1].map .step
    let c₀ := (ofCapacity 0 2 ⟨true, 1⟩ []).run b before
    let c₁ := (c₀.arrive (.setContacts false)).run b ([2, 2, 2].map .step)
    let c₂ := c₁.run b [.step 0]
    let c₃ := c₂.run b ([1, 1, 1].map .step)
    b.Heeds WordList.Dictionary.useContacts ∧ (∀ x ∈ c₀.callers, x.switches? = none) ∧
      c₁.callers.map Caller.answer? = [none, none, some .nothing] ∧
      ¬ c₁.state.cache.Holds 0 ∧
      (∃ d, c₂.state.cache.phase 0 = .ready (.dictionary d) ∧ d.useContacts = true) ∧
      c₂.state.world.events = [⟨0, 0, en, .opened ⟨true, 1⟩ true⟩] ∧
      c₂.state.cache.residentSlots = [] ∧
      c₃.state.world.events = [⟨0, 0, en, .opened ⟨true, 1⟩ true⟩, ⟨0, 0, en, .closed⟩] := by
  intro en source b before c₀ c₁ c₂ c₃
  refine ⟨source.heeds, by decide +kernel, by decide +kernel, ?_, ?_, by decide +kernel,
    by decide +kernel, by decide +kernel⟩
  · rintro ⟨d, hd⟩
    have hnone : c₁.option? WordList.Dictionary.useContacts 0 = none := by decide +kernel
    rw [option?_eq_some_iff.mpr ⟨d, hd, rfl⟩] at hnone
    cases hnone
  · have hstale : c₂.option? WordList.Dictionary.useContacts 0 = some true := by decide +kernel
    exact option?_eq_some_iff.mp hstale

end Spelling.Cache.Crowd
