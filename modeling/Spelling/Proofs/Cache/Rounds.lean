import Spelling.Proofs.Cache.Handles

/-!
# How many rounds a question takes

A question about a locale asks for the slot of the locale, round after round until it can be asked:

    the slot is ready        what it holds is asked, once, and the question is answered
    the opening broke off    the question breaks off
    the slot is loading      it is forgotten, and another round follows
    the slot is closed       another round follows

`Rounds` says so without a limit, and a question that is given a limit comes to the same within it
(`Rounds.askWithin_eq`).  When nobody else calls, no resident is closed, and a resident that is
loading has the slot in which its locale was opened last.  Once it is forgotten the locale is not
resident, so the second round opens it and is the last one.
-/

namespace Spelling

/-! ## The last opening of a locale -/

namespace Event

/-- The slot in which a locale was opened last, whatever came of it. -/
def lastOpening? (l : Locale) (events : List Event) : Option Nat :=
  (events.reverse.find? fun e => e.locale == l && e.deed.isOpening).map (·.slot)

variable {l : Locale} {events es : List Event} {e : Event}

theorem lastOpening?_append_of_not (h : ∀ e ∈ es, e.locale = l → e.deed.isOpening = false) :
    lastOpening? l (events ++ es) = lastOpening? l events := by
  have hnone : es.reverse.find? (fun e => e.locale == l && e.deed.isOpening) = none := by
    rw [List.find?_eq_none]
    intro e he
    have hnot := h e (List.mem_reverse.mp he)
    simpa using hnot
  rw [lastOpening?, lastOpening?, List.reverse_append, List.find?_append, hnone, Option.none_or]

theorem lastOpening?_concat (hl : e.locale = l) (he : e.deed.isOpening = true) :
    lastOpening? l (events ++ [e]) = some e.slot := by
  have hfits : (e.locale == l && e.deed.isOpening) = true := by simp [hl, he]
  rw [lastOpening?, List.reverse_append, List.reverse_singleton, List.singleton_append,
    List.find?_cons, hfits]
  rfl

end Event

namespace CacheState

variable {σ δ : Type} {b : Backend σ δ} {s t : CacheState σ δ} {l : Locale} {i n : Nat}

/-! ## Rounds -/

/-- How the rounds of a question end. -/
inductive Finish (σ δ : Type) where
  /-- What a slot holds is asked -/
  | asks (i : Nat) (r : Resource δ) (t : CacheState σ δ)
  /-- An opening broke off -/
  | breaksOff (message : String) (t : CacheState σ δ)

namespace Finish

/-- The cache when the rounds are over. -/
def state : Finish σ δ → CacheState σ δ
  | asks _ _ t | breaksOff _ t => t

/-- What a question comes to.  It is asked once, or not at all. -/
def run (b : Backend σ δ) (a : Ask) : Finish σ δ → Outcome Reply × CacheState σ δ
  | asks i r t => t.askResource b i r a
  | breaksOff message t => (.broken message, t)

end Finish

/-- The cache once the slot of a resident was found. -/
def found (l : Locale) (i : Nat) (s : CacheState σ δ) : CacheState σ δ :=
  s.onCache fun c => { c with
    resident := Cache.put c.resident l i
    stats := { c.stats with hits := c.stats.hits + 1 } }

/-- The cache once a slot without dictionary was forgotten. -/
def forgotten (l : Locale) (i : Nat) (s : CacheState σ δ) : CacheState σ δ :=
  (s.onCache (·.forget i)).reportRetry l

/-- A question about a locale takes some rounds, which end in some way. -/
inductive Rounds (b : Backend σ δ) (l : Locale) : CacheState σ δ → Nat → Finish σ δ → Prop
  | ready {s t : CacheState σ δ} {i : Nat} {r : Resource δ} : s.resolve b l = (.returned i, t) →
      t.cache.phase i = .ready r → Rounds b l s 1 (.asks i r t)
  | broken {s t : CacheState σ δ} {message : String} : s.resolve b l = (.broken message, t) →
      Rounds b l s 1 (.breaksOff message t)
  | loading {s t : CacheState σ δ} {i n : Nat} {e : Finish σ δ} :
      s.resolve b l = (.returned i, t) → t.cache.phase i = .loading →
      Rounds b l (t.forgotten l i) n e → Rounds b l s (n + 1) e
  | closed {s t : CacheState σ δ} {i n : Nat} {e : Finish σ δ} :
      s.resolve b l = (.returned i, t) → t.cache.phase i = .closed →
      Rounds b l (t.reportRetry l) n e → Rounds b l s (n + 1) e

variable {e e' : Finish σ δ} {n' : Nat}

/-- There is only one way in which the rounds go. -/
theorem Rounds.unique (h : Rounds b l s n e) (h' : Rounds b l s n' e') : n' = n ∧ e' = e := by
  induction h generalizing n' e' with
  | ready hresolve hphase =>
      cases h' with
      | ready hresolve' hphase' =>
          cases hresolve.symm.trans hresolve'
          cases hphase.symm.trans hphase'
          exact ⟨rfl, rfl⟩
      | broken hresolve' => cases hresolve.symm.trans hresolve'
      | loading hresolve' hphase' | closed hresolve' hphase' =>
          cases hresolve.symm.trans hresolve'
          cases hphase.symm.trans hphase'
  | broken hresolve =>
      cases h' with
      | broken hresolve' =>
          cases hresolve.symm.trans hresolve'
          exact ⟨rfl, rfl⟩
      | ready hresolve' | loading hresolve' | closed hresolve' =>
          cases hresolve.symm.trans hresolve'
  | loading hresolve hphase _ ih =>
      cases h' with
      | loading hresolve' _ hrest =>
          cases hresolve.symm.trans hresolve'
          obtain ⟨rfl, rfl⟩ := ih hrest
          exact ⟨rfl, rfl⟩
      | broken hresolve' => cases hresolve.symm.trans hresolve'
      | ready hresolve' hphase' | closed hresolve' hphase' =>
          cases hresolve.symm.trans hresolve'
          cases hphase.symm.trans hphase'
  | closed hresolve hphase _ ih =>
      cases h' with
      | closed hresolve' _ hrest =>
          cases hresolve.symm.trans hresolve'
          obtain ⟨rfl, rfl⟩ := ih hrest
          exact ⟨rfl, rfl⟩
      | broken hresolve' => cases hresolve.symm.trans hresolve'
      | ready hresolve' hphase' | loading hresolve' hphase' =>
          cases hresolve.symm.trans hresolve'
          cases hphase.symm.trans hphase'

/-- A question that is given as many rounds as it takes, or more, comes to how they end. -/
theorem Rounds.askWithin_eq (h : Rounds b l s n e) (a : Ask) {limit : Nat} (hle : n ≤ limit) :
    s.askWithin b l a limit = e.run b a := by
  induction h generalizing limit with
  | ready hresolve hphase =>
      obtain ⟨limit, rfl⟩ := Nat.exists_eq_add_of_le' hle
      exact askWithin_of_resolve hresolve hphase a limit
  | broken hresolve =>
      obtain ⟨limit, rfl⟩ := Nat.exists_eq_add_of_le' hle
      rw [askWithin, hresolve]
      rfl
  | loading hresolve hphase _ ih | closed hresolve hphase _ ih =>
      obtain ⟨limit, rfl⟩ := Nat.exists_eq_add_of_le' (Nat.le_trans (Nat.le_add_left 1 _) hle)
      rw [askWithin, hresolve]
      dsimp only
      rw [hphase]
      exact ih (Nat.le_of_add_le_add_right hle)

theorem Rounds.ask_eq (h : Rounds b l s n e) (a : Ask) (hle : n ≤ 2) :
    s.ask b l a = e.run b a :=
  h.askWithin_eq a hle

/-- A question that is given fewer rounds does not come to its end. -/
theorem Rounds.endless (h : Rounds b l s n e) (a : Ask) {limit : Nat} (hlt : limit < n) :
    (s.askWithin b l a limit).1 = .endless := by
  induction h generalizing limit with
  | ready | broken =>
      obtain rfl := Nat.lt_one_iff.mp hlt
      rfl
  | loading hresolve hphase _ ih | closed hresolve hphase _ ih =>
      cases limit with
      | zero => rfl
      | succ limit =>
          rw [askWithin, hresolve]
          dsimp only
          rw [hphase]
          exact ih (Nat.lt_of_succ_lt_succ hlt)

/-! ### Without other callers -/

/-- How the rounds end in which a locale gets a slot and is opened there. -/
def entry (b : Backend σ δ) (l : Locale) (s : CacheState σ δ) : Finish σ δ :=
  match s.opens b l with
  | .opened d => .asks s.cache.slots.length (.dictionary d) (s.enter b l)
  | .failed x => .asks s.cache.slots.length (.unavailable (.ofError l x)) (s.enter b l)
  | .broken message => .breaksOff message (s.enter b l)

theorem state_entry (b : Backend σ δ) (l : Locale) (s : CacheState σ δ) :
    (s.entry b l).state = s.enter b l := by
  rw [entry]
  cases s.opens b l <;> rfl

/-- A locale that is not resident is opened in the first round. -/
theorem rounds_of_none (h : s.cache.Tidy) (hnone : s.cache.resident.lookup l = none) :
    Rounds b l s 1 (s.entry b l) := by
  have hresolve := resolve_miss (b := b) h hnone
  have hphase := phase_enter (b := b) h l
  rw [entry]
  cases hopens : s.opens b l with
  | opened d | failed x =>
      rw [hopens] at hresolve hphase
      exact .ready hresolve hphase
  | broken message =>
      rw [hopens] at hresolve
      exact .broken hresolve

theorem rounds_of_ready {r : Resource δ} (hi : s.cache.resident.lookup l = some i)
    (hr : s.cache.phase i = .ready r) : Rounds b l s 1 (.asks i r (s.found l i)) :=
  .ready (resolve_hit hi) hr

/-- A resident that is loading is forgotten in the first round and opened in the second. -/
theorem rounds_of_loading (h : s.cache.Tidy) (hi : s.cache.resident.lookup l = some i)
    (hloading : s.cache.phase i = .loading) :
    Rounds b l s 2 (((s.found l i).forgotten l i).entry b l) := by
  have hlocale := h.locale l i (Cache.mem_of_lookup hi)
  refine .loading (resolve_hit hi) hloading (rounds_of_none ?_ ?_)
  · exact (h.hit hi _).forget i
  · exact Cache.lookup_forget_put hlocale

/-- The rounds of a question when nobody else calls. -/
theorem rounds_cases (h : s.cache.Tidy) (l : Locale) :
    (∃ i r, s.cache.resident.lookup l = some i ∧ s.cache.phase i = .ready r ∧
      Rounds b l s 1 (.asks i r (s.found l i))) ∨
    (s.cache.resident.lookup l = none ∧ Rounds b l s 1 (s.entry b l)) ∨
    ∃ i, s.cache.resident.lookup l = some i ∧ s.cache.phase i = .loading ∧
      Rounds b l s 2 (((s.found l i).forgotten l i).entry b l) := by
  cases hlookup : s.cache.resident.lookup l with
  | none => exact .inr (.inl ⟨rfl, rounds_of_none h hlookup⟩)
  | some i =>
      cases hphase : s.cache.phase i with
      | ready r => exact .inl ⟨i, r, rfl, hphase, rounds_of_ready hlookup hphase⟩
      | loading => exact .inr (.inr ⟨i, rfl, hphase, rounds_of_loading h hlookup hphase⟩)
      | closed => exact absurd hphase (h.unclosed l i (Cache.mem_of_lookup hlookup))

/-- Opening a locale in a new slot is noted last, after the resident that made room was closed. -/
theorem events_enter (h : s.cache.Tidy) (l : Locale) : ∃ closes o success,
    (s.enter b l).world.events = s.world.events ++ closes ++
      [⟨s.cache.label, s.cache.slots.length, l, .opened o success⟩] ∧
    ∀ e ∈ closes, e.deed = .closed := by
  have hroom := makesRoom (b := b) h l
  have hopened := events_fill b (s.room b l) s.cache.slots.length s.cache.useContacts
  rw [events_room h, hroom.label, hroom.locale_self] at hopened
  refine ⟨_, _, _, hopened, ?_⟩
  intro e he
  obtain ⟨v, -, hv⟩ := List.mem_flatMap.mp he
  exact Cache.closed_of_mem_farewell hv

/-- What the rounds of a question come to when nobody else calls.  The slot of the locale is asked,
and nothing was asked before.  Or the locale was opened in a new slot, and that broke off. -/
inductive Finish.Undisturbed (b : Backend σ δ) (l : Locale) (s : CacheState σ δ) : Finish σ δ → Prop
  | asks {i : Nat} {r : Resource δ} {t : CacheState σ δ} {es : List Event} :
      t.cache.localeOf i = l → t.cache.phase i = .ready r →
      t.world.events = s.world.events ++ es → (∀ e ∈ es, e.deed.uses = false) →
      Undisturbed b l s (.asks i r t)
  | breaksOff {message : String} {t : CacheState σ δ} : s.opens b l = .broken message →
      Event.lastOpening? l t.world.events = some s.cache.slots.length →
      Undisturbed b l s (.breaksOff message t)

theorem Finish.Undisturbed.entry (h : s.cache.Tidy) (l : Locale) :
    (s.entry b l).Undisturbed b l s := by
  have hroom := makesRoom_enter (b := b) h l
  have hphase := phase_enter (b := b) h l
  obtain ⟨closes, o, success, hevents, hcloses⟩ := events_enter (b := b) h l
  rw [List.append_assoc] at hevents
  rw [CacheState.entry]
  cases hopens : s.opens b l with
  | broken message =>
      refine .breaksOff hopens ?_
      rw [hevents, ← List.append_assoc]
      exact Event.lastOpening?_concat rfl rfl
  | opened d | failed x =>
      rw [hopens] at hphase
      refine .asks hroom.locale_self hphase hevents ?_
      intro e he
      rcases List.mem_append.mp he with he | he
      · rw [hcloses e he]
        rfl
      · obtain rfl := List.mem_singleton.mp he
        rfl

theorem Finish.Undisturbed.of_forgotten
    (h : e.Undisturbed b l ((s.found l i).forgotten l i)) : e.Undisturbed b l s := by
  cases h with
  | asks hlocale hphase hevents hunused => exact .asks hlocale hphase hevents hunused
  | breaksOff hopens hlast => exact .breaksOff hopens hlast

/-- When nobody else calls, two rounds are enough, and one is unless the resident is loading. -/
theorem exists_rounds (h : s.cache.Tidy) (l : Locale) : ∃ n e, Rounds b l s n e ∧
    e.Undisturbed b l s ∧ n ≤ 2 ∧
    (n = 2 ↔ ∃ i, s.cache.resident.lookup l = some i ∧ s.cache.phase i = .loading) := by
  rcases rounds_cases (b := b) h l with ⟨i, r, hi, hr, hrounds⟩ | ⟨hnone, hrounds⟩ |
    ⟨i, hi, hphase, hrounds⟩
  · refine ⟨1, _, hrounds, ?_, Nat.le_succ 1, nofun, ?_⟩
    · exact .asks (h.locale l i (Cache.mem_of_lookup hi)) hr (List.append_nil _).symm
        (List.forall_mem_nil _)
    · rintro ⟨j, hj, hphase⟩
      cases hi.symm.trans hj
      cases hr.symm.trans hphase
  · refine ⟨1, _, hrounds, .entry h l, Nat.le_succ 1, nofun, ?_⟩
    rintro ⟨j, hj, -⟩
    cases hnone.symm.trans hj
  · refine ⟨2, _, hrounds, ?_, Nat.le_refl 2, fun _ => ⟨i, hi, hphase⟩, fun _ => rfl⟩
    exact .of_forgotten (.entry ((h.hit hi _).forget i) l)

/-! ## The last opening of a resident -/

/-- Each resident has the slot in which its locale was opened last. -/
def Latest (s : CacheState σ δ) : Prop :=
  ∀ l i, (l, i) ∈ s.cache.resident → Event.lastOpening? l s.world.events = some i

/-- Work that brings no resident and opens nothing. -/
theorem Latest.fewer (h : Latest s) (hmem : ∀ e ∈ t.cache.resident, e ∈ s.cache.resident)
    {es : List Event} (hevents : t.world.events = s.world.events ++ es)
    (hnot : ∀ e ∈ es, e.deed.isOpening = false) : Latest t := by
  intro l i hi
  rw [hevents, Event.lastOpening?_append_of_not fun e he _ => hnot e he]
  exact h l i (hmem _ hi)

theorem Latest.keeps (h : Latest s) (ht : Keeps s t) : Latest t := by
  obtain ⟨es, hevents, huses⟩ := ht.events
  refine h.fewer ?_ hevents fun e he => Deed.not_isOpening_of_uses (huses e he)
  rw [ht.resident]
  exact fun _ he => he

theorem Latest.found (h : Latest s) (hi : s.cache.resident.lookup l = some i) :
    Latest (s.found l i) := by
  refine h.fewer ?_ (List.append_nil _).symm (List.forall_mem_nil _)
  intro e he
  rcases Cache.mem_put.mp he with rfl | ⟨he, -⟩
  · exact Cache.mem_of_lookup hi
  · exact he

theorem Latest.forgotten (h : Latest s) (l : Locale) (i : Nat) : Latest (s.forgotten l i) :=
  h.fewer (fun _ he => (List.mem_filter.mp he).1) (List.append_nil _).symm (List.forall_mem_nil _)

theorem Latest.enter (h : Latest s) (htidy : s.cache.Tidy)
    (hnone : s.cache.resident.lookup l = none) : Latest (s.enter b l) := by
  obtain ⟨closes, o, success, hevents, hcloses⟩ := events_enter (b := b) htidy l
  intro m i hi
  rw [(makesRoom_enter htidy l).resident] at hi
  rw [hevents]
  rcases List.mem_cons.mp hi with heq | hi
  · cases heq
    exact Event.lastOpening?_concat rfl rfl
  · have hstays : (m, i) ∈ s.cache.resident := (Cache.mem_resident_iff _).mpr (.inl hi)
    rw [List.append_assoc, Event.lastOpening?_append_of_not, h m i hstays]
    intro e he hlocale
    rcases List.mem_append.mp he with he | he
    · rw [hcloses e he]
      rfl
    · obtain rfl := List.mem_singleton.mp he
      cases hlocale
      exact absurd hstays (Cache.not_mem_of_lookup hnone i)

/-- Where the rounds of a question end. -/
theorem Latest.rounds (h : Latest s) (htidy : s.cache.Tidy) (hrounds : Rounds b l s n e) :
    Latest e.state := by
  rcases rounds_cases (b := b) htidy l with ⟨i, r, hi, -, hready⟩ | ⟨hnone, hentry⟩ |
    ⟨i, hi, -, hloading⟩
  · obtain ⟨-, rfl⟩ := hready.unique hrounds
    exact h.found hi
  · obtain ⟨-, rfl⟩ := hentry.unique hrounds
    rw [state_entry]
    exact h.enter htidy hnone
  · obtain ⟨-, rfl⟩ := hloading.unique hrounds
    rw [state_entry]
    refine ((h.found hi).forgotten l i).enter ((htidy.hit hi _).forget i) ?_
    exact Cache.lookup_forget_put (htidy.locale l i (Cache.mem_of_lookup hi))

theorem Latest.run (h : Latest e.state) (a : Ask) : Latest (e.run b a).2 := by
  cases e with
  | breaksOff message t => exact h
  | asks i r t =>
      obtain ⟨es, hevents, huses⟩ := events_askResource (b := b) i r a t
      refine h.fewer ?_ hevents fun e he => Deed.not_isOpening_of_uses (huses e he)
      rw [Finish.run, (askResource_snd t i r a).1]
      exact fun _ he => he

/-- One call more. -/
theorem Latest.call (h : Latest s) (htidy : s.cache.Tidy) (call : Cache.Call) :
    Latest (call.run b s).2 := by
  cases call with
  | resolve l =>
      show Latest (s.resolve b l).2
      cases hlookup : s.cache.resident.lookup l with
      | some i =>
          rw [resolve_hit hlookup]
          exact h.found hlookup
      | none =>
          rw [resolve_miss htidy hlookup]
          exact h.enter htidy hlookup
  | ask l a =>
      show Latest (s.ask b l a).2
      obtain ⟨n, e, hrounds, -, hle, -⟩ := exists_rounds (b := b) htidy l
      rw [hrounds.ask_eq a hle]
      exact (h.rounds htidy hrounds).run a
  | askSlot i a => exact h.keeps (keeps_askSlot i a)
  | isClosed i => exact h
  | closeAll =>
      intro l i hi
      rw [show (Cache.Call.run b s .closeAll).2.cache.resident = [] from resident_closeAll s] at hi
      cases hi
  | setContacts on => exact h.keeps (keeps_setContacts on)
  | contains l => exact h

theorem latest_afterAll {start : CacheState σ δ} (h : Latest start) (htells : Tells [] start)
    (calls : List Cache.Call) : Latest (start.afterAll b calls) := by
  induction calls using List.reverseRecOn with
  | nil => exact h
  | append_singleton calls call ih =>
      rw [afterAll_concat]
      exact ih.call (tells_afterAll htells calls).tidy call

/-! ## The end of a question -/

/-- **A question takes two rounds at most.**  Whatever calls a new cache gets, one after another,
whichever openings fail or break off: no resident is closed, and a slot that is loading is one whose
opening broke off.  So the rounds of a question about any locale end, in one way only.  Either they
come to the slot of the locale, which is asked then and only then, or they break off with an
opening.  One round is enough unless the locale is resident with a slot that is loading.  That slot
is the one in which it was opened last, its opening broke off, and a second round is enough.  A
question that is given these rounds, or more, comes to how they end; with fewer it does not end. -/
theorem questions_end_within_two_rounds (b : Backend σ δ) (label capacity : Nat) (o : Options)
    (st : σ) (calls : List Cache.Call) :
    let start : CacheState σ δ := ⟨.ofCapacity label capacity o, { backend := st }⟩
    let s := start.afterAll b calls
    (∀ l i, (l, i) ∈ s.cache.resident → s.cache.phase i ≠ .closed) ∧
      (∀ i, s.cache.phase i = .loading → i ∈ start.brokenOff b calls) ∧
      ∀ l, ∃ n e, Rounds b l s n e ∧ (∀ n' e', Rounds b l s n' e' → n' = n ∧ e' = e) ∧
        e.Undisturbed b l s ∧ n ≤ 2 ∧
        (n = 2 ↔ ∃ i, s.cache.resident.lookup l = some i ∧ s.cache.phase i = .loading) ∧
        (n = 2 → ∃ i ∈ start.brokenOff b calls,
          Event.lastOpening? l s.world.events = some i) ∧
        ∀ a, s.ask b l a = e.run b a ∧
          (∀ limit, n ≤ limit → s.askWithin b l a limit = e.run b a) ∧
          ∀ limit, limit < n → (s.askWithin b l a limit).1 = .endless := by
  intro start s
  have hstart : Tells [] start :=
    ⟨Cache.tidy_ofCapacity label capacity o, nofun, fun _ hi => absurd hi List.not_mem_nil⟩
  have htells : Tells (start.brokenOff b calls) s := tells_afterAll hstart calls
  have hlatest : Latest s := latest_afterAll (fun _ _ hi => absurd hi List.not_mem_nil) hstart calls
  have hloading : ∀ i, s.cache.phase i = .loading → i ∈ start.brokenOff b calls := fun i hi =>
    htells.loading i (Phase.kind_eq_loading.mpr hi)
  refine ⟨htells.tidy.unclosed, hloading, fun l => ?_⟩
  obtain ⟨n, e, hrounds, hends, hle, htwo⟩ := exists_rounds (b := b) htells.tidy l
  refine ⟨n, e, hrounds, fun _ _ => hrounds.unique, hends, hle, htwo, fun hn => ?_, fun a => ?_⟩
  · obtain ⟨i, hi, hphase⟩ := htwo.mp hn
    exact ⟨i, hloading i hphase, hlatest l i (Cache.mem_of_lookup hi)⟩
  · exact ⟨hrounds.ask_eq a hle, fun _ => hrounds.askWithin_eq a, fun _ => hrounds.endless a⟩

/-- After an opening that broke off, one round is not enough. -/
example :
    let en := Locale.ofLanguage "en"
    let b := Backend.rehearsed (WordList.Source.memory [(en, "1\nhello")] none).kind
    let start : CacheState Backend.Breaks WordList.Dictionary :=
      ⟨.ofCapacity 0 3 {}, { backend := [(en, 1)] }⟩
    let s := start.afterAll b [.resolve en]
    (s.askWithin b en .hasMain 1).1 = .endless ∧
      (s.ask b en .hasMain).1 = .returned (.flag true) := by
  decide +kernel

end CacheState

end Spelling
