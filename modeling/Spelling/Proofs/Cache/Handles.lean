import Spelling.Proofs.Cache.LeastRecent

/-!
# Slots that are handed out

One caller at a time, while openings may fail or break off.  A slot is filled once, right after it
came to be, and from then on it stays what it is until it is closed (`Stays`, `Enters`).  So when a
slot is handed out, its opening alone decides what it is good for:

    the opening came to an end    the slot is ready, and what is asked of it at once is answered
                                  like the same question to the locale
    the opening broke off         the slot is loading and answers like a closed one, while a
                                  question to the locale forgets the slot and opens another

Slots whose openings broke off are handed out again until such a question, an eviction or a draining
takes them out of the residents.
-/

namespace Spelling

/-! ## What a slot is -/

/-- What a slot is, whatever it holds. -/
inductive Kind where
  | loading
  | ready
  | closed
  deriving DecidableEq, Repr

namespace Phase

variable {δ : Type}

/-- What a slot is that holds something. -/
def kind : Phase δ → Kind
  | loading => .loading
  | ready _ => .ready
  | closed => .closed

variable {p : Phase δ}

theorem kind_eq_loading : p.kind = .loading ↔ p = .loading := by
  cases p <;> simp [kind]

theorem kind_eq_ready : p.kind = .ready ↔ ∃ r, p = .ready r := by
  cases p <;> simp [kind]

theorem kind_eq_closed : p.kind = .closed ↔ p = .closed := by
  cases p <;> simp [kind]

end Phase

variable {σ δ : Type} {b : Backend σ δ}

/-- A slot is loading after an opening that broke off, and ready after any other. -/
theorem Loaded.kind_phase (d : Loaded δ) (l : Locale) :
    (d.phase l).kind = if d.message?.isSome then .loading else .ready := by
  cases d <;> rfl

namespace CacheState

variable {s t u : CacheState σ δ} {l : Locale} {i : Nat}

theorem kind_switched (on : Bool) (p : Phase δ) : (switched b on p).kind = p.kind := by
  cases p with
  | loading | closed => rfl
  | ready r => cases r <;> rfl

theorem kind_setContacts (on : Bool) (i : Nat) :
    ((s.setContacts b on).cache.phase i).kind = (s.cache.phase i).kind := by
  have hfoldl : ∀ (slots : List Nat) (t : CacheState σ δ),
      ((slots.foldl (fun s i => s.switchContacts b on i) t).cache.phase i).kind =
        (t.cache.phase i).kind := by
    intro slots
    induction slots with
    | nil => exact fun _ => rfl
    | cons j slots ih =>
        intro t
        refine (ih (t.switchContacts b on j)).trans ?_
        rw [phase_switchContacts]
        split
        · exact kind_switched on _
        · rfl
  exact hfoldl _ _

/-! ## What a call does to the slots -/

/-- Work that brings no slot.  The slots that are not closed stay what they are. -/
structure Stays (s t : CacheState σ δ) : Prop where
  tidy : t.cache.Tidy
  length : t.cache.slots.length = s.cache.slots.length
  kind : ∀ i, (t.cache.phase i).kind = .closed ∨
    (t.cache.phase i).kind = (s.cache.phase i).kind

/-- Work that brings a slot, in which the dictionary of a locale is opened.  The others that are not
closed stay what they are. -/
structure Enters (b : Backend σ δ) (l : Locale) (s t : CacheState σ δ) : Prop where
  tidy : t.cache.Tidy
  length : t.cache.slots.length = s.cache.slots.length + 1
  kind : ∀ i, i ≠ s.cache.slots.length → (t.cache.phase i).kind = .closed ∨
    (t.cache.phase i).kind = (s.cache.phase i).kind
  phase : t.cache.phase s.cache.slots.length = (s.opens b l).phase l

theorem Stays.of_cache (h : Stays s t) (hu : u.cache = t.cache) : Stays s u :=
  ⟨hu ▸ h.tidy, hu ▸ h.length, hu ▸ h.kind⟩

theorem Enters.of_cache (h : Enters b l s t) (hu : u.cache = t.cache) : Enters b l s u :=
  ⟨hu ▸ h.tidy, hu ▸ h.length, hu ▸ h.kind, hu ▸ h.phase⟩

theorem stays_refl (h : s.cache.Tidy) : Stays s s :=
  ⟨h, rfl, fun _ => .inr rfl⟩

theorem stays_hit (h : s.cache.Tidy) (hi : s.cache.resident.lookup l = some i) :
    Stays s (s.resolve b l).2 := by
  rw [resolve_hit hi]
  exact ⟨h.hit hi _, rfl, fun _ => .inr rfl⟩

theorem enters_enter (h : s.cache.Tidy) (hnone : s.cache.resident.lookup l = none) :
    Enters b l s (s.enter b l) := by
  have hroom := makesRoom_enter (b := b) h l
  refine ⟨tidy_enter h hnone, hroom.length, ?_, phase_enter h l⟩
  intro i hi
  rw [hroom.phase i hi]
  split
  · exact .inl rfl
  · exact .inr rfl

theorem stays_closeAll (h : s.cache.Tidy) : Stays s (s.closeAll b) := by
  have hdrains := drains_closeAll (b := b) h
  refine ⟨tidy_closeAll h, hdrains.length, ?_⟩
  intro i
  rw [hdrains.phase i]
  split
  · exact .inl rfl
  · exact .inr rfl

theorem stays_setContacts (h : s.cache.Tidy) (on : Bool) : Stays s (s.setContacts b on) := by
  have hkeeps := keeps_setContacts (b := b) (s := s) on
  refine ⟨h.fewer ?_ ?_ hkeeps.locale ?_ (hkeeps.closing.trans h.closing), hkeeps.length,
    fun i => .inr (kind_setContacts on i)⟩
  · rw [hkeeps.resident]
    exact h.nodup
  · rw [hkeeps.resident]
    exact fun _ he => he
  · intro l i _ hclosed
    rw [← Phase.kind_eq_closed] at hclosed ⊢
    rwa [kind_setContacts] at hclosed

theorem stays_askSlot (h : s.cache.Tidy) (i : Nat) (a : Ask) : Stays s (s.askSlot b i a).2 := by
  rw [askSlot]
  split
  · exact (stays_refl h).of_cache (askResource_snd (b := b) s i _ a).1
  · exact stays_refl h
  · exact stays_refl h

/-! ### Asking for a locale -/

/-- A locale that is not resident is opened, and its dictionary answers. -/
theorem askWithin_of_none (h : s.cache.Tidy) (hnone : s.cache.resident.lookup l = none) (a : Ask)
    (rounds : Nat) : (s.askWithin b l a (rounds + 1)).1 = (s.opens b l).reply b a ∧
      Enters b l s (s.askWithin b l a (rounds + 1)).2 := by
  have henters := enters_enter (b := b) h hnone
  have hresolve := resolve_miss (b := b) h hnone
  have hphase := phase_enter (b := b) h l
  cases hopens : s.opens b l with
  | broken message =>
      rw [hopens] at hresolve
      rw [askWithin, hresolve]
      exact ⟨rfl, henters⟩
  | opened d | failed e =>
      rw [hopens] at hresolve hphase
      rw [askWithin_of_resolve hresolve hphase]
      exact ⟨askResource_fst .., henters.of_cache (askResource_snd ..).1⟩

/-- A slot whose opening broke off is forgotten, and the locale is opened again. -/
theorem ask_of_loading (h : s.cache.Tidy) (hi : s.cache.resident.lookup l = some i)
    (hloading : s.cache.phase i = .loading) (a : Ask) :
    (s.ask b l a).1 = (s.opens b l).reply b a ∧ Enters b l s (s.ask b l a).2 := by
  have hlocale := h.locale l i (Cache.mem_of_lookup hi)
  let t := s.onCache fun c => { c with
    resident := Cache.put c.resident l i
    stats := { c.stats with hits := c.stats.hits + 1 } }
  let u := (t.onCache (·.forget i)).reportRetry l
  have hu : u.cache.Tidy := (h.hit hi _).forget i
  obtain ⟨hanswer, henters⟩ :=
    askWithin_of_none (b := b) hu (Cache.lookup_forget_put hlocale) a 0
  have hphase : t.cache.phase i = .loading := hloading
  have hask : s.ask b l a = u.askWithin b l a 1 := by
    rw [ask, roundLimit, askWithin, resolve_hit hi]
    dsimp only
    rw [hphase]
  rw [hask]
  exact ⟨hanswer, henters.tidy, henters.length, henters.kind, henters.phase⟩

theorem ask_of_ready {r : Resource δ} (h : s.cache.Tidy)
    (hi : s.cache.resident.lookup l = some i) (hr : s.cache.phase i = .ready r) (a : Ask) :
    (s.ask b l a).1 = r.reply b a ∧ Stays s (s.ask b l a).2 := by
  have hstays := stays_hit (b := b) h hi
  rw [resolve_hit hi] at hstays
  rw [ask_of_resolve a (resolve_hit hi) hr]
  exact ⟨askResource_fst .., hstays.of_cache (askResource_snd ..).1⟩

/-- What a call does to the slots: it brings none, or the one of the locale that it asks for. -/
theorem stays_or_enters (h : s.cache.Tidy) (call : Cache.Call) :
    Stays s (call.run b s).2 ∨ ∃ l, call.asked? = some l ∧ Enters b l s (call.run b s).2 := by
  cases call with
  | resolve l =>
      cases hlookup : s.cache.resident.lookup l with
      | some i => exact .inl (stays_hit h hlookup)
      | none =>
          have henters := enters_enter (b := b) h hlookup
          refine .inr ⟨l, rfl, ?_⟩
          show Enters b l s (s.resolve b l).2
          rwa [resolve_miss h hlookup]
  | ask l a =>
      cases hlookup : s.cache.resident.lookup l with
      | none => exact .inr ⟨l, rfl, (askWithin_of_none h hlookup a 1).2⟩
      | some i =>
          cases hphase : s.cache.phase i with
          | loading => exact .inr ⟨l, rfl, (ask_of_loading h hlookup hphase a).2⟩
          | ready r => exact .inl (ask_of_ready h hlookup hphase a).2
          | closed => exact absurd hphase (h.unclosed l i (Cache.mem_of_lookup hlookup))
  | askSlot i a => exact .inl (stays_askSlot h i a)
  | isClosed i => exact .inl (stays_refl h)
  | closeAll => exact .inl (stays_closeAll h)
  | setContacts on => exact .inl (stays_setContacts h on)
  | contains l => exact .inl (stays_refl h)

/-! ## Along some calls -/

/-- Whether a call brings a slot whose opening breaks off. -/
def breaksOff (b : Backend σ δ) (s : CacheState σ δ) (call : Cache.Call) : Bool :=
  s.cache.slots.length < (call.run b s).2.cache.slots.length &&
    call.asked?.any fun l => (s.opens b l).message?.isSome

/-- The slots of some calls whose openings broke off. -/
def brokenOff (b : Backend σ δ) : CacheState σ δ → List Cache.Call → List Nat
  | _, [] => []
  | s, call :: calls =>
    (if s.breaksOff b call then [s.cache.slots.length] else []) ++
      brokenOff b (call.run b s).2 calls

theorem brokenOff_concat (s : CacheState σ δ) (calls : List Cache.Call) (call : Cache.Call) :
    s.brokenOff b (calls ++ [call]) = s.brokenOff b calls ++
      if (s.afterAll b calls).breaksOff b call then [(s.afterAll b calls).cache.slots.length]
      else [] := by
  induction calls generalizing s with
  | nil => exact List.append_nil _
  | cons first calls ih =>
      rw [List.cons_append, brokenOff, brokenOff, ih, List.append_assoc]
      rfl

/-- What holds of a cache after some calls: the slots that are loading are those, and only those, of
the listed ones that are not closed. -/
structure Tells (broken : List Nat) (s : CacheState σ δ) : Prop where
  tidy : s.cache.Tidy
  loading : ∀ i, (s.cache.phase i).kind = .loading → i ∈ broken
  broken : ∀ i ∈ broken, i < s.cache.slots.length ∧ (s.cache.phase i).kind ≠ .ready

theorem Tells.stays {broken : List Nat} (h : Tells broken s) (ht : Stays s t) : Tells broken t := by
  refine ⟨ht.tidy, ?_, ?_⟩
  · intro i hi
    rcases ht.kind i with hclosed | hsame
    · cases hclosed.symm.trans hi
    · exact h.loading i (hsame ▸ hi)
  · intro i hi
    obtain ⟨hlt, hunready⟩ := h.broken i hi
    refine ⟨ht.length ▸ hlt, ?_⟩
    rcases ht.kind i with hclosed | hsame
    · exact hclosed ▸ nofun
    · exact hsame ▸ hunready

theorem Tells.enters {broken : List Nat} (h : Tells broken s) (ht : Enters b l s t) :
    Tells (broken ++ if (s.opens b l).message?.isSome then [s.cache.slots.length] else []) t := by
  have hnew := (s.opens b l).kind_phase l
  rw [← ht.phase] at hnew
  refine ⟨ht.tidy, ?_, ?_⟩
  · intro i hi
    rw [List.mem_append]
    by_cases heq : i = s.cache.slots.length
    · subst heq
      rw [hi] at hnew
      split at hnew
      · next hsome => exact .inr (by rw [if_pos hsome]; exact List.mem_singleton_self _)
      · cases hnew
    · rcases ht.kind i heq with hclosed | hsame
      · cases hclosed.symm.trans hi
      · exact .inl (h.loading i (hsame ▸ hi))
  · intro i hi
    rw [ht.length]
    rcases List.mem_append.mp hi with hold | hself
    · obtain ⟨hlt, hunready⟩ := h.broken i hold
      refine ⟨Nat.lt_succ_of_lt hlt, ?_⟩
      rcases ht.kind i (Nat.ne_of_lt hlt) with hclosed | hsame
      · exact hclosed ▸ nofun
      · exact hsame ▸ hunready
    · split at hself
      · next hsome =>
        obtain rfl := List.mem_singleton.mp hself
        rw [hnew, if_pos hsome]
        exact ⟨Nat.lt_succ_self _, nofun⟩
      · cases hself

/-- One call more. -/
theorem Tells.call {broken : List Nat} (h : Tells broken s) (call : Cache.Call) :
    Tells (broken ++ if s.breaksOff b call then [s.cache.slots.length] else [])
      (call.run b s).2 := by
  rcases stays_or_enters (b := b) h.tidy call with hstays | ⟨l, hasked, henters⟩
  · have hnot : s.breaksOff b call = false := by
      rw [breaksOff, hstays.length, decide_eq_false (Nat.lt_irrefl _), Bool.false_and]
    rw [hnot, if_neg Bool.false_ne_true, List.append_nil]
    exact h.stays hstays
  · have hbreaks : s.breaksOff b call = (s.opens b l).message?.isSome := by
      rw [breaksOff, henters.length, decide_eq_true (Nat.lt_succ_self _), Bool.true_and, hasked,
        Option.any_some]
    rw [hbreaks]
    exact h.enters henters

theorem tells_afterAll {start : CacheState σ δ} (h : Tells [] start) (calls : List Cache.Call) :
    Tells (start.brokenOff b calls) (start.afterAll b calls) := by
  induction calls using List.reverseRecOn with
  | nil => exact h
  | append_singleton calls call ih =>
      rw [brokenOff_concat, afterAll_concat]
      exact ih.call call

/-! ## Handing out -/

/-- The slot that is handed out is the resident one of its locale.  It was so before, or its opening
came to an end. -/
theorem lookup_of_resolve (h : s.cache.Tidy) (hs : s.resolve b l = (.returned i, t)) :
    t.cache.resident.lookup l = some i ∧
      (Stays s t ∨ Enters b l s t ∧ (s.opens b l).message? = none) := by
  cases hlookup : s.cache.resident.lookup l with
  | some j =>
      have hstays := stays_hit (b := b) h hlookup
      rw [hs] at hstays
      rw [resolve_hit hlookup] at hs
      cases hs
      exact ⟨List.lookup_cons_self, .inl hstays⟩
  | none =>
      have henters := enters_enter (b := b) h hlookup
      rw [resolve_miss h hlookup] at hs
      cases hmessage : (s.opens b l).message? with
      | some message =>
          rw [hmessage] at hs
          cases hs
      | none =>
          rw [hmessage] at hs
          cases hs
          rw [(makesRoom_enter h l).resident]
          exact ⟨List.lookup_cons_self, .inr ⟨henters, rfl⟩⟩

/-- Handing a slot out brings none whose opening broke off. -/
theorem Tells.resolve {broken : List Nat} (h : Tells broken s)
    (hs : s.resolve b l = (.returned i, t)) : Tells broken t := by
  rcases (lookup_of_resolve h.tidy hs).2 with hstays | ⟨henters, hnone⟩
  · exact h.stays hstays
  · have htells := h.enters henters
    rwa [hnone, Option.isSome_none, if_neg Bool.false_ne_true, List.append_nil] at htells

/-- **A slot that is handed out is of use unless its opening broke off.**  Whatever calls a new
cache gets, one after another, whichever openings fail or break off: a slot that is handed out has
its locale and is not closed.  If its opening came to an end, it is ready, and any question to it is
answered at once like the question to its locale.  Otherwise it is loading and answers like a closed
slot, while the question to its locale is answered by opening the dictionary again. -/
theorem slot_is_ready_unless_broken_off (b : Backend σ δ) (label capacity : Nat) (o : Options)
    (st : σ) (calls : List Cache.Call) {l : Locale} {i : Nat} {t : CacheState σ δ}
    (h : ((⟨.ofCapacity label capacity o, { backend := st }⟩ : CacheState σ δ).afterAll b
      calls).resolve b l = (.returned i, t)) :
    let start : CacheState σ δ := ⟨.ofCapacity label capacity o, { backend := st }⟩
    t.cache.localeOf i = l ∧ t.isClosed i = false ∧
      (i ∉ start.brokenOff b calls → ∃ r, t.cache.phase i = .ready r ∧
        ∀ a, (t.askSlot b i a).1 = r.reply b a ∧ (t.ask b l a).1 = r.reply b a) ∧
      (i ∈ start.brokenOff b calls → t.cache.phase i = .loading ∧
        ∀ a, t.askSlot b i a = (.returned (a.ofClosed l), t) ∧
          (t.ask b l a).1 = (t.opens b l).reply b a) := by
  intro start
  have hstart : Tells [] start :=
    ⟨Cache.tidy_ofCapacity label capacity o, nofun, fun _ hi => absurd hi List.not_mem_nil⟩
  have hbefore := tells_afterAll (b := b) hstart calls
  have htells := hbefore.resolve h
  have hlookup := (lookup_of_resolve hbefore.tidy h).1
  have hmem := Cache.mem_of_lookup hlookup
  have hlocale := htells.tidy.locale l i hmem
  have hunclosed := htells.tidy.unclosed l i hmem
  refine ⟨hlocale, ?_, fun hi => ?_, fun hi => ?_⟩
  · rwa [← Bool.not_eq_true, isClosed_iff]
  · cases hphase : t.cache.phase i with
    | closed => exact absurd hphase hunclosed
    | loading => exact absurd (htells.loading i (Phase.kind_eq_loading.mpr hphase)) hi
    | ready r =>
        refine ⟨r, rfl, fun a => ⟨?_, (ask_of_ready htells.tidy hlookup hphase a).1⟩⟩
        rw [askSlot, hphase]
        exact askResource_fst ..
  · cases hphase : t.cache.phase i with
    | closed => exact absurd hphase hunclosed
    | ready r => exact absurd (Phase.kind_eq_ready.mpr ⟨r, hphase⟩) (htells.broken i hi).2
    | loading =>
        refine ⟨rfl, fun a => ⟨?_, (ask_of_loading htells.tidy hlookup hphase a).1⟩⟩
        rw [askSlot, hphase]
        dsimp only
        rw [hlocale]

/-- The first opening of English breaks off and leaves its slot behind.  A question forgets that
slot, so the slot that is handed out after it is ready. -/
theorem slot_is_ready_unless_broken_off_of_second :
    let en := Locale.ofLanguage "en"
    let source : WordList.Source := .memory [(en, "1\nhello")] none
    let b := Backend.rehearsed source.kind
    let start : CacheState Backend.Breaks WordList.Dictionary :=
      ⟨.ofCapacity 0 3 {}, { backend := [(en, 1)] }⟩
    let calls : List Cache.Call := [.resolve en, .ask en .hasMain]
    let s := start.afterAll b calls
    start.brokenOff b calls = [0] ∧ (s.resolve b en).1 = .returned 1 ∧
      ∀ a, ((s.resolve b en).2.askSlot b 1 a).1 = ((s.resolve b en).2.ask b en a).1 := by
  intro en source b start calls s
  have hbroken : start.brokenOff b calls = [0] := by decide +kernel
  have hslot : (s.resolve b en).1 = .returned 1 := by decide +kernel
  have hs : s.resolve b en = (.returned 1, (s.resolve b en).2) := by rw [← hslot]
  have hall := slot_is_ready_unless_broken_off b 0 3 {} [(en, 1)] calls hs
  clear_value s
  obtain ⟨-, -, hready, -⟩ := hall
  obtain ⟨r, -, hreply⟩ := hready (by rw [hbroken]; decide)
  exact ⟨hbroken, hslot, fun a => (hreply a).1.trans (hreply a).2.symm⟩

/-- The only opening of English that breaks off leaves its slot behind, which is handed out next.  A
word that the locale has is not found in it. -/
theorem slot_is_of_no_use :
    let en := Locale.ofLanguage "en"
    let source : WordList.Source := .memory [(en, "1\nhello")] none
    let b := Backend.rehearsed source.kind
    let start : CacheState Backend.Breaks WordList.Dictionary :=
      ⟨.ofCapacity 0 3 {}, { backend := [(en, 1)] }⟩
    let s := start.afterAll b [.resolve en]
    let t := (s.resolve b en).2
    (s.resolve b en).1 = .returned 0 ∧ t.isClosed 0 = false ∧
      (t.askSlot b 0 (.contains ["hello"])).1 = .returned (.flag false) ∧
      (t.ask b en (.contains ["hello"])).1 = .returned (.flag true) := by
  decide +kernel

end CacheState

end Spelling
