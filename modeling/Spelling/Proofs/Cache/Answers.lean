import Spelling.Proofs.Cache.Slots

/-!
# Dictionaries that answer alike

What a dictionary answers depends on its locale and its options only, and a dictionary whose
contacts were turned on or off answers like one that was opened so.  `Steady` says so of a backend
whose openings may break off at any time.

Which openings broke off is told by `Backend.watched`, the same backend with a list of their
messages beside its state.
-/

namespace Spelling

variable {σ δ : Type} {b : Backend σ δ}

/-! ## Answers -/

theorem Outcome.ofFlag_injective {found found' : Except String Bool}
    (h : Outcome.ofFlag found = .ofFlag found') : found = found' := by
  cases found <;> cases found' <;> cases h <;> rfl

namespace Backend

/-- Whether one of some words is in a dictionary.  They are tried in order until one is found or
looking it up breaks off. -/
def containsAny (b : Backend σ δ) (d : δ) : List String → Except String Bool
  | [] => .ok false
  | word :: rest =>
    match b.contains d word with
    | .ok false => b.containsAny d rest
    | found => found

/-- Where no look-up breaks off, a word is found if it is there. -/
theorem containsAny_of_ok {d : δ} {p : String → Bool} {words : List String}
    (h : ∀ word ∈ words, b.contains d word = .ok (p word)) :
    b.containsAny d words = .ok (words.any p) := by
  induction words with
  | nil => rfl
  | cons word rest ih =>
      obtain ⟨hword, hrest⟩ := List.forall_mem_cons.mp h
      rw [containsAny, hword, List.any_cons]
      cases p word with
      | true => rfl
      | false => exact ih hrest

/-- A word that is found, or breaks the look-up off, ends it. -/
theorem containsAny_of_stops {d : δ} {word : String} (rest : List String)
    (h : b.contains d word ≠ .ok false) : b.containsAny d (word :: rest) = b.contains d word := by
  rw [containsAny]
  rcases hfound : b.contains d word with message | (_ | _)
  · rfl
  · exact absurd hfound h
  · rfl

theorem containsAny_singleton (b : Backend σ δ) (d : δ) (word : String) :
    b.containsAny d [word] = b.contains d word := by
  rw [containsAny]
  rcases b.contains d word with message | (_ | _) <;> rfl

/-- What a dictionary answers. -/
def reply (b : Backend σ δ) (d : δ) : Ask → Outcome Reply
  | .contains words => .ofFlag (b.containsAny d words)
  | .suggest q session => (b.suggest d q session).outcome
  | .hasMain => .ofFlag (b.hasMain d)

end Backend

/-- What a dictionary or its stand-in answers. -/
def Resource.reply (b : Backend σ δ) : Resource δ → Ask → Outcome Reply
  | dictionary d, a => b.reply d a
  | unavailable _, a => .returned a.ofUnavailable

/-- What is answered by opening a dictionary and asking it. -/
def Loaded.reply (b : Backend σ δ) : Loaded δ → Ask → Outcome Reply
  | opened d, a => b.reply d a
  | failed _, a => .returned a.ofUnavailable
  | broken message, _ => .broken message

namespace CacheState

variable (s : CacheState σ δ)

theorem lookUp_fst (i : Nat) (d : δ) (words : List String) :
    (s.lookUp b i d words).1 = b.containsAny d words := by
  induction words generalizing s with
  | nil => rfl
  | cons word rest ih =>
      rw [lookUp, Backend.containsAny]
      rcases b.contains d word with message | (_ | _)
      · rfl
      · exact ih _
      · rfl

/-- Looking words up is only noted. -/
theorem lookUp_snd (i : Nat) (d : δ) (words : List String) :
    (s.lookUp b i d words).2.cache = s.cache ∧
      (s.lookUp b i d words).2.world.backend = s.world.backend := by
  induction words generalizing s with
  | nil => exact ⟨rfl, rfl⟩
  | cons word rest ih =>
      rw [lookUp]
      rcases b.contains d word with message | (_ | _)
      · exact ⟨rfl, rfl⟩
      · exact ih (s.note i (.lookedUp word))
      · exact ⟨rfl, rfl⟩

/-- A slot answers what it holds. -/
theorem askResource_fst (i : Nat) (r : Resource δ) (a : Ask) :
    (s.askResource b i r a).1 = r.reply b a := by
  cases r with
  | dictionary d =>
      cases a with
      | contains words =>
          show Outcome.ofFlag (s.lookUp b i d words).1 = _
          rw [lookUp_fst]
          rfl
      | suggest q session => rfl
      | hasMain => rfl
  | unavailable u => rfl

/-- Asking is only noted. -/
theorem askResource_snd (i : Nat) (r : Resource δ) (a : Ask) :
    (s.askResource b i r a).2.cache = s.cache ∧
      (s.askResource b i r a).2.world.backend = s.world.backend := by
  cases r with
  | dictionary d =>
      cases a with
      | contains words => exact s.lookUp_snd i d words
      | suggest q session => exact ⟨rfl, rfl⟩
      | hasMain => exact ⟨rfl, rfl⟩
  | unavailable u => exact ⟨rfl, rfl⟩

/-- A slot that is handed out ready is asked at once. -/
theorem askWithin_of_resolve {s t : CacheState σ δ} {l : Locale} {i : Nat} {r : Resource δ}
    (h : s.resolve b l = (.returned i, t)) (hr : t.cache.phase i = .ready r) (a : Ask)
    (rounds : Nat) : s.askWithin b l a (rounds + 1) = t.askResource b i r a := by
  rw [askWithin, h]
  dsimp only
  rw [hr]

end CacheState

/-! ## What the answers depend on -/

/-- What a slot holds for a locale, after an opening and any number of times that the contacts were
turned on or off, last to the given value. -/
inductive Kept (b : Backend σ δ) (fresh : Locale → Options → Loaded δ) (l : Locale) (n : Nat) :
    Bool → Resource δ → Prop
  | opened {on : Bool} {d : δ} : fresh l ⟨on, n⟩ = .opened d → Kept b fresh l n on (.dictionary d)
  | failed {on : Bool} {e : OpenError} : fresh l ⟨on, n⟩ = .failed e →
      Kept b fresh l n on (.unavailable (.ofError l e))
  | switched {was on : Bool} {d : δ} : Kept b fresh l n was (.dictionary d) →
      Kept b fresh l n on (.dictionary (b.setContacts d on))
  | unswitched {was on : Bool} {u : Unavailable} : Kept b fresh l n was (.unavailable u) →
      Kept b fresh l n on (.unavailable u)

/-- Opening gives the same dictionary for a locale and options each time, unless it breaks off; and
a dictionary whose contacts were turned on or off answers like one that was opened so. -/
structure Backend.Steady (b : Backend σ δ) (fresh : Locale → Options → Loaded δ) : Prop where
  load : ∀ st l o, (b.load st l o).2.value = fresh l o ∨
    ∃ message, (b.load st l o).2.value = .broken message
  kept : ∀ l n on r, Kept b fresh l n on r → ∀ a, r.reply b a = (fresh l ⟨on, n⟩).reply b a

/-- As for `Steady`, where the state of the backend tells which openings broke off unforeseen. -/
structure Backend.Counted (b : Backend σ δ) (fresh : Locale → Options → Loaded δ)
    (broke : σ → List String) : Prop where
  load : ∀ st l o,
    (b.load st l o).2.value = fresh l o ∧ broke (b.load st l o).1 = broke st ∨
    ∃ message, (b.load st l o).2.value = .broken message ∧
      broke (b.load st l o).1 = message :: broke st
  kept : ∀ l n on r, Kept b fresh l n on r → ∀ a, r.reply b a = (fresh l ⟨on, n⟩).reply b a

namespace Backend

/-- A backend whose state has the messages of the openings that broke off, the last one first. -/
def watched (b : Backend σ δ) : Backend (σ × List String) δ where
  load st l o :=
    let (backend, loaded) := b.load st.1 l o
    ((backend, loaded.value.message?.toList ++ st.2), loaded)
  contains := b.contains
  suggest := b.suggest
  hasMain := b.hasMain
  setContacts := b.setContacts
  close := b.close

theorem containsAny_watched (d : δ) (words : List String) :
    b.watched.containsAny d words = b.containsAny d words := by
  induction words with
  | nil => rfl
  | cons word rest ih =>
      rw [containsAny, containsAny, ih]
      rfl

theorem reply_watched (d : δ) (a : Ask) : b.watched.reply d a = b.reply d a := by
  cases a with
  | contains words => exact congrArg Outcome.ofFlag (containsAny_watched d words)
  | suggest | hasMain => rfl

end Backend

theorem Resource.reply_watched (r : Resource δ) (a : Ask) :
    r.reply b.watched a = r.reply b a := by
  cases r with
  | dictionary d => exact Backend.reply_watched d a
  | unavailable u => rfl

theorem Loaded.reply_watched (d : Loaded δ) (a : Ask) :
    d.reply b.watched a = d.reply b a := by
  cases d with
  | opened d => exact Backend.reply_watched d a
  | failed e => rfl
  | broken message => rfl

theorem Kept.of_watched {fresh : Locale → Options → Loaded δ} {l : Locale} {n : Nat} {on : Bool}
    {r : Resource δ} (h : Kept b.watched fresh l n on r) : Kept b fresh l n on r := by
  induction h with
  | opened hd => exact .opened hd
  | failed he => exact .failed he
  | switched _ ih => exact .switched ih
  | unswitched _ ih => exact .unswitched ih

/-- A watched backend tells which openings broke off. -/
theorem Backend.Steady.counted {fresh : Locale → Options → Loaded δ} (h : b.Steady fresh) :
    b.watched.Counted fresh Prod.snd where
  load st l o := by
    show (b.load st.1 l o).2.value = _ ∧ (b.load st.1 l o).2.value.message?.toList ++ st.2 = _ ∨
      ∃ message, (b.load st.1 l o).2.value = _ ∧
        (b.load st.1 l o).2.value.message?.toList ++ st.2 = _
    cases hvalue : (b.load st.1 l o).2.value with
    | broken message => exact .inr ⟨message, rfl, rfl⟩
    | opened d | failed e =>
        refine .inl ⟨?_, rfl⟩
        rcases h.load st.1 l o with hfresh | ⟨message, hbroken⟩
        · rw [← hfresh, hvalue]
        · rw [hbroken] at hvalue
          cases hvalue
  kept l n on r hr a := by
    rw [Resource.reply_watched, Loaded.reply_watched]
    exact h.kept l n on r hr.of_watched a

/-- Where no opening breaks off unforeseen, there is nothing to tell. -/
theorem Backend.Steady.counted_of_load {fresh : Locale → Options → Loaded δ} (h : b.Steady fresh)
    (hload : ∀ st l o, (b.load st l o).2.value = fresh l o) :
    b.Counted fresh fun _ => [] where
  load st l o := .inl ⟨hload st l o, rfl⟩
  kept := h.kept

/-- A steady backend that opens the dictionary of a locale with some options alike at any time, even
where that breaks off, and whose dictionaries use a session number to find scratch space only. -/
structure Backend.Dependable (b : Backend σ δ) (fresh : Locale → Options → Loaded δ) : Prop
    extends b.Steady fresh where
  sure : ∀ st l o, (b.load st l o).2.value = fresh l o
  session : ∀ l o d, fresh l o = .opened d → ∀ q i j, i < o.sessions → j < o.sessions →
    b.suggest d q i = b.suggest d q j

theorem Backend.Dependable.counted {fresh : Locale → Options → Loaded δ} (h : b.Dependable fresh) :
    b.Counted fresh fun _ => [] :=
  h.toSteady.counted_of_load h.sure

/-- Which scratch space is used does not matter. -/
theorem Backend.Dependable.reply_suggest {fresh : Locale → Options → Loaded δ}
    (h : b.Dependable fresh) (l : Locale) (o : Options) (q : Query) {i j : Nat}
    (hi : i < o.sessions) (hj : j < o.sessions) :
    (fresh l o).reply b (.suggest q i) = (fresh l o).reply b (.suggest q j) := by
  cases hfresh : fresh l o with
  | opened d =>
      show (b.suggest d q i).outcome = (b.suggest d q j).outcome
      rw [h.session l o d hfresh q i j hi hj]
  | failed e => rfl
  | broken message => rfl

end Spelling
