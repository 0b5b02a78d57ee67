import Spelling.Proofs.Cache.Alone
import Spelling.Proofs.Cache.Settled

/-!
# Which words are looked up

A dictionary that is asked whether it has one of some words is given one after another, up to the
first that it has.  A locale whose dictionary cannot be opened is given none.  Nothing else that a
cache does on the way looks words up:

    making room, closing        no word
    opening, or failing to      no word
    forgetting a slot           no word
    asking for words            those up to the first hit

`Knows` says which words the dictionaries of a backend have.  With it the look-ups of a question hang
neither on what is resident nor on how it came to be.
-/

namespace Spelling

/-- The members of a list up to the first that passes a test, that one included. -/
def throughFirst {α : Type} (p : α → Bool) (xs : List α) : List α :=
  xs.takeWhile (!p ·) ++ (xs.find? p).toList

section ThroughFirst

variable {α β : Type} {p : α → Bool} {x : α} {xs ys : List α}

theorem throughFirst_cons_of_pos (h : p x = true) : throughFirst p (x :: xs) = [x] := by
  rw [throughFirst, List.takeWhile_cons_of_neg (by simp [h]), List.find?_cons_of_pos h]
  rfl

theorem throughFirst_cons_of_neg (h : p x = false) :
    throughFirst p (x :: xs) = x :: throughFirst p xs := by
  rw [throughFirst, List.takeWhile_cons_of_pos (by simp [h]),
    List.find?_cons_of_neg (by simp [h])]
  rfl

theorem throughFirst_append_of_any (h : xs.any p = true) :
    throughFirst p (xs ++ ys) = throughFirst p xs := by
  induction xs with
  | nil => cases h
  | cons x xs ih =>
      rw [List.cons_append]
      cases hx : p x with
      | true => rw [throughFirst_cons_of_pos hx, throughFirst_cons_of_pos hx]
      | false =>
          rw [List.any_cons, hx, Bool.false_or] at h
          rw [throughFirst_cons_of_neg hx, throughFirst_cons_of_neg hx, ih h]

theorem throughFirst_append_of_not_any (h : xs.any p = false) :
    throughFirst p (xs ++ ys) = throughFirst p xs ++ throughFirst p ys := by
  induction xs with
  | nil => rfl
  | cons x xs ih =>
      rw [List.any_cons, Bool.or_eq_false_iff] at h
      rw [List.cons_append, throughFirst_cons_of_neg h.1, throughFirst_cons_of_neg h.1, ih h.2,
        List.cons_append]

theorem throughFirst_map (f : β → α) (ys : List β) :
    throughFirst p (ys.map f) = (throughFirst (p ∘ f) ys).map f := by
  rw [throughFirst, throughFirst, List.takeWhile_map, List.find?_map, List.map_append,
    Option.toList_map]
  rfl

end ThroughFirst

/-! ## Look-ups -/

/-- The locale and the word of a look-up. -/
def Event.lookUp? (e : Event) : Option (Locale × String) :=
  match e.deed with
  | .lookedUp word => some (e.locale, word)
  | .opened .. | .queried .. | .contactsSet _ | .closed => none

/-- From one world to a later one, some words are looked up in the dictionaries of some locales. -/
def World.LooksUp {σ : Type} (w w' : World σ) (pairs : List (Locale × String)) : Prop :=
  ∃ es, w'.events = w.events ++ es ∧ es.filterMap Event.lookUp? = pairs

namespace World

variable {σ : Type} {u v w : World σ} {pairs more : List (Locale × String)}

theorem LooksUp.of_eq (h : w.events = v.events) : v.LooksUp w [] :=
  ⟨[], h.trans (List.append_nil _).symm, rfl⟩

theorem LooksUp.trans (h : u.LooksUp v pairs) (h' : v.LooksUp w more) :
    u.LooksUp w (pairs ++ more) := by
  obtain ⟨es, hes, hpairs⟩ := h
  obtain ⟨es', hes', hmore⟩ := h'
  refine ⟨es ++ es', by rw [hes', hes, List.append_assoc], ?_⟩
  rw [List.filterMap_append, hpairs, hmore]

end World

variable {σ δ : Type} {b : Backend σ δ} {fresh : Locale → Options → Loaded δ}

/-- Which words the dictionaries of a backend have, with and without contacts, no look-up breaking
off.  Locales without words have a dictionary that cannot be opened. -/
structure Backend.Knows (b : Backend σ δ) (fresh : Locale → Options → Loaded δ) (n : Nat)
    (words : Locale → Option (Bool → String → Bool)) : Prop where
  opened : ∀ l known, words l = some known → ∀ on, ∃ d, fresh l ⟨on, n⟩ = .opened d ∧
    ∀ word, b.contains d word = .ok (known on word)
  failed : ∀ l, words l = none → ∀ on, ∃ e, fresh l ⟨on, n⟩ = .failed e

/-- The look-ups of some words in a locale, if none is found: there are none without a dictionary. -/
def lookUps (words : Locale → Option (Bool → String → Bool)) (l : Locale) (asked : List String) :
    List (Locale × String) :=
  if (words l).isSome then asked.map (l, ·) else []

/-- Whether a look-up finds its word, with or without contacts. -/
def hits (words : Locale → Option (Bool → String → Bool)) (on : Bool) (pair : Locale × String) :
    Bool :=
  (words pair.1).any fun known => known on pair.2

theorem any_hits_lookUps (words : Locale → Option (Bool → String → Bool)) (on : Bool) (l : Locale)
    (asked : List String) : (lookUps words l asked).any (hits words on) =
      (words l).any fun known => asked.any (known on) := by
  rw [lookUps]
  cases hknown : words l with
  | none => rfl
  | some known =>
      rw [Option.isSome_some, if_pos rfl, List.any_map, Option.any_some]
      congr 1
      funext word
      simp [hits, hknown]

variable {words : Locale → Option (Bool → String → Bool)} {n : Nat} {on : Bool} {l : Locale}

/-- Opening a dictionary comes to something that is kept. -/
theorem Backend.Knows.exists_kept (h : b.Knows fresh n words) (l : Locale) (on : Bool) :
    ∃ r, (fresh l ⟨on, n⟩).message? = none ∧ (fresh l ⟨on, n⟩).phase l = .ready r ∧
      Kept b fresh l n on r := by
  cases hknown : words l with
  | none =>
      obtain ⟨e, he⟩ := h.failed l hknown on
      exact ⟨.unavailable (.ofError l e), by rw [he]; rfl, by rw [he]; rfl, .failed he⟩
  | some known =>
      obtain ⟨d, hd, -⟩ := h.opened l known hknown on
      exact ⟨.dictionary d, by rw [hd]; rfl, by rw [hd]; rfl, .opened hd⟩

/-! ## What a slot holds -/

/-- A dictionary that is kept was opened with one option or the other. -/
theorem Kept.exists_fresh {r : Resource δ} (h : Kept b fresh l n on r) :
    match r with
    | .dictionary _ => ∃ was d, fresh l ⟨was, n⟩ = .opened d
    | .unavailable _ => ∃ was e, fresh l ⟨was, n⟩ = .failed e := by
  induction h with
  | opened h => exact ⟨_, _, h⟩
  | failed h => exact ⟨_, _, h⟩
  | switched _ ih => exact ih
  | unswitched _ ih => exact ih

/-- A kept dictionary has the words of its locale. -/
theorem Kept.contains (hb : b.Steady fresh) (hwords : b.Knows fresh n words) {d : δ}
    (h : Kept b fresh l n on (.dictionary d)) :
    ∃ known, words l = some known ∧ ∀ word, b.contains d word = .ok (known on word) := by
  obtain ⟨was, d', hd'⟩ := h.exists_fresh
  cases hknown : words l with
  | none =>
      obtain ⟨e, he⟩ := hwords.failed l hknown was
      rw [hd'] at he
      cases he
  | some known =>
      obtain ⟨d₀, hd₀, hcontains⟩ := hwords.opened l known hknown on
      refine ⟨known, rfl, fun word => ?_⟩
      have hreply := hb.kept l n on _ h (.contains [word])
      rw [hd₀] at hreply
      rw [← hcontains, ← b.containsAny_singleton, ← b.containsAny_singleton]
      exact Outcome.ofFlag_injective hreply

theorem Kept.words_eq_none (hwords : b.Knows fresh n words) {u : Unavailable}
    (h : Kept b fresh l n on (.unavailable u)) : words l = none := by
  obtain ⟨was, e, he⟩ := h.exists_fresh
  cases hknown : words l with
  | none => rfl
  | some known =>
      obtain ⟨d, hd, -⟩ := hwords.opened l known hknown was
      rw [he] at hd
      cases hd

namespace CacheState

variable {s : CacheState σ δ}

/-- Words are looked up one after another, up to the first hit. -/
theorem looksUp_lookUp {d : δ} {p : String → Bool} (hd : ∀ word, b.contains d word = .ok (p word))
    (i : Nat) (asked : List String) (s : CacheState σ δ) :
    s.world.LooksUp (s.lookUp b i d asked).2.world
      ((throughFirst p asked).map (s.cache.localeOf i, ·)) := by
  induction asked generalizing s with
  | nil => exact .of_eq rfl
  | cons word rest ih =>
      have hnoted : s.world.LooksUp (s.note i (.lookedUp word)).world
          [(s.cache.localeOf i, word)] :=
        ⟨_, rfl, rfl⟩
      rw [lookUp, hd]
      cases hword : p word with
      | true =>
          rw [throughFirst_cons_of_pos hword]
          exact hnoted
      | false =>
          rw [throughFirst_cons_of_neg hword]
          exact hnoted.trans (ih (s.note i (.lookedUp word)))

/-- Asking what a slot keeps. -/
theorem looksUp_askResource (hb : b.Steady fresh) (hwords : b.Knows fresh n words) {i : Nat}
    {r : Resource δ} (hlocale : s.cache.localeOf i = l) (hr : Kept b fresh l n on r)
    (asked : List String) :
    s.world.LooksUp (s.askResource b i r (.contains asked)).2.world
      (throughFirst (hits words on) (lookUps words l asked)) := by
  cases r with
  | dictionary d =>
      obtain ⟨known, hknown, hcontains⟩ := hr.contains hb hwords
      have hhits : hits words on ∘ (l, ·) = known on := by
        funext word
        simp [hits, hknown]
      rw [lookUps, hknown, Option.isSome_some, if_pos rfl, throughFirst_map, hhits, ← hlocale]
      exact looksUp_lookUp hcontains i asked s
  | unavailable u =>
      rw [lookUps, hr.words_eq_none hwords]
      exact .of_eq rfl

/-! ## Resolving -/

theorem looksUp_shut (i : Nat) (s : CacheState σ δ) : s.world.LooksUp (s.shut b i).world [] := by
  refine ⟨_, events_shut i, List.filterMap_eq_nil_iff.mpr ?_⟩
  intro e he
  rw [Event.lookUp?, Cache.closed_of_mem_farewell he]

theorem looksUp_room (l : Locale) (s : CacheState σ δ) : s.world.LooksUp (s.room b l).world [] := by
  rw [room]
  cases s.cache.victim? with
  | none => exact .of_eq rfl
  | some e =>
      exact looksUp_shut e.2
        ((s.onCache fun c => (c.enroll l).2).reportEviction e.2 s.cache.slots.length)

theorem looksUp_enter (l : Locale) (s : CacheState σ δ) :
    s.world.LooksUp (s.enter b l).world [] :=
  (looksUp_room l s).trans ⟨_, events_fill b (s.room b l) s.cache.slots.length _, rfl⟩

/-! ## Asking -/

section Ask

variable (hb : b.Steady fresh) (hload : ∀ st l o, (b.load st l o).2.value = fresh l o)
  (hwords : b.Knows fresh n words)

include hb hload hwords

/-- A locale that is not resident is opened, and then given the words. -/
theorem looksUp_askWithin_miss (h : s.cache.Quiet b fresh n on)
    (hnone : s.cache.resident.lookup l = none) (asked : List String) (rounds : Nat) :
    s.world.LooksUp (s.askWithin b l (.contains asked) (rounds + 1)).2.world
      (throughFirst (hits words on) (lookUps words l asked)) := by
  obtain ⟨r, hsure, hr, hkept⟩ := hwords.exists_kept l on
  have hopens : s.opens b l = fresh l ⟨on, n⟩ := by
    rw [opens, hload, options_eq h]
  have hresolve := resolve_miss (b := b) h.tidy hnone
  rw [hopens, hsure] at hresolve
  have hready := phase_enter (b := b) h.tidy l
  rw [hopens, hr] at hready
  rw [askWithin_of_resolve hresolve hready]
  exact (looksUp_enter l s).trans
    (looksUp_askResource hb hwords (makesRoom_enter h.tidy l).locale_self hkept asked)

/-- **The look-ups of a question.**  The locale is given the words up to the first hit, if it has a
dictionary, and nothing else is looked up. -/
theorem looksUp_ask (h : s.cache.Quiet b fresh n on) (asked : List String) :
    s.world.LooksUp (s.ask b l (.contains asked)).2.world
      (throughFirst (hits words on) (lookUps words l asked)) := by
  rw [ask, roundLimit]
  cases hlookup : s.cache.resident.lookup l with
  | none => exact looksUp_askWithin_miss hb hload hwords h hlookup asked 1
  | some i =>
      have hmem := Cache.mem_of_lookup hlookup
      have hlocale := (h.resident l i hmem).locale
      let t := s.onCache fun c => { c with
        resident := Cache.put c.resident l i
        stats := { c.stats with hits := c.stats.hits + 1 } }
      have hresolve : s.resolve b l = (.returned i, t) := resolve_hit hlookup
      have hphase : t.cache.phase i = s.cache.phase i := rfl
      cases hslot : s.cache.phase i with
      | ready r =>
          rw [askWithin_of_resolve hresolve (hphase.trans hslot)]
          exact looksUp_askResource (s := t) hb hwords hlocale (h.kept hmem hslot) asked
      | loading =>
          -- an opening broke off here before: the slot is forgotten, and the locale is opened
          have hagain := looksUp_askWithin_miss hb hload hwords
            (s := (t.onCache (·.forget i)).reportRetry l) ((h.hit hlookup _).forget i)
            (Cache.lookup_forget_put hlocale) asked 0
          rw [askWithin, hresolve]
          dsimp only
          rw [hphase, hslot]
          exact hagain
      | closed => exact absurd hslot (h.unclosed l i hmem)

end Ask

end CacheState

end Spelling
