import Spelling.Proofs.Service.Ending
import Spelling.Proofs.Service.Replacing
import Spelling.Proofs.Service.Resident
import Spelling.WordList.Source

/-!
# What becomes of the dictionaries of the enabled locales

They are opened where a query needs them, and stay open until they are closed as a whole.

A caller that replaces them does so between two places: it holds all permits from where it is let in
(`letIn?`) to where it leaves (`leaves?`), and nobody else is inside meanwhile.
-/

namespace Spelling.Service

variable {σ δ : Type} {b : Backend σ δ}

namespace Caller

variable {x : Caller} {locales : List Locale} {a : Answer}

/-- The locales by which a caller is to replace the enabled ones that was just let in. -/
def letIn? : Caller → Option (List Locale)
  | entering (.refresh locales) (.holding _) => some locales
  | entering .. | leasing .. | looking .. | working .. | comparing .. | replacing .. | restoring ..
  | exiting .. | announcing _ | done _ => none

/-- The answer with which a caller is about to give its permits back. -/
def leaves? : Caller → Option Answer
  | exiting a _ => some a
  | entering .. | leasing .. | looking .. | working .. | comparing .. | replacing .. | restoring ..
  | announcing _ | done _ => none

theorem eq_of_letIn? (h : x.letIn? = some locales) :
    ∃ p, x = entering (.refresh locales) (.holding p) := by
  cases x with
  | entering call g =>
      cases call with
      | refresh now =>
          cases g with
          | holding p =>
              cases h
              exact ⟨p, rfl⟩
          | arriving | waiting | granted | gone | refused | returned | leaving | done => cases h
      | isValid | isValidAnywhere | suggest | hasMain | closeAll | setContacts => cases h
  | leasing | looking | working | comparing | replacing | restoring | exiting | announcing | done =>
      cases h

theorem eq_of_leaves? (h : x.leaves? = some a) : ∃ p, x = exiting a p := by
  cases x with
  | exiting a' p =>
      cases h
      exact ⟨p, rfl⟩
  | entering | leasing | looking | working | comparing | replacing | restoring | announcing
  | done => cases h

end Caller

section Enabled

variable {settings : Settings} {calls : List Call} {gs : List Grant} {c : Crowd σ δ}
  {s : Service σ δ} {callers : List Caller} {n : Nat} {x : Caller} {locales : List Locale}
  {p : Permit}

/-- Only a call that closes everything, or one that replaces the enabled locales by others, clears
them. -/
theorem Housed.call_of_clears (hc : Housed calls s callers) (hx : callers[n]? = some x)
    (hclears : x.clears s.enabled.cache = true) :
    calls[n]? = some .closeAll ∨
      ∃ locales, calls[n]? = some (.refresh locales) ∧ s.enabled.locales ≠ locales := by
  have hmem := List.mem_of_getElem? hx
  cases x with
  | replacing locales p =>
      exact .inr ⟨locales, hc.errands n _ _ hx rfl, hc.differs _ hmem locales rfl⟩
  | working j z after p =>
      obtain ⟨hj, hempties⟩ : j = s.enabled.cache ∧ z.empties = true := by
        simpa [Caller.clears] using hclears
      subst hj
      have hsent := hc.sent _ hmem s.enabled.cache (by rwa [Caller.atCache_self])
      cases after with
      | replace locales =>
          exact .inr ⟨locales, hc.errands n _ _ hx rfl, hc.differs _ hmem locales rfl⟩
      | closed => exact .inl (hc.errands n _ _ hx rfl)
      | look plan =>
          cases plan with
          | close => exact .inl (hc.errands n _ _ hx rfl)
          | search | contacts => cases hsent
      | flag | corrections | search | contacts => cases hsent
  | entering | leasing | looking | comparing | restoring | exiting | announcing | done =>
      cases hclears

/-- What is opened while nobody clears the enabled locales is of an enabled locale, and resident
from then on. -/
theorem Lasting.resident {es : List Event} (hl : Lasting s.enabled es c.service)
    (hb : Bounded settings calls gs c) (hc : Housed calls c.service c.callers)
    (hclear : ∀ x ∈ c.callers, x.clears s.enabled.cache = false) :
    ∀ ev ∈ es, ev.cache = s.enabled.cache → ev.deed.isOpening = true →
      ev.locale ∈ s.enabled.locales ∧
        (ev.locale, ev.slot) ∈ (c.service.cacheState s.enabled.cache).cache.resident := by
  intro ev hev hcache hopening
  obtain ⟨hlocale, r, hr⟩ := hl.ready ev hev hcache hopening
  have henabled := hl.enabled
  rw [← henabled] at hr hlocale hclear ⊢
  rw [← hlocale]
  exact ⟨hc.ample.slots _ (Cache.lt_of_phase_ready hr), hc.resident_of_ready hb hclear hr⟩

/-- **The dictionaries of the enabled locales stay resident, and are replaced as a whole.**
Whatever room the caches have, whichever locales are enabled, and whoever calls a service and moves
in whatever order:

* no cache of enabled locales ever evicts;
* only a call that closes everything, or one that replaces the enabled locales by others, ever
  clears them;
* while nobody does, and no opening breaks off, none of their dictionaries is closed, each of the
  locales is opened at most once, and whatever is opened is of an enabled locale and stays resident;
* a call that is let in to replace them comes to its end by steps of its own, and says whether the
  locales, in their order, differ.  Before it lets anybody in again, all it did is this: where they
  are the same, nothing; where they differ, each dictionary that was open was closed once, and
  nothing was done yet in the cache of the new ones. -/
theorem Crowd.enabled_dictionaries_stay (b : Backend σ δ) (settings : Settings) (st : σ)
    (locales : List Locale) (acts more : List Happening) :
    let calls := acts.filterMap Happening.call?
    let c := (Crowd.ofService (ofSettings settings st locales)).run b acts
    let c' := c.run b more
    let e := c.service.enabled
    (e.cache ≠ single ∧
      ∀ i, i ≠ single → (c.service.cacheState i).cache.stats.evictions = 0) ∧
    (∀ (n : Nat) (x : Caller), c.callers[n]? = some x → x.clears e.cache = true →
      calls[n]? = some .closeAll ∨ ∃ now, calls[n]? = some (.refresh now) ∧ e.locales ≠ now) ∧
    (c.Undisturbed b e.cache more →
      c'.service.enabled = e ∧ ∃ es, c'.service.world.events = c.service.world.events ++ es ∧
        (∀ ev ∈ es, ev.cache = e.cache → ev.deed ≠ .closed) ∧
        (Event.triedIn e.cache es).Nodup ∧
        ∀ ev ∈ es, ev.cache = e.cache → ev.deed.isOpening = true →
          ev.locale ∈ e.locales ∧
            (ev.locale, ev.slot) ∈ (c'.service.cacheState e.cache).cache.resident) ∧
    ∀ n now, c.callers[n]?.bind Caller.letIn? = some now →
      c.Comes b n (.done (.flag (e.locales != now))) ∧
      (∀ a, c'.callers[n]?.bind Caller.answer? = some a → a = .flag (e.locales != now)) ∧
      ∀ a, c'.callers[n]?.bind Caller.leaves? = some a → a = .flag (e.locales != now) ∧
        (e.locales = now → c.service.Reported c'.service) ∧
        (e.locales ≠ now → Replaced now c.service c'.service) := by
  intro calls c c' e
  have hstart := bounded_ofSettings settings st locales (δ := δ)
  have hhoused := housed_ofSettings settings st locales (σ := σ) (δ := δ)
  have hfastened := fastened_ofSettings settings st locales (σ := σ) (δ := δ)
  have hb : Bounded settings calls _ c := hstart.run acts
  have hc : Housed calls c.service c.callers := hhoused.run hstart acts
  have hf : Fastened c := hfastened.run hstart acts
  have hb' := hb.run (b := b) more
  have hc' := hc.run (b := b) hb more
  refine ⟨⟨hc.apart, hc.evictions⟩, fun n x hx => hc.call_of_clears hx, ?_, ?_⟩
  · intro hquiet
    obtain ⟨es, hevents, hlasting, hclear⟩ := (lasting_nil c.service).run more hb hc hquiet
    exact ⟨hlasting.enabled, es, hevents, hlasting.unclosed, hlasting.once,
      hlasting.resident hb' hc' hclear⟩
  · intro n now hletin
    obtain ⟨x, hx, hnow⟩ := Option.bind_eq_some_iff.mp hletin
    obtain ⟨p, rfl⟩ := Caller.eq_of_letIn? hnow
    have hcall := hc.errands n _ _ hx rfl
    have hstage : Refreshes now c.service n c := ⟨_, hx, .inl (.holding (.refl _))⟩
    obtain ⟨y, hy, hend⟩ := hstage.run (b := b) more hb hcall
    refine ⟨refresh_ends hb hf hcall hx, ?_, ?_⟩
    · intro a hanswer
      obtain ⟨z, hz, hdone⟩ := Option.bind_eq_some_iff.mp hanswer
      cases Caller.eq_done hdone
      cases hy.symm.trans hz
      rcases hend with hstage | hover
      · cases hstage
      · cases hover
        rfl
    · intro a hleaves
      obtain ⟨z, hz, hexiting⟩ := Option.bind_eq_some_iff.mp hleaves
      obtain ⟨q, rfl⟩ := Caller.eq_of_leaves? hexiting
      cases hy.symm.trans hz
      rcases hend with hstage | hover
      · cases hstage with
        | same heq hreported =>
            exact ⟨by rw [heq, bne_self_eq_false], fun _ => hreported, fun hne => absurd heq hne⟩
        | replaced hne hreplaced =>
            exact ⟨by rw [bne_iff_ne.mpr hne], fun heq => absurd heq hne, fun _ => hreplaced⟩
      · cases hover

/-- With room for one, English is enabled, German, and English again.  Two callers look for a word
that is in neither: each is opened once for both.  Then German alone replaces them, and both were
closed once before anything of the new set is opened. -/
theorem Crowd.enabled_dictionaries_stay_of_repeated :
    let en := Locale.ofLanguage "en"
    let de := Locale.ofLanguage "de"
    let source : WordList.Source :=
      .memory [(en, "1\nhello fq:200\n"), (de, "1\nhallo fq:9\n")] none
    let b := Backend.ofKind source.kind
    let start : Crowd Unit WordList.Dictionary :=
      .ofService (ofSettings { cacheCapacity := ⟨1, by decide⟩ } () [en, de, en])
    let look : Happening := .arrive (.isValidAnywhere "ciao" .plain)
    let search := [look, look] ++ (List.replicate 31 [Happening.move 0 .go, .move 1 .go]).flatten
    let refresh := [Happening.arrive (.refresh [de]), .move 2 .go, .move 2 .go]
    let c := start.run b search
    let d := start.run b (search ++ refresh)
    let replace := List.replicate 12 (Happening.move 2 .go)
    let d' := d.run b replace
    start.Undisturbed b 1 search ∧ (Event.triedIn 1 c.service.world.events).Nodup ∧
      Event.triedIn 1 c.service.world.events = [en, de] ∧ Replaced [de] d.service d'.service := by
  intro en de source b start look search refresh c d replace d'
  have hquiet : start.Undisturbed b 1 search := by decide +kernel
  have htried : Event.triedIn 1 c.service.world.events = [en, de] := by decide +kernel
  have hsearch := enabled_dictionaries_stay b { cacheCapacity := ⟨1, by decide⟩ } () [en, de, en]
    [] search
  extract_lets _ c₀ c₁ _ at hsearch
  obtain ⟨-, es, hevents, -, hnodup, -⟩ := hsearch.2.2.1 hquiet
  have hstart : c₀ = start := rfl
  have hc : c₁ = c := congrArg (·.run b search) hstart
  rw [hc, hstart, show start.service.world.events = [] from rfl, List.nil_append] at hevents
  refine ⟨hquiet, hevents ▸ hnodup, htried, ?_⟩
  have hrefresh := enabled_dictionaries_stay b { cacheCapacity := ⟨1, by decide⟩ } () [en, de, en]
    (search ++ refresh) replace
  extract_lets _ d₀ d₁ e at hrefresh
  have hdiffers : e.locales ≠ [de] := by decide +kernel
  have hletin : d₀.callers[2]?.bind Caller.letIn? = some [de] := by decide +kernel
  have hleaves : d₁.callers[2]?.bind Caller.leaves? = some (.flag true) := by decide +kernel
  have hd : d₀ = d := rfl
  have hd' : d₁ = d' := congrArg (·.run b replace) hd
  rw [← hd, ← hd']
  exact ((hrefresh.2.2.2 2 [de] hletin).2.2 (.flag true) hleaves).2.2 hdiffers

end Enabled

end Spelling.Service
