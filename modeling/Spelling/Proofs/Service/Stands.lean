import Spelling.Service.Basic

/-!
# The two caches of a service

A service uses two of its caches, the one for single locales and the one of the enabled locales.
`Stands` says what holds of each, and that they are apart, so that work on one leaves the other.
-/

namespace Spelling.Service

variable {σ δ : Type}

section Caches

variable (s : Service σ δ) (i j : Nat) (c : CacheState σ δ) (locales : List Locale)

theorem cacheState_withCache (h : i < s.caches.length) :
    ((s.withCache i c).cacheState i).cache = c.cache := by
  simp [cacheState, withCache, h]

theorem cacheState_withCache_of_ne (h : i ≠ j) :
    ((s.withCache i c).cacheState j).cache = (s.cacheState j).cache := by
  simp [cacheState, withCache, h]

theorem cacheState_enable_of_lt (h : i < s.caches.length) :
    ((s.enable locales).cacheState i).cache = (s.cacheState i).cache := by
  simp only [cacheState, Service.enable]
  rw [List.getElem?_append_left h]

theorem cacheState_enable_of_ne (h : i ≠ s.caches.length) :
    ((s.enable locales).cacheState i).cache = (s.cacheState i).cache := by
  rcases Nat.lt_or_gt_of_ne h with hlt | hgt
  · exact cacheState_enable_of_lt s i locales hlt
  · simp only [cacheState, Service.enable]
    rw [List.getElem?_eq_none (Nat.le_of_lt hgt), List.getElem?_eq_none]
    rw [List.length_append]
    exact hgt

theorem cacheState_enable_new :
    ((s.enable locales).cacheState s.caches.length).cache =
      enabledCache s.settings s.caches.length locales (s.cacheState single).cache.useContacts := by
  simp [cacheState, Service.enable]

theorem cacheState_of_caches {s s' : Service σ δ} (h : s'.caches = s.caches) (i : Nat) :
    (s'.cacheState i).cache = (s.cacheState i).cache := by
  rw [cacheState, h]
  rfl

end Caches

/-- What holds of a service whose caches in use are known. -/
structure Stands (n : Nat) (locales : List Locale) (Q Q' : Cache δ → Prop) (s : Service σ δ) :
    Prop where
  readers : s.settings.maxReaders.1 = n
  policy : s.policy = {}
  locales : s.enabled.locales = locales
  place : single < s.caches.length ∧ s.enabled.cache < s.caches.length
  apart : single ≠ s.enabled.cache
  atSingle : Q (s.cacheState single).cache
  atEnabled : Q' (s.cacheState s.enabled.cache).cache

section Stands

variable {n : Nat} {locales : List Locale} {Q Q' : Cache δ → Prop} {s : Service σ δ}

/-- What holds of both caches in use. -/
theorem Stands.atEither (h : s.Stands n locales Q Q) {i : Nat}
    (hi : i = single ∨ i = s.enabled.cache) : Q (s.cacheState i).cache := by
  rcases hi with rfl | rfl
  · exact h.atSingle
  · exact h.atEnabled

theorem stands_ofSettings {settings : Settings} {st : σ} {locales : List Locale}
    (h : ∀ label capacity,
      Q (.ofCapacity label capacity ⟨settings.useContacts, settings.maxReaders.1⟩)) :
    (ofSettings settings st locales : Service σ δ).Stands settings.maxReaders.1 locales Q Q :=
  ⟨rfl, rfl, rfl, ⟨Nat.zero_lt_two, Nat.one_lt_two⟩, Nat.zero_ne_one, h 0 _, h 1 _⟩

/-- What is no matter of a cache may change. -/
theorem Stands.of_caches {s' : Service σ δ} (h : s.Stands n locales Q Q')
    (hsettings : s'.settings = s.settings) (hpolicy : s'.policy = s.policy)
    (henabled : s'.enabled = s.enabled) (hcaches : s'.caches = s.caches) :
    s'.Stands n locales Q Q' := by
  have hcache := cacheState_of_caches hcaches
  refine ⟨hsettings ▸ h.readers, hpolicy.trans h.policy, henabled ▸ h.locales, ?_, ?_, ?_, ?_⟩
  · rw [hcaches, henabled]
    exact h.place
  · rw [henabled]
    exact h.apart
  · rw [hcache]
    exact h.atSingle
  · rw [hcache, henabled]
    exact h.atEnabled

theorem Stands.imp {P P' : Cache δ → Prop} (h : s.Stands n locales Q Q') (hQ : ∀ c, Q c → P c)
    (hQ' : ∀ c, Q' c → P' c) : s.Stands n locales P P' :=
  ⟨h.readers, h.policy, h.locales, h.place, h.apart, hQ _ h.atSingle, hQ' _ h.atEnabled⟩

variable {P : Cache δ → Prop} {c : CacheState σ δ}

theorem Stands.setSingle (h : s.Stands n locales Q Q') (hc : P c.cache) :
    (s.withCache single c).Stands n locales P Q' := by
  refine ⟨h.readers, h.policy, h.locales, by simpa [withCache] using h.place, h.apart, ?_, ?_⟩
  · rw [cacheState_withCache s _ c h.place.1]
    exact hc
  · show Q' ((s.withCache single c).cacheState s.enabled.cache).cache
    rw [cacheState_withCache_of_ne s _ _ c h.apart]
    exact h.atEnabled

theorem Stands.setEnabled (h : s.Stands n locales Q Q') (hc : P c.cache) :
    (s.withCache s.enabled.cache c).Stands n locales Q P := by
  refine ⟨h.readers, h.policy, h.locales, by simpa [withCache] using h.place, h.apart, ?_, ?_⟩
  · rw [cacheState_withCache_of_ne s _ _ c h.apart.symm]
    exact h.atSingle
  · show P ((s.withCache s.enabled.cache c).cacheState s.enabled.cache).cache
    rw [cacheState_withCache s _ c h.place.2]
    exact hc

theorem Stands.setEither (h : s.Stands n locales Q Q) {i : Nat}
    (hi : i = single ∨ i = s.enabled.cache) (hc : Q c.cache) :
    (s.withCache i c).Stands n locales Q Q := by
  rcases hi with rfl | rfl
  · exact h.setSingle hc
  · exact h.setEnabled hc

/-- The dictionaries of newly enabled locales are in a cache of their own. -/
theorem Stands.enable (h : s.Stands n locales Q Q') {on : Bool}
    (hon : (s.cacheState single).cache.useContacts = on)
    (hnew : ∀ label capacity, P (.ofCapacity label capacity ⟨on, n⟩)) (now : List Locale) :
    (s.enable now).Stands n now Q P := by
  have hlength : (s.enable now).caches.length = s.caches.length + 1 := by simp [Service.enable]
  refine ⟨h.readers, h.policy, rfl, ⟨?_, ?_⟩, Nat.ne_of_lt h.place.1, ?_, ?_⟩
  · rw [hlength]
    exact Nat.lt_succ_of_lt h.place.1
  · rw [hlength]
    exact Nat.lt_succ_self _
  · rw [cacheState_enable_of_lt _ _ _ h.place.1]
    exact h.atSingle
  · show P ((s.enable now).cacheState s.caches.length).cache
    rw [cacheState_enable_new, enabledCache, h.readers, hon]
    exact hnew _ _

end Stands

end Spelling.Service
