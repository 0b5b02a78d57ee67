import Spelling.Proofs.Cache.Ample
import Spelling.Proofs.Service.Bounded

/-!
# The cache of the enabled locales never evicts

The cache of the enabled locales has room for all of them, however small the caches are set up
otherwise, and is asked for no other locale.  So it never evicts (`Housed`).  It is emptied by those
only who came for that:

    call                  empties it                          comes by
    closeAll              after the cache for single locales  looking, then working
    refresh               if the locales differ               comparing, then working
-/

namespace Spelling.Service

variable {σ δ : Type} {b : Backend σ δ}

/-- A cache of enabled locales has room for all of them. -/
theorem length_le_enabledRoom (settings : Settings) (locales : List Locale) :
    locales.length ≤ enabledRoom settings locales := by
  rw [enabledRoom, roomNeeded?]
  split
  · exact Nat.le_refl _
  · next h => exact Nat.le_of_not_lt h

/-! ## What a caller asks of the enabled locales -/

/-- Whether what follows a question in a cache stays within its locales. -/
def After.Within (e : EnabledSet) : After → Prop
  | search _ _ cache _ rest _ => cache = e.cache → ∀ l ∈ rest, l ∈ e.locales
  | flag | corrections .. | look _ | closed | contacts _ | replace _ => True

/-- The call whose caller goes on to empty a cache. -/
def After.errand? : After → Option Call
  | look .close | closed => some .closeAll
  | replace locales => some (.refresh locales)
  | look (.search ..) | look (.contacts _) | flag | corrections .. | search .. | contacts _ => none

namespace Caller

/-- A caller asks the cache of the enabled locales for these only. -/
def Within (e : EnabledSet) : Caller → Prop
  | working i z after _ =>
    (i = e.cache → ∀ l, z.seeks? = some l → l ∈ e.locales) ∧ after.Within e
  | entering .. | leasing .. | looking .. | comparing .. | replacing .. | restoring .. | exiting ..
  | announcing _ | done _ => True

/-- The call of a caller, at the places that lead to the emptying of a cache. -/
def errand? : Caller → Option Call
  | entering call _ => some call
  | looking .close _ => some .closeAll
  | working _ _ after _ => after.errand?
  | comparing locales _ | replacing locales _ => some (.refresh locales)
  | looking (.search ..) _ | looking (.contacts _) _ | leasing .. | restoring .. | exiting ..
  | announcing _ | done _ => none

/-- The locales that a caller found to differ from the enabled ones. -/
def replaces? : Caller → Option (List Locale)
  | working _ _ (.replace locales) _ | replacing locales _ => some locales
  | working _ _ .flag _ | working _ _ (.corrections ..) _ | working _ _ (.search ..) _
  | working _ _ (.look _) _ | working _ _ .closed _ | working _ _ (.contacts _) _
  | entering .. | leasing .. | looking .. | comparing .. | restoring .. | exiting .. | announcing _
  | done _ => none

/-- Whether a caller is about to empty a cache, or to replace the enabled locales. -/
def clears (i : Nat) : Caller → Bool
  | working j z _ _ => j == i && z.empties
  | replacing .. => true
  | entering .. | leasing .. | looking .. | comparing .. | restoring .. | exiting .. | announcing _
  | done _ => false

/-- Whoever empties a cache does so on an errand. -/
def Sent (x : Caller) : Prop := ∀ i, (x.atCache i).empties = true → x.errand?.isSome = true

section Step

variable {c c' : Crowd σ δ} {m i : Nat} {x y : Caller} {p : Permit} {s : Service σ δ}
  {e : EnabledSet}

/-- Outside, a caller is at work on no cache. -/
theorem idle_of_outside (h : x.permit? = none) : x.caches = [] ∧
    (∀ i, x.atCache i = .done .nothing) ∧ x.Within e ∧ x.replaces? = none := by
  cases x with
  | entering | announcing | done => exact ⟨rfl, fun _ => rfl, trivial, rfl⟩
  | leasing | looking | working | comparing | replacing | restoring | exiting => cases h

/-- Where a caller goes whose call on a cache is done: on to the next locale, on with its call, or on
its way out. -/
inductive Heads (p : Permit) : After → Caller → Prop
  | exiting {after : After} {a : Answer} : Heads p after (exiting a p)
  | restoring {after : After} {session : Nat} {a : Answer} : Heads p after (restoring session a p)
  | looking {plan : Plan} : Heads p (.look plan) (looking plan p)
  | replacing {locales : List Locale} : Heads p (.replace locales) (replacing locales p)
  | next {word : String} {cap : Capitalization} {cache : Nat} {l l' : Locale}
      {rest all : List Locale} {w : Cache.Want} : Heads p (.search word cap cache l (l' :: rest) all)
        (working cache (.finding l' w) (.search word cap cache l' rest all) p)

theorem heads_search (s : Service σ δ) (word : String) (cap : Capitalization) (cache : Nat)
    (l : Locale) (all : List Locale) (p : Permit) (locales : List Locale) :
    Heads p (.search word cap cache l locales all) (search s word cap cache all p locales).2 := by
  cases locales with
  | nil => exact .exiting
  | cons l' rest => exact .next

theorem heads_follow (s : Service σ δ) (p : Permit) (word : String) (cap : Capitalization) :
    Heads p (.search word cap s.enabled.cache default s.enabled.locales s.enabled.locales)
      (follow s p (.search word cap)).2 :=
  heads_search ..

theorem heads_conclude (s : Service σ δ) (a : Cache.Answer) (p : Permit) (after : After) :
    Heads p after (conclude s a p after).2 := by
  cases after with
  | search word cap cache l rest all =>
      simp only [conclude]
      cases outcomeOf a with
      | returned r =>
          simp only []
          split
          · exact .exiting
          · exact heads_search ..
      | broken message => exact .exiting
      | endless => exact .exiting
  | corrections => exact .restoring
  | look plan => exact .looking
  | replace locales => exact .replacing
  | flag | closed | contacts => exact .exiting

section Heads

variable {after : After}

theorem Heads.within (h : Heads p after y) (hafter : after.Within e) : y.Within e := by
  cases h with
  | exiting | restoring | looking | replacing => trivial
  | @next word cap cache l l' rest all w =>
      refine ⟨?_, ?_⟩
      · intro hcache m hm
        cases hm
        exact hafter hcache _ List.mem_cons_self
      · intro hcache m hm
        exact hafter hcache m (List.mem_cons_of_mem _ hm)

theorem Heads.errand (h : Heads p after y) {call : Call} (hy : y.errand? = some call) :
    after.errand? = some call := by
  cases h with
  | @looking plan => cases plan <;> exact hy
  | replacing => exact hy
  | exiting | restoring | next => cases hy

theorem Heads.replaces (h : Heads p after y) {locales : List Locale}
    (hy : y.replaces? = some locales) : after = .replace locales := by
  cases h with
  | replacing =>
      cases hy
      rfl
  | exiting | restoring | looking | next => cases hy

theorem Heads.empties (h : Heads p after y) (i : Nat) : (y.atCache i).empties = false := by
  cases h with
  | exiting | restoring | looking | replacing => rfl
  | @next word cap cache l l' rest all w =>
      by_cases hcache : cache = i
      · subst hcache
        rw [atCache_self]
        rfl
      · rw [atCache_of_ne hcache]
        rfl

end Heads

/-- Nobody comes to ask the cache of the enabled locales for another locale. -/
theorem Turn.within (h : Turn b c m x c' y) (hsingle : c.service.enabled.cache ≠ single)
    (hx : x.Within c.service.enabled)
    (hwork : ∀ z z' t after p, x = working c.service.enabled.cache z after p →
      Cache.Caller.Turn b m (c.service.cacheState c.service.enabled.cache) z t z' →
      ∀ l, z'.seeks? = some l → l ∈ c.service.enabled.locales) :
    y.Within c.service.enabled := by
  cases h with
  | gate _ _ => trivial
  | @begin call p =>
      cases call with
      | isValid | hasMain | closeAll | setContacts =>
          exact ⟨fun hcache => absurd hcache.symm hsingle, trivial⟩
      | isValidAnywhere | suggest | refresh => trivial
  | gone | refused => trivial
  | stride h =>
      cases h with
      | lent _ => exact ⟨fun hcache => absurd hcache.symm hsingle, trivial⟩
      | @looking plan p _ =>
          cases plan with
          | search word cap =>
              exact (heads_follow c.service p word cap).within fun _ l hl => hl
          | close | contacts _ => exact ⟨fun _ _ => nofun, trivial⟩
      | @working i z z' t after p h =>
          refine ⟨?_, hx.2⟩
          rintro rfl
          exact hwork z z' t after p rfl h
      | concluding => exact (heads_conclude ..).within hx.2
      | differing => exact ⟨fun _ _ => nofun, trivial⟩
      | unlent | same | replacing | restoring | exiting | announcing => trivial

/-- Nobody comes to a place of another call. -/
theorem Turn.errand (h : Turn b c m x c' y) {call : Call} (hy : y.errand? = some call) :
    x.errand? = some call := by
  cases h with
  | gate _ _ => exact hy
  | @begin call' p =>
      cases call' with
      | closeAll | refresh => exact hy
      | isValid | isValidAnywhere | suggest | hasMain | setContacts => cases hy
  | gone | refused => cases hy
  | stride h =>
      cases h with
      | @looking plan p _ =>
          cases plan with
          | search word cap =>
              cases (heads_follow c.service p word cap).errand hy
          | close => exact hy
          | contacts on => cases hy
      | working _ => exact hy
      | concluding => exact (heads_conclude ..).errand hy
      | differing => exact hy
      | unlent | lent | same | replacing | restoring | exiting | announcing => cases hy

/-- Whoever goes on to replace the enabled locales found that they differ. -/
theorem Turn.replaces (h : Turn b c m x c' y) {locales : List Locale}
    (hy : y.replaces? = some locales) : c'.service.enabled = c.service.enabled ∧
      (x.replaces? = some locales ∨ c.service.enabled.locales ≠ locales) := by
  cases h with
  | gate _ _ => cases hy
  | @begin call p => cases call <;> cases hy
  | gone | refused => cases hy
  | stride h =>
      cases h with
      | @looking plan p _ =>
          cases plan with
          | search word cap =>
              cases (heads_follow c.service p word cap).replaces hy
          | close | contacts _ => cases hy
      | @working i z z' t after p _ =>
          refine ⟨rfl, .inl ?_⟩
          cases after with
          | replace _ => exact hy
          | flag | corrections | search | look | closed | contacts => cases hy
      | concluding =>
          obtain rfl := (heads_conclude ..).replaces hy
          exact ⟨rfl, .inl rfl⟩
      | differing _ hne =>
          cases hy
          exact ⟨rfl, .inr hne⟩
      | unlent | lent | same | replacing | restoring | exiting | announcing => cases hy

theorem sent_of_ne {y : Caller} (h : ∀ i, (y.atCache i).empties = false) : y.Sent := by
  intro i hi
  rw [h i] at hi
  cases hi

/-- Who begins a call on a cache that does not empty it. -/
theorem sent_working {j : Nat} {z : Cache.Caller} {after : After} (h : z.empties = false) :
    (working j z after p).Sent := by
  refine sent_of_ne ?_
  intro i
  by_cases hj : j = i
  · subst hj
    rw [atCache_self, h]
  · rw [atCache_of_ne hj]
    rfl

/-- Whoever empties a cache came for that. -/
theorem Turn.sent (h : Turn b c m x c' y) (hx : x.Sent) : y.Sent := by
  cases h with
  | gate _ _ => exact fun _ _ => rfl
  | @begin call p =>
      cases call with
      | closeAll => exact fun _ _ => rfl
      | isValid | hasMain | setContacts => exact sent_working rfl
      | isValidAnywhere | suggest | refresh => exact sent_of_ne fun _ => rfl
  | gone | refused => exact sent_of_ne fun _ => rfl
  | stride h =>
      cases h with
      | lent _ => exact sent_working rfl
      | @looking plan p _ =>
          cases plan with
          | search word cap =>
              exact sent_of_ne (heads_follow c.service p word cap).empties
          | close => exact fun _ _ => rfl
          | contacts on => exact sent_working rfl
      | @working j z z' t after p h =>
          intro i hi
          by_cases hj : j = i
          · subst hj
            rw [atCache_self] at hi
            have hz := hx j
            rw [atCache_self] at hz
            exact hz (h.empties hi)
          · rw [atCache_of_ne hj] at hi
            cases hi
      | concluding => exact sent_of_ne (heads_conclude ..).empties
      | differing => exact fun _ _ => rfl
      | unlent | same | replacing | restoring | exiting | announcing =>
          exact sent_of_ne fun _ => rfl

end Step

end Caller

/-! ## The cache of the enabled locales -/

/-- The cache of the enabled locales has room for them and is asked for no others, nobody is at work
on the ones before, and whoever empties it came for that. -/
structure Housed (calls : List Call) (s : Service σ δ) (callers : List Caller) : Prop where
  apart : s.enabled.cache ≠ single
  current : ∀ x ∈ callers, ∀ i ∈ x.caches, i = single ∨ i = s.enabled.cache
  evictions : ∀ i, i ≠ single → (s.cacheState i).cache.stats.evictions = 0
  ample : (s.cacheState s.enabled.cache).cache.Ample s.enabled.locales
  within : ∀ x ∈ callers, x.Within s.enabled
  evicts : ∀ x ∈ callers, (x.atCache s.enabled.cache).evicts = false
  errands : ∀ (n : Nat) (x : Caller) (call : Call), callers[n]? = some x →
    x.errand? = some call → calls[n]? = some call
  sent : ∀ x ∈ callers, x.Sent
  differs : ∀ x ∈ callers, ∀ locales, x.replaces? = some locales → s.enabled.locales ≠ locales

theorem housed_ofSettings (settings : Settings) (st : σ) (locales : List Locale) :
    Housed [] (ofSettings settings st locales : Service σ δ) [] where
  apart := Nat.one_ne_zero
  current _ hx := absurd hx List.not_mem_nil
  evictions i hi := by
    match i with
    | 0 => exact absurd rfl hi
    | 1 => rfl
    | i + 2 => rfl
  ample := ⟨length_le_enabledRoom settings locales, fun k hk => absurd hk (Nat.not_lt_zero k)⟩
  within _ hx := absurd hx List.not_mem_nil
  evicts _ hx := absurd hx List.not_mem_nil
  errands _ _ _ hx := nomatch List.getElem?_nil.symm.trans hx
  sent _ hx := absurd hx List.not_mem_nil
  differs _ hx := absurd hx List.not_mem_nil

section Housed

variable {settings : Settings} {calls : List Call} {gs : List Grant} {c c' : Crowd σ δ}
  {call? : Option Call} {g? : Option Grant} {m n : Nat} {x y : Caller} {s s' : Service σ δ}
  {callers : List Caller}

/-- Nobody else is inside with a caller that goes over all residents of a cache. -/
theorem Bounded.sole (hb : Bounded settings calls gs c) (hx : c.callers[m]? = some x) {i : Nat}
    (hsweeps : (x.atCache i).sweeps = true) {q : Permit} (hy : c.callers[n]? = some y)
    (hq : y.permit? = some q) : m = n := by
  obtain ⟨hchanges, p, hp⟩ := Caller.changes_of_sweeps hsweeps
  obtain ⟨call, hcall, hcallchanges⟩ := hb.changers m x hx hchanges
  exact hb.admits.sole settings.maxReaders.2 hcall hcallchanges hx hp hy hq

/-- What a caller goes on with that keeps to its call and to the enabled locales. -/
structure Keeps (calls : List Call) (e : EnabledSet) (m : Nat) (y : Caller) : Prop where
  within : y.Within e
  errand : ∀ call, y.errand? = some call → calls[m]? = some call
  sent : y.Sent
  differs : ∀ locales, y.replaces? = some locales → e.locales ≠ locales

/-- The enabled locales stay as they are. -/
theorem Housed.set (hs : Housed calls s callers) (henabled : s'.enabled = s.enabled)
    (hevictions : ∀ i, i ≠ single → (s'.cacheState i).cache.stats.evictions = 0)
    (hample : (s'.cacheState s.enabled.cache).cache.Ample s.enabled.locales)
    (hcaches : ∀ i ∈ y.caches, i = single ∨ i = s.enabled.cache)
    (hevicts : (y.atCache s.enabled.cache).evicts = false) (hy : Keeps calls s.enabled m y) :
    Housed calls s' (callers.set m y) := by
  refine ⟨?_, ?_, hevictions, ?_, ?_, ?_, ?_, forall_mem_set m hs.sent hy.sent, ?_⟩
  all_goals try rw [henabled]
  · exact hs.apart
  · exact forall_mem_set m hs.current hcaches
  · exact hample
  · exact forall_mem_set m hs.within hy.within
  · exact forall_mem_set m hs.evicts hevicts
  · intro n z call hz hcall
    rcases getElem?_set_cases hz with ⟨rfl, rfl⟩ | ⟨-, hz⟩
    · exact hy.errand call hcall
    · exact hs.errands n z call hz hcall
  · exact forall_mem_set m hs.differs hy.differs

/-- Somebody begins a call. -/
theorem Housed.arrive (hs : Housed calls s callers) (hlength : calls.length = callers.length)
    (g : Gate) (call : Call) :
    Housed (calls ++ [call]) s (callers ++ [call.start s.settings g]) := by
  have hall : ∀ {P : Caller → Prop}, (∀ z ∈ callers, P z) → P (call.start s.settings g) →
      ∀ z ∈ callers ++ [call.start s.settings g], P z := by
    intro P hP hnew z hz
    rcases List.mem_append.mp hz with hz | hz
    · exact hP z hz
    · cases List.mem_singleton.mp hz
      exact hnew
  refine ⟨hs.apart, hall hs.current ?_, hs.evictions, hs.ample, hall hs.within trivial,
    hall hs.evicts rfl, ?_, hall hs.sent ?_, hall hs.differs ?_⟩
  · exact fun i hi => nomatch hi
  · intro n z call' hz hcall
    rcases getElem?_append_cases hz with hz | ⟨rfl, rfl⟩
    · exact getElem?_append_of_some (hs.errands n z call' hz hcall) _
    · cases hcall
      rw [← hlength]
      exact List.getElem?_concat_length
  · exact Caller.sent_of_ne fun _ => rfl
  · exact fun locales hlocales => nomatch hlocales

section Turn

variable (hb : Bounded settings calls gs c) (hc : Housed calls c.service c.callers)
  {z z' : Cache.Caller} {t : CacheState σ δ} {after : After} {p : Permit}

include hb hc

/-- Nothing is noted as to be closed while somebody asks for a dictionary. -/
theorem Housed.closing_eq_nil
    (hx : c.callers[m]? = some (.working c.service.enabled.cache z after p))
    (hz : z.empties = false) :
    (c.service.cacheState c.service.enabled.cache).cache.closing = [] := by
  have haccounts := (hb.booked.books _ hb.booked.enabled).accounts
  refine List.eq_nil_iff_forall_not_mem.mpr ?_
  intro entry hentry
  obtain ⟨w, hw, hforgets⟩ := haccounts.debts.forgets entry hentry
  obtain ⟨v, hv, rfl⟩ := List.mem_map.mp hw
  rcases Cache.Caller.empties_of_forgets hforgets with hempties | hevicts
  · obtain ⟨j, hj⟩ := List.getElem?_of_mem hv
    obtain rfl := hb.sole hj (Cache.Caller.sweeps_of_empties hempties) hx rfl
    cases hj.symm.trans hx
    rw [Caller.atCache_self, hz] at hempties
    cases hempties
  · rw [hc.evicts v hv] at hevicts
    cases hevicts

/-- Work on the cache of the enabled locales stays within these. -/
theorem Housed.stays (hx : c.callers[m]? = some (.working c.service.enabled.cache z after p))
    (h : Cache.Caller.Turn b m (c.service.cacheState c.service.enabled.cache) z t z') :
    Cache.Caller.Stays c.service.enabled.locales
      (c.service.cacheState c.service.enabled.cache) t z' := by
  have hmem := List.mem_of_getElem? hx
  have haccounts := (hb.booked.books _ hb.booked.enabled).accounts
  have hz : z ∈ (c.service.crowdAt c.callers c.service.enabled.cache).callers :=
    List.mem_of_getElem? (crowdAt_working hx)
  have hevicts := hc.evicts _ hmem
  rw [Caller.atCache_self] at hevicts
  refine h.stays hc.ample haccounts.sound.lineage haccounts.compact ((hc.within _ hmem).1 rfl) ?_
    hevicts (hc.closing_eq_nil hb hx)
  intro k hk
  refine Nat.lt_of_not_le ?_
  intro hle
  have hpos : 0 < (c.service.cacheState c.service.enabled.cache).cache.readersOf k :=
    haccounts.sound.readersOf_pos hz hk
  rw [Cache.readersOf_of_length_le _ hle] at hpos
  exact Nat.lt_irrefl 0 hpos

/-- Whoever makes a step keeps to its call and to the enabled locales. -/
theorem Housed.keeps (hx : c.callers[m]? = some x) (h : Caller.Turn b c m x c' y) :
    Keeps calls c.service.enabled m y := by
  have hmem := List.mem_of_getElem? hx
  refine ⟨?_, fun call hcall => hc.errands m x call hx (h.errand hcall),
    h.sent (hc.sent x hmem), ?_⟩
  · refine h.within hc.apart (hc.within x hmem) ?_
    rintro z z' t after p rfl ht
    exact (hc.stays hb hx ht).seeks
  · intro locales hlocales
    rcases (h.replaces hlocales).2 with hwas | hne
    · exact hc.differs x hmem locales hwas
    · exact hne

/-- A caller makes a step on one of the caches. -/
theorem Housed.work {i : Nat} (hx : c.callers[m]? = some (.working i z after p))
    (h : Cache.Caller.Turn b m (c.service.cacheState i) z t z')
    (hy : Keeps calls c.service.enabled m (.working i z' after p)) :
    Housed calls (c.service.withCache i t) (c.callers.set m (.working i z' after p)) := by
  have hcurrent := hc.current _ (List.mem_of_getElem? hx)
  have hcaches : ∀ j ∈ (Caller.working i z' after p).caches,
      j = single ∨ j = c.service.enabled.cache := by
    intro j hj
    rw [Caller.caches_working (z := z)] at hj
    exact hcurrent j hj
  rcases hcurrent i Caller.mem_caches with rfl | rfl
  · -- the cache of the enabled locales is another one
    refine hc.set rfl ?_ ?_ hcaches ?_ hy
    · intro j hj
      rw [cacheState_withCache_of_ne _ _ _ _ hj.symm]
      exact hc.evictions j hj
    · rw [cacheState_withCache_of_ne _ _ _ _ hc.apart.symm]
      exact hc.ample
    · rw [Caller.atCache_of_ne hc.apart.symm]
      rfl
  · have hstays := hc.stays hb hx h
    refine hc.set rfl ?_ ?_ hcaches ?_ hy
    · intro j hj
      by_cases he : c.service.enabled.cache = j
      · subst he
        rw [cacheState_withCache_self hb.booked.enabled, hstays.evictions]
        exact hc.evictions _ hj
      · rw [cacheState_withCache_of_ne _ _ _ _ he]
        exact hc.evictions j hj
    · rw [cacheState_withCache_self hb.booked.enabled]
      exact hstays.ample
    · rw [Caller.atCache_self]
      exact hstays.evicts

/-- A caller replaces the enabled locales, alone inside. -/
theorem Housed.enable {locales : List Locale}
    (hx : c.callers[m]? = some (.replacing locales p)) :
    Housed calls (c.service.enable locales) (c.callers.set m (.exiting (.flag true) p)) := by
  obtain ⟨call, hcall, hchanges⟩ := hb.changers m _ hx rfl
  have hothers : ∀ z ∈ c.callers.set m (.exiting (.flag true) p), z = .exiting (.flag true) p ∨
      z.permit? = none := by
    intro z hz
    obtain ⟨j, hj⟩ := List.getElem?_of_mem hz
    rcases getElem?_set_cases hj with ⟨-, rfl⟩ | ⟨hne, hj⟩
    · exact .inl rfl
    · exact .inr (hb.admits.outside settings.maxReaders.2 hcall hchanges hx rfl hj hne)
  have hall : ∀ {P : Caller → Prop}, P (.exiting (.flag true) p) →
      (∀ z, z.permit? = none → P z) → ∀ z ∈ c.callers.set m (.exiting (.flag true) p), P z := by
    intro P hself hout z hz
    rcases hothers z hz with rfl | hz
    · exact hself
    · exact hout z hz
  refine ⟨Nat.ne_of_gt hb.booked.single, hall nofun ?_, ?_, ?_, hall trivial ?_, hall rfl ?_, ?_, ?_,
    hall nofun ?_⟩
  · intro z hz i hi
    rw [(Caller.idle_of_outside (e := c.service.enabled) hz).1] at hi
    cases hi
  · intro i hi
    rcases Nat.decEq i c.service.caches.length with hne | rfl
    · rw [cacheState_enable_of_ne _ _ _ hne]
      exact hc.evictions i hi
    · rw [cacheState_enable_new]
      rfl
  · show ((c.service.enable locales).cacheState c.service.caches.length).cache.Ample locales
    rw [cacheState_enable_new]
    exact ⟨length_le_enabledRoom .., fun k hk => absurd hk (Nat.not_lt_zero k)⟩
  · exact fun z hz => (Caller.idle_of_outside hz).2.2.1
  · intro z hz
    rw [(Caller.idle_of_outside (e := c.service.enabled) hz).2.1]
    rfl
  · intro n z call hz hcall
    rcases getElem?_set_cases hz with ⟨rfl, rfl⟩ | ⟨-, hz⟩
    · cases hcall
    · exact hc.errands n z call hz hcall
  · exact forall_mem_set m hc.sent (Caller.sent_of_ne fun _ => rfl)
  · intro z hz l hl
    rw [(Caller.idle_of_outside (e := c.service.enabled) hz).2.2.2] at hl
    cases hl

theorem Housed.turn (hx : c.callers[m]? = some x) (h : Caller.Turn b c m x c' y) :
    Housed calls c'.service (c.callers.set m y) := by
  have hkeeps := hc.keeps hb hx h
  have htouch := h.touch
  generalize c'.service = s' at htouch
  cases htouch with
  | work ht => exact hc.work hb hx ht hkeeps
  | enable => exact hc.enable hb hx
  | apart _ hgoes =>
      obtain ⟨-, henabled, hcaches, -⟩ := hgoes.unmoved
      have hcache := cacheState_of_caches hcaches
      refine hc.set henabled ?_ ?_ ?_ (hgoes.idle _).evicts hkeeps
      · intro i hi
        rw [hcache]
        exact hc.evictions i hi
      · rw [hcache]
        exact hc.ample
      · intro i hi
        rcases hgoes.caches i hi with hwas | hnew
        · exact hc.current x (List.mem_of_getElem? hx) i hwas
        · exact hnew

theorem Housed.happens (h : Happens b c call? g? c') :
    Housed (calls ++ call?.toList) c'.service c'.callers := by
  cases h with
  | arrival => exact hc.arrive hb.admits.length _ _
  | nothing => simpa using hc
  | turn hx h => simpa using hc.turn hb hx h

/-- **The cache of the enabled locales never evicts**, whatever happens. -/
theorem Housed.run (acts : List Happening) :
    Housed (calls ++ acts.filterMap Happening.call?) (c.run b acts).service
      (c.run b acts).callers :=
  hb.run_keeps (P := fun calls c => Housed calls c.service c.callers)
    (fun hb hc h => hc.happens hb h) hc acts

end Turn

end Housed

end Spelling.Service
