import Spelling.Proofs.Cache.Bound
import Spelling.Proofs.Service.Admission
import Spelling.Proofs.Service.Stands

/-!
# A service seen from one of its caches

The caches of a service share its callers and the world.  Seen from one cache (`atCache`), a caller
that works there is a caller of the cache, and everybody else is at its end.  A step of a caller of
the service is then one of three things to a cache (`Touch`):

    work      a step of a caller of the cache, or of another one
    enable    a new cache, which nobody has called
    apart     nothing, but that a caller may begin a call on the cache or has ended one

So whatever every run keeps for a cache and its callers, every run keeps for each cache of a service
(`Booked`); the events of the other caches are none of its own.
-/

namespace Spelling.Service

variable {σ δ : Type} {b : Backend σ δ}

/-! ## What a step does to the caches -/

/-- Nothing happened to the caches. -/
structure Unmoved (s s' : Service σ δ) : Prop where
  settings : s'.settings = s.settings
  enabled : s'.enabled = s.enabled
  caches : s'.caches = s.caches
  events : s'.world.events = s.world.events

theorem Unmoved.refl (s : Service σ δ) : s.Unmoved s := ⟨rfl, rfl, rfl, rfl⟩

namespace Caller

/-- Where a caller is, seen from one of the caches. -/
def atCache (i : Nat) : Caller → Cache.Caller
  | working j z _ _ => if j = i then z else .done .nothing
  | entering .. | leasing .. | looking .. | comparing .. | replacing .. | restoring .. | exiting ..
  | announcing _ | done _ => .done .nothing

/-- The caches that a caller works on, now or when its question is answered. -/
def caches : Caller → List Nat
  | working i _ (.search _ _ cache _ _ _) _ => [i, cache]
  | working i _ _ _ => [i]
  | entering .. | leasing .. | looking .. | comparing .. | replacing .. | restoring .. | exiting ..
  | announcing _ | done _ => []

section Places

variable {s : Service σ δ} {p : Permit} {i : Nat}

theorem atCache_self {z : Cache.Caller} {after : After} :
    (working i z after p).atCache i = z := if_pos rfl

theorem atCache_of_ne {j : Nat} {z : Cache.Caller} {after : After} (h : j ≠ i) :
    (working j z after p).atCache i = .done .nothing := if_neg h

theorem mem_caches {z : Cache.Caller} {after : After} : i ∈ (working i z after p).caches := by
  cases after <;> exact List.mem_cons_self

theorem atCache_of_not_mem {x : Caller} (h : i ∉ x.caches) : x.atCache i = .done .nothing := by
  cases x with
  | working j z after p =>
      refine atCache_of_ne ?_
      rintro rfl
      exact h mem_caches
  | entering | leasing | looking | comparing | replacing | restoring | exiting | announcing
  | done => rfl

/-- A caller that begins a call on a cache is seen to begin it there, and nowhere else. -/
theorem idle_working {j : Nat} (call : Cache.Call) {after : After} :
    ((working j call.start after p).atCache i).Idle := by
  by_cases h : j = i
  · subst h
    rw [atCache_self]
    exact .start
  · rw [atCache_of_ne h]
    exact .done

theorem idle_concluded {j : Nat} {a : Cache.Answer} {after : After} :
    ((working j (.done a) after p).atCache i).Idle := by
  by_cases h : j = i
  · subst h
    rw [atCache_self]
    exact .done
  · rw [atCache_of_ne h]
    exact .done

theorem idle_begin (call : Call) : ((begin p call).atCache i).Idle := by
  cases call with
  | isValid | hasMain | closeAll | setContacts => exact idle_working _
  | isValidAnywhere | suggest | refresh => exact .done

theorem caches_begin (call : Call) {j : Nat} (hj : j ∈ (begin p call).caches) : j = single := by
  cases call with
  | isValid | hasMain | closeAll | setContacts => exact List.mem_singleton.mp hj
  | isValidAnywhere | suggest | refresh => cases hj

/-- A caller goes on, and nothing happened to the caches. -/
structure GoesOn (s : Service σ δ) (known : List Nat) (r : Service σ δ × Caller) : Prop where
  unmoved : s.Unmoved r.1
  idle : ∀ i, (r.2.atCache i).Idle
  caches : ∀ i ∈ r.2.caches, i ∈ known ∨ i = single ∨ i = s.enabled.cache

theorem goesOn_search {known : List Nat} (word : String) (cap : Capitalization) {cache : Nat}
    (all : List Locale) (hcache : cache ∈ known ∨ cache = single ∨ cache = s.enabled.cache)
    (locales : List Locale) :
    GoesOn s known (search s word cap cache all p locales) := by
  cases locales with
  | nil => exact ⟨⟨rfl, rfl, rfl, rfl⟩, fun _ => .done, nofun⟩
  | cons l rest =>
      refine ⟨.refl s, fun _ => idle_working _, ?_⟩
      intro i hi
      obtain rfl : i = cache := by simpa [search, caches] using hi
      exact hcache

theorem goesOn_follow (plan : Plan) : GoesOn s [] (follow s p plan) := by
  cases plan with
  | search word cap => exact goesOn_search word cap _ (.inr (.inr rfl)) _
  | close | contacts _ =>
      refine ⟨.refl s, fun _ => idle_working _, ?_⟩
      intro i hi
      exact .inr (.inr (List.mem_singleton.mp hi))

theorem unmoved_corrections (typed : String) (l : Locale) (o : Outcome Reply) :
    s.Unmoved (s.corrections typed l o).2 := by
  cases o with
  | returned r => cases r <;> exact ⟨rfl, rfl, rfl, rfl⟩
  | broken message => exact .refl s
  | endless => exact .refl s

theorem goesOn_conclude (a : Cache.Answer) (after : After) :
    GoesOn s (working i (.done a) after p).caches (conclude s a p after) := by
  cases after with
  | corrections typed l session =>
      exact ⟨unmoved_corrections typed l (outcomeOf a), fun _ => .done, List.forall_mem_nil _⟩
  | search word cap cache l rest all =>
      simp only [conclude]
      cases outcomeOf a with
      | returned r =>
          simp only []
          split
          · exact ⟨⟨rfl, rfl, rfl, rfl⟩, fun _ => .done, List.forall_mem_nil _⟩
          · refine goesOn_search word cap all (.inl ?_) rest
            exact List.mem_cons_of_mem _ List.mem_cons_self
      | broken message => exact ⟨.refl s, fun _ => .done, List.forall_mem_nil _⟩
      | endless => exact ⟨.refl s, fun _ => .done, List.forall_mem_nil _⟩
  | flag | look _ | replace _ => exact ⟨.refl s, fun _ => .done, List.forall_mem_nil _⟩
  | closed | contacts _ => exact ⟨⟨rfl, rfl, rfl, rfl⟩, fun _ => .done, List.forall_mem_nil _⟩

theorem unmoved_giveUp (call : Call) (requested : Nat) :
    s.Unmoved (giveUp s call requested).1 := by
  cases call with
  | suggest l composed context keyboard patience =>
      cases patience <;> exact ⟨rfl, rfl, rfl, rfl⟩
  | isValid | isValidAnywhere | hasMain | closeAll | setContacts | refresh => exact .refl s

end Places

variable {c c' : Crowd σ δ} {m : Nat} {x y : Caller}

/-- What a step of a caller does to the caches. -/
inductive Touch (b : Backend σ δ) (c : Crowd σ δ) (m : Nat) : Caller → Service σ δ → Caller → Prop
  | work {i : Nat} {z z' : Cache.Caller} {t : CacheState σ δ} {after : After} {p : Permit} :
      Cache.Caller.Turn b m (c.service.cacheState i) z t z' →
      Touch b c m (working i z after p) (c.service.withCache i t) (working i z' after p)
  | enable {locales : List Locale} {p : Permit} :
      Touch b c m (replacing locales p) (c.service.enable locales) (exiting (.flag true) p)
  | apart {x y : Caller} {s : Service σ δ} : (∀ i, (x.atCache i).Idle) →
      GoesOn c.service x.caches (s, y) → Touch b c m x s y

theorem Turn.touch (h : Turn b c m x c' y) : Touch b c m x c'.service y := by
  cases h with
  | gate _ _ => exact .apart (fun _ => .done) ⟨.refl _, fun _ => .done, nofun⟩
  | begin =>
      exact .apart (fun _ => .done)
        ⟨.refl _, fun _ => idle_begin _, fun _ hi => .inr (.inl (caches_begin _ hi))⟩
  | gone => exact .apart (fun _ => .done) ⟨unmoved_giveUp _ _, fun _ => .done, nofun⟩
  | refused => exact .apart (fun _ => .done) ⟨.refl _, fun _ => .done, nofun⟩
  | stride h =>
      cases h with
      | unlent _ => exact .apart (fun _ => .done) ⟨⟨rfl, rfl, rfl, rfl⟩, fun _ => .done, nofun⟩
      | @lent l composed context keyboard p session sessions _ =>
          refine .apart (fun _ => .done) ⟨⟨rfl, rfl, rfl, rfl⟩, ?_, ?_⟩
          · intro i
            exact idle_working (.ask l _)
          · intro i hi
            exact .inr (.inl (List.mem_singleton.mp hi))
      | looking _ => exact .apart (fun _ => .done) (goesOn_follow _)
      | working h => exact .work h
      | concluding => exact .apart (fun _ => idle_concluded) (goesOn_conclude _ _)
      | same _ _ => exact .apart (fun _ => .done) ⟨.refl _, fun _ => .done, nofun⟩
      | differing _ _ =>
          refine .apart (fun _ => .done) ⟨.refl _, ?_, ?_⟩
          · intro i
            exact idle_working .closeAll
          · intro i hi
            exact .inr (.inr (List.mem_singleton.mp hi))
      | replacing => exact .enable
      | restoring => exact .apart (fun _ => .done) ⟨⟨rfl, rfl, rfl, rfl⟩, fun _ => .done, nofun⟩
      | exiting => exact .apart (fun _ => .done) ⟨.refl _, fun _ => .done, nofun⟩
      | announcing => exact .apart (fun _ => .done) ⟨.refl _, fun _ => .done, nofun⟩

theorem caches_working {i : Nat} {z z' : Cache.Caller} {after : After} {p : Permit} :
    (working i z' after p).caches = (working i z after p).caches := by
  cases after <;> rfl

end Caller

/-! ## The books of every cache -/

/-- One of the caches of a service, and the callers as it sees them. -/
def crowdAt (s : Service σ δ) (callers : List Caller) (i : Nat) : Cache.Crowd σ δ :=
  ⟨s.cacheState i, callers.map (Caller.atCache i)⟩

/-- A cache of a service has its books in order, room, and as many session numbers as there are. -/
structure Books (n i : Nat) (c : Cache.Crowd σ δ) : Prop where
  sessions : c.state.cache.sessions = n
  room : 0 < c.state.cache.capacity
  accounts : c.Accounts i c.state.cache.capacity

/-- The books of all caches of a service are in order, and no caller works on any other. -/
structure Booked (settings : Settings) (s : Service σ δ) (callers : List Caller) : Prop where
  made : s.settings = settings
  single : Service.single < s.caches.length
  enabled : s.enabled.cache < s.caches.length
  capacity : (s.cacheState Service.single).cache.capacity = settings.cacheCapacity.1
  works : ∀ x ∈ callers, ∀ i ∈ x.caches, i < s.caches.length
  known : ∀ e ∈ s.world.events, e.cache < s.caches.length
  books : ∀ i, i < s.caches.length → Books settings.maxReaders.1 i (s.crowdAt callers i)

section Books

variable {n i m : Nat} {s s' : Service σ δ} {t : CacheState σ δ} {callers : List Caller}
  {x y : Caller}

theorem crowdAt_set (callers : List Caller) (m : Nat) (y : Caller) :
    s.crowdAt (callers.set m y) i =
      ⟨s.cacheState i, (callers.map (Caller.atCache i)).set m (y.atCache i)⟩ := by
  rw [crowdAt, List.map_set]

theorem crowdAt_getElem? (hx : callers[m]? = some x) :
    (s.crowdAt callers i).callers[m]? = some (x.atCache i) := by
  rw [crowdAt, List.getElem?_map, hx]
  rfl

/-- A caller at work on the cache is seen there. -/
theorem crowdAt_working {z : Cache.Caller} {after : After} {p : Permit}
    (hx : callers[m]? = some (.working i z after p)) :
    (s.crowdAt callers i).callers[m]? = some z := by
  rw [crowdAt_getElem? hx, Caller.atCache_self]

theorem cacheState_withCache_self (hi : i < s.caches.length) :
    (s.withCache i t).cacheState i = t := by
  simp [cacheState, withCache, hi]

theorem enabledRoom_pos (settings : Settings) (locales : List Locale) :
    0 < enabledRoom settings locales := by
  have hpos := settings.cacheCapacity.2
  rw [enabledRoom, roomNeeded?]
  split
  · next h => exact Nat.lt_trans hpos h
  · exact hpos

/-- A caller of the cache makes a step. -/
theorem Books.turn {z z' : Cache.Caller} {c : Cache.Crowd σ δ} (hc : Books n i c)
    (hz : c.callers[m]? = some z) (h : Cache.Caller.Turn b m c.state z t z') :
    Books n i ⟨t, c.callers.set m z'⟩ := by
  obtain ⟨-, hcapacity, hsessions⟩ := h.made
  refine ⟨hsessions.trans hc.sessions, ?_, ?_⟩
  · show 0 < t.cache.capacity
    exact hcapacity ▸ hc.room
  · show Cache.Crowd.Accounts i t.cache.capacity _
    exact hcapacity ▸ hc.accounts.turn hc.room hz h

/-- Something is done elsewhere, and one caller begins a call or is at its end. -/
theorem Books.elsewhere {z z' : Cache.Caller} {c : Cache.Crowd σ δ} {es : List Event}
    (hc : Books n i c) (hz : c.callers[m]? = some z) (hidle : z.Idle) (hidle' : z'.Idle)
    (hcache : t.cache = c.state.cache) (hevents : t.world.events = c.state.world.events ++ es)
    (hes : ∀ e ∈ es, e.cache ≠ i) : Books n i ⟨t, c.callers.set m z'⟩ := by
  refine ⟨hcache ▸ hc.sessions, ?_, ?_⟩
  · show 0 < t.cache.capacity
    exact hcache ▸ hc.room
  · show Cache.Crowd.Accounts i t.cache.capacity _
    rw [hcache]
    exact (hc.accounts.replace hz hidle hidle').elsewhere hcache hevents hes

/-- What work on a cache tells is of that cache. -/
theorem cache_of_told {c c' : Cache δ} {es : List Event} (h : Cache.Told c c' es) :
    ∀ e ∈ es, e.cache = c.label := by
  cases h with
  | nothing => nofun
  | opened | used | closed =>
      intro e he
      cases List.mem_singleton.mp he
      rfl

variable {settings : Settings}

/-- The books of a new cache are in order. -/
theorem books_new {capacity : Nat} {on : Bool} {c : Cache.Crowd σ δ} (hroom : 0 < capacity)
    (hcache : c.state.cache = .ofCapacity i capacity ⟨on, n⟩)
    (hevents : ∀ e ∈ c.state.world.events, e.cache ≠ i) (hidle : ∀ z ∈ c.callers, z.Idle) :
    Books n i c := by
  have hcapacity : c.state.cache.capacity = capacity := hcache ▸ rfl
  refine ⟨hcache ▸ rfl, hcapacity ▸ hroom, ?_⟩
  exact hcapacity ▸ Cache.Crowd.accounts_new hcache hevents hidle

theorem booked_ofSettings (settings : Settings) (st : σ) (locales : List Locale) :
    Booked settings (ofSettings settings st locales : Service σ δ) [] where
  made := rfl
  single := Nat.zero_lt_two
  enabled := Nat.one_lt_two
  capacity := rfl
  works x hx := absurd hx List.not_mem_nil
  known e he := absurd he List.not_mem_nil
  books i hi := by
    let s : Service σ δ := ofSettings settings st locales
    have hnone : ∀ e ∈ s.world.events, e.cache ≠ i := fun e he => absurd he List.not_mem_nil
    have hnobody : ∀ z ∈ (s.crowdAt [] i).callers, z.Idle := fun z hz => absurd hz List.not_mem_nil
    have htwo : i < 2 := hi
    obtain rfl | rfl : i = 0 ∨ i = 1 := by omega
    · exact books_new settings.cacheCapacity.2 rfl hnone hnobody
    · exact books_new (enabledRoom_pos settings locales) rfl hnone hnobody

/-- Work on a cache tells of that cache. -/
theorem Booked.told (hs : Booked settings s callers) {j : Nat} {z z' : Cache.Caller}
    {after : After} {p : Permit} (hx : callers[m]? = some (.working j z after p))
    (h : Cache.Caller.Turn b m (s.cacheState j) z t z') :
    ∃ es, t.world.events = s.world.events ++ es ∧ ∀ e ∈ es, e.cache = j := by
  have haccounts := (hs.books j (hs.works _ (List.mem_of_getElem? hx) j Caller.mem_caches)).accounts
  have hmem : z ∈ (s.crowdAt callers j).callers := List.mem_of_getElem? (crowdAt_working hx)
  obtain ⟨es, hevents, htold⟩ := h.told haccounts.sound.lineage (haccounts.sound.fits z hmem)
    fun k => haccounts.sound.isOpening hmem
  refine ⟨es, hevents, ?_⟩
  intro e he
  exact (cache_of_told htold e he).trans haccounts.label

/-- A caller makes a step on one of the caches. -/
theorem Booked.work (hs : Booked settings s callers) {j : Nat} {z z' : Cache.Caller}
    {after : After} {p : Permit} (hx : callers[m]? = some (.working j z after p))
    (h : Cache.Caller.Turn b m (s.cacheState j) z t z') :
    Booked settings (s.withCache j t) (callers.set m (.working j z' after p)) := by
  have hj : j < s.caches.length := hs.works _ (List.mem_of_getElem? hx) j Caller.mem_caches
  obtain ⟨-, hcapacity, -⟩ := h.made
  have hz : (s.crowdAt callers j).callers[m]? = some z := crowdAt_working hx
  obtain ⟨es, hevents, hes⟩ := hs.told hx h
  have hlength : (s.withCache j t).caches.length = s.caches.length := by
    rw [withCache, List.length_set]
  refine ⟨hs.made, hlength ▸ hs.single, hlength ▸ hs.enabled, ?_, ?_, ?_, ?_⟩
  · by_cases hsingle : j = Service.single
    · subst hsingle
      rw [cacheState_withCache_self hj, hcapacity]
      exact hs.capacity
    · rw [cacheState_withCache_of_ne _ _ _ t hsingle]
      exact hs.capacity
  · intro x hx' i hi
    rw [hlength]
    rcases List.mem_or_eq_of_mem_set hx' with hx' | rfl
    · exact hs.works x hx' i hi
    · rw [Caller.caches_working (z := z)] at hi
      exact hs.works _ (List.mem_of_getElem? hx) i hi
  · intro e he
    rw [hlength]
    have hmem : e ∈ s.world.events ++ es := hevents ▸ he
    rcases List.mem_append.mp hmem with he | he
    · exact hs.known e he
    · exact hes e he ▸ hj
  · intro i hi
    rw [hlength] at hi
    rw [crowdAt_set]
    by_cases hij : j = i
    · subst hij
      rw [cacheState_withCache_self hj, Caller.atCache_self]
      exact (hs.books j hj).turn hz h
    · have hz : (s.crowdAt callers i).callers[m]? = some (.done .nothing) := by
        rw [crowdAt_getElem? hx, Caller.atCache_of_ne hij]
      rw [Caller.atCache_of_ne hij]
      refine (hs.books i hi).elsewhere hz .done .done
        (cacheState_withCache_of_ne s j i t hij) hevents ?_
      intro e he
      exact hes e he ▸ hij

/-- A caller replaces the enabled locales. -/
theorem Booked.enable (hs : Booked settings s callers) (hx : callers[m]? = some x)
    (hidle : ∀ i, (x.atCache i).Idle) (hidle' : ∀ i, (y.atCache i).Idle) (hnone : y.caches = [])
    (locales : List Locale) : Booked settings (s.enable locales) (callers.set m y) := by
  have hlength : (s.enable locales).caches.length = s.caches.length + 1 := by
    simp [Service.enable]
  refine ⟨hs.made, ?_, ?_, ?_, ?_, ?_, ?_⟩
  · rw [hlength]
    exact Nat.lt_succ_of_lt hs.single
  · rw [hlength]
    exact Nat.lt_succ_self _
  · rw [cacheState_enable_of_lt _ _ _ hs.single]
    exact hs.capacity
  · intro z hz i hi
    rw [hlength]
    rcases List.mem_or_eq_of_mem_set hz with hz | rfl
    · exact Nat.lt_succ_of_lt (hs.works z hz i hi)
    · rw [hnone] at hi
      cases hi
  · intro e he
    rw [hlength]
    exact Nat.lt_succ_of_lt (hs.known e he)
  · intro i hi
    rw [hlength] at hi
    rcases Nat.lt_succ_iff_lt_or_eq.mp hi with hi | rfl
    · rw [crowdAt_set]
      exact (hs.books i hi).elsewhere (crowdAt_getElem? hx) (hidle i) (hidle' i)
        (cacheState_enable_of_lt s i locales hi) (List.append_nil _).symm
        (List.forall_mem_nil _)
    · -- nobody works on the new cache yet, and nothing was done to it
      have hnew := cacheState_enable_new s locales
      rw [enabledCache, hs.made] at hnew
      refine books_new (enabledRoom_pos settings locales) hnew
        (fun e he => Nat.ne_of_lt (hs.known e he)) ?_
      intro w hw
      obtain ⟨z, hz, rfl⟩ := List.mem_map.mp hw
      rcases List.mem_or_eq_of_mem_set hz with hz | rfl
      · rw [Caller.atCache_of_not_mem fun hi => Nat.lt_irrefl _ (hs.works z hz _ hi)]
        exact .done
      · exact hidle' _

/-- A caller goes on without work on any cache. -/
theorem Booked.apart (hs : Booked settings s callers) (hx : callers[m]? = some x)
    (hidle : ∀ i, (x.atCache i).Idle) (h : Caller.GoesOn s x.caches (s', y)) :
    Booked settings s' (callers.set m y) := by
  obtain ⟨⟨hsettings, henabled, hcaches, hevents⟩, hidle', hknown⟩ := h
  have hcache := cacheState_of_caches hcaches
  refine ⟨hsettings.trans hs.made, hcaches ▸ hs.single, ?_, ?_, ?_, ?_, ?_⟩
  · rw [hcaches, henabled]
    exact hs.enabled
  · rw [hcache]
    exact hs.capacity
  · intro z hz i hi
    rw [hcaches]
    rcases List.mem_or_eq_of_mem_set hz with hz | rfl
    · exact hs.works z hz i hi
    · rcases hknown i hi with hi | rfl | rfl
      · exact hs.works x (List.mem_of_getElem? hx) i hi
      · exact hs.single
      · exact hs.enabled
  · rw [hcaches, hevents]
    exact hs.known
  · intro i hi
    rw [crowdAt_set]
    exact (hs.books i (hcaches ▸ hi)).elsewhere (crowdAt_getElem? hx) (hidle i) (hidle' i)
      (hcache i) (hevents.trans (List.append_nil _).symm) (List.forall_mem_nil _)

/-- A step of a caller keeps the books of all caches in order. -/
theorem Booked.touch {c : Crowd σ δ} (hs : Booked settings c.service callers)
    (hx : callers[m]? = some x) (h : Caller.Touch b c m x s' y) :
    Booked settings s' (callers.set m y) := by
  cases h with
  | work h => exact hs.work hx h
  | enable =>
      refine hs.enable hx ?_ ?_ rfl _
      · exact fun _ => .done
      · exact fun _ => .done
  | apart hidle h => exact hs.apart hx hidle h

/-- Somebody begins a call. -/
theorem Booked.arrive (hs : Booked settings s callers) (g : Gate) (call : Call) :
    Booked settings s (callers ++ [call.start s.settings g]) := by
  refine ⟨hs.made, hs.single, hs.enabled, hs.capacity, ?_, hs.known, ?_⟩
  · intro z hz i hi
    rcases List.mem_append.mp hz with hz | hz
    · exact hs.works z hz i hi
    · cases List.mem_singleton.mp hz
      cases hi
  · intro i hi
    obtain ⟨hsessions, hroom, haccounts⟩ := hs.books i hi
    refine ⟨hsessions, hroom, ?_⟩
    rw [crowdAt, List.map_append]
    exact haccounts.append .done

/-- Whatever happens, the books of all caches stay in order. -/
theorem Booked.happens {c c' : Crowd σ δ} {call? : Option Call} {g? : Option Grant}
    (hc : Booked settings c.service c.callers) (h : Happens b c call? g? c') :
    Booked settings c'.service c'.callers := by
  cases h with
  | arrival => exact hc.arrive _ _
  | nothing => exact hc
  | turn hx h => exact hc.touch hx h.touch

end Books

end Spelling.Service
