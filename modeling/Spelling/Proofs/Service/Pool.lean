import Spelling.Proofs.Cache.Carried
import Spelling.Proofs.Service.AtCache
import Spelling.Proofs.Service.Lending
import Spelling.Proofs.WordList.Steady

/-!
# Session numbers suffice

Every caller inside holds a permit, and there are as many session numbers as permits.  So whoever
asks for a number gets one (`Lending`), and the numbers that queries carry are those that were lent
(`Caller.session?`): no two of them agree.

Every cache of a service opens its dictionaries for as many sessions as there are numbers, the
caches of newly enabled locales included.  So a dictionary has scratch space for every query that it
is asked, and one made of word lists never says otherwise.
-/

namespace Spelling.Service

variable {σ δ : Type} {b : Backend σ δ}

/-! ## The numbers that queries carry -/

namespace Caller

/-- The session number that the query of a caller carries. -/
def session? : Caller → Option Nat
  | working _ z _ _ => z.session?
  | entering .. | leasing .. | looking .. | comparing .. | replacing .. | restoring .. | exiting ..
  | announcing _ | done _ => none

section Session

variable {c c' : Crowd σ δ} {m : Nat} {x y : Caller} {p : Permit}

theorem session?_begin (p : Permit) (call : Call) : (begin p call).session? = none := by
  cases call <;> rfl

theorem session?_search (s : Service σ δ) (word : String) (cap : Capitalization) (cache : Nat)
    (all : List Locale) (p : Permit) (locales : List Locale) :
    (search s word cap cache all p locales).2.session? = none := by
  cases locales <;> rfl

theorem session?_follow (s : Service σ δ) (p : Permit) (plan : Plan) :
    (follow s p plan).2.session? = none := by
  cases plan with
  | search word cap => exact session?_search ..
  | close | contacts _ => rfl

theorem session?_conclude (s : Service σ δ) (a : Cache.Answer) (after : After) :
    (conclude s a p after).2.session? = none := by
  cases after with
  | search word cap cache l rest all =>
      simp only [conclude]
      cases outcomeOf a with
      | returned r =>
          simp only []
          split
          · rfl
          · exact session?_search ..
      | broken message => rfl
      | endless => rfl
  | flag | corrections | look | closed | contacts | replace => rfl

/-- A query carries the number that its caller was lent. -/
def Carries (x : Caller) : Prop := ∀ k, x.session? = some k → x.lease? = some k

theorem carries_of_none (h : x.session? = none) : x.Carries := by
  intro k hk
  rw [h] at hk
  cases hk

theorem Carries.turn (hx : x.Carries) (h : Turn b c m x c' y) : y.Carries := by
  cases h with
  | gate _ _ => exact hx
  | begin => exact carries_of_none (session?_begin ..)
  | gone | refused => exact carries_of_none rfl
  | stride h =>
      cases h with
      | lent _ => exact fun k hk => hk
      | looking _ => exact carries_of_none (session?_follow ..)
      | @working i z z' t after p h =>
          intro k hk
          have hlease := hx k (h.session hk)
          cases after <;> exact hlease
      | concluding => exact carries_of_none (session?_conclude ..)
      | unlent | same | differing | replacing | restoring | exiting | announcing =>
          exact carries_of_none rfl

end Session

end Caller

/-! ## The caches and their callers -/

/-- What holds of the session numbers of a service, of its callers and of its caches. -/
structure Lends (b : Backend σ δ) (settings : Settings) (calls : List Call) (gs : List Grant)
    (c : Crowd σ δ) : Prop where
  admits : Admits settings.maxReaders.1 calls gs c
  pooled : Pooled settings.maxReaders.1 c
  booked : Booked settings c.service c.callers
  carries : ∀ x ∈ c.callers, x.Carries
  opened : ∀ e ∈ c.service.world.events, ∀ (o : Options) (success : Bool),
    e.deed = .opened o success → o.sessions = settings.maxReaders.1
  queried : ∀ e ∈ c.service.world.events, ∀ (typed : String) (k : Nat),
    e.deed = .queried typed k →
      k < settings.maxReaders.1 ∧ e.slot ∈ Event.openedIn e.cache c.service.world.events
  roomy : ∀ room : δ → Nat, b.Rooms room → ∀ i, i < c.service.caches.length →
    (c.service.cacheState i).cache.Roomy room settings.maxReaders.1

section Lends

variable {settings : Settings} {calls : List Call} {gs : List Grant} {c c' : Crowd σ δ}
  {call? : Option Call} {g? : Option Grant} {i j m k : Nat} {x y : Caller} {s' : Service σ δ}

theorem lends_ofSettings (b : Backend σ δ) (settings : Settings) (st : σ)
    (locales : List Locale) :
    Lends b settings [] [] (Crowd.ofService (ofSettings settings st locales)) where
  admits := admits_ofService rfl
  pooled := pooled_ofService (Sessions.idle_ofSize _)
  booked := booked_ofSettings settings st locales
  carries _ hx := absurd hx List.not_mem_nil
  opened _ he := absurd he List.not_mem_nil
  queried _ he := absurd he List.not_mem_nil
  roomy room _ i hi := by
    have htwo : i < 2 := hi
    obtain rfl | rfl : i = 0 ∨ i = 1 := by omega
    · exact Cache.roomy_of_slots rfl
    · exact Cache.roomy_of_slots rfl

/-- What a step tells of sessions. -/
theorem Booked.tells (hs : Booked settings c.service c.callers) (hx : c.callers[m]? = some x)
    (h : Caller.Touch b c m x s' y) :
    ∃ es, s'.world.events = c.service.world.events ++ es ∧ ∀ e ∈ es,
      (∀ (o : Options) (success : Bool), e.deed = .opened o success →
        o.sessions = settings.maxReaders.1) ∧
      ∀ (typed : String) (k : Nat), e.deed = .queried typed k → x.session? = some k ∧
        e.slot ∈ Event.openedIn e.cache c.service.world.events := by
  cases h with
  | @work j z z' t after p h =>
      obtain ⟨es, hevents, hcache⟩ := hs.told hx h
      obtain ⟨es', hevents', hlicit⟩ := h.licit
      obtain rfl : es = es' := List.append_cancel_left (hevents.symm.trans hevents')
      have hbooks := hs.books j (hs.works _ (List.mem_of_getElem? hx) j Caller.mem_caches)
      refine ⟨es, hevents, ?_⟩
      intro e he
      refine ⟨?_, ?_⟩
      · intro o success hdeed
        cases hlicit e he with
        | opened hdeed' hsessions =>
            cases hdeed.symm.trans hdeed'
            exact hsessions.trans hbooks.sessions
        | queried hdeed' | lookedUp hdeed' | contactsSet hdeed' | closed hdeed' =>
            cases hdeed.symm.trans hdeed'
      · intro typed k hdeed
        cases hlicit e he with
        | queried hdeed' hsession hholds =>
            cases hdeed.symm.trans hdeed'
            refine ⟨hsession, ?_⟩
            rw [hcache e he]
            exact (Event.mem_unclosedIn.mp ((hbooks.accounts.ledger.holds_iff _).mp hholds)).1
        | opened hdeed' | lookedUp hdeed' | contactsSet hdeed' | closed hdeed' =>
            cases hdeed.symm.trans hdeed'
  | enable => exact ⟨[], (List.append_nil _).symm, List.forall_mem_nil _⟩
  | apart _ h => exact ⟨[], h.unmoved.events.trans (List.append_nil _).symm, List.forall_mem_nil _⟩

/-- Every number that is lent is one of those there are. -/
theorem Lends.lease_lt (hc : Lends b settings calls gs c) (hx : x ∈ c.callers)
    (hk : x.lease? = some k) : k < settings.maxReaders.1 :=
  List.mem_range.mp (hc.pooled.mem_iff.mp
    (List.mem_append_right _ (List.mem_filterMap.mpr ⟨x, hx, hk⟩)))

/-- A step of a caller leaves room in every open dictionary. -/
theorem Lends.roomy_turn (hc : Lends b settings calls gs c) (hx : c.callers[m]? = some x)
    (h : Caller.Touch b c m x s' y) {room : δ → Nat} (hb : b.Rooms room)
    (hi : i < s'.caches.length) : (s'.cacheState i).cache.Roomy room settings.maxReaders.1 := by
  have hwas := hc.roomy room hb
  cases h with
  | @work j z z' t after p h =>
      have hj := hc.booked.works _ (List.mem_of_getElem? hx) j Caller.mem_caches
      by_cases hji : j = i
      · subst hji
        rw [cacheState_withCache_self hj]
        have hsessions := (hc.booked.books j hj).sessions
        have hthere := hwas j hj
        rw [← hsessions] at hthere ⊢
        exact hthere.turn hb h
      · rw [cacheState_withCache_of_ne _ _ _ t hji]
        refine hwas i ?_
        rwa [withCache, List.length_set] at hi
  | enable =>
      have hi : i < c.service.caches.length + 1 := by simpa [Service.enable] using hi
      rcases Nat.lt_succ_iff_lt_or_eq.mp hi with hi | rfl
      · rw [cacheState_enable_of_lt _ _ _ hi]
        exact hwas i hi
      · refine Cache.roomy_of_slots ?_
        rw [cacheState_enable_new]
        rfl
  | apart _ h =>
      rw [cacheState, h.unmoved.caches]
      exact hwas i (h.unmoved.caches ▸ hi)

theorem Lends.turn_events (hc : Lends b settings calls gs c) (hx : c.callers[m]? = some x)
    (h : Caller.Touch b c m x s' y) :
    (∀ e ∈ s'.world.events, ∀ (o : Options) (success : Bool), e.deed = .opened o success →
      o.sessions = settings.maxReaders.1) ∧
    ∀ e ∈ s'.world.events, ∀ (typed : String) (k : Nat), e.deed = .queried typed k →
      k < settings.maxReaders.1 ∧ e.slot ∈ Event.openedIn e.cache s'.world.events := by
  obtain ⟨es, hevents, htells⟩ := hc.booked.tells hx h
  have hmem := List.mem_of_getElem? hx
  rw [hevents]
  refine ⟨?_, ?_⟩
  · intro e he
    rcases List.mem_append.mp he with he | he
    · exact hc.opened e he
    · exact (htells e he).1
  · intro e he typed k hdeed
    rw [Event.openedIn, Event.slotsOf_append, List.mem_append]
    rcases List.mem_append.mp he with he | he
    · exact (hc.queried e he typed k hdeed).imp_right .inl
    · obtain ⟨hsession, hopened⟩ := (htells e he).2 typed k hdeed
      exact ⟨hc.lease_lt hmem (hc.carries x hmem k hsession), .inl hopened⟩

theorem Lends.happens (hc : Lends b settings calls gs c) (h : Happens b c call? g? c') :
    Lends b settings (calls ++ call?.toList) (gs ++ g?.toList) c' := by
  have hadmits := hc.admits.happens h
  have hpooled := hc.pooled.happens h
  have hbooked := hc.booked.happens h
  cases h with
  | nothing => exact ⟨hadmits, hpooled, hbooked, hc.carries, hc.opened, hc.queried, hc.roomy⟩
  | arrival =>
      refine ⟨hadmits, hpooled, hbooked, ?_, hc.opened, hc.queried, hc.roomy⟩
      intro z hz
      rcases List.mem_append.mp hz with hz | hz
      · exact hc.carries z hz
      · cases List.mem_singleton.mp hz
        exact Caller.carries_of_none rfl
  | turn hx h =>
      obtain ⟨hopened, hqueried⟩ := hc.turn_events hx h.touch
      refine ⟨hadmits, hpooled, hbooked, ?_, hopened, hqueried, ?_⟩
      · intro z hz
        rcases List.mem_or_eq_of_mem_set hz with hz | rfl
        · exact hc.carries z hz
        · exact (hc.carries _ (List.mem_of_getElem? hx)).turn h
      · intro room hb i hi
        exact hc.roomy_turn hx h.touch hb hi

theorem Lends.run (hc : Lends b settings calls gs c) (acts : List Happening) :
    Lends b settings (calls ++ acts.filterMap Happening.call?) (gs ++ c.grants b acts)
      (c.run b acts) :=
  Crowd.run_keeps Lends.happens acts hc

/-! ## What follows for sessions -/

/-- There are no more numbers lent than permits held. -/
theorem Lends.lent_le_held (hc : Lends b settings calls gs c) :
    (c.callers.filterMap Caller.lease?).length ≤ (c.callers.map fun x => x.atGate.held).sum :=
  length_filterMap_le_sum fun _ hx => hc.admits.lease_le_held settings.maxReaders.2 hx

/-- No two queries carry the same number. -/
theorem Lends.eq_of_session (hc : Lends b settings calls gs c) (hx : c.callers[i]? = some x)
    (hy : c.callers[j]? = some y) (hxk : x.session? = some k) (hyk : y.session? = some k) :
    i = j := by
  have hnodup : (c.callers.filterMap Caller.lease?).Nodup :=
    (List.nodup_append.mp (hc.pooled.nodup_iff.mpr List.nodup_range)).2.1
  exact eq_of_nodup_filterMap hnodup hx hy (hc.carries x (List.mem_of_getElem? hx) k hxk)
    (hc.carries y (List.mem_of_getElem? hy) k hyk)

/-- When no call is under way, all numbers are idle and all permits are there. -/
theorem Lends.idle_of_done (hc : Lends b settings calls gs c)
    (hdone : ∀ x ∈ c.callers, ∃ a, x = .done a) :
    c.service.sessions.idle.Perm (List.range settings.maxReaders.1) ∧
      c.gate.available = settings.maxReaders.1 := by
  have hnone : c.callers.filterMap Caller.lease? = [] := by
    refine List.filterMap_eq_nil_iff.mpr ?_
    intro x hx
    obtain ⟨a, rfl⟩ := hdone x hx
    rfl
  have hheld : (c.callers.map fun x => x.atGate.held).sum = 0 := by
    refine sum_map_eq_zero _ ?_
    intro x hx
    obtain ⟨a, rfl⟩ := hdone x hx
    rfl
  have hpooled := hc.pooled
  have hpermits := hc.admits.permits
  rw [Pooled, hnone, List.append_nil] at hpooled
  rw [hheld] at hpermits
  exact ⟨hpooled, hpermits⟩

/-- A dictionary that is asked for corrections has room for the number that the query carries. -/
theorem Lends.session_lt_room (hc : Lends b settings calls gs c) {room : δ → Nat}
    (hb : b.Rooms room) {slot : Nat} {q : Query} {after : After} {p : Permit} {d : δ}
    (hx : .working i (.answering slot q k) after p ∈ c.callers)
    (hd : (c.service.cacheState i).cache.phase slot = .ready (.dictionary d)) : k < room d := by
  rw [hc.roomy room hb i (hc.booked.works _ hx i Caller.mem_caches) slot d hd]
  exact hc.lease_lt hx (hc.carries _ hx k rfl)

end Lends

/-- **Session numbers suffice.**  Whoever calls a service and moves in whatever order, and whatever
comes of openings, look-ups and queries, each of which may break off: every session number is idle or
lent to one caller; there are no more lent than permits held, and so whoever needs a number while it
holds a permit gets one; no two queries under way carry the same number; every dictionary is opened
for all numbers there are, and every query on one carries a number that it was opened for; when no
call is under way, all numbers are idle and all permits are there.  A dictionary made of word lists
never finds that it has no room for a number. -/
theorem Crowd.session_numbers_suffice (b : Backend σ δ) (settings : Settings) (st : σ)
    (locales : List Locale) (acts : List Happening) :
    let n := settings.maxReaders.1
    let c := (Crowd.ofService (ofSettings settings st locales)).run b acts
    let lent := c.callers.filterMap Caller.lease?
    let held := (c.callers.map fun x => x.atGate.held).sum
    let events := c.service.world.events
    (c.service.sessions.idle ++ lent).Perm (List.range n) ∧
      lent.length ≤ held ∧ c.gate.available + held = n ∧
      (∀ (i : Nat) (x : Caller) (p : Permit), c.callers[i]? = some x → x.permit? = some p →
        x.lease? = none → ∃ k sessions, c.service.sessions.lend = (some k, sessions)) ∧
      (∀ (i j : Nat) (x y : Caller) (k : Nat), c.callers[i]? = some x → c.callers[j]? = some y →
        x.session? = some k → y.session? = some k → i = j) ∧
      (∀ e ∈ events, ∀ (o : Options) (success : Bool), e.deed = .opened o success →
        o.sessions = n) ∧
      (∀ e ∈ events, ∀ (typed : String) (k : Nat), e.deed = .queried typed k →
        ∃ f ∈ events, ∃ o, f.cache = e.cache ∧ f.slot = e.slot ∧ f.deed = .opened o true ∧
          k < o.sessions) ∧
      ((∀ x ∈ c.callers, ∃ a, x = .done a) →
        c.service.sessions.idle.Perm (List.range n) ∧ c.gate.available = n) ∧
      ∀ (source : WordList.Source) (breaks : Backend.Breaks),
        let c := (Crowd.ofService (ofSettings settings breaks locales)).run
          (Backend.rehearsed source.kind) acts
        ∀ (i slot k : Nat) (q : Query) (after : After) (p : Permit) (d : WordList.Dictionary),
          .working i (.answering slot q k) after p ∈ c.callers →
          (c.service.cacheState i).cache.phase slot = .ready (.dictionary d) →
          ∀ k', d.suggest q k ≠ .error (d.outOfSessions k') := by
  intro n c lent held events
  have hc := (lends_ofSettings b settings st locales).run acts
  refine ⟨hc.pooled, hc.lent_le_held, hc.admits.permits, ?_, ?_, hc.opened, ?_, hc.idle_of_done,
    ?_⟩
  · intro i x p hx hp hnone
    obtain ⟨k, sessions, hlend, -⟩ :=
      hc.pooled.lend settings.maxReaders.2 hc.admits hx hp hnone
    exact ⟨k, sessions, hlend⟩
  · intro i j x y k hx hy hxk hyk
    exact hc.eq_of_session hx hy hxk hyk
  · intro e he typed k hdeed
    obtain ⟨hk, hopened⟩ := hc.queried e he typed k hdeed
    obtain ⟨f, hf, hcache, hopens, hslot⟩ := Event.mem_slotsOf.mp hopened
    obtain ⟨o, ho⟩ := Deed.eq_opened_of_opens hopens
    refine ⟨f, hf, o, hcache, hslot, ho, ?_⟩
    rw [hc.opened f hf o true ho]
    exact hk
  · intro source breaks c' i slot k q after p d hx hd
    have hc' := (lends_ofSettings (Backend.rehearsed source.kind) settings breaks locales).run acts
    exact WordList.Dictionary.suggest_ne_outOfSessions (hc'.session_lt_room source.rooms hx hd)

end Spelling.Service
