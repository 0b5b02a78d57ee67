import Spelling.Proofs.Cache.Asking
import Spelling.Proofs.Service.Lending
import Spelling.Proofs.Service.Stands

/-!
# Queries among others

While callers of a service only ask, its caches only grow (`Grows`), and each caller is on its way
to the answer that the plain service gives (`Asking`).

    place         what is known
    granted       the answer to the call is owed
    leasing       the answer to a query for corrections is owed
    looking       the answer to a search in the enabled locales is owed
    working       what the cache owes concludes in what is owed (`Concludes`)
    restoring     the answer is there
-/

namespace Spelling.Service

variable {σ δ : Type} {b : Backend σ δ} {fresh : Locale → Options → Loaded δ} {n : Nat} {p : Plain}

/-- A service stands for a plain one while callers are at work in it that ask. -/
def Serves (b : Backend σ δ) (fresh : Locale → Options → Loaded δ) (n : Nat) (p : Plain)
    (s : Service σ δ) : Prop :=
  s.Stands n p.locales (Cache.Content b fresh n p.useContacts)
    (Cache.Content b fresh n p.useContacts)

/-- What the work of queries does to a service. -/
structure Grows (b : Backend σ δ) (fresh : Locale → Options → Loaded δ) (s s' : Service σ δ) :
    Prop where
  settings : s'.settings = s.settings
  policy : s'.policy = s.policy
  enabled : s'.enabled = s.enabled
  length : s'.caches.length = s.caches.length
  cache : ∀ i, (s.cacheState i).cache.Grows b fresh (s'.cacheState i).cache

section Grows

variable {s s' : Service σ δ}

theorem Grows.of_caches (hsettings : s'.settings = s.settings) (hpolicy : s'.policy = s.policy)
    (henabled : s'.enabled = s.enabled) (hcaches : s'.caches = s.caches) :
    s.Grows b fresh s' := by
  refine ⟨hsettings, hpolicy, henabled, congrArg List.length hcaches, ?_⟩
  intro i
  rw [show (s'.cacheState i).cache = (s.cacheState i).cache by simp only [cacheState, hcaches]]
  exact .refl _

theorem Grows.refl (s : Service σ δ) : s.Grows b fresh s := .of_caches rfl rfl rfl rfl

theorem Grows.withCache {i : Nat} {t : CacheState σ δ} (hi : i < s.caches.length)
    (h : (s.cacheState i).cache.Grows b fresh t.cache) : s.Grows b fresh (s.withCache i t) := by
  refine ⟨rfl, rfl, rfl, by simp [Service.withCache], ?_⟩
  intro j
  by_cases hij : i = j
  · subst hij
    rw [cacheState_withCache s i t hi]
    exact h
  · rw [cacheState_withCache_of_ne s i j t hij]
    exact .refl _

theorem Serves.grows (h : s.Serves b fresh n p) (hs : s.Grows b fresh s') :
    s'.Serves b fresh n p := by
  refine ⟨hs.settings ▸ h.readers, hs.policy.trans h.policy, hs.enabled ▸ h.locales, ?_, ?_,
    h.atSingle.grows (hs.cache _), ?_⟩
  · rw [hs.length, hs.enabled]
    exact h.place
  · rw [hs.enabled]
    exact h.apart
  · rw [hs.enabled]
    exact h.atEnabled.grows (hs.cache _)

/-- What a cache in use owes is what the plain service answers. -/
theorem Serves.owes (h : s.Serves b fresh n p) {i : Nat} (hi : i = single ∨ i = s.enabled.cache)
    (l : Locale) (a : Ask) :
    (s.cacheState i).cache.owes b fresh l a = p.ask b fresh n l a := by
  rw [Cache.owes, (h.atEither hi).useContacts, (h.atEither hi).sessions]
  rfl

end Grows

/-! ## On the way to an answer -/

/-- What a search comes to, from what came of asking in one locale. -/
def Plain.searchOn (b : Backend σ δ) (fresh : Locale → Options → Loaded δ) (n : Nat) (p : Plain)
    (word : String) (c : Capitalization) (rest : List Locale) : Outcome Reply → Outcome Bool
  | .returned r => if r.toFlag then .returned true else p.search b fresh n word c rest
  | .broken message => .broken message
  | .endless => .endless

theorem Plain.search_cons (word : String) (c : Capitalization) (l : Locale) (rest : List Locale) :
    p.search b fresh n word c (l :: rest) =
      p.searchOn b fresh n word c rest (p.ask b fresh n l (.contains (c.variants l word))) := by
  rw [search]
  cases p.ask b fresh n l (.contains (c.variants l word)) <;> rfl

/-- What a call comes to once its question to a cache is answered, and it has nothing else to do but
to ask. -/
inductive Concludes (b : Backend σ δ) (fresh : Locale → Options → Loaded δ) (n : Nat) (p : Plain)
    (cache : Nat) (o : Outcome Reply) : After → Answer → Prop
  | flag : Concludes b fresh n p cache o .flag (.ofOutcome .flag (o.map Reply.toFlag))
  | corrections {typed : String} {l : Locale} {session : Nat} :
      Concludes b fresh n p cache o (.corrections typed l session)
        (.ofOutcome .results (Plain.corrections o))
  | search {word : String} {c : Capitalization} {l : Locale} {rest all : List Locale} :
      Concludes b fresh n p cache o (.search word c cache l rest all)
        (.ofOutcome .flag (p.searchOn b fresh n word c rest o))

namespace Caller

/-- A caller asks, and some answer is owed to it. -/
inductive Asking (b : Backend σ δ) (fresh : Locale → Options → Loaded δ) (n : Nat) (p : Plain)
    (s : Service σ δ) (owed : Answer) : Caller → Prop
  | granted {call : Call} {q : Permit} : call.changes = false → p.answer b fresh n call = owed →
      Asking b fresh n p s owed (entering call (.granted q))
  | holding {call : Call} {q : Permit} : call.changes = false → p.answer b fresh n call = owed →
      Asking b fresh n p s owed (entering call (.holding q))
  | leasing {l : Locale} {composed : Composed} {context : Context} {keyboard : Keyboard}
      {patience : Patience} {q : Permit} :
      p.answer b fresh n (.suggest l composed context keyboard patience) = owed →
      Asking b fresh n p s owed (leasing l composed context keyboard q)
  | looking {word : String} {c : Capitalization} {q : Permit} :
      p.answer b fresh n (.isValidAnywhere word c) = owed →
      Asking b fresh n p s owed (looking (.search word c) q)
  | working {i : Nat} {x : Cache.Caller} {l : Locale} {a : Ask} {after : After} {q : Permit} :
      i = single ∨ i = s.enabled.cache → x.Asks b fresh (s.cacheState i).cache l a →
      Concludes b fresh n p s.enabled.cache (p.ask b fresh n l a) after owed →
      Asking b fresh n p s owed (working i x after q)
  | restoring {session : Nat} {q : Permit} : Asking b fresh n p s owed (restoring session owed q)
  | exiting {q : Permit} : Asking b fresh n p s owed (exiting owed q)
  | announcing : Asking b fresh n p s owed (announcing owed)
  | done : Asking b fresh n p s owed (done owed)

/-- A caller gave its permits back and has its answer. -/
inductive Over (owed : Answer) : Caller → Prop
  | announcing : Over owed (announcing owed)
  | done : Over owed (done owed)

variable {s s' : Service σ δ} {owed : Answer} {x y : Caller}

theorem Over.asking (h : Over owed x) : Asking b fresh n p s owed x := by
  cases h with
  | announcing => exact .announcing
  | done => exact .done

/-- Other callers that ask do not lead a caller astray. -/
theorem Asking.grows (h : Asking b fresh n p s owed x) (hs : s.Grows b fresh s') :
    Asking b fresh n p s' owed x := by
  cases h with
  | granted hcall howed => exact .granted hcall howed
  | holding hcall howed => exact .holding hcall howed
  | leasing howed => exact .leasing howed
  | looking howed => exact .looking howed
  | working hi hasks hconcludes =>
      refine .working (hs.enabled ▸ hi) (hasks.grows (hs.cache _)) ?_
      rw [hs.enabled]
      exact hconcludes
  | restoring => exact .restoring
  | exiting => exact .exiting
  | announcing => exact .announcing
  | done => exact .done

/-- Without permits, a caller that asks has its answer. -/
theorem Asking.over (h : Asking b fresh n p s owed x) (hnone : x.permit? = none) :
    Over owed x := by
  cases h with
  | announcing => exact .announcing
  | done => exact .done
  | granted | holding | leasing | looking | working | restoring | exiting => cases hnone

theorem concludes_flag {cache : Nat} {o : Outcome Reply}
    (h : Answer.ofOutcome .flag (o.map Reply.toFlag) = owed) :
    Concludes b fresh n p cache o .flag owed :=
  h ▸ .flag

/-- A caller goes from the gate to where its call begins. -/
theorem Asking.begin {call : Call} {q : Permit}
    (h : Asking b fresh n p s owed (entering call (.holding q))) :
    Asking b fresh n p s owed (begin q call) := by
  cases h with
  | holding hcall howed =>
      cases call with
      | isValid l word => exact .working (.inl rfl) .finding (concludes_flag howed)
      | isValidAnywhere word c => exact .looking howed
      | suggest l composed context keyboard patience => exact .leasing howed
      | hasMain l => exact .working (.inl rfl) .finding (concludes_flag howed)
      | closeAll | setContacts _ | refresh _ => cases hcall

/-- A caller that looks for a word in some locales, or has none left to look in. -/
theorem asking_search {word : String} {c : Capitalization} {locales : List Locale}
    (howed : Answer.ofOutcome .flag (p.search b fresh n word c locales) = owed)
    (all : List Locale) (q : Permit) :
    s.Grows b fresh (search s word c s.enabled.cache all q locales).1 ∧
      Asking b fresh n p (search s word c s.enabled.cache all q locales).1 owed
        (search s word c s.enabled.cache all q locales).2 := by
  subst howed
  cases locales with
  | nil => exact ⟨.of_caches rfl rfl rfl rfl, .exiting⟩
  | cons l rest =>
      refine ⟨.refl s, .working (.inr rfl) .finding ?_⟩
      rw [Plain.search_cons]
      exact .search

theorem outcomeOf_ofOutcome (o : Outcome Reply) :
    outcomeOf (Cache.Answer.ofOutcome .reply o) = o := by
  cases o <;> rfl

/-- A caller whose question to a cache was answered goes on with that. -/
theorem asking_conclude {o : Outcome Reply} {after : After}
    (h : Concludes b fresh n p s.enabled.cache o after owed) (q : Permit) :
    s.Grows b fresh (conclude s (.ofOutcome .reply o) q after).1 ∧
      Asking b fresh n p (conclude s (.ofOutcome .reply o) q after).1 owed
        (conclude s (.ofOutcome .reply o) q after).2 := by
  cases h with
  | flag =>
      refine ⟨.refl s, ?_⟩
      rw [conclude, outcomeOf_ofOutcome]
      cases o <;> exact .exiting
  | @corrections typed l session =>
      have hfst := corrections_fst (s := s) typed l o
      obtain ⟨w, hsnd, -⟩ := corrections_snd (s := s) typed l o
      rw [conclude, outcomeOf_ofOutcome]
      simp only [hfst, hsnd]
      exact ⟨.of_caches rfl rfl rfl rfl, .restoring⟩
  | @search word c l rest all =>
      rw [conclude, outcomeOf_ofOutcome]
      cases o with
      | returned r =>
          simp only []
          cases hr : r.toFlag with
          | true =>
              rw [Plain.searchOn, if_pos hr]
              exact ⟨.of_caches rfl rfl rfl rfl, .exiting⟩
          | false =>
              refine asking_search ?_ all q
              rw [Plain.searchOn, if_neg (by simp [hr])]
      | broken message => exact ⟨.refl s, .exiting⟩
      | endless => exact ⟨.refl s, .exiting⟩

section Steps

variable {c c' : Crowd σ δ} {m : Nat}

/-- **A step inside.**  A caller that asks comes closer to what is owed to it, and disturbs nobody.
-/
theorem Asking.stride (hb : b.Dependable fresh) (hs : c.service.Serves b fresh n p)
    (hlend : ∀ q, x.permit? = some q → x.lease? = none → ∃ session sessions,
      c.service.sessions.lend = (some session, sessions) ∧ session < n)
    (hx : Asking b fresh n p c.service owed x) (h : Stride b c m x c' y) :
    c.service.Grows b fresh c'.service ∧ Asking b fresh n p c'.service owed y := by
  cases h with
  | @unlent l composed context keyboard q hnone =>
      obtain ⟨session, sessions, hlent, -⟩ := hlend q rfl rfl
      rw [hlent] at hnone
      cases hnone
  | @lent l composed context keyboard q session sessions hlent =>
      obtain ⟨session', sessions', hlent', hlt⟩ := hlend q rfl rfl
      cases hlent.symm.trans hlent'
      cases hx with
      | leasing howed =>
          refine ⟨.of_caches rfl rfl rfl rfl, .working (.inl rfl) .finding ?_⟩
          have hsame := hb.reply_suggest l ⟨p.useContacts, n⟩ ⟨composed, context, keyboard, {}⟩
            hlt (Nat.zero_lt_of_lt hlt)
          rw [← howed, query, hs.policy, Plain.ask, hsame]
          exact .corrections
  | looking _ =>
      cases hx with
      | looking howed =>
          rw [Plain.answer, ← hs.locales] at howed
          exact asking_search howed _ _
  | @working i z z' t after q ht =>
      cases hx with
      | working hi hasks hconcludes =>
          have hplace : i < c.service.caches.length := by
            rcases hi with rfl | rfl
            · exact hs.place.1
            · exact hs.place.2
          obtain ⟨hgrows, hasks'⟩ := hasks.turn hb (hs.atEither hi) ht
          refine ⟨.withCache hplace hgrows, .working hi ?_ hconcludes⟩
          rw [cacheState_withCache _ _ _ hplace]
          exact hasks'
  | @concluding i a after q =>
      cases hx with
      | working hi hasks hconcludes =>
          cases hasks with
          | done =>
              rw [hs.owes hi]
              exact asking_conclude hconcludes q
  | restoring =>
      cases hx with
      | restoring => exact ⟨.of_caches rfl rfl rfl rfl, .exiting⟩
  | exiting =>
      cases hx with
      | exiting => exact ⟨.refl _, .announcing⟩
  | announcing =>
      cases hx with
      | announcing => exact ⟨.refl _, .done⟩
  | same | differing | replacing => cases hx

end Steps

end Caller

end Spelling.Service
