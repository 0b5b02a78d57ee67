import Spelling.Proofs.Service.Asking

/-!
# A call that changes the service

A caller that closes everything, turns the contacts on or off or replaces the enabled locales has
the service to itself.  `Changing` says how far it has come, place by place.  When it is about to
give its permits back, the service stands for the plain one after the call.
-/

namespace Spelling.Service.Caller

variable {σ δ : Type} {b : Backend σ δ} {fresh : Locale → Options → Loaded δ} {n : Nat} {p : Plain}

/-- How far a caller has come with a call that changes the service. -/
inductive Changing (b : Backend σ δ) (fresh : Locale → Options → Loaded δ) (n : Nat) (p : Plain)
    (s : Service σ δ) : Call → Caller → Prop
  | granted {call : Call} {q : Permit} : call.changes = true → s.Serves b fresh n p →
      Changing b fresh n p s call (entering call (.granted q))
  | holding {call : Call} {q : Permit} : call.changes = true → s.Serves b fresh n p →
      Changing b fresh n p s call (entering call (.holding q))
  | closingSingle {x : Cache.Caller} {q : Permit} : x.Closes → s.Serves b fresh n p →
      Changing b fresh n p s .closeAll (working single x (.look .close) q)
  | lookingClose {q : Permit} : s.Serves b fresh n p →
      Changing b fresh n p s .closeAll (looking .close q)
  | closingEnabled {x : Cache.Caller} {q : Permit} : x.Closes → s.Serves b fresh n p →
      Changing b fresh n p s .closeAll (working s.enabled.cache x .closed q)
  | settingSingle {on : Bool} {x : Cache.Caller} {q : Permit} :
      s.Stands n p.locales (fun c => x.Sets b fresh n p.useContacts on c)
        (Cache.Content b fresh n p.useContacts) →
      Changing b fresh n p s (.setContacts on) (working single x (.look (.contacts on)) q)
  | lookingContacts {on : Bool} {q : Permit} :
      s.Stands n p.locales (Cache.Content b fresh n on)
        (Cache.Content b fresh n p.useContacts) →
      Changing b fresh n p s (.setContacts on) (looking (.contacts on) q)
  | settingEnabled {on : Bool} {x : Cache.Caller} {q : Permit} :
      s.Stands n p.locales (Cache.Content b fresh n on)
        (fun c => x.Sets b fresh n p.useContacts on c) →
      Changing b fresh n p s (.setContacts on) (working s.enabled.cache x (.contacts on) q)
  | comparing {locales : List Locale} {q : Permit} : s.Serves b fresh n p →
      Changing b fresh n p s (.refresh locales) (comparing locales q)
  | emptying {locales : List Locale} {x : Cache.Caller} {q : Permit} : p.locales ≠ locales →
      x.Closes → s.Serves b fresh n p →
      Changing b fresh n p s (.refresh locales) (working s.enabled.cache x (.replace locales) q)
  | replacing {locales : List Locale} {q : Permit} : p.locales ≠ locales →
      s.Serves b fresh n p → Changing b fresh n p s (.refresh locales) (replacing locales q)

variable {s s' : Service σ δ} {call : Call} {x y : Caller}

/-- A caller that changes the service holds permits. -/
theorem Changing.permit (h : Changing b fresh n p s call x) : ∃ q, x.permit? = some q := by
  cases h <;> exact ⟨_, rfl⟩

theorem Changing.changes (h : Changing b fresh n p s call x) : call.changes = true := by
  cases h with
  | granted hcall _ => exact hcall
  | holding hcall _ => exact hcall
  | closingSingle | lookingClose | closingEnabled | settingSingle | lookingContacts
  | settingEnabled | comparing | emptying | replacing => rfl

/-- What others report does not matter. -/
theorem Changing.of_caches (h : Changing b fresh n p s call x)
    (hsettings : s'.settings = s.settings) (hpolicy : s'.policy = s.policy)
    (henabled : s'.enabled = s.enabled) (hcaches : s'.caches = s.caches) :
    Changing b fresh n p s' call x := by
  have hstands : ∀ {locales : List Locale} {Q Q' : Cache δ → Prop}, s.Stands n locales Q Q' →
      s'.Stands n locales Q Q' := by
    intro locales Q Q' h
    exact h.of_caches hsettings hpolicy henabled hcaches
  cases h with
  | granted hcall hs => exact .granted hcall (hstands hs)
  | holding hcall hs => exact .holding hcall (hstands hs)
  | closingSingle hx hs => exact .closingSingle hx (hstands hs)
  | lookingClose hs => exact .lookingClose (hstands hs)
  | closingEnabled hx hs => exact henabled ▸ .closingEnabled hx (hstands hs)
  | settingSingle hs => exact .settingSingle (hstands hs)
  | lookingContacts hs => exact .lookingContacts (hstands hs)
  | settingEnabled hs => exact henabled ▸ .settingEnabled (hstands hs)
  | comparing hs => exact .comparing (hstands hs)
  | emptying hne hx hs => exact henabled ▸ .emptying hne hx (hstands hs)
  | replacing hne hs => exact .replacing hne (hstands hs)

/-- A caller goes from the gate to where its call begins. -/
theorem Changing.begin {q : Permit}
    (h : Changing b fresh n p s call (entering call (.holding q))) :
    Changing b fresh n p s call (begin q call) := by
  cases h with
  | holding hcall hs =>
      cases call with
      | closeAll => exact .closingSingle .draining hs
      | setContacts on => exact .settingSingle (hs.imp (fun _ hc => .switching hc) fun _ hc => hc)
      | refresh locales => exact .comparing hs
      | isValid | isValidAnywhere | suggest | hasMain => cases hcall

section Steps

variable {c c' : Crowd σ δ} {m : Nat}

/-- **A step inside.**  A caller comes further with its call, or has its answer and leaves the
service as it is after the call. -/
theorem Changing.stride (hx : Changing b fresh n p c.service call x) (h : Stride b c m x c' y) :
    Changing b fresh n p c'.service call y ∨
      ∃ q, y = .exiting (p.answer b fresh n call) q ∧
        c'.service.Serves b fresh n (p.after call) := by
  cases h with
  | looking _ =>
      cases hx with
      | lookingClose hs => exact .inl (.closingEnabled .draining hs)
      | lookingContacts hs =>
          exact .inl (.settingEnabled (hs.imp (fun _ hc => hc) fun _ hc => .switching hc))
  | working ht =>
      cases hx with
      | closingSingle hcloses hs =>
          obtain ⟨hgrows, hcloses'⟩ : Cache.Grows b fresh _ _ ∧ _ := hcloses.turn ht
          exact .inl (.closingSingle hcloses' (hs.grows (.withCache hs.place.1 hgrows)))
      | closingEnabled hcloses hs =>
          obtain ⟨hgrows, hcloses'⟩ : Cache.Grows b fresh _ _ ∧ _ := hcloses.turn ht
          exact .inl (.closingEnabled hcloses' (hs.grows (.withCache hs.place.2 hgrows)))
      | emptying hne hcloses hs =>
          obtain ⟨hgrows, hcloses'⟩ : Cache.Grows b fresh _ _ ∧ _ := hcloses.turn ht
          exact .inl (.emptying hne hcloses' (hs.grows (.withCache hs.place.2 hgrows)))
      | settingSingle hs => exact .inl (.settingSingle (hs.setSingle (hs.atSingle.turn ht)))
      | settingEnabled hs => exact .inl (.settingEnabled (hs.setEnabled (hs.atEnabled.turn ht)))
  | concluding =>
      have hdone : ∀ {was on : Bool} {a : Cache.Answer} {d : Cache δ},
          (Cache.Caller.done a).Sets b fresh n was on d → d.Content b fresh n on := by
        intro was on a d h
        cases h with
        | done hc => exact hc
      cases hx with
      | closingSingle _ hs => exact .inl (.lookingClose hs)
      | closingEnabled _ hs => exact .inr ⟨_, rfl, hs.of_caches rfl rfl rfl rfl⟩
      | settingSingle hs =>
          exact .inl (.lookingContacts (hs.imp (fun _ hc => hdone hc) fun _ hc => hc))
      | settingEnabled hs =>
          have hset := hs.imp (fun _ hc => hc) fun _ hc => hdone hc
          exact .inr ⟨_, rfl, hset.of_caches rfl rfl rfl rfl⟩
      | emptying hne _ hs => exact .inl (.replacing hne hs)
  | @same locales q _ hsame =>
      cases hx with
      | comparing hs =>
          have heq := hs.locales.symm.trans hsame
          subst heq
          refine .inr ⟨q, ?_, hs⟩
          rw [Plain.answer, bne_self_eq_false]
  | differing _ hne =>
      cases hx with
      | comparing hs => exact .inl (.emptying (hs.locales ▸ hne) .draining hs)
  | @replacing locales q =>
      cases hx with
      | replacing hne hs =>
          refine .inr ⟨q, ?_, hs.enable hs.atSingle.useContacts
            (fun label capacity => Cache.content_ofCapacity label capacity _ _) locales⟩
          rw [Plain.answer, bne_iff_ne.mpr hne]
  | unlent | lent | restoring | exiting | announcing => cases hx

end Steps

end Spelling.Service.Caller
