import DiracRucioPolicy.Spec.CountryAdmins
import DiracRucioPolicy.Spec.Footprint
import DiracRucioPolicy.Spec.NonEscalation

/-!
# Decisions along a run

While requests are served the database changes, and with it what `has_permission` answers.
A check changes its outcome only in a step that touches its footprint. The requests of
ordinary accounts touch hardly any: what they change is the RSE tables and the exceptions,
on which no right is built, and the links of identities that they unlink. So whoever asks,
the outcome of a check is the same after a run of such requests as it was before, except
that a token may be refused.

## Key results

- `decision_change_traced`: every change of an outcome is due to a step of the run
- `run_keeps_decisions`: the requests of ordinary accounts change no decision of anybody,
  except that an identity may be unlinked
-/

namespace DiracRucioPolicy

variable {issuer : InternalAccount} {action : String} {kwargs : Dict}

/-- In any system that serves requests, a check that ends with another outcome than it had
    at the start has a step in between that changes, for the issuer, a part of the database
    in the footprint of the action. -/
theorem decision_change_traced {ℓ : Type} {step : Db → ℓ → Db → Prop} {db db' : Db}
    {ls : List ℓ} (hrun : Run step db ls db')
    (hdiff : hasPermission db' issuer action kwargs ≠ hasPermission db issuer action kwargs) :
    ∃ db₁ l db₂, Run.Through step db ls db' db₁ l db₂ ∧
      ∃ p ∈ (footprintOf action).parts, ¬ SameIn issuer db₁ db₂ p := by
  -- the step in which the initial outcome is lost
  obtain ⟨db₁, l, db₂, hthrough, hbefore, hafter⟩ :=
    Run.exists_step_of_lost (P := fun d => hasPermission d issuer action kwargs =
      hasPermission db issuer action kwargs) hrun rfl hdiff
  refine ⟨db₁, l, db₂, hthrough, ?_⟩
  by_contra hsame
  have hparts : ∀ p ∈ (footprintOf action).parts, SameIn issuer db₁ db₂ p := by
    intro p hp
    by_contra hp'
    exact hsame ⟨p, hp, hp'⟩
  have heq : hasPermission db₁ issuer action kwargs = hasPermission db₂ issuer action kwargs :=
    hasPermission_congr ⟨hparts, fun _ _ => rfl⟩
  exact hafter (heq ▸ hbefore)

/-- The database in which the account is suspended. -/
def suspend (db : Db) (account : InternalAccount) : Db :=
  { db with accounts := fun a =>
      if a = account.internal then some .suspended else db.accounts a }

/-- Bob, an admin of `de`, loses the limits of its RSEs when he is suspended, and it is his
    status that changes. -/
theorem decision_change_traced_bob :
    ∃ db₁ l db₂, Run.Through (fun db account db' => db' = suspend db account) bobsCountryDb [bob]
        (suspend bobsCountryDb bob) db₁ l db₂ ∧
      ∃ p ∈ (footprintOf "set_local_account_limit").parts, ¬ SameIn bob db₁ db₂ p := by
  have hdiff : hasPermission (suspend bobsCountryDb bob) bob "set_local_account_limit"
        [("rse_id", .str "DESY-DISK")] ≠
      hasPermission bobsCountryDb bob "set_local_account_limit"
        [("rse_id", .str "DESY-DISK")] := by decide
  exact decision_change_traced (.cons rfl (.nil _)) hdiff

/-! ## Tokens -/

/-- The actions that ask for a token for an identity. -/
def tokenActions : List String :=
  ["get_auth_token_user_pass", "get_auth_token_gss", "get_auth_token_x509", "get_auth_token_saml"]

/-- Only the tokens depend on the links of the identities. -/
theorem shapeOf_token (h : .identities ∈ (footprintOf action).parts) :
    action ∈ tokenActions ∧ ∃ c, shapeOf action = .identityOfAccount c := by
  have hparts : ∀ shape : Shape, .identities ∈ shape.footprint.parts →
      ∃ c, shape = .identityOfAccount c := by
    intro shape hmem
    cases shape with
    | identityOfAccount c => exact ⟨c, rfl⟩
    | _ => exact absurd hmem (by decide)
  have htable : ∀ e ∈ shapes, (∃ c, e.2 = .identityOfAccount c) → e.1 ∈ tokenActions := by
    have hcredentials : ∀ e ∈ shapes,
        e.2 ∈ [Credential.password, .gss, .x509, .saml].map Shape.identityOfAccount →
          e.1 ∈ tokenActions := by decide
    intro e he h
    obtain ⟨c, hc⟩ := h
    apply hcredentials e he
    rw [hc]
    cases c with
    | password => simp
    | gss => simp
    | x509 => simp
    | saml => simp
  obtain ⟨c, hc⟩ := hparts _ h
  have hmem : (action, shapeOf action) ∈ shapes := mem_shapes (by rw [hc]; exact Shape.noConfusion)
  exact ⟨htable _ hmem ⟨c, hc⟩, c, hc⟩

/-- When links are lost, a link that was found can only be missed. -/
theorem existIdentityAccount_revoked {db db' : Db} {identity account : PyVal}
    {type : IdentityType}
    (hlinks : ∀ id a, db'.identities id a = true → db.identities id a = true)
    (hdiff : db'.existIdentityAccount identity type account ≠
      db.existIdentityAccount identity type account) :
    db.existIdentityAccount identity type account = .ok true ∧
      db'.existIdentityAccount identity type account = .ok false := by
  unfold Db.existIdentityAccount at hdiff ⊢
  -- neither value is looked up when one of them cannot be bound, or is `None`
  cases hkey : Db.bindText identity with
  | error e => rw [hkey] at hdiff; exact absurd rfl hdiff
  | ok key =>
    cases hname : Db.bindInternal account with
    | error e => rw [hkey, hname] at hdiff; exact absurd rfl hdiff
    | ok name =>
      rw [hkey, hname] at hdiff
      cases key with
      | none => exact absurd rfl hdiff
      | some key =>
        cases name with
        | none => exact absurd rfl hdiff
        | some name =>
          have hne : db'.identities ⟨key, type⟩ name ≠ db.identities ⟨key, type⟩ name :=
            fun heq => hdiff (congrArg Except.ok heq)
          -- a link that is there afterwards was there before
          cases hafter : db'.identities ⟨key, type⟩ name with
          | true => exact absurd (hafter.trans (hlinks _ _ hafter).symm) hne
          | false =>
            rw [hafter] at hne
            have hbefore : db.identities ⟨key, type⟩ name = true := by
              rw [← Bool.not_eq_false]
              exact fun h => hne h.symm
            exact ⟨congrArg Except.ok hbefore, congrArg Except.ok hafter⟩

/-- When links are lost, a token request can only turn from a grant into a refusal. -/
theorem token_revoked {db db' : Db} {key : String} {type : IdentityType}
    (hlinks : ∀ id a, db'.identities id a = true → db.identities id a = true)
    (hdiff : identityOfAccount key type db' issuer kwargs ≠
      identityOfAccount key type db issuer kwargs) :
    identityOfAccount key type db issuer kwargs = .ok true ∧
      identityOfAccount key type db' issuer kwargs = .ok false := by
  unfold identityOfAccount at hdiff ⊢
  cases hid : kwargs.getItem key with
  | error e => rw [hid] at hdiff; exact absurd rfl hdiff
  | ok identity =>
    cases haccount : kwargs.getItem "account" with
    | error e => rw [hid, haccount] at hdiff; exact absurd rfl hdiff
    | ok account =>
      rw [hid, haccount] at hdiff
      exact existIdentityAccount_revoked hlinks hdiff

/-! ## Runs of ordinary accounts -/

section

variable {db db' : Db}

/-- What a run of ordinary accounts leaves alone is most of what decisions depend on. -/
theorem Narrowed.sameIn (h : Narrowed db db') {p : Part}
    (hp : p = .privilege ∨ p = .status ∨ p = .countries ∨ p = .scopes) :
    SameIn issuer db db' p := by
  rcases hp with rfl | rfl | rfl | rfl
  · show isPrivileged db issuer = isPrivileged db' issuer
    rw [isPrivileged, isPrivileged, Db.hasAccountAttribute, Db.hasAccountAttribute,
      h.accountAttributes]
  · show Active db issuer ↔ Active db' issuer
    rw [Active, Active, h.accounts]
  · intro c
    rw [countriesOf, countriesOf, h.accountAttributes]
  · intro s
    rw [h.scopeOwner]

/-- A run of requests of ordinary accounts changes no decision of anybody, be it root, an
    admin or an ordinary account, unless it changes the RSE tables, the exceptions or the
    order of sets that the check looks at. The one exception is a request for a token: it
    may be granted before the run and refused after it. -/
theorem run_keeps_decisions {rucio : Rucio} {reqs : List Request}
    (hrun : Run (Served rucio) db reqs db')
    (hsame : ∀ p ∈ [Part.rseCountries, .expressions, .exceptions, .setOrder],
      p ∈ (footprintOf action).parts → SameIn issuer db db' p)
    (hdiff : hasPermission db' issuer action kwargs ≠ hasPermission db issuer action kwargs) :
    action ∈ tokenActions ∧ hasPermission db issuer action kwargs = .ok true ∧
      hasPermission db' issuer action kwargs = .ok false := by
  have hnarrowed := run_narrowed hrun
  -- among the parts in the footprint only the identities can have changed
  have hids : .identities ∈ (footprintOf action).parts := by
    by_contra hids
    have hparts : ∀ p ∈ (footprintOf action).parts, SameIn issuer db db' p := by
      intro p hp
      cases p with
      | identities => exact absurd hp hids
      | privilege => exact hnarrowed.sameIn (by simp)
      | status => exact hnarrowed.sameIn (by simp)
      | countries => exact hnarrowed.sameIn (by simp)
      | scopes => exact hnarrowed.sameIn (by simp)
      | _ => exact hsame _ (by simp) hp
    exact hdiff (hasPermission_congr ⟨hparts, fun _ _ => rfl⟩).symm
  obtain ⟨htoken, c, hshape⟩ := shapeOf_token hids
  simp only [hasPermission, handlerOf_eq_shape, hshape, Shape.handler] at hdiff ⊢
  exact ⟨htoken, token_revoked hnarrowed.identities hdiff⟩

end

/-- Bob deletes his identity. -/
def bobsFarewell : Request :=
  ⟨bob, "del_identity", [("accounts", .list [.str "bob"])], bobsIdentity⟩

/-- After that he gets no token for it any more. -/
theorem run_keeps_decisions_bob :
    "get_auth_token_x509" ∈ tokenActions ∧
      hasPermission bobsLinks bob "get_auth_token_x509"
        [("dn", .str "CN=Bob"), ("account", .account bob)] = .ok true ∧
      hasPermission { bobsLinks with
          identities := fun id a => id ≠ bobsIdentity && bobsLinks.identities id a } bob
        "get_auth_token_x509" [("dn", .str "CN=Bob"), ("account", .account bob)] = .ok false := by
  have hstep : Served smallRucio bobsLinks bobsFarewell { bobsLinks with
      identities := fun id a => id ≠ bobsIdentity && bobsLinks.identities id a } :=
    ⟨⟨by decide, fun _ h => nomatch h⟩, Or.inr ⟨rfl, rfl⟩⟩
  refine run_keeps_decisions (.cons hstep (.nil _)) (fun p hp _ => ?_) (by decide)
  -- nothing but the links has changed
  apply sameIn_identities
  intro h
  rw [h] at hp
  exact absurd hp (by decide)

end DiracRucioPolicy
