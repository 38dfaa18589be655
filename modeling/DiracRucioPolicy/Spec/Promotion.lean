import DiracRucioPolicy.Spec.Grants
import DiracRucioPolicy.Spec.Shapes

/-!
# Permissions grow with privilege

A promotion gives an account more attributes and more scopes. No handler uses an
attribute or an ownership against the issuer, so what was granted before a promotion is
granted after it. What is granted to anybody is granted to root.

## Key results

- `Promoted.isPrivileged`, `Promoted.ownsValue`, `Promoted.mem_countriesOf`: what a
  promotion keeps
- `privilegeMonotone_shape`: every shape of handler grows with privilege
- `privilege_monotone`: the law for `has_permission`
-/

namespace DiracRucioPolicy

/-! ## Promotions -/

/-- `db'` differs from `db` in that the issuer has additional attributes and owns
    additional scopes. Sets may be iterated in another order. -/
structure Promoted (issuer : InternalAccount) (db db' : Db) : Prop where
  attributes : ∀ kv ∈ db.accountAttributes issuer.internal,
    kv ∈ db'.accountAttributes issuer.internal
  otherAttributes : ∀ a ≠ issuer.internal, db'.accountAttributes a = db.accountAttributes a
  scopeOwner : ∀ s, db'.scopeOwner s = some issuer.internal ∨ db'.scopeOwner s = db.scopeOwner s
  accounts : db'.accounts = db.accounts
  identities : db'.identities = db.identities
  rseAttributes : db'.rseAttributes = db.rseAttributes
  parseExpression : db'.parseExpression = db.parseExpression
  lifetimeExceptions : db'.lifetimeExceptions = db.lifetimeExceptions

namespace Promoted

variable {issuer : InternalAccount} {db db' : Db} (hp : Promoted issuer db db')
include hp

/-- The privileged stay privileged. -/
theorem isPrivileged (h : isPrivileged db issuer = true) : isPrivileged db' issuer = true := by
  simp only [DiracRucioPolicy.isPrivileged, Db.hasAccountAttribute, Bool.or_eq_true,
    List.any_eq_true] at h ⊢
  cases h with
  | inl hroot => exact Or.inl hroot
  | inr hadmin =>
    obtain ⟨kv, hkv, hkey⟩ := hadmin
    exact Or.inr ⟨kv, hp.attributes kv hkv, hkey⟩

/-- No scope of the issuer is lost. -/
theorem ownsValue {v : PyVal} (h : OwnsValue db issuer v) : OwnsValue db' issuer v := by
  obtain ⟨name, hname, howner⟩ := h
  refine ⟨name, hname, ?_⟩
  -- the scope is a new one of the issuer, or its owner is the same
  cases hp.scopeOwner name with
  | inl hnew => exact hnew
  | inr hsame => exact hsame.trans howner

/-- What the issuer may use it may use afterwards. -/
theorem mayUseValue {v : PyVal} (h : MayUseValue db issuer v) : MayUseValue db' issuer v :=
  h.imp_left hp.ownsValue

/-- A promotion does not change whether the account is active. -/
theorem active (h : Active db issuer) : Active db' issuer := by
  rw [Active, hp.accounts]
  exact h

/-- No country of the issuer is lost. -/
theorem mem_countriesOf {c : String} (h : c ∈ countriesOf db issuer) :
    c ∈ countriesOf db' issuer := by
  simp only [countriesOf, List.mem_map, List.mem_filter] at h ⊢
  obtain ⟨kv, ⟨hkv, hadmin⟩, hc⟩ := h
  exact ⟨kv, ⟨hp.attributes kv hkv, hadmin⟩, hc⟩

/-- The RSEs stay where they are. -/
theorem rseCountry_eq (rseId : PyVal) : db'.rseCountry rseId = db.rseCountry rseId := by
  rw [Db.rseCountry, Db.rseCountry, hp.rseAttributes]

/-- The resolved countries stay the same, the countries of the issuer become more. -/
theorem coversResolved {kwargs : Dict} (h : CoversResolved db issuer kwargs) :
    CoversResolved db' issuer kwargs := by
  have hsame : resolvedRseCountries db' issuer kwargs = resolvedRseCountries db issuer kwargs := by
    simp only [resolvedRseCountries, hp.parseExpression, hp.rseCountry_eq]
  obtain ⟨resolved, hres, hall⟩ := h
  refine ⟨resolved, hsame.trans hres, fun country hmem => ?_⟩
  obtain ⟨c, hc, heq⟩ := hall country hmem
  exact ⟨c, hp.mem_countriesOf hc, heq⟩

end Promoted

/-! ## Handlers that grow with privilege -/

/-- The request carries the keys that its handler may come to read. Only for `add_rule`
    can the absence of one matter: `locked` is read for the account itself, so that root
    can fail on a request for root that an admin is granted. -/
def CarriesKeys (action : String) (kwargs : Dict) : Prop :=
  action = "add_rule" → kwargs.Has "locked"

/-- A handler of that shape grants after a promotion what it granted before, and grants
    root what it grants anybody. -/
structure PrivilegeMonotone (shape : Shape) : Prop where
  promoted : ∀ {db db' : Db} {issuer : InternalAccount} {kwargs : Dict},
    Promoted issuer db db' → shape.handler db issuer kwargs = .ok true →
      shape.handler db' issuer kwargs = .ok true
  root : ∀ {db : Db} {issuer root : InternalAccount} {kwargs : Dict},
    isRoot root = true → (shape = .addRule → kwargs.Has "locked") →
      shape.handler db issuer kwargs = .ok true → shape.handler db root kwargs = .ok true

/-- Root is privileged without any attribute. -/
theorem isPrivileged_of_isRoot {db : Db} {root : InternalAccount} (h : isRoot root = true) :
    isPrivileged db root = true := by
  rw [isPrivileged, h, Bool.true_or]

namespace PrivilegeMonotone

/-- A handler that grants the privileged everything, and others what a promotion cannot
    take away. -/
theorem of_granted_iff (shape : Shape) {Q : Db → InternalAccount → Dict → Prop}
    (hiff : ∀ {db issuer kwargs}, shape.handler db issuer kwargs = .ok true ↔
      isPrivileged db issuer = true ∨ Q db issuer kwargs)
    (hQ : ∀ {db db' issuer kwargs}, Promoted issuer db db' → Q db issuer kwargs →
      Q db' issuer kwargs) : PrivilegeMonotone shape := by
  constructor
  · intro db db' issuer kwargs hp h
    rw [hiff] at h ⊢
    exact h.imp hp.isPrivileged (hQ hp)
  · intro db issuer root kwargs hroot _ _
    exact hiff.mpr (Or.inl (isPrivileged_of_isRoot hroot))

/-- A handler that grants the privileged everything and others nothing. -/
theorem of_privileged_iff (shape : Shape)
    (hiff : ∀ {db issuer kwargs}, shape.handler db issuer kwargs = .ok true ↔
      isPrivileged db issuer = true) : PrivilegeMonotone shape :=
  of_granted_iff shape (Q := fun _ _ _ => False) (hiff.trans (or_false _).symm.to_iff)
    fun _ h => h

/-- A promotion does not make anybody root. -/
theorem rootOnly : PrivilegeMonotone .rootOnly := by
  constructor
  · intro db db' issuer kwargs _ h
    exact h
  · intro db issuer root kwargs hroot _ _
    exact congrArg Except.ok hroot

/-- An owner stays the owner. -/
theorem scopeOwner : PrivilegeMonotone .scopeOwner := by
  apply of_granted_iff .scopeOwner scopeOwner_granted_iff
  intro db db' issuer kwargs hp h
  obtain ⟨v, hv, hown⟩ := h
  exact ⟨v, hv, hp.ownsValue hown⟩

/-- The scope `mock` stays open to everybody. -/
theorem scopeOwnerOrMock : PrivilegeMonotone .scopeOwnerOrMock := by
  apply of_granted_iff .scopeOwnerOrMock scopeOwnerOrMock_granted_iff
  intro db db' issuer kwargs hp h
  obtain ⟨v, hv, huse⟩ := h
  exact ⟨v, hv, hp.mayUseValue huse⟩

/-- A token is given for an identity, whoever the issuer is. -/
theorem identityOfAccount {c : Credential} : PrivilegeMonotone (.identityOfAccount c) := by
  constructor
  · intro db db' issuer kwargs hp h
    have hexist : db'.existIdentityAccount = db.existIdentityAccount := by
      unfold Db.existIdentityAccount
      rw [hp.identities]
    simp only [Shape.handler, DiracRucioPolicy.identityOfAccount] at h ⊢
    rw [hexist]
    exact h
  · intro db issuer root kwargs _ _ h
    exact h

/-- Root needs the key `locked` where the issuer may have been granted without it: in a
    request for root. -/
theorem addRule : PrivilegeMonotone .addRule := by
  constructor
  · intro db db' issuer kwargs hp h
    rw [Shape.handler, permAddRule_granted_iff] at h ⊢
    obtain ⟨v, hv, hgrant⟩ := h
    -- the same value for `account`, read in both states
    refine ⟨v, hv, ?_⟩
    cases hgrant with
    | inl hself =>
      obtain ⟨heq, locked, hlocked, hor⟩ := hself
      exact Or.inl ⟨heq, locked, hlocked, hor.imp_right hp.isPrivileged⟩
    | inr hother => exact Or.inr ⟨hother.1, hp.isPrivileged hother.2⟩
  · intro db issuer root kwargs hroot hkeys h
    rw [Shape.handler, permAddRule_granted_iff] at h ⊢
    obtain ⟨v, hv, -⟩ := h
    obtain ⟨locked, hlocked⟩ := Option.isSome_iff_exists.mp (hkeys rfl)
    have hpriv : isPrivileged db root = true := isPrivileged_of_isRoot hroot
    refine ⟨v, hv, ?_⟩
    -- for a rule of root itself the handler reads `locked`, whoever was granted before
    cases hself : v.isAccount root with
    | true => exact Or.inl ⟨rfl, locked, hlocked, Or.inr hpriv⟩
    | false => exact Or.inr ⟨rfl, hpriv⟩

/-- The names are compared with that of the issuer, and root is granted anyway. -/
theorem delIdentity : PrivilegeMonotone .delIdentity := by
  constructor
  · intro db db' issuer kwargs _ h
    exact h
  · intro db issuer root kwargs hroot _ _
    exact pyOr_eq_true_iff.mpr (Or.inl hroot)

/-- The rules stay those of the issuer. -/
theorem addDid : PrivilegeMonotone .addDid := by
  apply of_granted_iff .addDid permAddDid_granted_iff
  intro db db' issuer kwargs hp h
  obtain ⟨hrules, v, hv, huse⟩ := h
  exact ⟨hrules, v, hv, hp.mayUseValue huse⟩

/-- The owner of all the scopes stays their owner. -/
theorem attachDidsToDids : PrivilegeMonotone .attachDidsToDids := by
  apply of_granted_iff .attachDidsToDids permAttachDidsToDids_granted_iff
  intro db db' issuer kwargs hp h
  obtain ⟨v, attachments, hv, hiter, hall⟩ := h
  refine ⟨v, attachments, hv, hiter, fun did hmem => ?_⟩
  obtain ⟨s, hs, hown⟩ := hall did hmem
  exact ⟨s, hs, hp.ownsValue hown⟩

/-- Whether the DID is opened again is asked of the request. -/
theorem setStatus : PrivilegeMonotone .setStatus := by
  apply of_granted_iff .setStatus permSetStatus_granted_iff
  intro db db' issuer kwargs hp h
  obtain ⟨hopen, v, hv, hown⟩ := h
  exact ⟨hopen, v, hv, hp.ownsValue hown⟩

/-- The admin of the country of the RSE stays one. -/
theorem localLimit : PrivilegeMonotone .localLimit := by
  apply of_granted_iff .localLimit localAccountLimit_granted_iff
  intro db db' issuer kwargs hp h
  obtain ⟨hactive, rse, c, hrse, hc, heq⟩ := h
  exact ⟨hp.active hactive, rse, c, hrse, hp.mem_countriesOf hc, (hp.rseCountry_eq rse).trans heq⟩

/-- The admin of the countries of all RSEs stays one. -/
theorem setGlobalLimit : PrivilegeMonotone .setGlobalLimit := by
  apply of_granted_iff .setGlobalLimit permSetGlobalAccountLimit_granted_iff
  intro db db' issuer kwargs hp h
  exact ⟨hp.active h.1, hp.coversResolved h.2⟩

/-- So does the admin of any country. -/
theorem deleteGlobalLimit : PrivilegeMonotone .deleteGlobalLimit := by
  apply of_granted_iff .deleteGlobalLimit permDeleteGlobalAccountLimit_granted_iff
  intro db db' issuer kwargs hp h
  obtain ⟨hactive, hne, hcountries⟩ := h
  refine ⟨hp.active hactive, ?_, hp.coversResolved hcountries⟩
  -- a country of the issuer stays one
  obtain ⟨c, hc⟩ := List.exists_mem_of_ne_nil _ hne
  exact List.ne_nil_of_mem (hp.mem_countriesOf hc)

/-- An attribute of a country admin is not lost. -/
theorem usage : PrivilegeMonotone .usage := by
  apply of_granted_iff .usage accountUsage_granted_iff
  intro db db' issuer kwargs hp h
  cases h with
  | inl hself => exact Or.inl hself
  | inr hadmin =>
    obtain ⟨hactive, kv, hkv, hadmin⟩ := hadmin
    exact Or.inr ⟨hp.active hactive, kv, hp.attributes kv hkv, hadmin⟩

/-- The exception is looked up for the privileged as well. -/
theorem updateExceptions : PrivilegeMonotone .updateExceptions := by
  constructor
  · intro db db' issuer kwargs hp h
    have hnext : db'.nextException = db.nextException := by
      unfold Db.nextException
      rw [hp.lifetimeExceptions]
    rw [Shape.handler, permUpdateLifetimeExceptions_granted_iff] at h ⊢
    rw [hnext]
    exact ⟨hp.isPrivileged h.1, h.2⟩
  · intro db issuer root kwargs hroot _ h
    rw [Shape.handler, permUpdateLifetimeExceptions_granted_iff] at h ⊢
    exact ⟨isPrivileged_of_isRoot hroot, h.2⟩

end PrivilegeMonotone

/-- Every handler grows with privilege. -/
theorem privilegeMonotone_shape (shape : Shape) : PrivilegeMonotone shape := by
  cases shape with
  | rootOrAdmin => exact .of_privileged_iff _ (by simp [Shape.handler, rootOrAdmin])
  | rootOnly => exact .rootOnly
  | everybody => exact ⟨fun _ h => h, fun _ _ h => h⟩
  | nobody => exact ⟨fun _ h => h, fun _ _ h => h⟩  -- not even root deletes replicas
  | scopeOwner => exact .scopeOwner
  | scopeOwnerOrMock => exact .scopeOwnerOrMock
  | identityOfAccount c => exact .identityOfAccount
  | addRule => exact .addRule
  | delIdentity => exact .delIdentity
  | addDid => exact .addDid
  | addDids => exact .of_privileged_iff _ permAddDids_granted_iff
  | attachDidsToDids => exact .attachDidsToDids
  | setStatus => exact .setStatus
  | addReplicas => exact .of_granted_iff _ permAddReplicas_granted_iff fun _ h => h
  | localLimit => exact .localLimit
  | setGlobalLimit => exact .setGlobalLimit
  | deleteGlobalLimit => exact .deleteGlobalLimit
  | usage => exact .usage
  | updateExceptions => exact .updateExceptions
  | removeDid => exact .of_granted_iff _ pyOr_eq_true_iff fun _ h => h
  | removeDids => exact .of_granted_iff _ pyOr_eq_true_iff fun _ h => h

/-- A request that carries the keys of its action carries those of its shape. -/
theorem CarriesKeys.of_shape {action : String} {kwargs : Dict} (h : CarriesKeys action kwargs) :
    shapeOf action = .addRule → kwargs.Has "locked" :=
  fun hshape => h (eq_of_shapeOf_addRule hshape)

/-- Permissions are monotone in privilege: a request that is granted is granted after a
    promotion of the issuer, and to root. -/
theorem privilege_monotone (issuer : InternalAccount) (action : String) (kwargs : Dict) :
    (∀ db db', Promoted issuer db db' → hasPermission db issuer action kwargs = .ok true →
      hasPermission db' issuer action kwargs = .ok true) ∧
    (∀ db root, isRoot root = true → CarriesKeys action kwargs →
      hasPermission db issuer action kwargs = .ok true →
        hasPermission db root action kwargs = .ok true) := by
  have hmono := privilegeMonotone_shape (shapeOf action)
  simp only [hasPermission, handlerOf_eq_shape]
  constructor
  · intro db db' hp h
    exact hmono.promoted hp h
  · intro db root hroot hkeys h
    exact hmono.root hroot hkeys.of_shape h

/-- The database in which Bob is an admin of France, too. -/
def bobsFrance : Db :=
  { bobsDb with
    accountAttributes := fun a => if a = bob.internal then [("country-fr", .str "admin")] else [] }

/-- What Bob is granted on his scope he keeps as a country admin, and root is granted a
    rule for Bob. -/
theorem privilege_monotone_bob :
    hasPermission bobsFrance bob "set_metadata" [("scope", .scope bobsScope)] = .ok true ∧
    hasPermission bobsDb ⟨"root", "def"⟩ "add_rule"
      [("account", .account bob), ("locked", .bool false)] = .ok true := by
  have hp : Promoted bob bobsDb bobsFrance :=
    { attributes := fun _ h => nomatch h
      otherAttributes := fun a ha => if_neg ha
      scopeOwner := fun _ => Or.inr rfl
      accounts := rfl
      identities := rfl
      rseAttributes := rfl
      parseExpression := rfl
      lifetimeExceptions := rfl }
  constructor
  · exact (privilege_monotone bob "set_metadata" _).1 bobsDb bobsFrance hp rfl
  · exact (privilege_monotone bob "add_rule" _).2 bobsDb ⟨"root", "def"⟩ rfl (fun _ => rfl) rfl

end DiracRucioPolicy
