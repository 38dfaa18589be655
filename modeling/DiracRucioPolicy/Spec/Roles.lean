import DiracRucioPolicy.ForStd.Requirement
import DiracRucioPolicy.Spec.CountryAdmins
import DiracRucioPolicy.Spec.Promotion

/-!
# The policy in terms of roles

Who may do what, without handlers: an account has roles, which come from its name, its
status, its attributes and the scopes it owns, and a request requires roles, which depend
on its arguments and on the tables that say nothing about the issuer. The handlers
implement that policy.

## Key results

- `roles`, `required`: the roles of an account and the requirement of a request
- `implements_shape`: every handler grants what its requirement says
- `granted_iff_required`: so does `has_permission`
- `root_admin_gap`: what root is granted and an admin is not
-/

namespace DiracRucioPolicy

open Requirement

/-! ## Roles -/

/-- What an account can be with respect to a request. Accounts and scopes are known by
    their internal names. -/
inductive Role where
  | root
  | admin
  | active
  | account (name : String)
  | named (external : String)
  | member (vo : String)
  | owner (scope : String)
  | countryAdmin (country : String)

/-- The account has the role. -/
def Holds (db : Db) (issuer : InternalAccount) : Role → Prop
  | .root => issuer.external = "root"
  | .admin => ∃ kv ∈ db.accountAttributes issuer.internal, kv.1 = "admin"
  | .active => Active db issuer
  | .account name => issuer.internal = name
  | .named external => issuer.external = external
  | .member vo => issuer.vo = vo
  | .owner scope => db.scopeOwner scope = some issuer.internal
  | .countryAdmin country => AdminOf db issuer country

/-- The roles of an account. -/
def roles (db : Db) (issuer : InternalAccount) : Set Role := {r | Holds db issuer r}

/-! ## Requirements -/

/-- The tables that are not about the issuer. -/
structure Resources where
  identities : Identity → String → Bool
  rseCountry : PyVal → PyAtom
  parseExpression : PyVal → String → Except PyErr (List Dict)
  exceptionVo : PyVal → Except PyErr String

/-- What a database says about resources. -/
def Db.resources (db : Db) : Resources where
  identities := db.identities
  rseCountry := db.rseCountry
  parseExpression := db.parseExpression
  exceptionVo id := (db.nextException id).map (·.scope.vo)

/-- The roles that a request requires. -/
abbrev Policy := Resources → Dict → Requirement Role

namespace Policy

/-- Root or an admin. -/
def privileged : Policy := fun _ _ => role .root ∪ role .admin

/-- Root only. -/
def rootOnly : Policy := fun _ _ => role .root

/-- Everybody. -/
def everybody : Policy := fun _ _ => nothing

/-- Nobody, not even root. -/
def nobody : Policy := fun _ _ => ∅

/-- One of the two policies. -/
def or (p q : Policy) : Policy := fun res kwargs => p res kwargs ∪ q res kwargs

/-- The owner of the scope of the request. -/
def owner : Policy := fun _ kwargs =>
  any fun name => given (∃ v, kwargs.get? "scope" = some v ∧ Db.bindInternal v = .ok (some name))
    (role (.owner name))

/-- Anybody, if the scope of the request is called `mock`. -/
def mock : Policy := fun _ kwargs =>
  given (∃ v, kwargs.get? "scope" = some v ∧ v.external = .ok "mock") nothing

/-- The owner of the scope, or anybody if it is called `mock`. -/
def ownerOrMock : Policy := owner.or mock

/-- The accounts of all the rules. -/
def ownRules : Policy := fun _ kwargs =>
  any fun rules => given ((kwargs.getD "rules" (.list [])).iter = .ok rules)
    (each rules fun rule => any fun a =>
      given (rule.getItem "account" = .ok (.account a)) (role (.account a.internal)))

/-- The owner of the scopes of all the attachments. -/
def ownAttachments : Policy := fun _ kwargs =>
  any fun attachments => given
    (∃ v, kwargs.get? "attachments" = some v ∧ v.iter = .ok attachments)
    (each attachments fun did => any fun name =>
      given (∃ v, did.getItem "scope" = .ok v ∧ Db.bindInternal v = .ok (some name))
        (role (.owner name)))

/-- The account under the key. -/
def accountOf (key : String) : Policy := fun _ kwargs =>
  any fun a => given (kwargs.get? key = some (.account a)) (role (.account a.internal))

/-- Anybody, for an identity of the account of the request. -/
def linked (key : String) (type : IdentityType) : Policy := fun res kwargs =>
  given (∃ k v name, kwargs.get? key = some (.str k) ∧ kwargs.get? "account" = some v ∧
    Db.bindInternal v = .ok (some name) ∧ res.identities ⟨k, type⟩ name = true) nothing

/-- The active admin of the country of the RSE. -/
def localCountry : Policy := fun res kwargs =>
  (role .active).and (any fun c =>
    given (∃ rse, kwargs.get? "rse_id" = some rse ∧ res.rseCountry rse = .str c)
      (role (.countryAdmin c)))

/-- The active admin of the countries of all RSEs to which the expression resolves in the
    VO. Every record must have an `rse_id`. -/
def globalCountries : Policy := fun res kwargs =>
  (role .active).and (any fun vo => (role (.member vo)).and (any fun rses =>
    given (∃ e, kwargs.get? "rse_expression" = some e ∧ res.parseExpression e vo = .ok rses)
      (each rses fun rse => any fun c =>
        given (∃ v, rse.getItem "rse_id" = .ok v ∧ res.rseCountry v = .str c)
          (role (.countryAdmin c)))))

/-- The active admin of any country. -/
def anyCountry : Policy := fun _ _ =>
  (role .active).and (any fun c => role (.countryAdmin c))

/-- The accounts whose names are among those of the identity. -/
def listedName : Policy := fun _ kwargs =>
  any fun name => given ((kwargs.getD "accounts" .none).contains name = .ok true)
    (role (.named name))

/-- An RSE that is open to everybody. -/
def openRse : Policy := fun _ kwargs =>
  given (∃ suffix ∈ ["SCRATCHDISK", "USERDISK", "MOCK", "LOCALGROUPDISK"],
    (kwargs.getD "rse" (.str "")).strEndswith suffix = true) nothing

/-- Privileged accounts create rules, and others unlocked rules for themselves. -/
def addRule : Policy := fun res kwargs =>
  given (kwargs.Has "account") (privileged res kwargs ∪
    given (∃ locked, kwargs.get? "locked" = some locked ∧ locked.truthy = false)
      (accountOf "account" res kwargs))

/-- Others create DIDs where they may, with rules of their own. -/
def addDid : Policy :=
  privileged.or fun res kwargs => (ownRules res kwargs).and (ownerOrMock res kwargs)

/-- An owner closes a DID. -/
def setStatus : Policy :=
  privileged.or fun res kwargs =>
    given ((kwargs.getD "open" (.bool false)).truthy = false) (owner res kwargs)

/-- The exception must be one of the VO that is given. -/
def updateExceptions : Policy := fun res kwargs =>
  given (∃ vo, kwargs.get? "vo" = some vo ∧ (vo = .none ∨ ∃ id name,
    kwargs.get? "exception_id" = some id ∧ res.exceptionVo id = .ok name ∧ vo.isStr name = true))
    (privileged res kwargs)

/-- Everybody follows DIDs of the scope `mock`; the key `account` must be there. -/
def removeDidFromFollowed : Policy :=
  privileged.or fun res kwargs => accountOf "account" res kwargs ∪
    given (kwargs.Has "account" ∧ ∃ v, kwargs.get? "scope" = some v ∧ v.external = .ok "mock")
      nothing

/-- Without any country nobody deletes a global limit. -/
def deleteGlobalLimit : Policy :=
  privileged.or fun res kwargs => (anyCountry res kwargs).and (globalCountries res kwargs)

end Policy

/-- The policy of the actions of that shape. -/
def Shape.policy : Shape → Policy
  | rootOrAdmin => .privileged
  | rootOnly => .rootOnly
  | everybody => .everybody
  | nobody => .nobody
  | scopeOwner => Policy.privileged.or .owner
  | scopeOwnerOrMock => Policy.privileged.or .ownerOrMock
  | identityOfAccount c => .linked c.key c.type
  | addRule => .addRule
  | delIdentity => Policy.rootOnly.or .listedName
  | addDid => .addDid
  | addDids => .privileged
  | attachDidsToDids => Policy.privileged.or .ownAttachments
  | setStatus => .setStatus
  | addReplicas => Policy.privileged.or .openRse
  | localLimit => Policy.privileged.or .localCountry
  | setGlobalLimit => Policy.privileged.or .globalCountries
  | deleteGlobalLimit => .deleteGlobalLimit
  | usage => Policy.privileged.or ((Policy.accountOf "account").or .anyCountry)
  | updateExceptions => .updateExceptions
  | removeDid => .removeDidFromFollowed
  | removeDids => Policy.privileged.or (.accountOf "account")

/-- The roles that the request requires. -/
def required (res : Resources) (action : String) (kwargs : Dict) : Requirement Role :=
  (shapeOf action).policy res kwargs

/-! ## What the requirements ask of an account -/

variable {db : Db} {issuer : InternalAccount} {kwargs : Dict}

/-- The roles of an account are those that it holds. -/
@[simp] theorem mem_roles {r : Role} : r ∈ roles db issuer ↔ Holds db issuer r := Iff.rfl

/-- The privilege of the policy is that of the handlers. -/
theorem met_privileged :
    (Policy.privileged db.resources kwargs).Met (roles db issuer) ↔
      isPrivileged db issuer = true := by
  simp [Policy.privileged, Holds, isPrivileged, isRoot, Db.hasAccountAttribute]

/-- A requirement of root is one of the name. -/
theorem met_rootOnly :
    (Policy.rootOnly db.resources kwargs).Met (roles db issuer) ↔ isRoot issuer = true := by
  simp [Policy.rootOnly, Holds, isRoot]

/-- An owner of the scope under a key owns the name that the scope is bound to. -/
theorem exists_ownsValue_iff {P : PyVal → Prop} :
    (∃ v, P v ∧ OwnsValue db issuer v) ↔
      ∃ name, (∃ v, P v ∧ Db.bindInternal v = .ok (some name)) ∧
        db.scopeOwner name = some issuer.internal := by
  constructor
  · intro h
    obtain ⟨v, hv, name, hname, howner⟩ := h
    exact ⟨name, ⟨v, hv, hname⟩, howner⟩
  · intro h
    obtain ⟨name, ⟨v, hv, hname⟩, howner⟩ := h
    exact ⟨v, hv, name, hname, howner⟩

/-- A value is the issuer when it is an account of the same internal name. -/
theorem exists_isAccount_iff {P : PyVal → Prop} :
    (∃ v, P v ∧ v.isAccount issuer = true) ↔
      ∃ a : InternalAccount, P (.account a) ∧ issuer.internal = a.internal := by
  simp only [PyVal.isAccount_iff]
  constructor
  · intro h
    obtain ⟨_, hv, a, rfl, ha⟩ := h
    exact ⟨a, hv, ha.symm⟩
  · intro h
    obtain ⟨a, hv, ha⟩ := h
    exact ⟨_, hv, a, rfl, ha.symm⟩

/-- The scope of the request is one of the issuer's. -/
theorem met_owner :
    (Policy.owner db.resources kwargs).Met (roles db issuer) ↔
      ∃ v, kwargs.get? "scope" = some v ∧ OwnsValue db issuer v := by
  rw [exists_ownsValue_iff]
  simp only [Policy.owner, met_any, met_given, met_role, mem_roles, Holds]

/-- The owner of the scope, or anybody if it is called `mock`. -/
theorem met_ownerOrMock :
    (Policy.ownerOrMock db.resources kwargs).Met (roles db issuer) ↔
      ∃ v, kwargs.get? "scope" = some v ∧ MayUseValue db issuer v := by
  simp only [Policy.ownerOrMock, Policy.or, met_or, met_owner, Policy.mock, met_given,
    met_nothing, and_true, MayUseValue, ← exists_or, ← and_or_left]

/-- All the rules are for the issuer. -/
theorem met_ownRules :
    (Policy.ownRules db.resources kwargs).Met (roles db issuer) ↔
      ∃ rules, (kwargs.getD "rules" (.list [])).iter = .ok rules ∧
        ∀ rule ∈ rules, OwnRule issuer rule := by
  simp only [Policy.ownRules, met_any, met_given, met_each, met_role, mem_roles, Holds, OwnRule,
    exists_isAccount_iff]

/-- All the scopes of the attachments are the issuer's. -/
theorem met_ownAttachments :
    (Policy.ownAttachments db.resources kwargs).Met (roles db issuer) ↔
      ∃ v attachments, kwargs.get? "attachments" = some v ∧ v.iter = .ok attachments ∧
        ∀ did ∈ attachments, ∃ v, did.getItem "scope" = .ok v ∧ OwnsValue db issuer v := by
  simp only [Policy.ownAttachments, met_any, met_given, met_each, met_role, mem_roles, Holds,
    exists_ownsValue_iff]
  constructor
  · intro h
    obtain ⟨attachments, ⟨v, hv, hiter⟩, hall⟩ := h
    exact ⟨v, attachments, hv, hiter, hall⟩
  · intro h
    obtain ⟨v, attachments, hv, hiter, hall⟩ := h
    exact ⟨attachments, ⟨v, hv, hiter⟩, hall⟩

/-- The account under the key is the issuer. -/
theorem met_accountOf {key : String} :
    (Policy.accountOf key db.resources kwargs).Met (roles db issuer) ↔
      ∃ v, kwargs.get? key = some v ∧ v.isAccount issuer = true := by
  rw [exists_isAccount_iff]
  simp only [Policy.accountOf, met_any, met_given, met_role, mem_roles, Holds]

/-- The link is asked of the tables, not of the issuer. -/
theorem met_linked {key : String} {type : IdentityType} :
    (Policy.linked key type db.resources kwargs).Met (roles db issuer) ↔
      identityOfAccount key type db issuer kwargs = .ok true := by
  have htext : ∀ {v : PyVal} {k : String}, Db.bindText v = .ok (some k) ↔ v = .str k := by
    intro v k
    cases v with
    | list vs => simp [Db.bindText]
    | dict d => simp [Db.bindText]
    | atom a => cases a <;> simp [Db.bindText]
  simp only [Policy.linked, met_given, met_nothing, and_true, identityOfAccount,
    Db.existIdentityAccount, Except.bind_eq_ok_iff, Dict.getItem_eq_ok_iff, Except.pure_eq_ok_iff,
    Option.any_eq_true]
  constructor
  · intro h
    obtain ⟨k, v, name, hk, hv, hname, hlink⟩ := h
    exact ⟨_, hk, v, hv, _, htext.mpr rfl, _, hname, k, rfl, name, rfl, hlink⟩
  · intro h
    obtain ⟨identity, hid, v, hv, _, hk, _, hname, k, rfl, name, rfl, hlink⟩ := h
    rw [htext.mp hk] at hid
    exact ⟨k, v, name, hid, hv, hname, hlink⟩

/-- The issuer is an active admin of the country of the RSE. -/
theorem met_localCountry :
    (Policy.localCountry db.resources kwargs).Met (roles db issuer) ↔
      Active db issuer ∧ ∃ rse c, kwargs.get? "rse_id" = some rse ∧
        c ∈ countriesOf db issuer ∧ db.rseCountry rse = .str c := by
  simp only [Policy.localCountry, met_and, met_any, met_given, met_role, mem_roles, Holds,
    mem_countriesOf_iff, Db.resources]
  apply and_congr_right
  intro _
  constructor
  · intro h
    obtain ⟨c, ⟨rse, hrse, hcountry⟩, hadmin⟩ := h
    exact ⟨rse, c, hrse, hadmin, hcountry⟩
  · intro h
    obtain ⟨rse, c, hrse, hadmin, hcountry⟩ := h
    exact ⟨c, ⟨rse, hrse, hcountry⟩, hadmin⟩

/-- The issuer is an active admin of some country. -/
theorem met_anyCountry :
    (Policy.anyCountry db.resources kwargs).Met (roles db issuer) ↔
      Active db issuer ∧ countriesOf db issuer ≠ [] := by
  simp only [Policy.anyCountry, met_and, met_any, met_role, mem_roles, Holds,
    countriesOf_ne_nil_iff]

/-- The records of the expression can be read, one by one. -/
theorem coversResolved_iff_records :
    CoversResolved db issuer kwargs ↔
      ∃ e rses, kwargs.get? "rse_expression" = some e ∧
        db.parseExpression e issuer.vo = .ok rses ∧
        ∀ rse ∈ rses, ∃ v c, rse.getItem "rse_id" = .ok v ∧ c ∈ countriesOf db issuer ∧
          db.rseCountry v = .str c := by
  have hrecords : ∀ rses : List Dict,
      (∃ countries, (rses.mapM fun rse => do return db.rseCountry (← rse.getItem "rse_id")) =
          (.ok countries : Except PyErr (List PyAtom)) ∧
        ∀ country ∈ countries, ∃ c ∈ countriesOf db issuer, country = .str c) ↔
      ∀ rse ∈ rses, ∃ v c, rse.getItem "rse_id" = .ok v ∧ c ∈ countriesOf db issuer ∧
        db.rseCountry v = .str c := by
    intro rses
    rw [List.exists_mapM_eq_ok_iff]
    apply forall₂_congr
    intro rse _
    simp only [Except.bind_eq_ok_iff, Except.pure_eq_ok_iff]
    constructor
    · intro h
      obtain ⟨_, ⟨v, hv, rfl⟩, c, hc, heq⟩ := h
      exact ⟨v, c, hv, hc, heq⟩
    · intro h
      obtain ⟨v, c, hv, hc, heq⟩ := h
      exact ⟨_, ⟨v, hv, rfl⟩, c, hc, heq⟩
  simp only [← hrecords]
  constructor
  · intro h
    obtain ⟨resolved, hres, hall⟩ := h
    simp only [resolvedRseCountries, Except.bind_eq_ok_iff, Dict.getItem_eq_ok_iff,
      Except.pure_eq_ok_iff] at hres
    obtain ⟨e, he, rses, hrses, countries, hcountries, rfl⟩ := hres
    exact ⟨e, rses, he, hrses, countries, hcountries, fun c hc => hall c (List.mem_dedup.mpr hc)⟩
  · intro h
    obtain ⟨e, rses, he, hrses, countries, hcountries, hall⟩ := h
    refine ⟨countries.dedup, ?_, fun c hc => hall c (List.mem_dedup.mp hc)⟩
    rw [resolvedRseCountries, Dict.getItem_eq_ok_iff.mpr he, Except.ok_bind, hrses,
      Except.ok_bind, hcountries]
    rfl

/-- The records can be read, and the issuer is an admin of the countries of all of them. -/
theorem met_globalCountries :
    (Policy.globalCountries db.resources kwargs).Met (roles db issuer) ↔
      Active db issuer ∧ CoversResolved db issuer kwargs := by
  simp only [Policy.globalCountries, met_and, met_any, met_given, met_each, met_role, mem_roles,
    Holds, ← mem_countriesOf_iff]
  apply and_congr_right
  intro _
  rw [coversResolved_iff_records]
  constructor
  · intro h
    obtain ⟨vo, rfl, rses, ⟨e, he, hrses⟩, hall⟩ := h
    refine ⟨e, rses, he, hrses, fun rse hmem => ?_⟩
    obtain ⟨c, ⟨v, hv, hcountry⟩, hadmin⟩ := hall rse hmem
    exact ⟨v, c, hv, hadmin, hcountry⟩
  · intro h
    obtain ⟨e, rses, he, hrses, hall⟩ := h
    refine ⟨issuer.vo, rfl, rses, ⟨e, he, hrses⟩, fun rse hmem => ?_⟩
    obtain ⟨v, c, hv, hadmin, hcountry⟩ := hall rse hmem
    exact ⟨c, ⟨v, hv, hcountry⟩, hadmin⟩

/-- The name of the issuer is among those listed. -/
theorem met_listedName :
    (Policy.listedName db.resources kwargs).Met (roles db issuer) ↔
      (kwargs.getD "accounts" .none).contains issuer.external = .ok true := by
  simp [Policy.listedName, Holds]

/-! ## The handlers implement the policy -/

/-- The handler grants the requests whose requirement the issuer meets. -/
def Implements (shape : Shape) : Prop :=
  ∀ db issuer kwargs, (shape = .addRule → kwargs.Has "locked") →
    (shape.handler db issuer kwargs = .ok true ↔
      (shape.policy db.resources kwargs).Met (roles db issuer))

namespace Implements

/-- Handlers that grant the privileged everything. -/
theorem of_granted_iff (shape : Shape) {policy : Policy}
    (hpolicy : shape.policy = Policy.privileged.or policy) {Q : Db → InternalAccount → Dict → Prop}
    (hiff : ∀ {db issuer kwargs}, shape.handler db issuer kwargs = .ok true ↔
      isPrivileged db issuer = true ∨ Q db issuer kwargs)
    (hQ : ∀ {db issuer kwargs},
      (policy db.resources kwargs).Met (roles db issuer) ↔ Q db issuer kwargs) :
    Implements shape := by
  intro db issuer kwargs _
  rw [hiff, hpolicy, Policy.or, met_or, met_privileged, hQ]

/-- With the key `locked` in the request the one negative condition of the handler, that
    nobody is refused for leaving it out, plays no role. -/
theorem addRule : Implements .addRule := by
  intro db issuer kwargs hkeys
  obtain ⟨locked, hlocked⟩ := Option.isSome_iff_exists.mp (hkeys rfl)
  rw [Shape.handler, Shape.policy, permAddRule_granted_iff, Policy.addRule, met_given, met_or,
    met_privileged, met_given, met_accountOf, Dict.Has, Option.isSome_iff_exists]
  simp only [hlocked, Option.some.injEq, exists_eq_left']
  constructor
  · intro h
    obtain ⟨v, hv, hgrant⟩ := h
    refine ⟨⟨v, hv⟩, ?_⟩
    cases hgrant with
    | inl hself =>
      obtain ⟨hself, hor⟩ := hself
      exact hor.symm.imp_right fun hopen => ⟨hopen, v, hv, hself⟩
    | inr hother => exact Or.inl hother.2
  · intro h
    obtain ⟨⟨v, hv⟩, hgrant⟩ := h
    refine ⟨v, hv, ?_⟩
    cases hself : v.isAccount issuer with
    | true => exact Or.inl ⟨rfl, hgrant.symm.imp_left fun h => h.1⟩
    | false =>
      refine Or.inr ⟨rfl, hgrant.resolve_right fun h => ?_⟩
      -- the account of the request is the one that is compared
      obtain ⟨-, w, hw, hissuer⟩ := h
      rw [hv] at hw
      rw [← Option.some.inj hw, hself] at hissuer
      exact Bool.false_ne_true hissuer

/-- The names decide for everybody but root. -/
theorem delIdentity : Implements .delIdentity := by
  intro db issuer kwargs _
  rw [Shape.handler, Shape.policy, Policy.or, met_or, met_rootOnly, met_listedName,
    permDelIdentity, pyOr_eq_true_iff]

/-- The rules and the scope are both asked for. -/
theorem addDid : Implements .addDid := by
  apply of_granted_iff .addDid rfl permAddDid_granted_iff
  intro db issuer kwargs
  rw [met_and, met_ownRules, met_ownerOrMock]

/-- The owner closes the DID. -/
theorem setStatus : Implements .setStatus := by
  apply of_granted_iff .setStatus rfl permSetStatus_granted_iff
  intro db issuer kwargs
  rw [met_given, met_owner]

/-- The RSE is one that is open to everybody. -/
theorem addReplicas : Implements .addReplicas := by
  apply of_granted_iff .addReplicas rfl permAddReplicas_granted_iff
  intro db issuer kwargs
  rw [Policy.openRse, met_given, and_iff_left met_nothing]

/-- A country of the issuer is asked for before the expression is resolved. -/
theorem deleteGlobalLimit : Implements .deleteGlobalLimit := by
  apply of_granted_iff .deleteGlobalLimit rfl permDeleteGlobalAccountLimit_granted_iff
  intro db issuer kwargs
  rw [met_and, met_anyCountry, met_globalCountries, and_and_and_comm, and_self]

/-- The default of the key `account` is nobody. -/
theorem usage : Implements .usage := by
  apply of_granted_iff .usage rfl accountUsage_granted_iff
  intro db issuer kwargs
  rw [Policy.or, met_or, met_accountOf, met_anyCountry]
  apply or_congr
  · rw [Dict.getD]
    cases kwargs.get? "account" with
    | none => simp [PyVal.isAccount]
    | some v => simp
  · simp [countriesOf]

/-- The exception is asked for its VO. -/
theorem updateExceptions : Implements .updateExceptions := by
  intro db issuer kwargs _
  rw [Shape.handler, Shape.policy, Policy.updateExceptions, met_given, met_privileged,
    permUpdateLifetimeExceptions_granted_iff, and_comm]
  apply and_congr_left
  intro _
  have hvo : ∀ id name, db.resources.exceptionVo id = .ok name ↔
      ∃ e, db.nextException id = .ok e ∧ e.scope.vo = name := by
    intro id name
    show (db.nextException id).map (·.scope.vo) = .ok name ↔ _
    cases db.nextException id with
    | error err => simp [Except.map]
    | ok e => simp [Except.map]
  simp only [hvo]
  apply exists_congr
  intro vo
  apply and_congr_right
  intro _
  apply or_congr_right
  apply exists_congr
  intro id
  constructor
  · intro h
    obtain ⟨e, hid, he, hstr⟩ := h
    exact ⟨_, hid, ⟨e, he, rfl⟩, hstr⟩
  · intro h
    obtain ⟨name, hid, ⟨e, he, rfl⟩, hstr⟩ := h
    exact ⟨e, hid, he, hstr⟩

/-- The scope is looked at when the account is another one. -/
theorem removeDid : Implements .removeDid := by
  apply of_granted_iff .removeDid rfl pyOr_eq_true_iff
  intro db issuer kwargs
  simp only [met_or, met_accountOf, met_given, met_nothing, and_true, Except.bind_eq_ok_iff,
    Dict.getItem_eq_ok_iff, Dict.Has, Option.isSome_iff_exists]
  constructor
  · intro h
    cases h with
    | inl hself =>
      obtain ⟨v, hv, hself⟩ := hself
      refine ⟨v, hv, ?_⟩
      rw [if_pos hself]
      rfl
    | inr hmock =>
      obtain ⟨⟨v, hv⟩, w, hw, hext⟩ := hmock
      refine ⟨v, hv, ?_⟩
      split
      · rfl
      · simp only [Except.bind_eq_ok_iff, Dict.getItem_eq_ok_iff, Except.pure_eq_ok_iff]
        exact ⟨w, hw, _, hext, by decide⟩
  · intro h
    obtain ⟨v, hv, hrest⟩ := h
    by_cases hself : v.isAccount issuer = true
    · exact Or.inl ⟨v, hv, hself⟩
    · rw [if_neg hself] at hrest
      simp only [Except.bind_eq_ok_iff, Dict.getItem_eq_ok_iff, Except.pure_eq_ok_iff,
        decide_eq_true_eq] at hrest
      obtain ⟨w, hw, name, hname, rfl⟩ := hrest
      exact Or.inr ⟨⟨v, hv⟩, w, hw, hname⟩

/-- Of several DIDs only the account counts. -/
theorem removeDids : Implements .removeDids := by
  apply of_granted_iff .removeDids rfl pyOr_eq_true_iff
  intro db issuer kwargs
  simp only [met_accountOf, Except.bind_eq_ok_iff, Dict.getItem_eq_ok_iff, Except.pure_eq_ok_iff]

end Implements

/-- Every handler implements its policy. -/
theorem implements_shape (shape : Shape) : Implements shape := by
  cases shape with
  | rootOrAdmin =>
    intro db issuer kwargs _
    rw [Shape.policy, met_privileged, Shape.handler, rootOrAdmin, Except.ok.injEq]
  | rootOnly =>
    intro db issuer kwargs _
    rw [Shape.policy, met_rootOnly, Shape.handler, rootOnly, Except.ok.injEq]
  | everybody =>
    intro db issuer kwargs _
    exact iff_of_true rfl met_nothing
  | nobody =>
    intro db issuer kwargs _
    rw [show Shape.nobody.handler db issuer kwargs = .ok false from rfl]
    exact iff_of_false (by simp) not_met_empty
  | scopeOwner => exact .of_granted_iff _ rfl scopeOwner_granted_iff met_owner
  | scopeOwnerOrMock => exact .of_granted_iff _ rfl scopeOwnerOrMock_granted_iff met_ownerOrMock
  | identityOfAccount c => exact fun _ _ _ _ => met_linked.symm
  | addRule => exact .addRule
  | delIdentity => exact .delIdentity
  | addDid => exact .addDid
  | addDids =>
    intro db issuer kwargs _
    rw [Shape.policy, met_privileged, Shape.handler, permAddDids_granted_iff]
  | attachDidsToDids =>
    exact .of_granted_iff _ rfl permAttachDidsToDids_granted_iff met_ownAttachments
  | setStatus => exact .setStatus
  | addReplicas => exact .addReplicas
  | localLimit => exact .of_granted_iff _ rfl localAccountLimit_granted_iff met_localCountry
  | setGlobalLimit =>
    exact .of_granted_iff _ rfl permSetGlobalAccountLimit_granted_iff met_globalCountries
  | deleteGlobalLimit => exact .deleteGlobalLimit
  | usage => exact .usage
  | updateExceptions => exact .updateExceptions
  | removeDid => exact .removeDid
  | removeDids => exact .removeDids

/-- A request that carries its keys is granted to the roles that its shape requires. -/
theorem granted_iff_met {action : String} (hkeys : CarriesKeys action kwargs) :
    hasPermission db issuer action kwargs = .ok true ↔
      (required db.resources action kwargs).Met (roles db issuer) := by
  rw [hasPermission, handlerOf_eq_shape]
  exact implements_shape (shapeOf action) db issuer kwargs hkeys.of_shape

/-- A request is granted exactly if the issuer has the roles that it requires. -/
theorem granted_iff_required (db : Db) (issuer : InternalAccount) (action : String) (kwargs : Dict)
    (hkeys : CarriesKeys action kwargs) :
    hasPermission db issuer action kwargs = .ok true ↔
      (required db.resources action kwargs).Met (roles db issuer) :=
  granted_iff_met hkeys

/-- Bob closes a DID of his scope as its owner. -/
theorem granted_iff_required_bob :
    (required bobsDb.resources "set_status" [("scope", .scope bobsScope)]).Met
      (roles bobsDb bob) :=
  (granted_iff_required bobsDb bob "set_status" _ (fun h => absurd h (by decide))).mp (by decide)

/-- The issuer counts by its roles only: with more of them it is granted more. -/
theorem granted_of_roles_subset {db' : Db} {issuer' : InternalAccount} {action : String}
    (hkeys : CarriesKeys action kwargs) (hres : db'.resources = db.resources)
    (hroles : roles db issuer ⊆ roles db' issuer')
    (h : hasPermission db issuer action kwargs = .ok true) :
    hasPermission db' issuer' action kwargs = .ok true := by
  rw [granted_iff_met hkeys] at h ⊢
  rw [hres]
  exact h.mono hroles

/-! ## What root is granted and an admin is not -/

/-- Apart from the handlers for root and from `del_identity`, the privileged are granted what
    anybody is granted. -/
theorem granted_of_isPrivileged {shape : Shape} {other admin : InternalAccount}
    (hkeys : shape = .addRule → kwargs.Has "locked")
    (hadmin : isPrivileged db admin = true) (honly : shape ≠ .rootOnly)
    (hidentity : shape ≠ .delIdentity) (h : shape.handler db other kwargs = .ok true) :
    shape.handler db admin kwargs = .ok true := by
  have hor : ∀ {policy : Policy}, shape.policy = Policy.privileged.or policy →
      shape.handler db admin kwargs = .ok true := by
    intro policy hpolicy
    rw [implements_shape shape db admin kwargs hkeys, hpolicy, Policy.or, met_or, met_privileged]
    exact Or.inl hadmin
  cases shape with
  | rootOnly => exact absurd rfl honly
  | delIdentity => exact absurd rfl hidentity
  | rootOrAdmin => exact congrArg Except.ok hadmin
  | everybody => exact h
  | nobody => exact h
  | identityOfAccount c => exact h  -- whether an identity is linked does not depend on who asks
  | addDids => exact permAddDids_granted_iff.mpr hadmin
  | addRule =>
    rw [implements_shape .addRule db _ kwargs hkeys, Shape.policy, Policy.addRule, met_given,
      met_or, met_privileged] at h ⊢
    exact ⟨h.1, Or.inl hadmin⟩
  | updateExceptions =>
    rw [Shape.handler, permUpdateLifetimeExceptions_granted_iff] at h ⊢
    exact ⟨hadmin, h.2⟩
  | _ => exact hor rfl

/-- The actions that are reserved to root. -/
def rootActions : List String :=
  ["add_account", "del_account", "declare_bad_file_replicas", "queue_requests", "set_rse_usage",
   "cancel_request", "get_next", "list_heartbeats", "get_signed_url", "add_bad_pfns", "export"]

/-- Their handlers are those for root. -/
theorem shapeOf_eq_rootOnly_iff {action : String} :
    shapeOf action = .rootOnly ↔ action ∈ rootActions := by
  have htable : ∀ e ∈ shapes, e.2 = .rootOnly → e.1 ∈ rootActions := by decide
  have hroot : ∀ action ∈ rootActions, shapeOf action = .rootOnly := by decide
  constructor
  · intro h
    have hmem : (action, shapeOf action) ∈ shapes := mem_shapes (by rw [h]; decide)
    exact htable _ hmem h
  · exact hroot action

/-- Only `del_identity` has its shape. -/
theorem eq_of_shapeOf_delIdentity {action : String} (h : shapeOf action = .delIdentity) :
    action = "del_identity" := by
  have htable : ∀ e ∈ shapes, e.2 = .delIdentity → e.1 = "del_identity" := by decide
  have hmem : (action, shapeOf action) ∈ shapes := mem_shapes (by rw [h]; decide)
  exact htable _ hmem h

section

variable {root admin : InternalAccount} {action : String}

/-- Root is granted what an admin is not in the actions that are reserved to root, and in
    `del_identity` for the identities of others. -/
theorem root_admin_gap (hroot : isRoot root = true) (hadmin : isPrivileged db admin = true)
    (hnot : isRoot admin = false) (hkeys : CarriesKeys action kwargs) :
    (hasPermission db root action kwargs = .ok true ∧
        hasPermission db admin action kwargs ≠ .ok true) ↔
      action ∈ rootActions ∨ action = "del_identity" ∧
        (kwargs.getD "accounts" .none).contains admin.external ≠ .ok true := by
  simp only [hasPermission, handlerOf_eq_shape]
  constructor
  · intro h
    obtain ⟨hgranted, hrefused⟩ := h
    by_cases honly : shapeOf action = .rootOnly
    · exact Or.inl (shapeOf_eq_rootOnly_iff.mp honly)
    · by_cases hidentity : shapeOf action = .delIdentity
      · refine Or.inr ⟨eq_of_shapeOf_delIdentity hidentity, fun hlisted => hrefused ?_⟩
        rw [hidentity]
        exact pyOr_eq_true_iff.mpr (Or.inr hlisted)
      · exact absurd (granted_of_isPrivileged hkeys.of_shape hadmin honly hidentity hgranted)
          hrefused
  · intro h
    cases h with
    | inl haction =>
      rw [shapeOf_eq_rootOnly_iff.mpr haction]
      refine ⟨congrArg Except.ok hroot, fun hgranted => ?_⟩
      rw [Shape.handler, rootOnly, hnot] at hgranted
      cases hgranted
    | inr hidentity =>
      obtain ⟨rfl, hlisted⟩ := hidentity
      have hgranted_iff : ∀ a, (shapeOf "del_identity").handler db a kwargs = .ok true ↔
          isRoot a = true ∨ (kwargs.getD "accounts" .none).contains a.external = .ok true :=
        fun _ => pyOr_eq_true_iff
      rw [ne_eq, hgranted_iff, hgranted_iff, hnot]
      exact ⟨Or.inl hroot, fun h => h.elim Bool.false_ne_true hlisted⟩

end

/-- Bob may still not export the data. -/
theorem root_admin_gap_bob :
    hasPermission bobsOffice ⟨"root", "def"⟩ "export" [] = .ok true ∧
      hasPermission bobsOffice bob "export" [] ≠ .ok true :=
  (root_admin_gap rfl (by decide) (by decide) (fun h => absurd h (by decide))).mpr
    (Or.inl (by decide))

end DiracRucioPolicy
