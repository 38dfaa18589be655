import DiracRucioPolicy.Spec.Grants
import DiracRucioPolicy.Spec.Shapes

/-!
# What a decision depends on

A handler gets the whole database and all keyword arguments, but looks at little of them.
For every action the footprint lists what can change the outcome of the check, be it a
decision or an exception: the parts of the database, each as the issuer sees it, and the
keys of `kwargs`. The order, the number and the values of the issuer's attributes do not
matter beyond what they say about privilege and countries, nor do the attributes of other
accounts or the owners of scopes that are not the issuer's.

## Key results

- `IsFootprint`: a footprint suffices, and each of its entries matters
- `isFootprint_shape`: the footprint of every shape of handler
- `footprint_exact`: the footprint of every action
-/

namespace DiracRucioPolicy

/-! ## Footprints -/

/-- A part of the database that a decision can depend on. -/
inductive Part where
  | privilege
  | status
  | countries
  | scopes
  | identities
  | rseCountries
  | expressions
  | exceptions
  | setOrder
deriving DecidableEq

/-- The issuer sees the same in that part of both databases. -/
def SameIn (issuer : InternalAccount) (db db' : Db) : Part → Prop
  | .privilege => isPrivileged db issuer = isPrivileged db' issuer
  | .status => Active db issuer ↔ Active db' issuer
  | .countries => ∀ c, c ∈ countriesOf db issuer ↔ c ∈ countriesOf db' issuer
  | .scopes => ∀ s, db.scopeOwner s = some issuer.internal ↔ db'.scopeOwner s = some issuer.internal
  | .identities => db.identities = db'.identities
  | .rseCountries => db.rseCountry = db'.rseCountry
  -- an expression is resolved among the RSEs of the issuer's VO
  | .expressions => ∀ e, db.parseExpression e issuer.vo = db'.parseExpression e issuer.vo
  -- only the VO of the exception's scope counts
  | .exceptions => ∀ id, (db.nextException id).map (·.scope.vo) =
      (db'.nextException id).map (·.scope.vo)
  | .setOrder => db.setOrder.order = db'.setOrder.order

/-- The parts of the database and the keys of the request that a decision looks at. -/
structure Footprint where
  parts : List Part
  keys : List String

/-- Two requests of the issuer agree on a footprint. -/
structure Footprint.Agree (fp : Footprint) (issuer : InternalAccount) (db db' : Db)
    (kwargs kwargs' : Dict) : Prop where
  parts : ∀ p ∈ fp.parts, SameIn issuer db db' p
  keys : ∀ key ∈ fp.keys, kwargs.get? key = kwargs'.get? key

/-- The outcome is determined by the footprint, and no entry of it can be left out: there
    are two requests that differ in that part or in that key only and have different
    outcomes. -/
structure IsFootprint (fp : Footprint) (handler : Handler) : Prop where
  determined : ∀ {issuer db db' kwargs kwargs'}, fp.Agree issuer db db' kwargs kwargs' →
    handler db issuer kwargs = handler db' issuer kwargs'
  part_matters : ∀ p ∈ fp.parts, ∃ db db' issuer kwargs,
    (∀ q ≠ p, SameIn issuer db db' q) ∧ handler db issuer kwargs ≠ handler db' issuer kwargs
  key_matters : ∀ key ∈ fp.keys, ∃ db issuer kwargs kwargs',
    (∀ key' ≠ key, kwargs.get? key' = kwargs'.get? key') ∧
      handler db issuer kwargs ≠ handler db issuer kwargs'

/-! ## Requests that agree -/

/-- The item under a key is read from the entry of that key. -/
theorem Dict.getItem_congr {d d' : Dict} {key : String} (h : d.get? key = d'.get? key) :
    d.getItem key = d'.getItem key := by
  rw [getItem, getItem, h]

/-- So is the item with a default. -/
theorem Dict.getD_congr {d d' : Dict} {key : String} (h : d.get? key = d'.get? key)
    (default : PyVal) : d.getD key default = d'.getD key default := by
  rw [getD, getD, h]

section

variable {issuer : InternalAccount} {db db' : Db}

/-- Of the owners only those scopes count that are the issuer's. -/
theorem isScopeOwner_congr (h : SameIn issuer db db' .scopes) (v : PyVal) :
    db.isScopeOwner v issuer = db'.isScopeOwner v issuer := by
  have hname : ∀ name, (db.scopeOwner name = some issuer.internal) =
      (db'.scopeOwner name = some issuer.internal) := fun name => propext (h name)
  simp only [Db.isScopeOwner, hname]

/-- The links of the identities are looked up in one table. -/
theorem existIdentityAccount_congr (h : SameIn issuer db db' .identities) (v : PyVal)
    (type : IdentityType) (account : PyVal) :
    db.existIdentityAccount v type account = db'.existIdentityAccount v type account := by
  unfold Db.existIdentityAccount
  rw [show db.identities = db'.identities from h]

/-- The countries are used as a set. -/
theorem countries_isEmpty_congr (h : SameIn issuer db db' .countries) :
    (countriesOf db issuer).isEmpty = (countriesOf db' issuer).isEmpty := by
  rw [Bool.eq_iff_iff, List.isEmpty_iff, List.isEmpty_iff, List.eq_nil_iff_forall_not_mem,
    List.eq_nil_iff_forall_not_mem]
  exact forall_congr' fun c => not_congr (h c)

/-- A test for some country finds the same. -/
theorem countries_any_congr (h : SameIn issuer db db' .countries) (p : String → Bool) :
    (countriesOf db issuer).any p = (countriesOf db' issuer).any p := by
  rw [Bool.eq_iff_iff, List.any_eq_true, List.any_eq_true]
  exact exists_congr fun c => and_congr_left fun _ => h c

/-- Countries are compared with the same set. -/
theorem subsetOfCountries_congr (h : SameIn issuer db db' .countries) (resolved : List PyAtom) :
    subsetOfCountries resolved (countriesOf db issuer) =
      subsetOfCountries resolved (countriesOf db' issuer) := by
  unfold subsetOfCountries
  congr 1
  funext country
  exact countries_any_congr h _

/-- An account has an attribute of a country admin when it is the admin of a country. -/
theorem any_isCountryAdmin_eq (db : Db) (issuer : InternalAccount) :
    (db.accountAttributes issuer.internal).any isCountryAdmin =
      !(countriesOf db issuer).isEmpty := by
  rw [countriesOf, List.isEmpty_map, Bool.eq_iff_iff]
  simp [List.any_eq_true, List.filter_eq_nil_iff]

/-- What is done with the countries counts for an active account only. -/
theorem bind_adminInCountry_congr {α : Type} (hstatus : SameIn issuer db db' .status)
    {f g : List String → Except PyErr α}
    (h : f (countriesOf db issuer) = g (countriesOf db' issuer)) :
    (adminInCountry db issuer >>= f) = (adminInCountry db' issuer >>= g) := by
  by_cases hactive : Active db issuer
  · rw [adminInCountry_of_active hactive, adminInCountry_of_active (hstatus.mp hactive),
      Except.ok_bind, Except.ok_bind, h]
  · rw [adminInCountry_of_not_active hactive,
      adminInCountry_of_not_active fun h => hactive (hstatus.mpr h)]
    rfl

/-- The same expression resolves to the same countries. -/
theorem resolvedRseCountries_congr {kwargs kwargs' : Dict}
    (hrse : SameIn issuer db db' .rseCountries) (hexpr : SameIn issuer db db' .expressions)
    (hkey : kwargs.get? "rse_expression" = kwargs'.get? "rse_expression") :
    resolvedRseCountries db issuer kwargs = resolvedRseCountries db' issuer kwargs' := by
  unfold resolvedRseCountries
  rw [Dict.getItem_congr hkey, show db.rseCountry = db'.rseCountry from hrse]
  apply bind_congr
  intro e
  rw [hexpr e]

end

/-! ## Requests that differ in one place -/

/-- The database in which every account is active, and nothing else is known. -/
def Db.active : Db := { Db.empty with accounts := fun _ => some .active }

/-- A database in which every account has the attributes. -/
def Db.withAttributes (db : Db) (attributes : List (String × PyAtom)) : Db :=
  { db with accountAttributes := fun _ => attributes }

/-- A database in which every RSE has the country. -/
def Db.withRses (db : Db) (country : String) : Db :=
  { db with rseAttributes := fun _ => [(Db.rseAttrCountry, .str country)] }

/-- A database in which every expression resolves to one RSE. -/
def Db.withOneRse (db : Db) : Db :=
  { db with parseExpression := fun _ _ => .ok [[("rse_id", .str "r")]] }

/-- The attribute of an admin of the country `de`. -/
def deAdmin : String × PyAtom := ("country-de", .str "admin")

/-- The order in which the elements of a set come backwards. -/
def SetOrder.reversed : SetOrder := ⟨List.reverse, List.reverse_perm⟩

section

variable {issuer : InternalAccount} {db : Db}

/-- A database is the same as itself in every part. -/
theorem sameIn_refl (issuer : InternalAccount) (db : Db) (q : Part) : SameIn issuer db db q := by
  cases q with
  | status => exact Iff.rfl
  | countries => exact fun _ => Iff.rfl
  | scopes => exact fun _ => Iff.rfl
  | expressions => exact fun _ => rfl
  | exceptions => exact fun _ => rfl
  | _ => rfl

/-- The attribute `admin` gives a privilege and no country. -/
theorem sameIn_admin (q : Part) (hq : q ≠ .privilege) :
    SameIn issuer .empty (Db.empty.withAttributes [("admin", .bool true)]) q := by
  have hrefl := sameIn_refl issuer .empty q
  cases q with
  | privilege => exact absurd rfl hq
  | _ => exact hrefl

/-- The attribute of a country admin gives a country and no privilege. -/
theorem sameIn_deAdmin (hdb : db.accountAttributes = fun _ => []) (q : Part)
    (hq : q ≠ .countries) : SameIn issuer db (db.withAttributes [deAdmin]) q := by
  have hrefl := sameIn_refl issuer db q
  cases q with
  | privilege =>
    simp [SameIn, isPrivileged, Db.hasAccountAttribute, hdb, Db.withAttributes, deAdmin]
  | countries => exact absurd rfl hq
  | _ => exact hrefl

/-- The accounts are in one part. -/
theorem sameIn_accounts (f : String → Option AccountStatus) (q : Part) (hq : q ≠ .status) :
    SameIn issuer db { db with accounts := f } q := by
  have hrefl := sameIn_refl issuer db q
  cases q with
  | status => exact absurd rfl hq
  | _ => exact hrefl

/-- The owners of the scopes are in one part. -/
theorem sameIn_scopes (f : String → Option String) (q : Part) (hq : q ≠ .scopes) :
    SameIn issuer db { db with scopeOwner := f } q := by
  have hrefl := sameIn_refl issuer db q
  cases q with
  | scopes => exact absurd rfl hq
  | _ => exact hrefl

/-- The links of the identities are in one part. -/
theorem sameIn_identities (f : Identity → String → Bool) (q : Part) (hq : q ≠ .identities) :
    SameIn issuer db { db with identities := f } q := by
  have hrefl := sameIn_refl issuer db q
  cases q with
  | identities => exact absurd rfl hq
  | _ => exact hrefl

/-- The attributes of the RSEs are in one part. -/
theorem sameIn_rses (country : String) (q : Part) (hq : q ≠ .rseCountries) :
    SameIn issuer db (db.withRses country) q := by
  have hrefl := sameIn_refl issuer db q
  cases q with
  | rseCountries => exact absurd rfl hq
  | _ => exact hrefl

/-- The expressions are in one part. -/
theorem sameIn_expressions (q : Part) (hq : q ≠ .expressions) :
    SameIn issuer db db.withOneRse q := by
  have hrefl := sameIn_refl issuer db q
  cases q with
  | expressions => exact absurd rfl hq
  | _ => exact hrefl

/-- The exceptions are in one part. -/
theorem sameIn_exceptions (f : PyVal → List ExceptionRecord) (q : Part) (hq : q ≠ .exceptions) :
    SameIn issuer db { db with lifetimeExceptions := f } q := by
  have hrefl := sameIn_refl issuer db q
  cases q with
  | exceptions => exact absurd rfl hq
  | _ => exact hrefl

/-- So is the order of sets. -/
theorem sameIn_setOrder (order : SetOrder) (q : Part) (hq : q ≠ .setOrder) :
    SameIn issuer db { db with setOrder := order } q := by
  have hrefl := sameIn_refl issuer db q
  cases q with
  | setOrder => exact absurd rfl hq
  | _ => exact hrefl

end

/-- An additional entry is seen under its key only. -/
theorem Dict.get?_cons_of_ne (d : Dict) (key : String) (v : PyVal) (key' : String)
    (h : key' ≠ key) : d.get? key' = Dict.get? ((key, v) :: d) key' := by
  rw [Dict.get?, Dict.get?, List.lookup_cons, beq_eq_false_iff_ne.mpr h]

/-- Under its key it is found. -/
theorem Dict.get?_cons_self (d : Dict) (key : String) (v : PyVal) :
    Dict.get? ((key, v) :: d) key = some v := by
  rw [Dict.get?, List.lookup_cons, beq_self_eq_true]

/-! ## The footprints of the handlers -/

variable {issuer : InternalAccount}

/-- Whether an account is root, its name says. -/
theorem IsFootprint.of_rootOnly : IsFootprint ⟨[], []⟩ rootOnly where
  determined _ := rfl
  part_matters := List.forall_mem_nil _
  key_matters := List.forall_mem_nil _

/-- What is open to everybody depends on nothing. -/
theorem IsFootprint.of_everybody : IsFootprint ⟨[], []⟩ everybody where
  determined _ := rfl
  part_matters := List.forall_mem_nil _
  key_matters := List.forall_mem_nil _

/-- Nor does what is closed to everybody. -/
theorem IsFootprint.of_permDeleteReplicas : IsFootprint ⟨[], []⟩ permDeleteReplicas where
  determined _ := rfl
  part_matters := List.forall_mem_nil _
  key_matters := List.forall_mem_nil _

/-- What is left to the privileged depends on the privilege only. -/
theorem IsFootprint.of_rootOrAdmin : IsFootprint ⟨[.privilege], []⟩ rootOrAdmin where
  determined := by
    intro issuer db db' kwargs kwargs' h
    have hpriv : isPrivileged db issuer = isPrivileged db' issuer := h.parts .privilege (by simp)
    rw [rootOrAdmin, rootOrAdmin, hpriv]
  part_matters := List.forall_mem_singleton.mpr ⟨_, _, bob, [], sameIn_admin, by decide⟩
  key_matters := List.forall_mem_nil _

/-- The ownership rule looks at the scopes of the issuer. -/
theorem IsFootprint.of_scopeOwner : IsFootprint ⟨[.privilege, .scopes], ["scope"]⟩ scopeOwner where
  determined := by
    intro issuer db db' kwargs kwargs' h
    have hpriv : isPrivileged db issuer = isPrivileged db' issuer := h.parts .privilege (by simp)
    have hscopes : SameIn issuer db db' .scopes := h.parts .scopes (by simp)
    have hscope := Dict.getItem_congr (h.keys "scope" (by simp))
    simp only [scopeOwner, hpriv, hscope, isScopeOwner_congr hscopes]
  part_matters := List.forall_mem_cons.mpr
    ⟨⟨_, _, bob, [], sameIn_admin, by decide⟩, List.forall_mem_singleton.mpr
      ⟨.empty, _, bob, [("scope", .scope bobsScope)], sameIn_scopes bobsDb.scopeOwner, by decide⟩⟩
  key_matters := List.forall_mem_singleton.mpr
    ⟨bobsDb, bob, [], _, Dict.get?_cons_of_ne [] "scope" (.scope bobsScope), by decide⟩

/-- So does the rule that exempts the scope `mock`. -/
theorem IsFootprint.of_scopeOwnerOrMock :
    IsFootprint ⟨[.privilege, .scopes], ["scope"]⟩ scopeOwnerOrMock where
  determined := by
    intro issuer db db' kwargs kwargs' h
    have hpriv : isPrivileged db issuer = isPrivileged db' issuer := h.parts .privilege (by simp)
    have hscopes : SameIn issuer db db' .scopes := h.parts .scopes (by simp)
    have hscope := Dict.getItem_congr (h.keys "scope" (by simp))
    simp only [scopeOwnerOrMock, hpriv, hscope, isScopeOwner_congr hscopes]
  part_matters := List.forall_mem_cons.mpr
    ⟨⟨_, _, bob, [], sameIn_admin, by decide⟩, List.forall_mem_singleton.mpr
      ⟨.empty, _, bob, [("scope", .scope bobsScope)], sameIn_scopes bobsDb.scopeOwner, by decide⟩⟩
  key_matters := List.forall_mem_singleton.mpr
    ⟨bobsDb, bob, [], _, Dict.get?_cons_of_ne [] "scope" (.scope bobsScope), by decide⟩

/-- A token request with both keys is answered by the table of identities. -/
theorem identityOfAccount_eq {db : Db} {key : String} {type : IdentityType} {kwargs : Dict}
    {identity account : PyVal} (hid : kwargs.get? key = some identity)
    (haccount : kwargs.get? "account" = some account) :
    identityOfAccount key type db issuer kwargs =
      db.existIdentityAccount identity type account := by
  rw [identityOfAccount, Dict.getItem_eq_ok_iff.mpr hid, Dict.getItem_eq_ok_iff.mpr haccount]
  rfl

/-- A token request without one of its keys raises. -/
theorem identityOfAccount_ne_ok {db : Db} {key : String} {type : IdentityType} {kwargs : Dict}
    (h : kwargs.get? key = none ∨ kwargs.get? "account" = none) (b : Bool) :
    identityOfAccount key type db issuer kwargs ≠ .ok b := by
  intro hok
  simp only [identityOfAccount, Except.bind_eq_ok_iff, Dict.getItem_eq_ok_iff] at hok
  obtain ⟨identity, hid, account, haccount, -⟩ := hok
  cases h with
  | inl hnone => rw [hnone] at hid; cases hid
  | inr hnone => rw [hnone] at haccount; cases haccount

/-- A token does not depend on who asks for it. -/
theorem IsFootprint.of_identityOfAccount {key : String} {type : IdentityType}
    (hkey : key ≠ "account") :
    IsFootprint ⟨[.identities], [key, "account"]⟩ (identityOfAccount key type) where
  determined := by
    intro issuer db db' kwargs kwargs' h
    have hids : SameIn issuer db db' .identities := h.parts .identities (by simp)
    have hid := Dict.getItem_congr (h.keys key (by simp))
    have haccount := Dict.getItem_congr (h.keys "account" (by simp))
    simp only [identityOfAccount, hid, haccount, existIdentityAccount_congr hids]
  part_matters := by
    refine List.forall_mem_singleton.mpr ⟨.empty, _, bob,
      [("account", .account bob), (key, .str "bob")], sameIn_identities fun _ _ => true, ?_⟩
    have hid : Dict.get? [("account", .account bob), (key, .str "bob")] key =
        some (.str "bob") := by
      rw [← Dict.get?_cons_of_ne _ _ _ _ hkey, Dict.get?_cons_self]
    rw [identityOfAccount_eq hid (Dict.get?_cons_self ..),
      identityOfAccount_eq hid (Dict.get?_cons_self ..)]
    exact fun heq => nomatch heq
  key_matters := by
    have hid : Dict.get? [("account", .account bob)] key = none := by
      rw [← Dict.get?_cons_of_ne _ _ _ _ hkey]
      rfl
    have haccount : Dict.get? [(key, .str "bob")] "account" = none := by
      rw [← Dict.get?_cons_of_ne _ _ _ _ hkey.symm]
      rfl
    refine List.forall_mem_cons.mpr ⟨⟨.empty, bob, [("account", .account bob)], _,
      Dict.get?_cons_of_ne _ key (.str "bob"), ?_⟩, List.forall_mem_singleton.mpr
        ⟨.empty, bob, [(key, .str "bob")], _,
          Dict.get?_cons_of_ne _ "account" (.account bob), ?_⟩⟩
    · rw [identityOfAccount_eq (Dict.get?_cons_self ..)
        ((Dict.get?_cons_of_ne _ _ _ _ hkey.symm).symm.trans (Dict.get?_cons_self ..))]
      exact identityOfAccount_ne_ok (Or.inl hid) _
    · rw [identityOfAccount_eq
        ((Dict.get?_cons_of_ne _ _ _ _ hkey).symm.trans (Dict.get?_cons_self ..))
        (Dict.get?_cons_self ..)]
      exact identityOfAccount_ne_ok (Or.inr haccount) _

/-- A rule depends on its account and on whether it is locked. -/
theorem IsFootprint.of_permAddRule :
    IsFootprint ⟨[.privilege], ["account", "locked"]⟩ permAddRule where
  determined := by
    intro issuer db db' kwargs kwargs' h
    have hpriv : isPrivileged db issuer = isPrivileged db' issuer := h.parts .privilege (by simp)
    have haccount := Dict.getItem_congr (h.keys "account" (by simp))
    have hlocked := Dict.getItem_congr (h.keys "locked" (by simp))
    simp only [permAddRule, hpriv, haccount, hlocked]
  part_matters := List.forall_mem_singleton.mpr
    ⟨_, _, bob, [("account", .none)], sameIn_admin, by decide⟩
  key_matters := List.forall_mem_cons.mpr
    ⟨⟨.empty, bob, [("locked", .none)], _, Dict.get?_cons_of_ne _ "account" (.account bob),
      by decide⟩, List.forall_mem_singleton.mpr
    ⟨.empty, bob, [("account", .account bob)], _, Dict.get?_cons_of_ne _ "locked" .none,
      by decide⟩⟩

/-- A DID depends on its scope and on the accounts of its rules. -/
theorem IsFootprint.of_permAddDid :
    IsFootprint ⟨[.privilege, .scopes], ["rules", "scope"]⟩ permAddDid where
  determined := by
    intro issuer db db' kwargs kwargs' h
    have hpriv : isPrivileged db issuer = isPrivileged db' issuer := h.parts .privilege (by simp)
    have hrules := Dict.getD_congr (h.keys "rules" (by simp))
    -- behind the loop the handler is the ownership rule
    have howner : scopeOwnerOrMock db issuer kwargs = scopeOwnerOrMock db' issuer kwargs' :=
      IsFootprint.of_scopeOwnerOrMock.determined ⟨h.parts, fun key hkey => h.keys key (by simp_all)⟩
    simp only [permAddDid, hpriv, hrules, howner]
  part_matters := List.forall_mem_cons.mpr
    ⟨⟨_, _, bob, [], sameIn_admin, by decide⟩, List.forall_mem_singleton.mpr
      ⟨.empty, _, bob, [("scope", .scope bobsScope)], sameIn_scopes bobsDb.scopeOwner, by decide⟩⟩
  key_matters := List.forall_mem_cons.mpr
    ⟨⟨bobsDb, bob, [("scope", .scope bobsScope)], _, Dict.get?_cons_of_ne _ "rules" .none,
      by decide⟩, List.forall_mem_singleton.mpr
    ⟨bobsDb, bob, [], _, Dict.get?_cons_of_ne [] "scope" (.scope bobsScope), by decide⟩⟩

/-- The list of DIDs decides between a refusal and an exception. -/
theorem IsFootprint.of_permAddDids : IsFootprint ⟨[.privilege], ["dids"]⟩ permAddDids where
  determined := by
    intro issuer db db' kwargs kwargs' h
    have hpriv : isPrivileged db issuer = isPrivileged db' issuer := h.parts .privilege (by simp)
    have hdids := Dict.getItem_congr (h.keys "dids" (by simp))
    simp only [permAddDids, hpriv, hdids]
  part_matters := List.forall_mem_singleton.mpr ⟨_, _, bob, [], sameIn_admin, by decide⟩
  key_matters := List.forall_mem_singleton.mpr
    ⟨.empty, bob, [], _, Dict.get?_cons_of_ne [] "dids" (.list []), by decide⟩

/-- Two attachments of which one ends the loop with a refusal, the other with an exception. -/
def twoAttachments : Dict :=
  [("attachments", .list [.dict [("scope", .scope bobsScope)], .dict [("scope", .str "bob")]])]

/-- The order of the scopes decides between a refusal and an exception. -/
theorem IsFootprint.of_permAttachDidsToDids :
    IsFootprint ⟨[.privilege, .scopes, .setOrder], ["attachments"]⟩ permAttachDidsToDids where
  determined := by
    intro issuer db db' kwargs kwargs' h
    have hpriv : isPrivileged db issuer = isPrivileged db' issuer := h.parts .privilege (by simp)
    have hscopes : SameIn issuer db db' .scopes := h.parts .scopes (by simp)
    have horder : db.setOrder.order = db'.setOrder.order := h.parts .setOrder (by simp)
    have hattachments := Dict.getItem_congr (h.keys "attachments" (by simp))
    simp only [permAttachDidsToDids, pySet, hpriv, hattachments, horder,
      isScopeOwner_congr hscopes]
  part_matters := by
    refine List.forall_mem_cons.mpr ⟨⟨_, _, bob, [], sameIn_admin, by decide⟩,
      List.forall_mem_cons.mpr ⟨?_, List.forall_mem_singleton.mpr ?_⟩⟩
    · exact ⟨.empty, _, bob, [("attachments", .list [.dict [("scope", .scope bobsScope)]])],
        sameIn_scopes bobsDb.scopeOwner, by decide⟩
    · exact ⟨.empty, _, bob, twoAttachments, sameIn_setOrder .reversed, by decide⟩
  key_matters := List.forall_mem_singleton.mpr
    ⟨.empty, bob, [], _, Dict.get?_cons_of_ne [] "attachments" (.list []), by decide⟩

/-- The status depends on the scope and on whether the DID is opened again. -/
theorem IsFootprint.of_permSetStatus :
    IsFootprint ⟨[.privilege, .scopes], ["open", "scope"]⟩ permSetStatus where
  determined := by
    intro issuer db db' kwargs kwargs' h
    have hpriv : isPrivileged db issuer = isPrivileged db' issuer := h.parts .privilege (by simp)
    have hopen := Dict.getD_congr (h.keys "open" (by simp))
    have howner : scopeOwner db issuer kwargs = scopeOwner db' issuer kwargs' :=
      IsFootprint.of_scopeOwner.determined ⟨h.parts, fun key hkey => h.keys key (by simp_all)⟩
    simp only [permSetStatus, hpriv, hopen, howner]
  part_matters := List.forall_mem_cons.mpr
    ⟨⟨_, _, bob, [], sameIn_admin, by decide⟩, List.forall_mem_singleton.mpr
      ⟨.empty, _, bob, [("scope", .scope bobsScope)], sameIn_scopes bobsDb.scopeOwner, by decide⟩⟩
  key_matters := List.forall_mem_cons.mpr
    ⟨⟨bobsDb, bob, [("scope", .scope bobsScope)], _, Dict.get?_cons_of_ne _ "open" (.bool true),
      by decide⟩, List.forall_mem_singleton.mpr
    ⟨bobsDb, bob, [], _, Dict.get?_cons_of_ne [] "scope" (.scope bobsScope), by decide⟩⟩

/-- The names decide for everybody but root. -/
theorem IsFootprint.of_permDelIdentity : IsFootprint ⟨[], ["accounts"]⟩ permDelIdentity where
  determined := by
    intro issuer db db' kwargs kwargs' h
    have haccounts := Dict.getD_congr (h.keys "accounts" (by simp))
    simp only [permDelIdentity, haccounts]
  part_matters := List.forall_mem_nil _
  key_matters := List.forall_mem_singleton.mpr
    ⟨.empty, bob, [], _, Dict.get?_cons_of_ne [] "accounts" (.list []), by decide⟩

/-- Replicas depend on the name of the RSE. -/
theorem IsFootprint.of_permAddReplicas : IsFootprint ⟨[.privilege], ["rse"]⟩ permAddReplicas where
  determined := by
    intro issuer db db' kwargs kwargs' h
    have hpriv : isPrivileged db issuer = isPrivileged db' issuer := h.parts .privilege (by simp)
    have hrse := Dict.getD_congr (h.keys "rse" (by simp))
    simp only [permAddReplicas, hpriv, hrse]
  part_matters := List.forall_mem_singleton.mpr ⟨_, _, bob, [], sameIn_admin, by decide⟩
  key_matters := List.forall_mem_singleton.mpr
    ⟨.empty, bob, [], _, Dict.get?_cons_of_ne [] "rse" (.str "MOCK"), by decide⟩

/-- The limit of an RSE depends on its country, and on the countries of an active issuer. -/
theorem IsFootprint.of_localAccountLimit :
    IsFootprint ⟨[.privilege, .status, .countries, .rseCountries], ["rse_id"]⟩
      localAccountLimit where
  determined := by
    intro issuer db db' kwargs kwargs' h
    have hpriv : isPrivileged db issuer = isPrivileged db' issuer := h.parts .privilege (by simp)
    have hcountries : SameIn issuer db db' .countries := h.parts .countries (by simp)
    have hrses : db.rseCountry = db'.rseCountry := h.parts .rseCountries (by simp)
    have hrse := Dict.getItem_congr (h.keys "rse_id" (by simp))
    simp only [localAccountLimit, hpriv]
    congr 1
    apply bind_adminInCountry_congr (h.parts .status (by simp))
    simp only [countries_isEmpty_congr hcountries, hrses, hrse, countries_any_congr hcountries]
  part_matters := by
    refine List.forall_mem_cons.mpr ⟨⟨_, _, bob, [], sameIn_admin, by decide⟩,
      List.forall_mem_cons.mpr ⟨?_, List.forall_mem_cons.mpr ⟨?_,
        List.forall_mem_singleton.mpr ?_⟩⟩⟩
    · exact ⟨.empty, _, bob, [], sameIn_accounts fun _ => some .active, by decide⟩
    · exact ⟨Db.active.withRses "de", _, bob, [("rse_id", .str "r")], sameIn_deAdmin rfl,
        by decide⟩
    · exact ⟨Db.active.withAttributes [deAdmin], _, bob, [("rse_id", .str "r")], sameIn_rses "de",
        by decide⟩
  key_matters := List.forall_mem_singleton.mpr
    ⟨Db.active.withAttributes [deAdmin], bob, [], _, Dict.get?_cons_of_ne [] "rse_id" (.str "r"),
      by decide⟩

/-- A global limit depends on the countries of the RSEs that the expression resolves to. -/
theorem IsFootprint.of_permSetGlobalAccountLimit :
    IsFootprint ⟨[.privilege, .status, .countries, .rseCountries, .expressions],
      ["rse_expression"]⟩ permSetGlobalAccountLimit where
  determined := by
    intro issuer db db' kwargs kwargs' h
    have hpriv : isPrivileged db issuer = isPrivileged db' issuer := h.parts .privilege (by simp)
    have hresolved := resolvedRseCountries_congr (h.parts .rseCountries (by simp))
      (h.parts .expressions (by simp)) (h.keys "rse_expression" (by simp))
    simp only [permSetGlobalAccountLimit, hpriv]
    congr 1
    apply bind_adminInCountry_congr (h.parts .status (by simp))
    simp only [hresolved, subsetOfCountries_congr (h.parts .countries (by simp))]
  part_matters := by
    refine List.forall_mem_cons.mpr ⟨⟨_, _, bob, [], sameIn_admin, by decide⟩,
      List.forall_mem_cons.mpr ⟨?_, List.forall_mem_cons.mpr ⟨?_, List.forall_mem_cons.mpr ⟨?_,
        List.forall_mem_singleton.mpr ?_⟩⟩⟩⟩
    · exact ⟨.empty, _, bob, [], sameIn_accounts fun _ => some .active, by decide⟩
    · exact ⟨Db.active.withOneRse.withRses "de", _, bob, [("rse_expression", .str "*")],
        sameIn_deAdmin rfl, by decide⟩
    · exact ⟨Db.active.withOneRse.withAttributes [deAdmin], _, bob,
        [("rse_expression", .str "*")], sameIn_rses "de", by decide⟩
    · exact ⟨.active, _, bob, [("rse_expression", .str "*")], sameIn_expressions, by decide⟩
  key_matters := List.forall_mem_singleton.mpr
    ⟨.active, bob, [], _, Dict.get?_cons_of_ne [] "rse_expression" (.str "*"), by decide⟩

/-- So does deleting it. -/
theorem IsFootprint.of_permDeleteGlobalAccountLimit :
    IsFootprint ⟨[.privilege, .status, .countries, .rseCountries, .expressions],
      ["rse_expression"]⟩ permDeleteGlobalAccountLimit where
  determined := by
    intro issuer db db' kwargs kwargs' h
    have hpriv : isPrivileged db issuer = isPrivileged db' issuer := h.parts .privilege (by simp)
    have hcountries : SameIn issuer db db' .countries := h.parts .countries (by simp)
    have hresolved := resolvedRseCountries_congr (h.parts .rseCountries (by simp))
      (h.parts .expressions (by simp)) (h.keys "rse_expression" (by simp))
    simp only [permDeleteGlobalAccountLimit, hpriv]
    congr 1
    apply bind_adminInCountry_congr (h.parts .status (by simp))
    simp only [hresolved, countries_isEmpty_congr hcountries, subsetOfCountries_congr hcountries]
  part_matters := by
    refine List.forall_mem_cons.mpr ⟨⟨_, _, bob, [], sameIn_admin, by decide⟩,
      List.forall_mem_cons.mpr ⟨?_, List.forall_mem_cons.mpr ⟨?_, List.forall_mem_cons.mpr ⟨?_,
        List.forall_mem_singleton.mpr ?_⟩⟩⟩⟩
    · exact ⟨.empty, _, bob, [], sameIn_accounts fun _ => some .active, by decide⟩
    · exact ⟨Db.active.withOneRse.withRses "de", _, bob, [("rse_expression", .str "*")],
        sameIn_deAdmin rfl, by decide⟩
    · exact ⟨Db.active.withOneRse.withAttributes [deAdmin], _, bob,
        [("rse_expression", .str "*")], sameIn_rses "de", by decide⟩
    · exact ⟨Db.active.withAttributes [deAdmin], _, bob, [("rse_expression", .str "*")],
        sameIn_expressions, by decide⟩
  key_matters := List.forall_mem_singleton.mpr
    ⟨Db.active.withAttributes [deAdmin], bob, [], _,
      Dict.get?_cons_of_ne [] "rse_expression" (.str "*"), by decide⟩

/-- The usage of an account does not depend on the RSEs that are asked about. -/
theorem IsFootprint.of_accountUsage :
    IsFootprint ⟨[.privilege, .status, .countries], ["account"]⟩ accountUsage where
  determined := by
    intro issuer db db' kwargs kwargs' h
    have hpriv : isPrivileged db issuer = isPrivileged db' issuer := h.parts .privilege (by simp)
    have hstatus : Active db issuer ↔ Active db' issuer := h.parts .status (by simp)
    have haccount := Dict.getD_congr (h.keys "account" (by simp))
    have hcountries := countries_isEmpty_congr (h.parts .countries (by simp))
    simp only [accountUsage, hpriv, haccount]
    congr 1
    by_cases hactive : Active db issuer
    · rw [listAccountAttributes_of_active hactive,
        listAccountAttributes_of_active (hstatus.mp hactive), Except.ok_bind, Except.ok_bind,
        any_isCountryAdmin_eq, any_isCountryAdmin_eq, hcountries]
    · rw [listAccountAttributes_of_not_active hactive,
        listAccountAttributes_of_not_active fun h => hactive (hstatus.mpr h)]
  part_matters := by
    refine List.forall_mem_cons.mpr ⟨⟨_, _, bob, [], sameIn_admin, by decide⟩,
      List.forall_mem_cons.mpr ⟨?_, List.forall_mem_singleton.mpr ?_⟩⟩
    · exact ⟨.empty, _, bob, [], sameIn_accounts fun _ => some .active, by decide⟩
    · exact ⟨.active, _, bob, [], sameIn_deAdmin rfl, by decide⟩
  key_matters := List.forall_mem_singleton.mpr
    ⟨.empty, bob, [], _, Dict.get?_cons_of_ne [] "account" (.account bob), by decide⟩

/-- An exception counts with its VO. -/
theorem IsFootprint.of_permUpdateLifetimeExceptions :
    IsFootprint ⟨[.privilege, .exceptions], ["vo", "exception_id"]⟩
      permUpdateLifetimeExceptions where
  determined := by
    intro issuer db db' kwargs kwargs' h
    have hpriv : isPrivileged db issuer = isPrivileged db' issuer := h.parts .privilege (by simp)
    have hnext : SameIn issuer db db' .exceptions := h.parts .exceptions (by simp)
    have hvo := Dict.getItem_congr (h.keys "vo" (by simp))
    have hid := Dict.getItem_congr (h.keys "exception_id" (by simp))
    -- of the exception that is found only the VO is used
    have hfound : ∀ (vo : String → Bool) (id : PyVal),
        (do let e ← db.nextException id
            if !vo e.scope.vo then return false
            return isPrivileged db' issuer) =
        (do let e ← db'.nextException id
            if !vo e.scope.vo then return false
            return isPrivileged db' issuer : Except PyErr Bool) := by
      intro vo id
      have h := hnext id
      cases hdb : db.nextException id with
      | error e =>
        cases hdb' : db'.nextException id with
        | error e' => rw [hdb, hdb'] at h; cases h; rfl
        | ok a' => rw [hdb, hdb'] at h; cases h
      | ok a =>
        cases hdb' : db'.nextException id with
        | error e' => rw [hdb, hdb'] at h; cases h
        | ok a' =>
          rw [hdb, hdb'] at h
          have hvo : a.scope.vo = a'.scope.vo := Except.ok.inj h
          rw [Except.ok_bind, Except.ok_bind, hvo]
    simp only [permUpdateLifetimeExceptions, hpriv, hvo, hid]
    apply bind_congr
    intro vo
    split
    · rfl
    · exact bind_congr fun id => hfound vo.isStr id
  part_matters := List.forall_mem_cons.mpr
    ⟨⟨_, _, bob, [("vo", .none)], sameIn_admin, by decide⟩, List.forall_mem_singleton.mpr
      ⟨.empty, _, bob, [("vo", .str "def"), ("exception_id", .none)],
        sameIn_exceptions fun _ => [⟨bobsScope⟩], by decide⟩⟩
  key_matters := List.forall_mem_cons.mpr
    ⟨⟨.empty, bob, [], _, Dict.get?_cons_of_ne [] "vo" .none, by decide⟩,
      List.forall_mem_singleton.mpr ⟨.empty, bob, [("vo", .str "def")], _,
        Dict.get?_cons_of_ne _ "exception_id" .none, by decide⟩⟩

/-- The account is looked at first, then the scope. -/
theorem IsFootprint.of_permRemoveDidFromFollowed :
    IsFootprint ⟨[.privilege], ["account", "scope"]⟩ permRemoveDidFromFollowed where
  determined := by
    intro issuer db db' kwargs kwargs' h
    have hpriv : isPrivileged db issuer = isPrivileged db' issuer := h.parts .privilege (by simp)
    have haccount := Dict.getItem_congr (h.keys "account" (by simp))
    have hscope := Dict.getItem_congr (h.keys "scope" (by simp))
    simp only [permRemoveDidFromFollowed, hpriv, haccount, hscope]
  part_matters := List.forall_mem_singleton.mpr ⟨_, _, bob, [], sameIn_admin, by decide⟩
  key_matters := List.forall_mem_cons.mpr
    ⟨⟨.empty, bob, [], _, Dict.get?_cons_of_ne [] "account" (.account bob), by decide⟩,
      List.forall_mem_singleton.mpr ⟨.empty, bob, [("account", .none)], _,
        Dict.get?_cons_of_ne _ "scope" (.scope bobsScope), by decide⟩⟩

/-- Of several DIDs only the account is looked at. -/
theorem IsFootprint.of_permRemoveDidsFromFollowed :
    IsFootprint ⟨[.privilege], ["account"]⟩ permRemoveDidsFromFollowed where
  determined := by
    intro issuer db db' kwargs kwargs' h
    have hpriv : isPrivileged db issuer = isPrivileged db' issuer := h.parts .privilege (by simp)
    have haccount := Dict.getItem_congr (h.keys "account" (by simp))
    simp only [permRemoveDidsFromFollowed, hpriv, haccount]
  part_matters := List.forall_mem_singleton.mpr ⟨_, _, bob, [], sameIn_admin, by decide⟩
  key_matters := List.forall_mem_singleton.mpr
    ⟨.empty, bob, [], _, Dict.get?_cons_of_ne [] "account" (.account bob), by decide⟩

/-! ## The footprint of every action -/

/-- What a handler of that shape looks at. -/
def Shape.footprint : Shape → Footprint
  | rootOrAdmin => ⟨[.privilege], []⟩
  | rootOnly => ⟨[], []⟩
  | everybody => ⟨[], []⟩
  | nobody => ⟨[], []⟩
  | scopeOwner => ⟨[.privilege, .scopes], ["scope"]⟩
  | scopeOwnerOrMock => ⟨[.privilege, .scopes], ["scope"]⟩
  | identityOfAccount c => ⟨[.identities], [c.key, "account"]⟩
  | addRule => ⟨[.privilege], ["account", "locked"]⟩
  | delIdentity => ⟨[], ["accounts"]⟩
  | addDid => ⟨[.privilege, .scopes], ["rules", "scope"]⟩
  | addDids => ⟨[.privilege], ["dids"]⟩
  | attachDidsToDids => ⟨[.privilege, .scopes, .setOrder], ["attachments"]⟩
  | setStatus => ⟨[.privilege, .scopes], ["open", "scope"]⟩
  | addReplicas => ⟨[.privilege], ["rse"]⟩
  | localLimit => ⟨[.privilege, .status, .countries, .rseCountries], ["rse_id"]⟩
  | setGlobalLimit =>
    ⟨[.privilege, .status, .countries, .rseCountries, .expressions], ["rse_expression"]⟩
  | deleteGlobalLimit =>
    ⟨[.privilege, .status, .countries, .rseCountries, .expressions], ["rse_expression"]⟩
  | usage => ⟨[.privilege, .status, .countries], ["account"]⟩
  | updateExceptions => ⟨[.privilege, .exceptions], ["vo", "exception_id"]⟩
  | removeDid => ⟨[.privilege], ["account", "scope"]⟩
  | removeDids => ⟨[.privilege], ["account"]⟩

/-- Every handler looks at its footprint. -/
theorem isFootprint_shape (shape : Shape) : IsFootprint shape.footprint shape.handler := by
  cases shape with
  | rootOrAdmin => exact .of_rootOrAdmin
  | rootOnly => exact .of_rootOnly
  | everybody => exact .of_everybody
  | nobody => exact .of_permDeleteReplicas
  | scopeOwner => exact .of_scopeOwner
  | scopeOwnerOrMock => exact .of_scopeOwnerOrMock
  | identityOfAccount c => exact .of_identityOfAccount c.key_ne_account
  | addRule => exact .of_permAddRule
  | delIdentity => exact .of_permDelIdentity
  | addDid => exact .of_permAddDid
  | addDids => exact .of_permAddDids
  | attachDidsToDids => exact .of_permAttachDidsToDids
  | setStatus => exact .of_permSetStatus
  | addReplicas => exact .of_permAddReplicas
  | localLimit => exact .of_localAccountLimit
  | setGlobalLimit => exact .of_permSetGlobalAccountLimit
  | deleteGlobalLimit => exact .of_permDeleteGlobalAccountLimit
  | usage => exact .of_accountUsage
  | updateExceptions => exact .of_permUpdateLifetimeExceptions
  | removeDid => exact .of_permRemoveDidFromFollowed
  | removeDids => exact .of_permRemoveDidsFromFollowed

/-- What the check of an action looks at. -/
def footprintOf (action : String) : Footprint := (shapeOf action).footprint

/-- Requests that agree on the footprint of the action end alike. -/
theorem hasPermission_congr {db db' : Db} {action : String} {kwargs kwargs' : Dict}
    (h : (footprintOf action).Agree issuer db db' kwargs kwargs') :
    hasPermission db issuer action kwargs = hasPermission db' issuer action kwargs' := by
  rw [hasPermission, hasPermission, handlerOf_eq_shape]
  exact (isFootprint_shape (shapeOf action)).determined h

/-- The outcome of every check, an exception included, is determined by the footprint of the
    action, and every entry of the footprint can change it. -/
theorem footprint_exact (action : String) :
    IsFootprint (footprintOf action) fun db issuer kwargs =>
      hasPermission db issuer action kwargs := by
  show IsFootprint (footprintOf action) (handlerOf action)
  rw [handlerOf_eq_shape]
  exact isFootprint_shape (shapeOf action)

end DiracRucioPolicy
