import DiracRucioPolicy.ForStd.Except
import DiracRucioPolicy.Native.Permission

/-!
# When the handlers grant

A request is granted when its handler returns true; a handler that raises grants
nothing. For each shape of handler, and for each handler with a body of its own that the
other modules need, one theorem says when this happens. An account that is neither root
nor an admin is granted nothing by a handler that asks for a privilege.

## Key results

- `not_granted_of_rootOnly`, `not_granted_of_rootOrAdmin`: what is closed to
  unprivileged accounts
- `scopeOwner_granted_iff`, `scopeOwnerOrMock_granted_iff`: the ownership rule
- `permAddDid_granted_iff`, `permAddDids_granted_iff`,
  `permAttachDidsToDids_granted_iff`, `permSetStatus_granted_iff`: the handlers with loops
  over rules and attachments
- `permAddRule_granted_iff`, `permAddReplicas_granted_iff`, `localAccountLimit_granted_iff`,
  `permSetGlobalAccountLimit_granted_iff`, `permDeleteGlobalAccountLimit_granted_iff`,
  `accountUsage_granted_iff`
-/

namespace DiracRucioPolicy

/-! ## Unprivileged accounts -/

/-- The account is neither root nor has an attribute `admin`. -/
def Unprivileged (db : Db) (issuer : InternalAccount) : Prop :=
  issuer.external ≠ "root" ∧ ∀ kv ∈ db.accountAttributes issuer.internal, kv.1 ≠ "admin"

/-- The handlers' test for a privilege fails exactly for the unprivileged. -/
theorem isPrivileged_eq_false_iff {db : Db} {issuer : InternalAccount} :
    isPrivileged db issuer = false ↔ Unprivileged db issuer := by
  simp [isPrivileged, isRoot, Db.hasAccountAttribute, Unprivileged]

/-- An unprivileged account is not root. -/
theorem isRoot_eq_false {db : Db} {issuer : InternalAccount} (h : Unprivileged db issuer) :
    isRoot issuer = false := by
  simpa [isRoot] using h.1

/-- What is for root only is closed to the unprivileged. -/
theorem not_granted_of_rootOnly {db : Db} {issuer : InternalAccount} (h : Unprivileged db issuer)
    (kwargs : Dict) : rootOnly db issuer kwargs ≠ .ok true := by
  simp [rootOnly, isRoot_eq_false h]

/-- What asks for a privilege is closed to the unprivileged. -/
theorem not_granted_of_rootOrAdmin {db : Db} {issuer : InternalAccount}
    (h : Unprivileged db issuer) (kwargs : Dict) : rootOrAdmin db issuer kwargs ≠ .ok true := by
  simp [rootOrAdmin, isPrivileged_eq_false_iff.mpr h]

/-! ## An ordinary account -/

/-- An account of the default VO. -/
def bob : InternalAccount := ⟨"bob", "def"⟩

/-- The scope of the same name. -/
def bobsScope : InternalScope := ⟨"bob", "def"⟩

/-- The database in which Bob is active and owns the scope `bob`, and nobody has any other
    right. -/
def bobsDb : Db :=
  { Db.empty with
    accounts := fun a => if a = bob.internal then some .active else none
    scopeOwner := fun s => if s = bobsScope.internal then some bob.internal else none }

/-- The database in which Bob is an admin. -/
def bobsOffice : Db :=
  { bobsDb with
    accountAttributes := fun a => if a = bob.internal then [("admin", .bool true)] else [] }

/-! ## Values -/

/-- `a or b` is true when `a` is, or when `b` is evaluated to true. -/
theorem pyOr_eq_true_iff {a : Bool} {b : Except PyErr Bool} :
    pyOr a b = .ok true ↔ a = true ∨ b = .ok true := by
  cases a with
  | true => simp [pyOr]
  | false => simp [pyOr]

namespace Dict

/-- `d[key]` returns the value under the key. -/
theorem getItem_eq_ok_iff {d : Dict} {key : String} {v : PyVal} :
    d.getItem key = .ok v ↔ d.get? key = some v := by
  unfold getItem
  cases d.get? key with
  | none => simp
  | some w => simp

end Dict

namespace PyVal

/-- A value is equal to an account when it is an account of the same internal name. -/
theorem isAccount_iff {v : PyVal} {a : InternalAccount} :
    v.isAccount a = true ↔ ∃ b, v = .account b ∧ b.internal = a.internal := by
  unfold isAccount
  split
  · simp
  · rename_i h
    constructor
    · intro hfalse
      cases hfalse
    · intro heq
      obtain ⟨b, rfl, -⟩ := heq
      exact absurd rfl (h b)

/-- Only a dictionary has items. -/
theorem getItem_eq_ok_iff {v : PyVal} {key : String} {w : PyVal} :
    v.getItem key = .ok w ↔ ∃ d, v = .dict d ∧ Dict.get? d key = some w := by
  cases v with
  | atom a => simp [getItem]
  | list vs => simp [getItem]
  | dict d => simp [getItem, Dict.getItem_eq_ok_iff]

end PyVal

/-- Every element of a set was an element of the list, and all of them were hashable. -/
theorem exists_pySet_eq_ok_iff {order : SetOrder} {vs : List PyVal} {P : PyAtom → Prop} :
    (∃ atoms, pySet order vs = .ok atoms ∧ ∀ a ∈ atoms, P a) ↔
      ∀ v ∈ vs, ∃ a, v = .atom a ∧ P a := by
  have hhash : ∀ {v : PyVal} {a : PyAtom}, v.hash = .ok a ↔ v = .atom a := by
    intro v a
    cases v <;> simp [PyVal.hash]
  simp only [← hhash, ← List.exists_mapM_eq_ok_iff, pySet, Except.bind_eq_ok_iff,
    Except.pure_eq_ok_iff]
  -- neither dropping repetitions nor the order changes the elements
  have hmem : ∀ {bs : List PyAtom} {b : PyAtom}, b ∈ order.order bs.dedup ↔ b ∈ bs := by
    intro bs b
    rw [(order.perm bs.dedup).mem_iff, List.mem_dedup]
  constructor
  · intro h
    obtain ⟨atoms, ⟨bs, hbs, rfl⟩, hall⟩ := h
    exact ⟨bs, hbs, fun b hb => hall b (hmem.mpr hb)⟩
  · intro h
    obtain ⟨bs, hbs, hall⟩ := h
    exact ⟨_, ⟨bs, hbs, rfl⟩, fun b hb => hall b (hmem.mp hb)⟩

/-! ## The ownership rule -/

/-- The issuer owns the scope. -/
def Owns (db : Db) (issuer : InternalAccount) (s : InternalScope) : Prop :=
  db.scopeOwner s.internal = some issuer.internal

/-- The issuer owns the scope, or the scope is called `mock`. -/
def MayUse (db : Db) (issuer : InternalAccount) (s : InternalScope) : Prop :=
  Owns db issuer s ∨ s.external = "mock"

/-- The issuer owns the scope that the value stands for. An account stands for the scope of
    the same internal name. -/
def OwnsValue (db : Db) (issuer : InternalAccount) (v : PyVal) : Prop :=
  ∃ name, Db.bindInternal v = .ok (some name) ∧ db.scopeOwner name = some issuer.internal

/-- The issuer owns the scope that the value stands for, or the value is called `mock`. -/
def MayUseValue (db : Db) (issuer : InternalAccount) (v : PyVal) : Prop :=
  OwnsValue db issuer v ∨ v.external = .ok "mock"

section

variable {db : Db} {issuer : InternalAccount} {v : PyVal} {s : InternalScope}

/-- A scope stands for itself. -/
@[simp] theorem ownsValue_scope : OwnsValue db issuer (.scope s) ↔ Owns db issuer s := by
  simp [OwnsValue, Owns, Db.bindInternal]

/-- A scope is open under its own name. -/
@[simp] theorem mayUseValue_scope : MayUseValue db issuer (.scope s) ↔ MayUse db issuer s := by
  simp [MayUseValue, MayUse, PyVal.external]

/-- Only the wrappers stand for scopes, and they are hashable. -/
theorem OwnsValue.exists_atom (h : OwnsValue db issuer v) : ∃ a, v = .atom a := by
  obtain ⟨name, hname, -⟩ := h
  cases v with
  | atom a => exact ⟨a, rfl⟩
  | list vs => simp [Db.bindInternal] at hname
  | dict d => simp [Db.bindInternal] at hname

/-- What has an external name can be bound. -/
theorem exists_bindInternal_of_external {name : String} (h : v.external = .ok name) :
    ∃ internal, Db.bindInternal v = .ok (some internal) := by
  cases v with
  | list vs => simp [PyVal.external] at h
  | dict d => simp [PyVal.external] at h
  | atom a =>
    cases a with
    | account a => exact ⟨_, rfl⟩
    | scope s => exact ⟨_, rfl⟩
    | _ => simp [PyVal.external] at h

/-- `is_scope_owner` returns true for the owner. -/
theorem isScopeOwner_eq_true_iff :
    db.isScopeOwner v issuer = .ok true ↔ OwnsValue db issuer v := by
  simp only [Db.isScopeOwner, Except.bind_eq_ok_iff, Except.pure_eq_ok_iff, Option.any_eq_true,
    decide_eq_true_eq, OwnsValue]
  constructor
  · intro h
    obtain ⟨_, hname, name, rfl, howner⟩ := h
    exact ⟨name, hname, howner⟩
  · intro h
    obtain ⟨name, hname, howner⟩ := h
    exact ⟨_, hname, name, rfl, howner⟩

/-- The owner of the scope is granted what asks for the ownership. -/
theorem scopeOwner_granted_iff {kwargs : Dict} :
    scopeOwner db issuer kwargs = .ok true ↔
      isPrivileged db issuer = true ∨
        ∃ v, kwargs.get? "scope" = some v ∧ OwnsValue db issuer v := by
  simp only [scopeOwner, pyOr_eq_true_iff, Except.bind_eq_ok_iff, Dict.getItem_eq_ok_iff,
    isScopeOwner_eq_true_iff]

/-- So is everybody where the scope `mock` is exempted. -/
theorem scopeOwnerOrMock_granted_iff {kwargs : Dict} :
    scopeOwnerOrMock db issuer kwargs = .ok true ↔
      isPrivileged db issuer = true ∨
        ∃ v, kwargs.get? "scope" = some v ∧ MayUseValue db issuer v := by
  simp only [scopeOwnerOrMock, pyOr_eq_true_iff, Except.bind_eq_ok_iff, Dict.getItem_eq_ok_iff]
  apply or_congr_right
  apply exists_congr
  intro v
  apply and_congr_right
  intro _
  constructor
  · intro h
    obtain ⟨owner, howner, hrest⟩ := h
    cases owner with
    | true => exact Or.inl (isScopeOwner_eq_true_iff.mp howner)
    | false =>
      simp only [Bool.false_eq_true, if_false, Except.bind_eq_ok_iff, Except.pure_eq_ok_iff,
        decide_eq_true_eq] at hrest
      obtain ⟨name, hname, rfl⟩ := hrest
      exact Or.inr hname
  · intro h
    by_cases hown : OwnsValue db issuer v
    · exact ⟨true, isScopeOwner_eq_true_iff.mpr hown, rfl⟩
    · -- the query answers, since what is called `mock` can be bound
      have hmock := h.resolve_left hown
      obtain ⟨name, hname⟩ := exists_bindInternal_of_external hmock
      have howner : db.isScopeOwner v issuer = .ok false := by
        have hne : db.scopeOwner name ≠ some issuer.internal := fun h => hown ⟨name, hname, h⟩
        rw [Db.isScopeOwner, hname, Except.ok_bind]
        simp [hne]
      refine ⟨false, howner, ?_⟩
      simp [hmock]

end

/-! ## Rules and attachments -/

/-- The rule is a dictionary whose account is the issuer. -/
def OwnRule (issuer : InternalAccount) (rule : PyVal) : Prop :=
  ∃ v, rule.getItem "account" = .ok v ∧ v.isAccount issuer = true

/-- The loops over rules go on after a rule of the issuer. -/
theorem ruleOfOther_eq_false_iff {issuer : InternalAccount} {rule : PyVal} :
    ruleOfOther issuer rule = .ok false ↔ OwnRule issuer rule := by
  simp only [ruleOfOther, Except.bind_eq_ok_iff, Except.pure_eq_ok_iff, Bool.not_eq_false',
    OwnRule]

/-- `add_did` lets an ordinary account create a DID in a scope it may use, with rules
    for itself. -/
theorem permAddDid_granted_iff {db : Db} {issuer : InternalAccount} {kwargs : Dict} :
    permAddDid db issuer kwargs = .ok true ↔
      isPrivileged db issuer = true ∨
        (∃ rules, (kwargs.getD "rules" (.list [])).iter = .ok rules ∧
          ∀ rule ∈ rules, OwnRule issuer rule) ∧
        ∃ v, kwargs.get? "scope" = some v ∧ MayUseValue db issuer v := by
  unfold permAddDid
  by_cases hpriv : isPrivileged db issuer = true
  · simp [hpriv, scopeOwnerOrMock_granted_iff]
  · -- an ordinary account goes through the loop first
    rw [Bool.not_eq_true] at hpriv
    simp only [hpriv, Bool.not_false, if_true, Except.bind_eq_ok_iff,
      Bool.false_eq_true, false_or]
    constructor
    · intro h
      obtain ⟨rules, hrules, bad, hbad, hrest⟩ := h
      cases bad with
      | true => simp at hrest  -- a rule of another account
      | false =>
        have hscope := scopeOwnerOrMock_granted_iff.mp hrest
        rw [hpriv] at hscope
        have hown := List.anyM_eq_ok_false_iff.mp hbad
        exact ⟨⟨rules, hrules, fun r hr => ruleOfOther_eq_false_iff.mp (hown r hr)⟩,
          hscope.resolve_left Bool.false_ne_true⟩
    · intro h
      obtain ⟨⟨rules, hrules, hown⟩, hscope⟩ := h
      refine ⟨rules, hrules, false, ?_, ?_⟩
      · exact List.anyM_eq_ok_false_iff.mpr fun r hr => ruleOfOther_eq_false_iff.mpr (hown r hr)
      · exact scopeOwnerOrMock_granted_iff.mpr (Or.inr hscope)

/-- `add_dids` is closed to ordinary accounts, whatever the rules are. -/
theorem permAddDids_granted_iff {db : Db} {issuer : InternalAccount} {kwargs : Dict} :
    permAddDids db issuer kwargs = .ok true ↔ isPrivileged db issuer = true := by
  unfold permAddDids
  by_cases hpriv : isPrivileged db issuer = true
  · simp [hpriv]
  · rw [Bool.not_eq_true] at hpriv
    simp only [hpriv, Bool.not_false, if_true, Except.bind_eq_ok_iff,
      Bool.false_eq_true, iff_false]
    -- with or without a bad rule the answer is false
    intro h
    obtain ⟨_, _, _, _, bad, _, hrest⟩ := h
    cases bad with
    | true => simp at hrest
    | false => simp at hrest

/-- `attach_dids_to_dids` asks for the ownership of every scope that is attached to. -/
theorem permAttachDidsToDids_granted_iff {db : Db} {issuer : InternalAccount} {kwargs : Dict} :
    permAttachDidsToDids db issuer kwargs = .ok true ↔
      isPrivileged db issuer = true ∨
        ∃ v attachments, kwargs.get? "attachments" = some v ∧ v.iter = .ok attachments ∧
          ∀ did ∈ attachments, ∃ v, did.getItem "scope" = .ok v ∧ OwnsValue db issuer v := by
  have howner : ∀ {a : PyAtom}, (do return !(← db.isScopeOwner (.atom a) issuer)) = .ok false ↔
      OwnsValue db issuer (.atom a) := by
    intro a
    simp only [Except.bind_eq_ok_iff, Except.pure_eq_ok_iff, Bool.not_eq_false',
      exists_eq_right, isScopeOwner_eq_true_iff]
  -- the loop over the set looks at the scope of every attachment
  have hloop : ∀ attachments : List PyVal,
      (∃ scopes, attachments.mapM (·.getItem "scope") = .ok scopes ∧
        ∃ atoms, pySet db.setOrder scopes = .ok atoms ∧
          ∀ a ∈ atoms, OwnsValue db issuer (.atom a)) ↔
      ∀ did ∈ attachments, ∃ v, did.getItem "scope" = .ok v ∧ OwnsValue db issuer v := by
    intro attachments
    simp only [exists_pySet_eq_ok_iff, List.exists_mapM_eq_ok_iff]
    apply forall₂_congr
    intro did _
    constructor
    · intro h
      obtain ⟨v, hv, a, rfl, hown⟩ := h
      exact ⟨_, hv, hown⟩
    · intro h
      obtain ⟨v, hv, hown⟩ := h
      obtain ⟨a, rfl⟩ := hown.exists_atom
      exact ⟨_, hv, a, rfl, hown⟩
  simp only [permAttachDidsToDids, pyOr_eq_true_iff, Except.bind_eq_ok_iff,
    Dict.getItem_eq_ok_iff, ← hloop]
  apply or_congr_right
  constructor
  · intro h
    obtain ⟨v, hv, attachments, hiter, scopes, hscopes, atoms, hatoms, bad, hbad, hrest⟩ := h
    cases bad with
    | true => simp at hrest  -- a scope of somebody else
    | false =>
      have hall := List.anyM_eq_ok_false_iff.mp hbad
      exact ⟨v, attachments, hv, hiter, scopes, hscopes, atoms, hatoms,
        fun a ha => howner.mp (hall a ha)⟩
  · intro h
    obtain ⟨v, attachments, hv, hiter, scopes, hscopes, atoms, hatoms, hall⟩ := h
    have hbad := List.anyM_eq_ok_false_iff.mpr fun a ha => howner.mpr (hall a ha)
    exact ⟨v, hv, attachments, hiter, scopes, hscopes, atoms, hatoms, false, hbad, by simp⟩

/-- `set_status` lets an owner close a DID; only the privileged reopen it. -/
theorem permSetStatus_granted_iff {db : Db} {issuer : InternalAccount} {kwargs : Dict} :
    permSetStatus db issuer kwargs = .ok true ↔
      isPrivileged db issuer = true ∨
        (kwargs.getD "open" (.bool false)).truthy = false ∧
          ∃ v, kwargs.get? "scope" = some v ∧ OwnsValue db issuer v := by
  unfold permSetStatus
  by_cases hpriv : isPrivileged db issuer = true
  · simp [hpriv, scopeOwner_granted_iff]
  · -- an ordinary account gets to the ownership test only with a falsy `open`
    rw [Bool.not_eq_true] at hpriv
    by_cases hopen : (kwargs.getD "open" (.bool false)).truthy = true
    · simp [hpriv, hopen]
    · simp [hpriv, hopen, scopeOwner_granted_iff]

/-- `add_replicas` is open to everybody on RSEs with certain names. -/
theorem permAddReplicas_granted_iff {db : Db} {issuer : InternalAccount} {kwargs : Dict} :
    permAddReplicas db issuer kwargs = .ok true ↔
      isPrivileged db issuer = true ∨
        ∃ suffix ∈ ["SCRATCHDISK", "USERDISK", "MOCK", "LOCALGROUPDISK"],
          (kwargs.getD "rse" (.str "")).strEndswith suffix = true := by
  simp only [permAddReplicas, Except.ok.injEq, Bool.or_eq_true, List.exists_mem_cons_iff,
    List.not_mem_nil, false_and, exists_false, or_false]
  rw [or_comm, or_assoc, or_assoc]

/-- `add_rule` lets an ordinary account create unlocked rules for itself. The key
    `locked` is read only when the account is the issuer. -/
theorem permAddRule_granted_iff {db : Db} {issuer : InternalAccount} {kwargs : Dict} :
    permAddRule db issuer kwargs = .ok true ↔
      ∃ v, kwargs.get? "account" = some v ∧
        (v.isAccount issuer = true ∧ (∃ locked, kwargs.get? "locked" = some locked ∧
            (locked.truthy = false ∨ isPrivileged db issuer = true)) ∨
          v.isAccount issuer = false ∧ isPrivileged db issuer = true) := by
  simp only [permAddRule, Except.bind_eq_ok_iff, Dict.getItem_eq_ok_iff]
  apply exists_congr
  intro v
  apply and_congr_right
  intro _
  cases hacc : v.isAccount issuer with
  | true =>
    -- a rule of the issuer: the handler goes on to read `locked`
    simp only [if_true, true_and, Bool.true_eq_false, false_and, or_false,
      Except.bind_eq_ok_iff, Dict.getItem_eq_ok_iff]
    apply exists_congr
    intro locked
    apply and_congr_right
    intro _
    by_cases hlocked : locked.truthy = true
    · simp [hlocked]
    · simp [hlocked]
  | false => simp  -- a rule for another account: only the privilege counts

/-! ## Country admins -/

/-- The account is active, so that its attributes can be listed. -/
def Active (db : Db) (issuer : InternalAccount) : Prop :=
  db.accounts issuer.internal = some .active

/-- The countries in the attributes of the issuer, whether it is active or not. -/
def countriesOf (db : Db) (issuer : InternalAccount) : List String :=
  ((db.accountAttributes issuer.internal).filter isCountryAdmin).map fun kv => behindDash kv.1

section

variable {db : Db} {issuer : InternalAccount} {kwargs : Dict}

/-- The attributes of an active account can be listed. -/
theorem listAccountAttributes_of_active (h : Active db issuer) :
    db.listAccountAttributes issuer = .ok (db.accountAttributes issuer.internal) := if_pos h

/-- Those of another account cannot. -/
theorem listAccountAttributes_of_not_active (h : ¬ Active db issuer) :
    db.listAccountAttributes issuer = .error .accountNotFound := if_neg h

/-- The handlers collect the countries of an active account. -/
theorem adminInCountry_of_active (h : Active db issuer) :
    adminInCountry db issuer = .ok (countriesOf db issuer) := by
  rw [adminInCountry, listAccountAttributes_of_active h]
  rfl

/-- For another account they raise. -/
theorem adminInCountry_of_not_active (h : ¬ Active db issuer) :
    adminInCountry db issuer = .error .accountNotFound := by
  rw [adminInCountry, listAccountAttributes_of_not_active h]
  rfl

/-- What is done with the countries is done for an active account. -/
theorem bind_adminInCountry_eq_ok_iff {α : Type} {f : List String → Except PyErr α} {a : α} :
    (adminInCountry db issuer >>= f) = .ok a ↔
      Active db issuer ∧ f (countriesOf db issuer) = .ok a := by
  by_cases hactive : Active db issuer
  · rw [adminInCountry_of_active hactive, Except.ok_bind]
    exact (and_iff_right hactive).symm
  · rw [adminInCountry_of_not_active hactive]
    exact iff_of_false (fun h => nomatch h) fun h => hactive h.1

/-- The issuer is an admin of every country that the RSE expression resolves to. -/
def CoversResolved (db : Db) (issuer : InternalAccount) (kwargs : Dict) : Prop :=
  ∃ resolved, resolvedRseCountries db issuer kwargs = .ok resolved ∧
    ∀ country ∈ resolved, ∃ c ∈ countriesOf db issuer, country = .str c

/-- The test of the global handlers compares the two sets. -/
theorem subsetOfCountries_iff {resolved : List PyAtom} {countries : List String} :
    subsetOfCountries resolved countries = true ↔
      ∀ country ∈ resolved, ∃ c ∈ countries, country = .str c := by
  simp [subsetOfCountries]

/-- A country admin sets the limits of the RSEs of the country. -/
theorem localAccountLimit_granted_iff :
    localAccountLimit db issuer kwargs = .ok true ↔
      isPrivileged db issuer = true ∨
        Active db issuer ∧ ∃ rse c, kwargs.get? "rse_id" = some rse ∧
          c ∈ countriesOf db issuer ∧ db.rseCountry rse = .str c := by
  unfold localAccountLimit
  rw [pyOr_eq_true_iff, bind_adminInCountry_eq_ok_iff]
  apply or_congr_right
  apply and_congr_right
  intro _
  -- without a country the handler stops before it looks at the RSE
  cases hcountries : countriesOf db issuer with
  | nil => simp
  | cons c cs =>
    simp only [List.isEmpty_cons, Bool.false_eq_true, if_false, Except.bind_eq_ok_iff,
      Dict.getItem_eq_ok_iff, Except.pure_eq_ok_iff, List.any_eq_true, decide_eq_true_eq,
      exists_and_left]

/-- To set a global limit the issuer must be an admin of the countries of all RSEs. -/
theorem permSetGlobalAccountLimit_granted_iff :
    permSetGlobalAccountLimit db issuer kwargs = .ok true ↔
      isPrivileged db issuer = true ∨ Active db issuer ∧ CoversResolved db issuer kwargs := by
  rw [permSetGlobalAccountLimit, pyOr_eq_true_iff, bind_adminInCountry_eq_ok_iff]
  simp only [Except.bind_eq_ok_iff, Except.pure_eq_ok_iff, subsetOfCountries_iff, CoversResolved]

/-- To delete a global limit the issuer must be an admin of a country, even if the
    expression resolves to no RSE. -/
theorem permDeleteGlobalAccountLimit_granted_iff :
    permDeleteGlobalAccountLimit db issuer kwargs = .ok true ↔
      isPrivileged db issuer = true ∨
        Active db issuer ∧ countriesOf db issuer ≠ [] ∧ CoversResolved db issuer kwargs := by
  unfold permDeleteGlobalAccountLimit CoversResolved
  rw [pyOr_eq_true_iff, bind_adminInCountry_eq_ok_iff]
  apply or_congr_right
  apply and_congr_right
  intro _
  cases hcountries : countriesOf db issuer with
  | nil => simp
  | cons c cs =>
    simp only [List.isEmpty_cons, Bool.false_eq_true, if_false, Except.bind_eq_ok_iff,
      Except.pure_eq_ok_iff, subsetOfCountries_iff, ne_eq, reduceCtorEq, not_false_eq_true,
      true_and]

/-- The usage of an account is shown to the account itself and to the admins of countries. -/
theorem accountUsage_granted_iff :
    accountUsage db issuer kwargs = .ok true ↔
      isPrivileged db issuer = true ∨ (kwargs.getD "account" .none).isAccount issuer = true ∨
        Active db issuer ∧
          ∃ kv ∈ db.accountAttributes issuer.internal, isCountryAdmin kv = true := by
  rw [accountUsage, pyOr_eq_true_iff, Bool.or_eq_true, or_assoc]
  apply or_congr_right
  apply or_congr_right
  by_cases hactive : Active db issuer
  · rw [listAccountAttributes_of_active hactive, Except.ok_bind, Except.pure_eq_ok_iff,
      List.any_eq_true]
    exact (and_iff_right hactive).symm
  · rw [listAccountAttributes_of_not_active hactive]
    exact iff_of_false (fun h => nomatch h) fun h => hactive h.1

end

/-! ## Lifetime exceptions -/

/-- The exceptions are updated by the privileged only. With a `vo` in the request, the
    exception must be there and belong to it. -/
theorem permUpdateLifetimeExceptions_granted_iff {db : Db} {issuer : InternalAccount}
    {kwargs : Dict} :
    permUpdateLifetimeExceptions db issuer kwargs = .ok true ↔
      isPrivileged db issuer = true ∧
        ∃ vo, kwargs.get? "vo" = some vo ∧ (vo = .none ∨
          ∃ id exceptions, kwargs.get? "exception_id" = some id ∧
            db.nextException id = .ok exceptions ∧ vo.isStr exceptions.scope.vo = true) := by
  simp only [permUpdateLifetimeExceptions, Except.bind_eq_ok_iff, Dict.getItem_eq_ok_iff]
  constructor
  · intro h
    obtain ⟨vo, hvo, h⟩ := h
    split at h
    · exact ⟨by simpa using h, .none, hvo, Or.inl rfl⟩
    · -- the exception was found, and its VO decides
      simp only [Except.bind_eq_ok_iff, Dict.getItem_eq_ok_iff] at h
      obtain ⟨id, hid, exceptions, hnext, h⟩ := h
      by_cases hstr : vo.isStr exceptions.scope.vo = true
      · simp only [hstr, Bool.not_true, Bool.false_eq_true, if_false,
          Except.pure_eq_ok_iff] at h
        exact ⟨h, vo, hvo, Or.inr ⟨id, exceptions, hid, hnext, hstr⟩⟩
      · simp [hstr] at h
  · intro h
    obtain ⟨hpriv, vo, hvo, h⟩ := h
    refine ⟨vo, hvo, ?_⟩
    split
    · rw [hpriv, Except.pure_eq_ok_iff]
    · rename_i hnone
      obtain ⟨id, exceptions, hid, hnext, hstr⟩ := h.resolve_left hnone
      simp [Except.bind_eq_ok_iff, Dict.getItem_eq_ok_iff, hid, hnext, hstr, hpriv]

end DiracRucioPolicy
