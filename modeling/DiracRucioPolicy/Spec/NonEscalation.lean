import DiracRucioPolicy.ForStd.Run
import DiracRucioPolicy.Spec.Grants

/-!
# Ordinary accounts do not raise their rights

Rucio serves a sequence of requests, each of which takes effect only if
`has_permission` grants it in the current state. As long as no request comes from root
or from an admin, the accounts, their attributes and the owners of the scopes stay what
they are. Identities can be unlinked, but only by an account that is linked to them.

## Key results

- `dispatched_of_granted`, `notMem_rightsActions_of_granted`: which actions an ordinary
  account is granted
- `linked_of_delIdentity_granted`: who is granted `del_identity`
- `served_narrowed`, `step_unlinked`: what one request can do
- `non_escalation`: what a run can do
-/

namespace DiracRucioPolicy

/-! ## Requests and their effects -/

/-- A request. `identity` is the identity that an action on identities is about, which
    is not passed on in `kwargs`. -/
structure Request where
  issuer : InternalAccount
  action : String
  kwargs : Dict
  identity : Identity

/-- The dispatched actions, besides `del_identity`, that may change the accounts, their
    attributes, the scopes and the identities. -/
def rightsActions : List String :=
  ["add_account", "del_account", "update_account", "add_attribute", "del_attribute",
   "add_scope", "add_account_identity", "del_account_identity"]

/-- Accounts, attributes and scopes are the same, and no identity has a new account. -/
structure Narrowed (db db' : Db) : Prop where
  accounts : db'.accounts = db.accounts
  accountAttributes : db'.accountAttributes = db.accountAttributes
  scopeOwner : db'.scopeOwner = db.scopeOwner
  identities : ∀ id a, db'.identities id a = true → db.identities id a = true

/-- Nothing changes when the state is the same. -/
theorem Narrowed.refl (db : Db) : Narrowed db db := ⟨rfl, rfl, rfl, fun _ _ h => h⟩

/-- What two steps leave alone is left alone by both together. -/
theorem Narrowed.trans {db db₁ db₂ : Db} (h : Narrowed db db₁) (h' : Narrowed db₁ db₂) :
    Narrowed db db₂ :=
  ⟨h'.accounts.trans h.accounts, h'.accountAttributes.trans h.accountAttributes,
    h'.scopeOwner.trans h.scopeOwner, fun id a ha => h.identities id a (h'.identities id a ha)⟩

/-- What Rucio does with the requests that are granted: any effect at all for the actions
    on accounts, attributes, scopes and identities and for actions that the policy does not
    know. The other actions leave those tables alone, and `del_identity` removes links of
    the identity that it is about. -/
structure Rucio where
  effect : Db → Request → Db → Prop
  effect_other : ∀ {db req db'}, effect db req db' → (permTable.lookup req.action).isSome = true →
    req.action ∉ rightsActions → req.action ≠ "del_identity" →
      Narrowed db db' ∧ db'.identities = db.identities
  effect_delIdentity : ∀ {db req db'}, effect db req db' → req.action = "del_identity" →
    Narrowed db db' ∧ ∀ id ≠ req.identity, db'.identities id = db.identities id

/-- `kwargs["accounts"]` lists the external names of the accounts of the identity, which are
    accounts of the VO. -/
def ListsAccounts (vo : String) (db : Db) (req : Request) : Prop :=
  ∃ names : List String, req.kwargs.get? "accounts" = some (.list (names.map PyVal.str)) ∧
    ∀ name, name ∈ names ↔ db.identities req.identity (internalName name vo) = true

/-- A request of an ordinary account is served: it has its effect only if it is granted. -/
structure Served (rucio : Rucio) (db : Db) (req : Request) (db' : Db) : Prop where
  unprivileged : Unprivileged db req.issuer
  outcome : db' = db ∨
    hasPermission db req.issuer req.action req.kwargs = .ok true ∧ rucio.effect db req db'

/-- The same in a single VO, where Rucio names the accounts of an identity that is to be
    deleted. -/
structure Step (rucio : Rucio) (vo : String) (db : Db) (req : Request) (db' : Db) : Prop
    extends Served rucio db req db' where
  issuerVo : req.issuer.vo = vo
  accounts : req.action = "del_identity" → ListsAccounts vo db req

/-! ## What an ordinary account is granted -/

variable {db : Db} {issuer : InternalAccount} {action : String} {kwargs : Dict}

/-- An action that the policy does not know is closed to ordinary accounts. -/
theorem dispatched_of_granted (hun : Unprivileged db issuer)
    (h : hasPermission db issuer action kwargs = .ok true) :
    (permTable.lookup action).isSome = true := by
  rw [hasPermission, handlerOf] at h
  cases hlookup : permTable.lookup action with
  | some handler => rfl
  | none =>
    rw [hlookup] at h
    exact absurd h (not_granted_of_rootOrAdmin hun kwargs)

/-- The actions on accounts, attributes, scopes and identities ask for a privilege. -/
theorem handlerOf_rightsActions :
    ∀ action ∈ rightsActions, handlerOf action = rootOnly ∨ handlerOf action = rootOrAdmin := by
  simp only [rightsActions, List.forall_mem_cons]
  exact ⟨.inl rfl, .inl rfl, .inr rfl, .inr rfl, .inr rfl, .inr rfl, .inr rfl, .inr rfl,
    List.forall_mem_nil _⟩

/-- An ordinary account is granted none of the actions on rights. -/
theorem notMem_rightsActions_of_granted (hun : Unprivileged db issuer)
    (h : hasPermission db issuer action kwargs = .ok true) : action ∉ rightsActions := by
  intro hmem
  rw [hasPermission] at h
  cases handlerOf_rightsActions action hmem with
  | inl hroot =>
    rw [hroot] at h
    exact not_granted_of_rootOnly hun kwargs h
  | inr hadmin =>
    rw [hadmin] at h
    exact not_granted_of_rootOrAdmin hun kwargs h

/-- In a single VO the names of the accounts determine them, so that an ordinary account
    is granted `del_identity` only for an identity of its own. -/
theorem linked_of_delIdentity_granted {req : Request} (hun : Unprivileged db req.issuer)
    {vo : String} (hissuer : req.issuer.vo = vo) (hlist : ListsAccounts vo db req)
    (h : hasPermission db req.issuer "del_identity" req.kwargs = .ok true) :
    db.identities req.identity req.issuer.internal = true := by
  have hgrant : permDelIdentity db req.issuer req.kwargs = .ok true := h
  rw [permDelIdentity, pyOr_eq_true_iff, isRoot_eq_false hun] at hgrant
  obtain ⟨names, hnames, hmem⟩ := hlist
  have hcontains := hgrant.resolve_left Bool.false_ne_true
  rw [Dict.getD, hnames] at hcontains
  have hname : req.issuer.external ∈ names := by
    simpa [PyVal.contains, PyVal.isStr] using hcontains
  -- the listed account has the issuer's name, and the only VO
  rw [InternalAccount.internal, hissuer]
  exact (hmem _).mp hname

/-! ## One request -/

section

variable {rucio : Rucio} {vo : String} {db' : Db} {req : Request}

/-- The step unlinks an account from the identity. -/
def Unlinks (id : Identity) (db db' : Db) : Prop :=
  ∃ a, db.identities id a = true ∧ db'.identities id a = false

/-- A request that changes something is not one of the actions on rights, and if it is not
    `del_identity` then it leaves the identities alone. -/
theorem served_cases (h : Served rucio db req db') :
    Narrowed db db' ∧ (db'.identities = db.identities ∨
      req.action = "del_identity" ∧
        hasPermission db req.issuer "del_identity" req.kwargs = .ok true ∧
        ∀ id ≠ req.identity, db'.identities id = db.identities id) := by
  cases h.outcome with
  | inl hsame =>
    rw [hsame]
    exact ⟨.refl db, Or.inl rfl⟩
  | inr hserved =>
    obtain ⟨hgrant, heffect⟩ := hserved
    by_cases hdel : req.action = "del_identity"
    · -- the one action on rights that an ordinary account may be granted
      obtain ⟨hnarrowed, hothers⟩ := rucio.effect_delIdentity heffect hdel
      rw [hdel] at hgrant
      exact ⟨hnarrowed, Or.inr ⟨hdel, hgrant, hothers⟩⟩
    · obtain ⟨hnarrowed, hids⟩ := rucio.effect_other heffect
        (dispatched_of_granted h.unprivileged hgrant)
        (notMem_rightsActions_of_granted h.unprivileged hgrant) hdel
      exact ⟨hnarrowed, Or.inl hids⟩

/-- One request adds no right. -/
theorem served_narrowed (h : Served rucio db req db') : Narrowed db db' := (served_cases h).1

/-- Only an account of the identity unlinks it. -/
theorem step_unlinked (h : Step rucio vo db req db') {id : Identity}
    (hunlinks : Unlinks id db db') :
    req.action = "del_identity" ∧ req.identity = id ∧
      db.identities id req.issuer.internal = true := by
  obtain ⟨a, hbefore, hafter⟩ := hunlinks
  cases (served_cases h.toServed).2 with
  | inl hids =>
    -- the links are the same
    rw [hids, hbefore] at hafter
    exact absurd hafter.symm Bool.false_ne_true
  | inr hdel =>
    obtain ⟨haction, hgrant, hothers⟩ := hdel
    -- the links of the other identities are the same
    have hid : req.identity = id := by
      by_contra hne
      rw [hothers id (Ne.symm hne), hbefore] at hafter
      exact absurd hafter.symm Bool.false_ne_true
    refine ⟨haction, hid, ?_⟩
    rw [← hid]
    exact linked_of_delIdentity_granted h.unprivileged h.issuerVo (h.accounts haction) hgrant

end

/-! ## Runs -/

/-- What a run can do to the rights. -/
structure NotEscalated (rucio : Rucio) (vo : String) (db : Db) (reqs : List Request) (db' : Db) :
    Prop where
  accounts : db'.accounts = db.accounts
  accountAttributes : db'.accountAttributes = db.accountAttributes
  scopeOwner : db'.scopeOwner = db.scopeOwner
  /-- No identity is linked to an account that it was not linked to initially. -/
  linked : ∀ id a, db'.identities id a = true → db.identities id a = true
  /-- Every step that unlinks an identity comes from an account of that identity. -/
  unlinked : ∀ {db₁ req db₂}, Run.Through (Step rucio vo) db reqs db' db₁ req db₂ →
    ∀ id, Unlinks id db₁ db₂ →
      req.action = "del_identity" ∧ req.identity = id ∧
        db₁.identities id req.issuer.internal = true
  /-- A link that is gone was removed by an account that the identity had initially. -/
  lost : ∀ id, Unlinks id db db' → ∃ req ∈ reqs, req.action = "del_identity" ∧
    req.identity = id ∧ db.identities id req.issuer.internal = true

variable {rucio : Rucio} {vo : String} {db' : Db} {reqs : List Request}

/-- A run of requests adds no right. -/
theorem run_narrowed (hrun : Run (Served rucio) db reqs db') : Narrowed db db' :=
  hrun.invariant (.refl db) fun _ _ _ hnarrowed hstep => hnarrowed.trans (served_narrowed hstep)

/-- The same in a single VO. -/
theorem run_step_narrowed (hrun : Run (Step rucio vo) db reqs db') : Narrowed db db' :=
  run_narrowed (hrun.mono fun _ _ _ hstep => hstep.toServed)

/-- A run of requests of ordinary accounts in a single VO leaves the accounts, their
    attributes and the owners of the scopes as they were, links no identity, and unlinks
    an identity only at the request of one of its accounts. -/
theorem non_escalation (hrun : Run (Step rucio vo) db reqs db') :
    NotEscalated rucio vo db reqs db' := by
  have hunlinked : ∀ {db₁ req db₂}, Run.Through (Step rucio vo) db reqs db' db₁ req db₂ →
      ∀ id, Unlinks id db₁ db₂ →
        req.action = "del_identity" ∧ req.identity = id ∧
          db₁.identities id req.issuer.internal = true := by
    intro db₁ req db₂ hthrough id hunlinks
    obtain ⟨_, _, _, _, hstep, _⟩ := hthrough
    exact step_unlinked hstep hunlinks
  have hnarrowed := run_step_narrowed hrun
  refine ⟨hnarrowed.accounts, hnarrowed.accountAttributes, hnarrowed.scopeOwner,
    hnarrowed.identities, hunlinked, ?_⟩
  -- a lost link was lost in one step
  intro id hlost
  obtain ⟨a, hbefore, hafter⟩ := hlost
  obtain ⟨db₁, req, db₂, hthrough, hlink, hgone⟩ :=
    Run.exists_step_of_lost (P := fun db => db.identities id a = true) hrun hbefore
      (by rw [hafter]; exact Bool.false_ne_true)
  obtain ⟨hdel, hid, hissuer⟩ :=
    hunlinked hthrough id ⟨a, hlink, by rwa [Bool.not_eq_true] at hgone⟩
  obtain ⟨reqs₁, reqs₂, hreqs, hrun₁, _, _⟩ := hthrough
  refine ⟨req, ?_, hdel, hid, (run_step_narrowed hrun₁).identities id _ hissuer⟩
  rw [hreqs]
  exact List.mem_append_right reqs₁ List.mem_cons_self

/-- A Rucio in which accounts can be added and identities be deleted. -/
def smallRucio : Rucio where
  effect db req db' :=
    db' =
      if req.action = "add_account" then
        { db with accounts := fun a =>
            if Db.bindInternal (req.kwargs.getD "account" .none) = .ok (some a) then some .active
            else db.accounts a }
      else if req.action = "del_identity" then
        { db with identities := fun id a => id ≠ req.identity && db.identities id a }
      else db
  effect_other := by
    intro db req db' heffect _ hrights hdel
    have hadd : req.action ≠ "add_account" := fun h => hrights (by rw [h]; exact List.mem_cons_self)
    rw [if_neg hadd, if_neg hdel] at heffect
    rw [heffect]
    exact ⟨.refl db, rfl⟩
  effect_delIdentity := by
    intro db req db' heffect hdel
    have hadd : req.action ≠ "add_account" := by rw [hdel]; decide
    rw [if_neg hadd, if_pos hdel] at heffect
    rw [heffect]
    refine ⟨⟨rfl, rfl, rfl, fun id a h => ?_⟩, fun id hne => ?_⟩
    · exact (Bool.and_eq_true_iff.mp h).2
    · simp [hne]

/-- A certificate of Bob. -/
def bobsIdentity : Identity := ⟨"CN=Bob", .x509⟩

/-- The database in which Bob is linked to his certificate, and to nothing else. -/
def bobsLinks : Db :=
  { bobsDb with identities := fun id a => id = bobsIdentity && a = bob.internal }

/-- Bob tries to add an account, and deletes his identity. -/
def bobsRequests : List Request :=
  [⟨bob, "add_account", [("account", .account ⟨"mallory", "def"⟩)], bobsIdentity⟩,
   ⟨bob, "del_identity", [("accounts", .list [.str "bob"])], bobsIdentity⟩]

/-- The rights at the end are those at the start, except that the identity of Bob is gone. -/
theorem non_escalation_bob :
    NotEscalated smallRucio "def" bobsLinks bobsRequests
      { bobsLinks with
        identities := fun id a => id ≠ bobsIdentity && bobsLinks.identities id a } := by
  have hun : Unprivileged bobsLinks bob := ⟨by decide, fun _ h => nomatch h⟩
  have hlist : ∀ name, name ∈ ["bob"] ↔
      bobsLinks.identities bobsIdentity (internalName name "def") = true := by
    intro name
    rw [List.mem_singleton]
    show _ ↔ (decide (bobsIdentity = bobsIdentity) && decide (name = "bob")) = true
    simp
  apply non_escalation
  -- the first request is refused, the second is served
  apply Run.cons (t := bobsLinks)
  · exact ⟨⟨hun, Or.inl rfl⟩, rfl, fun h => absurd h (by decide)⟩
  · apply Run.cons _ (.nil _)
    exact ⟨⟨hun, Or.inr ⟨rfl, rfl⟩⟩, rfl, fun _ => ⟨["bob"], rfl, hlist⟩⟩

end DiracRucioPolicy
