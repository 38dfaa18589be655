import DiracRucioPolicy.Spec.Returns

/-!
# Bulk requests and single requests

`add_dids` and `attach_dids_to_dids` have handlers of their own, which do not call those
of `add_did` and `attach_dids`. The bulk gates are narrower: `add_dids` is open to the
privileged only, and attaching in bulk asks for the ownership of every scope, without the
exemption for `mock`.

## Key results

- `addDids_eq`, `attachDidsToDids_eq`: the decisions of the bulk handlers
- `bulk_requests`: how they compare with the single ones
-/

namespace DiracRucioPolicy

/-! ## Items -/

/-- The arguments of a single request, with a scope. -/
structure ScopedItem where
  kwargs : Dict
  scope : InternalScope
  scope_eq : kwargs.get? "scope" = some (.scope scope)

/-- An item whose rules, if it has any, name their accounts. -/
structure RuledItem extends ScopedItem where
  rules : List PyVal
  rules_eq : (kwargs.getD "rules" (.list [])).iter = .ok rules
  accounts : ∀ rule ∈ rules, (rule.getItem "account").Returns

variable (db : Db) (issuer : InternalAccount)

instance (s : InternalScope) : Decidable (Owns db issuer s) :=
  inferInstanceAs (Decidable (db.scopeOwner s.internal = some issuer.internal))

/-- `add_dids` on a list of items. -/
def addDids (items : List RuledItem) : Except PyErr Bool :=
  hasPermission db issuer "add_dids" [("dids", .list (items.map fun item => .dict item.kwargs))]

/-- `add_did` on one item. -/
def addDid (item : RuledItem) : Except PyErr Bool := hasPermission db issuer "add_did" item.kwargs

/-- `attach_dids_to_dids` on a list of items. -/
def attachDidsToDids (items : List ScopedItem) : Except PyErr Bool :=
  hasPermission db issuer "attach_dids_to_dids"
    [("attachments", .list (items.map fun item => .dict item.kwargs))]

/-- `attach_dids` on one item. -/
def attachDids (item : ScopedItem) : Except PyErr Bool :=
  hasPermission db issuer "attach_dids" item.kwargs

/-! ## Single requests -/

/-- A single `add_did` request is answered. -/
theorem addDid_returns (item : RuledItem) : (addDid db issuer item).Returns :=
  permAddDid_returns item.scope_eq item.rules_eq item.accounts

/-- So is an `attach_dids` request. -/
theorem attachDids_returns (item : ScopedItem) : (attachDids db issuer item).Returns :=
  scopeOwnerOrMock_returns item.scope_eq

/-- Whoever may use the scope of an item may attach to it. -/
theorem attachDids_granted_iff (item : ScopedItem) :
    attachDids db issuer item = .ok true ↔
      isPrivileged db issuer = true ∨ MayUse db issuer item.scope := by
  have hhandler : attachDids db issuer item = scopeOwnerOrMock db issuer item.kwargs := rfl
  rw [hhandler, scopeOwnerOrMock_granted_iff, item.scope_eq]
  simp

/-! ## Bulk requests -/

/-- The rules of an item are read. -/
theorem RuledItem.readRules (item : RuledItem) :
    ((PyVal.dict item.kwargs).get "rules" (.list []) >>= PyVal.iter) = .ok item.rules :=
  item.rules_eq

/-- `add_dids` asks for the privilege, whatever the items are. -/
theorem addDids_eq (items : List RuledItem) :
    addDids db issuer items = .ok (isPrivileged db issuer) := by
  have hhandler : addDids db issuer items = permAddDids db issuer
    [("dids", .list (items.map fun item => .dict item.kwargs))] := rfl
  have hread : ∀ did ∈ items.map fun item => PyVal.dict item.kwargs,
      (did.get "rules" (.list []) >>= PyVal.iter).Returns := by
    intro did hdid
    obtain ⟨item, -, rfl⟩ := List.mem_map.mp hdid
    exact ⟨item.rules, item.readRules⟩
  have hreturns : (addDids db issuer items).Returns := by
    rw [hhandler, permAddDids_returns_iff rfl rfl hread]
    apply Or.inr
    intro rule hrule
    -- the rule that ends the loop is a rule of one of the items
    obtain ⟨did, hdid, hmem⟩ := List.mem_flatMap.mp (List.mem_of_find?_eq_some hrule)
    obtain ⟨item, -, rfl⟩ := List.mem_map.mp hdid
    rw [rulesOf, item.readRules] at hmem
    exact item.accounts rule hmem
  apply Except.eq_of_returns hreturns (Except.returns_ok _)
  rw [hhandler, permAddDids_granted_iff, Except.ok.injEq]

/-- `attach_dids_to_dids` asks for the ownership of every scope. -/
theorem attachDidsToDids_eq (items : List ScopedItem) :
    attachDidsToDids db issuer items = .ok (isPrivileged db issuer ||
      decide (∀ item ∈ items, Owns db issuer item.scope)) := by
  have hhandler : attachDidsToDids db issuer items = permAttachDidsToDids db issuer
    [("attachments", .list (items.map fun item => .dict item.kwargs))] := rfl
  have hscope : ∀ item : ScopedItem,
      (PyVal.dict item.kwargs).getItem "scope" = .ok (.scope item.scope) :=
    fun item => Dict.getItem_eq_ok_iff.mpr item.scope_eq
  have hreturns : (attachDidsToDids db issuer items).Returns := by
    rw [hhandler, permAttachDidsToDids_returns_iff rfl rfl]
    · apply Or.inr
      intro a ha
      obtain ⟨item, -, rfl⟩ := List.mem_map.mp ha
      exact ⟨_, hscope item⟩
    · intro a ha w hw
      obtain ⟨item, -, rfl⟩ := List.mem_map.mp ha
      rw [hscope, Except.ok.injEq] at hw
      exact ⟨item.scope, hw.symm⟩
  apply Except.eq_of_returns hreturns (Except.returns_ok _)
  rw [hhandler, permAttachDidsToDids_granted_iff, Except.ok.injEq, Bool.or_eq_true,
    decide_eq_true_eq]
  apply or_congr_right
  constructor
  · intro h item hitem
    obtain ⟨v, attachments, hv, hiter, hall⟩ := h
    obtain rfl := Option.some.inj hv
    obtain rfl := Except.ok.inj hiter
    obtain ⟨s, hs, hown⟩ := hall _ (List.mem_map.mpr ⟨item, hitem, rfl⟩)
    rw [hscope] at hs
    cases hs
    exact ownsValue_scope.mp hown
  · intro h
    refine ⟨_, _, rfl, rfl, ?_⟩
    intro did hdid
    obtain ⟨item, hitem, rfl⟩ := List.mem_map.mp hdid
    exact ⟨_, hscope item, ownsValue_scope.mpr (h item hitem)⟩

/-- The owner of all the scopes may attach to all the items. -/
theorem attachDidsToDids_granted_iff (items : List ScopedItem) :
    attachDidsToDids db issuer items = .ok true ↔
      isPrivileged db issuer = true ∨ ∀ item ∈ items, Owns db issuer item.scope := by
  rw [attachDidsToDids_eq, Except.ok.injEq, Bool.or_eq_true, decide_eq_true_eq]

/-! ## Comparison -/

/-- The privileged are granted every single request. -/
theorem addDid_of_isPrivileged (hpriv : isPrivileged db issuer = true) (item : RuledItem) :
    addDid db issuer item = .ok true :=
  permAddDid_granted_iff.mpr (Or.inl hpriv)

/-- `add_dids` agrees with `add_did` for the privileged, and where one of the single requests
    is refused. -/
theorem addDids_eq_allM_iff (items : List RuledItem) :
    addDids db issuer items = items.allM (addDid db issuer) ↔
      isPrivileged db issuer = true ∨ ∃ item ∈ items, addDid db issuer item ≠ .ok true := by
  have hreturns : (addDids db issuer items).Returns := ⟨_, addDids_eq db issuer items⟩
  rw [List.eq_allM_iff hreturns fun item _ => addDid_returns db issuer item, addDids_eq,
    Except.ok.injEq]
  by_cases hpriv : isPrivileged db issuer = true
  · have hall : ∀ item ∈ items, addDid db issuer item = .ok true :=
      fun item _ => addDid_of_isPrivileged db issuer hpriv item
    exact ⟨fun _ => Or.inl hpriv, fun _ => ⟨fun _ => hall, fun _ => hpriv⟩⟩
  · -- the bulk request is refused, so one of the single ones has to be refused as well
    simp only [hpriv, Bool.false_eq_true, false_iff, false_or, not_forall, exists_prop, ne_eq]

/-- `attach_dids_to_dids` agrees with `attach_dids` where the issuer owns all the scopes, or
    may not even use all of them. -/
theorem attachDidsToDids_eq_allM_iff (items : List ScopedItem) :
    attachDidsToDids db issuer items = items.allM (attachDids db issuer) ↔
      isPrivileged db issuer = true ∨ (∀ item ∈ items, Owns db issuer item.scope) ∨
        ∃ item ∈ items, ¬ MayUse db issuer item.scope := by
  have hreturns : (attachDidsToDids db issuer items).Returns :=
    ⟨_, attachDidsToDids_eq db issuer items⟩
  rw [List.eq_allM_iff hreturns fun item _ => attachDids_returns db issuer item,
    attachDidsToDids_granted_iff]
  simp only [attachDids_granted_iff]
  by_cases hpriv : isPrivileged db issuer = true
  · simp [hpriv]
  · simp only [hpriv, Bool.false_eq_true, false_or]
    by_cases howns : ∀ item ∈ items, Owns db issuer item.scope
    · -- an owner may use the scope
      have hmay : ∀ item ∈ items, MayUse db issuer item.scope :=
        fun item hitem => Or.inl (howns item hitem)
      exact ⟨fun _ => Or.inl howns, fun _ => ⟨fun _ => hmay, fun _ => howns⟩⟩
    · simp only [howns, false_iff, false_or, not_forall, exists_prop]

/-- A bulk request that is granted is granted item by item. The converse holds for the
    privileged; for an ordinary account `add_dids` differs from the single requests
    exactly when all of these are granted, and `attach_dids_to_dids` exactly when the
    account may use all of the scopes but owns only some. -/
theorem bulk_requests :
    (∀ items : List RuledItem,
      addDids db issuer items = .ok (isPrivileged db issuer) ∧
      (addDids db issuer items = .ok true → ∀ item ∈ items, addDid db issuer item = .ok true) ∧
      (addDids db issuer items = items.allM (addDid db issuer) ↔
        isPrivileged db issuer = true ∨ ∃ item ∈ items, addDid db issuer item ≠ .ok true)) ∧
    (∀ items : List ScopedItem,
      attachDidsToDids db issuer items = .ok (isPrivileged db issuer ||
        decide (∀ item ∈ items, Owns db issuer item.scope)) ∧
      (attachDidsToDids db issuer items = .ok true →
        ∀ item ∈ items, attachDids db issuer item = .ok true) ∧
      (attachDidsToDids db issuer items = items.allM (attachDids db issuer) ↔
        isPrivileged db issuer = true ∨ (∀ item ∈ items, Owns db issuer item.scope) ∨
          ∃ item ∈ items, ¬ MayUse db issuer item.scope)) := by
  constructor
  · intro items
    refine ⟨addDids_eq db issuer items, ?_, addDids_eq_allM_iff db issuer items⟩
    intro h item _
    rw [addDids_eq, Except.ok.injEq] at h
    exact addDid_of_isPrivileged db issuer h item
  · intro items
    refine ⟨attachDidsToDids_eq db issuer items, ?_, attachDidsToDids_eq_allM_iff db issuer items⟩
    intro h item hitem
    rw [attachDidsToDids_granted_iff] at h
    rw [attachDids_granted_iff]
    exact h.imp_right fun howns => Or.inl (howns item hitem)

/-- Bob creates a DID in his own scope. -/
def bobsItem : RuledItem where
  kwargs := [("scope", .scope bobsScope)]
  scope := bobsScope
  scope_eq := rfl
  rules := []
  rules_eq := rfl
  accounts := fun _ h => absurd h List.not_mem_nil

/-- Anybody may attach to a DID in the scope `mock`. -/
def mockItem : ScopedItem where
  kwargs := [("scope", .scope ⟨"mock", "def"⟩)]
  scope := ⟨"mock", "def"⟩
  scope_eq := rfl

/-- A DID in the scope, with a rule for each of the accounts. -/
def ruledItem (scope : InternalScope) (accounts : List InternalAccount) : RuledItem where
  kwargs := [("scope", .scope scope),
    ("rules", .list (accounts.map fun a => .dict [("account", .account a)]))]
  scope := scope
  scope_eq := rfl
  rules := accounts.map fun a => .dict [("account", .account a)]
  rules_eq := rfl
  accounts := by
    intro rule hrule
    obtain ⟨a, -, rfl⟩ := List.mem_map.mp hrule
    exact ⟨_, rfl⟩

/-- Two DIDs with rules, in scopes of Bob and of Alice. -/
def ruledItems : List RuledItem :=
  [ruledItem bobsScope [bob, ⟨"alice", "def"⟩], ruledItem ⟨"alice", "def"⟩ [⟨"alice", "def"⟩]]

/-- As an admin Bob is granted both DIDs at once, and each of them. As an ordinary account he
    attaches to two DIDs of his own at once, and to each of them. -/
theorem bulk_requests_bob :
    (addDids bobsOffice bob ruledItems = .ok true ∧
      ∀ item ∈ ruledItems, addDid bobsOffice bob item = .ok true) ∧
    ∀ item ∈ [bobsItem.toScopedItem, (ruledItem bobsScope [bob]).toScopedItem],
      attachDids bobsDb bob item = .ok true := by
  have hgranted : addDids bobsOffice bob ruledItems = .ok true := by decide
  exact ⟨⟨hgranted, ((bulk_requests bobsOffice bob).1 ruledItems).2.1 hgranted⟩,
    ((bulk_requests bobsDb bob).2 _).2.1 (by decide)⟩

/-- Bob adds a DID to his own scope, but not a list of one DID; he attaches to a DID in
    `mock`, but not to a list of one. -/
theorem bulk_differs :
    (¬ ∀ (db : Db) (issuer : InternalAccount) (items : List RuledItem), items ≠ [] →
      addDids db issuer items = items.allM (addDid db issuer)) ∧
    (¬ ∀ (db : Db) (issuer : InternalAccount) (items : List ScopedItem), items ≠ [] →
      attachDidsToDids db issuer items = items.allM (attachDids db issuer)) := by
  constructor
  · intro h
    have hbulk := h bobsDb bob [bobsItem] (by simp)
    have hone : addDid bobsDb bob bobsItem = .ok true := by rfl
    rw [addDids_eq, List.allM_cons, hone] at hbulk
    cases hbulk
  · intro h
    have hbulk := h bobsDb bob [mockItem] (by simp)
    have hone : attachDids bobsDb bob mockItem = .ok true := by rfl
    rw [attachDidsToDids_eq, List.allM_cons, hone] at hbulk
    cases hbulk

end DiracRucioPolicy
