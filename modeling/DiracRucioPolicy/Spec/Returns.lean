import DiracRucioPolicy.Spec.Grants

/-!
# When the handlers return

A handler may raise while it reads its request: a key can be absent, or a value can be of
a type that the code does not expect. For the handlers that create and attach DIDs these
lemmas say which requests are read to the end.

## Key results

- `scopeOwnerOrMock_returns`, `permAddDid_returns`: the single requests
- `permAddDids_returns_iff`: the loop over the rules stops at the first rule that is not
  one of the issuer, so only that rule has to name an account
- `permAttachDidsToDids_returns_iff`: the scope of every attachment is read
-/

namespace DiracRucioPolicy

/-! ## Values -/

/-- `a or b` raises only where `b` is evaluated and raises. -/
theorem pyOr_returns_iff {a : Bool} {b : Except PyErr Bool} :
    (pyOr a b).Returns ↔ a = true ∨ b.Returns := by
  cases a with
  | true => simp [pyOr, Except.Returns]
  | false => simp [pyOr]

/-! ## Single requests -/

variable {db : Db} {issuer : InternalAccount} {kwargs : Dict}

/-- The query raises nothing on a scope. -/
theorem isScopeOwner_scope (s : InternalScope) :
    db.isScopeOwner (.scope s) issuer =
      .ok (db.scopeOwner s.internal = some issuer.internal) := rfl

/-- The ownership rule raises nothing on a scope. -/
theorem scopeOwnerOrMock_returns {s : InternalScope}
    (hscope : kwargs.get? "scope" = some (.scope s)) :
    (scopeOwnerOrMock db issuer kwargs).Returns := by
  have hitem : kwargs.getItem "scope" = .ok (.scope s) := Dict.getItem_eq_ok_iff.mpr hscope
  rw [scopeOwnerOrMock, hitem, Except.ok_bind, isScopeOwner_scope, Except.ok_bind,
    pyOr_returns_iff]
  apply Or.inr
  split
  · exact Except.returns_ok true
  · exact Except.returns_ok _

/-- A rule is compared with the issuer when it names an account. -/
theorem ruleOfOther_returns_iff {rule : PyVal} :
    (ruleOfOther issuer rule).Returns ↔ (rule.getItem "account").Returns :=
  Except.bind_returns_iff_of_forall fun _ => Except.returns_ok _

/-- `add_did` reads the scope, and the account of every rule. -/
theorem permAddDid_returns {s : InternalScope} {rules : List PyVal}
    (hscope : kwargs.get? "scope" = some (.scope s))
    (hrules : (kwargs.getD "rules" (.list [])).iter = .ok rules)
    (haccounts : ∀ rule ∈ rules, (rule.getItem "account").Returns) :
    (permAddDid db issuer kwargs).Returns := by
  unfold permAddDid
  cases isPrivileged db issuer with
  | true => exact scopeOwnerOrMock_returns hscope
  | false =>
    obtain ⟨bad, hbad⟩ : (rules.anyM (ruleOfOther issuer)).Returns :=
      List.anyM_returns fun rule hrule => ruleOfOther_returns_iff.mpr (haccounts rule hrule)
    simp only [Bool.not_false, if_true, hrules, Except.ok_bind, hbad]
    cases bad with
    | true => exact Except.returns_ok false
    | false => exact scopeOwnerOrMock_returns hscope

/-! ## Bulk requests -/

/-- Without a list of DIDs only the privileged get an answer. -/
theorem permAddDids_returns_of_error {v : PyVal} {e : PyErr} (hv : kwargs.get? "dids" = some v)
    (hiter : v.iter = .error e) :
    (permAddDids db issuer kwargs).Returns ↔ isPrivileged db issuer = true := by
  have hitem : kwargs.getItem "dids" = .ok v := Dict.getItem_eq_ok_iff.mpr hv
  unfold permAddDids
  cases isPrivileged db issuer with
  | true => simp [Except.Returns]
  | false =>
    simp only [Bool.not_false, if_true, hitem, Except.ok_bind, hiter, Bool.false_eq_true, iff_false]
    exact Except.not_returns_error e

/-- Without a list of attachments, too. -/
theorem permAttachDidsToDids_returns_of_error {v : PyVal} {e : PyErr}
    (hv : kwargs.get? "attachments" = some v) (hiter : v.iter = .error e) :
    (permAttachDidsToDids db issuer kwargs).Returns ↔ isPrivileged db issuer = true := by
  have hitem : kwargs.getItem "attachments" = .ok v := Dict.getItem_eq_ok_iff.mpr hv
  rw [permAttachDidsToDids, hitem, Except.ok_bind, hiter, pyOr_returns_iff]
  exact or_iff_left (Except.not_returns_error e)

/-- The rule names the issuer as its account. -/
def isOwnRule (issuer : InternalAccount) (rule : PyVal) : Bool :=
  match rule.getItem "account" with
  | .ok v => v.isAccount issuer
  | .error _ => false

/-- The test and the property agree. -/
theorem isOwnRule_iff {rule : PyVal} : isOwnRule issuer rule = true ↔ OwnRule issuer rule := by
  unfold isOwnRule OwnRule
  cases rule.getItem "account" with
  | error e => simp
  | ok v => simp

/-- The rules that come with a DID; none when they cannot be read. -/
def rulesOf (did : PyVal) : List PyVal :=
  match did.get "rules" (.list []) >>= PyVal.iter with
  | .ok rules => rules
  | .error _ => []

/-- Rules that can be read are the rules. -/
theorem rulesOf_eq {did : PyVal} (h : (did.get "rules" (.list []) >>= PyVal.iter).Returns) :
    (did.get "rules" (.list []) >>= PyVal.iter) = .ok (rulesOf did) := by
  obtain ⟨rules, hrules⟩ := h
  rw [rulesOf, hrules]

/-- `add_dids` goes through the rules of all DIDs up to the first one that is not a rule
    of the issuer, and this one has to name an account. -/
theorem permAddDids_returns_iff {v : PyVal} {dids : List PyVal}
    (hv : kwargs.get? "dids" = some v) (hdids : v.iter = .ok dids)
    (hrules : ∀ did ∈ dids, (did.get "rules" (.list []) >>= PyVal.iter).Returns) :
    (permAddDids db issuer kwargs).Returns ↔
      isPrivileged db issuer = true ∨
        ∀ rule, (dids.flatMap rulesOf).find? (fun rule => !isOwnRule issuer rule) = some rule →
          (rule.getItem "account").Returns := by
  have hitem : kwargs.getItem "dids" = .ok v := Dict.getItem_eq_ok_iff.mpr hv
  -- the two loops are one loop over all rules
  have hloop : (dids.anyM fun did => do
      let rules ← (← did.get "rules" (.list [])).iter
      rules.anyM (ruleOfOther issuer)) = (dids.flatMap rulesOf).anyM (ruleOfOther issuer) := by
    rw [List.anyM_flatMap]
    apply List.anyM_congr
    intro did hdid
    rw [← bind_assoc, rulesOf_eq (hrules did hdid), Except.ok_bind]
  have hown : ∀ rule ∈ dids.flatMap rulesOf,
      ruleOfOther issuer rule = .ok false ↔ (!isOwnRule issuer rule) = false := by
    intro rule _
    rw [ruleOfOther_eq_false_iff, Bool.not_eq_false', isOwnRule_iff]
  have haccount : ∀ rule : PyVal,
      (rule.getItem "account").Returns ↔ (ruleOfOther issuer rule).Returns :=
    fun _ => ruleOfOther_returns_iff.symm
  unfold permAddDids
  cases isPrivileged db issuer with
  | true => simp [Except.Returns]
  | false =>
    simp only [Bool.not_false, if_true, hitem, Except.ok_bind, hdids, hloop, Bool.false_eq_true,
      false_or, haccount, ← List.anyM_returns_iff hown]
    -- with or without a bad rule the answer is false
    apply Except.bind_returns_iff_of_forall
    intro bad
    cases bad with
    | true => exact Except.returns_ok false
    | false => exact Except.returns_ok false

/-- `attach_dids_to_dids` reads the scope of every attachment. -/
theorem permAttachDidsToDids_returns_iff {v : PyVal} {attachments : List PyVal}
    (hv : kwargs.get? "attachments" = some v) (hiter : v.iter = .ok attachments)
    (hscope : ∀ a ∈ attachments, ∀ w, a.getItem "scope" = .ok w → ∃ s, w = .scope s) :
    (permAttachDidsToDids db issuer kwargs).Returns ↔
      isPrivileged db issuer = true ∨ ∀ a ∈ attachments, (a.getItem "scope").Returns := by
  have hitem : kwargs.getItem "attachments" = .ok v := Dict.getItem_eq_ok_iff.mpr hv
  rw [permAttachDidsToDids, hitem, Except.ok_bind, hiter, Except.ok_bind, pyOr_returns_iff]
  apply or_congr_right
  simp only [Except.bind_returns_iff]
  constructor
  · -- all scopes were read before the loop started
    intro h
    obtain ⟨scopes, hscopes, -⟩ := h
    have hread := List.exists_mapM_eq_ok_iff.mp ⟨scopes, hscopes, fun _ _ => trivial⟩
    intro a ha
    obtain ⟨w, hw, -⟩ := hread a ha
    exact ⟨w, hw⟩
  · intro h
    have hread : ∀ a ∈ attachments, ∃ w, a.getItem "scope" = .ok w ∧
        ∃ atom, w = .atom atom ∧ ∃ s, atom = .scope s := by
      intro a ha
      obtain ⟨w, hw⟩ := h a ha
      obtain ⟨s, rfl⟩ := hscope a ha w hw
      exact ⟨_, hw, _, rfl, s, rfl⟩
    obtain ⟨scopes, hscopes, hall⟩ := List.exists_mapM_eq_ok_iff.mpr hread
    obtain ⟨atoms, hatoms, hall⟩ := exists_pySet_eq_ok_iff.mpr hall
    obtain ⟨bad, hbad⟩ : (atoms.anyM fun scope => do
        return !(← db.isScopeOwner (.atom scope) issuer)).Returns := by
      apply List.anyM_returns
      intro atom hatom
      obtain ⟨s, rfl⟩ := hall atom hatom
      exact Except.returns_ok _
    refine ⟨scopes, hscopes, atoms, hatoms, bad, hbad, ?_⟩
    cases bad with
    | true => exact Except.returns_ok false
    | false => exact Except.returns_ok true

end DiracRucioPolicy
