import DiracRucioPolicy.Spec.Grants

/-!
# Rules created along with a DID

An `add_did` request may carry rules. Its handler looks at the accounts of the rules
only, while the handler of `add_rule` also refuses a locked rule. So an ordinary account
can create in one step with a DID what it may not create directly: a locked rule.

## Key results

- `addRule_iff`: when a nested rule could be created directly
- `noBypass_iff`: when `add_did` grants no rule that `add_rule` would refuse
-/

namespace DiracRucioPolicy

/-- The parameter `locked` of a rule: the value in the rule, or `None`. -/
def lockedOf (rule : PyVal) : PyVal :=
  match rule with
  | .dict entries => Dict.getD entries "locked" .none
  | _ => .none

/-- The rule could be created directly: `add_rule` is granted for its account and its
    `locked`. -/
def AddRuleGranted (db : Db) (issuer : InternalAccount) (rule : PyVal) : Prop :=
  ∀ account, rule.getItem "account" = .ok account →
    hasPermission db issuer "add_rule" [("account", account), ("locked", lockedOf rule)] = .ok true

/-- What `add_did` grants for the rules of a request, `add_rule` grants for each of them. -/
def NoBypass (db : Db) (issuer : InternalAccount) (kwargs : Dict) (rules : List PyVal) : Prop :=
  hasPermission db issuer "add_did" kwargs = .ok true →
    ∀ rule ∈ rules, AddRuleGranted db issuer rule

/-- The issuer may create DIDs in the scope of the request. -/
def MayUseScope (db : Db) (issuer : InternalAccount) (kwargs : Dict) : Prop :=
  ∃ v, kwargs.get? "scope" = some v ∧ MayUseValue db issuer v

/-- A nested rule could be created directly when the issuer is privileged, or when it is
    a rule of the issuer and not locked. -/
theorem addRule_iff {db : Db} {issuer : InternalAccount} {account locked : PyVal} :
    hasPermission db issuer "add_rule" [("account", account), ("locked", locked)] = .ok true ↔
      isPrivileged db issuer = true ∨ account.isAccount issuer = true ∧
        locked.truthy = false := by
  have haccount : Dict.get? [("account", account), ("locked", locked)] "account" = some account :=
    rfl
  have hlocked : Dict.get? [("account", account), ("locked", locked)] "locked" = some locked := rfl
  show permAddRule db issuer _ = .ok true ↔ _
  rw [permAddRule_granted_iff, haccount, hlocked]
  simp only [Option.some.injEq, exists_eq_left']
  cases account.isAccount issuer with
  | true => simp [or_comm]
  | false => simp

/-- An ordinary account could create a rule of its own directly exactly when the rule is
    not locked. -/
theorem addRuleGranted_iff {db : Db} {issuer : InternalAccount} (hun : Unprivileged db issuer)
    {rule : PyVal} (hown : OwnRule issuer rule) :
    AddRuleGranted db issuer rule ↔ (lockedOf rule).truthy = false := by
  obtain ⟨account, haccount, hself⟩ := hown
  simp [AddRuleGranted, haccount, addRule_iff, isPrivileged_eq_false_iff.mpr hun, hself]

/-- `add_did` grants no rule that `add_rule` would refuse exactly when the issuer is root
    or an admin, or one of the rules is not a rule of the issuer, or it may not use the
    scope, or none of the rules is locked. -/
theorem noBypass_iff {db : Db} {issuer : InternalAccount} {kwargs : Dict} {rules : List PyVal}
    (hrules : kwargs.get? "rules" = some (.list rules)) :
    NoBypass db issuer kwargs rules ↔
      ¬ Unprivileged db issuer ∨ (∃ rule ∈ rules, ¬ OwnRule issuer rule) ∨
        ¬ MayUseScope db issuer kwargs ∨ ∀ rule ∈ rules, (lockedOf rule).truthy = false := by
  by_cases hun : Unprivileged db issuer
  · -- an ordinary account is granted `add_did` for rules of its own in a scope it may use
    have hgrant : hasPermission db issuer "add_did" kwargs = .ok true ↔
        (∀ rule ∈ rules, OwnRule issuer rule) ∧ MayUseScope db issuer kwargs := by
      have hiter : (kwargs.getD "rules" (.list [])).iter = .ok rules := by
        rw [Dict.getD, hrules]
        rfl
      show permAddDid db issuer kwargs = .ok true ↔ _
      rw [permAddDid_granted_iff, isPrivileged_eq_false_iff.mpr hun, hiter]
      simp [MayUseScope]
    simp only [NoBypass, hgrant, hun, not_true_eq_false, false_or]
    by_cases hown : ∀ rule ∈ rules, OwnRule issuer rule
    · have hlocked : (∀ rule ∈ rules, AddRuleGranted db issuer rule) ↔
          ∀ rule ∈ rules, (lockedOf rule).truthy = false :=
        forall₂_congr fun rule hmem => addRuleGranted_iff hun (hown rule hmem)
      have hnone : ¬ ∃ rule ∈ rules, ¬ OwnRule issuer rule := fun ⟨rule, hmem, hnot⟩ =>
        hnot (hown rule hmem)
      rw [hlocked]
      simp only [hnone, false_or, and_iff_right hown]
      exact imp_iff_not_or
    · have hsome : ∃ rule ∈ rules, ¬ OwnRule issuer rule := by
        simpa using hown
      simp [hown, hsome]
  · -- a privileged account is granted every `add_rule`
    have hpriv : isPrivileged db issuer = true := by
      rwa [← isPrivileged_eq_false_iff, Bool.not_eq_false] at hun
    simp only [hun, not_false_eq_true, true_or, iff_true]
    intro _ rule _ account _
    exact addRule_iff.mpr (Or.inl hpriv)

/-- A rule of Bob. -/
def bobsRule (locked : Bool) : PyVal :=
  .dict [("dids", .list []), ("account", .account bob), ("copies", .int 1),
    ("rse_expression", .str "STORAGE-1"), ("locked", .bool locked)]

/-- The request to create a DID with a rule in the scope `bob`. -/
def addDidWith (rule : PyVal) : Dict := [("scope", .scope bobsScope), ("rules", .list [rule])]

/-- An unlocked rule of Bob bypasses nothing. -/
theorem noBypass_bob :
    NoBypass bobsDb bob (addDidWith (bobsRule false)) [bobsRule false] ↔
      ¬ Unprivileged bobsDb bob ∨ (∃ rule ∈ [bobsRule false], ¬ OwnRule bob rule) ∨
        ¬ MayUseScope bobsDb bob (addDidWith (bobsRule false)) ∨
          ∀ rule ∈ [bobsRule false], (lockedOf rule).truthy = false :=
  noBypass_iff rfl

/-- Bob is granted a DID with a locked rule, and refused that rule on its own. -/
theorem bypass_locked :
    ¬ ∀ (db : Db) (issuer : InternalAccount) (kwargs : Dict) (rules : List PyVal),
      kwargs.get? "rules" = some (.list rules) → NoBypass db issuer kwargs rules := by
  intro h
  have hgranted : hasPermission bobsDb bob "add_did" (addDidWith (bobsRule true)) = .ok true := by
    rfl
  have hrule := h bobsDb bob (addDidWith (bobsRule true)) _ rfl hgranted (bobsRule true)
    List.mem_cons_self (.account bob) rfl
  have hrefused : hasPermission bobsDb bob "add_rule"
      [("account", .account bob), ("locked", .bool true)] = .ok false := by rfl
  exact absurd (hrefused.symm.trans hrule) (by decide)

end DiracRucioPolicy
