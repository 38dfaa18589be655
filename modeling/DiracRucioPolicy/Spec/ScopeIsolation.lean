import DiracRucioPolicy.Spec.Grants

/-!
# Scope isolation

Nine actions work on DIDs. Each names the scopes it works on in `kwargs`: one in
`kwargs["scope"]`, or one in every element of a list. An ordinary account is granted the
action only if it owns all these scopes; some of the actions are open to everybody in the
scope `mock`.

## Key results

- `guards_of_mem_didActions`: the handler of each action guards the scopes the action names
- `scope_isolation`: no grant on a scope of somebody else
-/

namespace DiracRucioPolicy

/-- An action on DIDs. Its scopes are in `kwargs["scope"]`, or in the elements of
    `kwargs[listKey]`. -/
structure DidAction where
  name : String
  listKey : Option String
  mockOpen : Bool

/-- The actions on DIDs. -/
def didActions : List DidAction :=
  [⟨"add_did", none, true⟩,
   ⟨"add_dids", some "dids", false⟩,
   ⟨"attach_dids", none, true⟩,
   ⟨"detach_dids", none, true⟩,
   ⟨"attach_dids_to_dids", some "attachments", false⟩,
   ⟨"create_did_sample", none, true⟩,
   ⟨"set_metadata", none, false⟩,
   ⟨"set_metadata_bulk", none, false⟩,
   ⟨"set_status", none, false⟩]

namespace DidAction

/-- The request names the scope as one that it works on. -/
def Targets (act : DidAction) (kwargs : Dict) (s : InternalScope) : Prop :=
  match act.listKey with
  | none => kwargs.get? "scope" = some (.scope s)
  | some key => ∃ dids, kwargs.get? key = some (.list dids) ∧
      ∃ did ∈ dids, did.getItem "scope" = .ok (.scope s)

/-- An ordinary account may work on the scope. -/
def Allows (act : DidAction) (db : Db) (issuer : InternalAccount) (s : InternalScope) : Prop :=
  Owns db issuer s ∨ act.mockOpen = true ∧ s.external = "mock"

/-- The handler grants an ordinary account only requests whose scopes it may work on. -/
def Guards (act : DidAction) (handler : Handler) : Prop :=
  ∀ db issuer kwargs, Unprivileged db issuer → handler db issuer kwargs = .ok true →
    ∀ s, act.Targets kwargs s → act.Allows db issuer s

end DidAction

/-- What an account that is not privileged is granted, it is granted for another reason. -/
theorem of_granted_of_unprivileged {db : Db} {issuer : InternalAccount} {P : Prop}
    (hun : Unprivileged db issuer) (h : isPrivileged db issuer = true ∨ P) : P := by
  rw [isPrivileged_eq_false_iff.mpr hun] at h
  exact h.resolve_left Bool.false_ne_true

section OneScope

variable {act : DidAction} (hkey : act.listKey = none)
include hkey

/-- The value that a grant speaks about is the one scope of the request. -/
theorem eq_scope_of_targets {kwargs : Dict} {s : InternalScope} {v : PyVal}
    (htarget : act.Targets kwargs s) (hv : kwargs.get? "scope" = some v) : v = .scope s := by
  simp only [DidAction.Targets, hkey] at htarget
  rw [htarget] at hv
  exact (Option.some.inj hv).symm

/-- The ownership rule guards the scope. -/
theorem guards_scopeOwner : act.Guards scopeOwner := by
  intro db issuer kwargs hun h s htarget
  obtain ⟨v, hv, hown⟩ := of_granted_of_unprivileged hun (scopeOwner_granted_iff.mp h)
  rw [eq_scope_of_targets hkey htarget hv, ownsValue_scope] at hown
  exact Or.inl hown

/-- So does `set_status`. -/
theorem guards_permSetStatus : act.Guards permSetStatus := by
  intro db issuer kwargs hun h s htarget
  obtain ⟨_, v, hv, hown⟩ := of_granted_of_unprivileged hun (permSetStatus_granted_iff.mp h)
  rw [eq_scope_of_targets hkey htarget hv, ownsValue_scope] at hown
  exact Or.inl hown

variable (hmock : act.mockOpen = true)
include hmock

/-- With the exemption the scope is guarded unless it is called `mock`. -/
theorem guards_scopeOwnerOrMock : act.Guards scopeOwnerOrMock := by
  intro db issuer kwargs hun h s htarget
  obtain ⟨v, hv, huse⟩ := of_granted_of_unprivileged hun (scopeOwnerOrMock_granted_iff.mp h)
  rw [eq_scope_of_targets hkey htarget hv, mayUseValue_scope] at huse
  exact huse.imp_right fun h => ⟨hmock, h⟩

/-- `add_did` makes the same exemption. -/
theorem guards_permAddDid : act.Guards permAddDid := by
  intro db issuer kwargs hun h s htarget
  obtain ⟨_, v, hv, huse⟩ := of_granted_of_unprivileged hun (permAddDid_granted_iff.mp h)
  rw [eq_scope_of_targets hkey htarget hv, mayUseValue_scope] at huse
  exact huse.imp_right fun h => ⟨hmock, h⟩

end OneScope

/-- `add_dids` grants an ordinary account nothing. -/
theorem guards_permAddDids (act : DidAction) : act.Guards permAddDids := by
  intro db issuer kwargs hun h s _
  exact of_granted_of_unprivileged hun (Or.inl (permAddDids_granted_iff.mp h))

/-- `attach_dids_to_dids` guards the scopes of all attachments. -/
theorem guards_permAttachDidsToDids {act : DidAction} (hkey : act.listKey = some "attachments") :
    act.Guards permAttachDidsToDids := by
  intro db issuer kwargs hun h s htarget
  obtain ⟨v, attachments, hv, hiter, hall⟩ :=
    of_granted_of_unprivileged hun (permAttachDidsToDids_granted_iff.mp h)
  simp only [DidAction.Targets, hkey] at htarget
  obtain ⟨dids, hdids, did, hmem, hscope⟩ := htarget
  -- the attachments are the list that the handler loops over
  rw [hv] at hdids
  cases hdids
  cases hiter
  obtain ⟨v, hv, hown⟩ := hall did hmem
  rw [hscope] at hv
  cases hv
  exact Or.inl (ownsValue_scope.mp hown)

/-- The handler of each action on DIDs guards the scopes that the action names. -/
theorem guards_of_mem_didActions : ∀ act ∈ didActions, act.Guards (handlerOf act.name) := by
  simp only [didActions, List.forall_mem_cons]
  exact ⟨guards_permAddDid rfl rfl, guards_permAddDids _, guards_scopeOwnerOrMock rfl rfl,
    guards_scopeOwnerOrMock rfl rfl, guards_permAttachDidsToDids rfl,
    guards_scopeOwnerOrMock rfl rfl, guards_scopeOwner rfl, guards_scopeOwner rfl,
    guards_permSetStatus rfl, List.forall_mem_nil _⟩

/-- The request carries a rule for an account other than the issuer. -/
def CarriesForeignRule (issuer : InternalAccount) (kwargs : Dict) : Prop :=
  ∃ rules, kwargs.get? "rules" = some (.list rules) ∧
    ∃ rule ∈ rules, ∃ v, rule.getItem "account" = .ok v ∧ v.isAccount issuer = false

/-- An account that is neither root nor an admin is not granted an action on DIDs if it
    does not own one of the scopes that the request names, unless the action is open to
    everybody in the scope `mock` and the scope is called that. It never reopens a DID,
    and never creates a rule for another account along with a DID. -/
theorem scope_isolation {db : Db} {issuer : InternalAccount} (hun : Unprivileged db issuer) :
    (∀ act ∈ didActions, ∀ kwargs s, act.Targets kwargs s → ¬ Owns db issuer s →
      (s.external ≠ "mock" ∨ act.mockOpen = false) →
        hasPermission db issuer act.name kwargs ≠ .ok true) ∧
    (∀ kwargs : Dict, (kwargs.getD "open" (.bool false)).truthy = true →
      hasPermission db issuer "set_status" kwargs ≠ .ok true) ∧
    (∀ kwargs, CarriesForeignRule issuer kwargs →
      hasPermission db issuer "add_did" kwargs ≠ .ok true) := by
  refine ⟨?_, ?_, ?_⟩
  · intro act hact kwargs s htarget hown hmock h
    cases guards_of_mem_didActions act hact db issuer kwargs hun h s htarget with
    | inl howner => exact hown howner
    | inr hopen =>
      obtain ⟨hmockOpen, hname⟩ := hopen
      cases hmock with
      | inl hne => exact hne hname
      | inr hclosed => rw [hclosed] at hmockOpen; exact Bool.false_ne_true hmockOpen
  · intro kwargs hopen h
    have hgrant := of_granted_of_unprivileged hun (permSetStatus_granted_iff.mp h)
    rw [hopen] at hgrant
    exact Bool.false_ne_true hgrant.1.symm
  · intro kwargs hforeign h
    obtain ⟨rules, hrules, rule, hmem, v, hv, hne⟩ := hforeign
    obtain ⟨⟨rules', hiter, hown⟩, -⟩ :=
      of_granted_of_unprivileged hun (permAddDid_granted_iff.mp h)
    -- the rules of the request are those that the handler loops over
    rw [Dict.getD, hrules] at hiter
    cases hiter
    obtain ⟨v', hv', hacc⟩ := hown rule hmem
    rw [hv] at hv'
    cases hv'
    rw [hne] at hacc
    cases hacc

/-- Bob may not attach to his own DID and to one of Alice in one request, not reopen a DID
    of his, and not create one with a rule for Alice. -/
theorem scope_isolation_bob :
    hasPermission bobsDb bob "attach_dids_to_dids"
        [("attachments", .list [.dict [("scope", .scope bobsScope)],
          .dict [("scope", .scope ⟨"alice", "def"⟩)]])] ≠ .ok true ∧
    hasPermission bobsDb bob "set_status" [("scope", .scope bobsScope), ("open", .bool true)] ≠
        .ok true ∧
    hasPermission bobsDb bob "add_did" [("scope", .scope bobsScope),
        ("rules", .list [.dict [("account", .account ⟨"alice", "def"⟩)]])] ≠ .ok true := by
  have hun : Unprivileged bobsDb bob := ⟨by decide, fun _ h => nomatch h⟩
  obtain ⟨hscope, hopen, hrule⟩ := scope_isolation hun
  refine ⟨?_, ?_, ?_⟩
  · exact hscope ⟨"attach_dids_to_dids", some "attachments", false⟩ (by simp [didActions]) _
      ⟨"alice", "def"⟩ ⟨_, rfl, _, List.mem_cons_of_mem _ List.mem_cons_self, rfl⟩
      (by unfold Owns; decide) (Or.inr rfl)
  · exact hopen _ rfl
  · exact hrule _ ⟨_, rfl, _, List.mem_cons_self, _, rfl, by decide⟩

end DiracRucioPolicy
