import DiracRucioPolicy.Native.Rucio

/-!
# The permission handlers

`permission.py`: one handler for each action, and the dispatch of `has_permission`.
Handlers that are copies of each other are instances of one definition.
-/

namespace DiracRucioPolicy

/-- A handler `perm_*(issuer, kwargs, session)`. -/
abbrev Handler := Db → InternalAccount → Dict → Except PyErr Bool

/-- `_is_root` -/
def isRoot (issuer : InternalAccount) : Bool := issuer.external = "root"

/-- The test that most handlers start with: root, or an account with the attribute
    `admin`. -/
def isPrivileged (db : Db) (issuer : InternalAccount) : Bool :=
  isRoot issuer || db.hasAccountAttribute issuer "admin"

/-! ## Shapes that several handlers share -/

/-- Root or an admin. -/
def rootOrAdmin : Handler := fun db issuer _ => .ok (isPrivileged db issuer)

/-- Root only. -/
def rootOnly : Handler := fun _ issuer _ => .ok (isRoot issuer)

/-- Everybody. -/
def everybody : Handler := fun _ _ _ => .ok true

/-- Root, an admin, or the owner of the scope `kwargs["scope"]`. -/
def scopeOwner : Handler := fun db issuer kwargs =>
  pyOr (isPrivileged db issuer) do
    db.isScopeOwner (← kwargs.getItem "scope") issuer

/-- Root, an admin, or the owner of the scope `kwargs["scope"]`; everybody for `mock`. -/
def scopeOwnerOrMock : Handler := fun db issuer kwargs =>
  pyOr (isPrivileged db issuer) do
    let scope ← kwargs.getItem "scope"
    if ← db.isScopeOwner scope issuer then return true
    return (← scope.external) = "mock"

/-- The identity `kwargs[key]` is linked to the account `kwargs["account"]`. -/
def identityOfAccount (key : String) (type : IdentityType) : Handler := fun db _ kwargs => do
  let identity ← kwargs.getItem key
  let account ← kwargs.getItem "account"
  db.existIdentityAccount identity type account

/-- `rule["account"] != issuer` -/
def ruleOfOther (issuer : InternalAccount) (rule : PyVal) : Except PyErr Bool := do
  return !(← rule.getItem "account").isAccount issuer

/-- `key.partition("-")[2]`: the text behind the first dash. -/
def behindDash (key : String) : String :=
  String.ofList ((key.toList.dropWhile (· ≠ '-')).drop 1)

/-- `kv["key"].startswith("country-") and kv["value"] == "admin"` -/
def isCountryAdmin (kv : String × PyAtom) : Bool :=
  "country-".toList.isPrefixOf kv.1.toList && kv.2 = .str "admin"

/-- The countries of which the issuer is an admin. -/
def adminInCountry (db : Db) (issuer : InternalAccount) : Except PyErr (List String) := do
  let attributes ← db.listAccountAttributes issuer
  return (attributes.filter isCountryAdmin).map fun kv => behindDash kv.1

/-- Root, an admin, or an admin of the country of the RSE `kwargs["rse_id"]`. -/
def localAccountLimit : Handler := fun db issuer kwargs =>
  pyOr (isPrivileged db issuer) do
    let countries ← adminInCountry db issuer
    -- without a country the RSE is not looked up
    if countries.isEmpty then return false
    let country := db.rseCountry (← kwargs.getItem "rse_id")
    return countries.any fun c => country = .str c

/-- The countries of the RSEs that `kwargs["rse_expression"]` resolves to. -/
def resolvedRseCountries (db : Db) (issuer : InternalAccount) (kwargs : Dict) :
    Except PyErr (List PyAtom) := do
  let rses ← db.parseExpression (← kwargs.getItem "rse_expression") issuer.vo
  let countries ← rses.mapM fun rse => do return db.rseCountry (← rse.getItem "rse_id")
  return countries.dedup

/-- `set.issubset(admin_in_country)` -/
def subsetOfCountries (resolved : List PyAtom) (countries : List String) : Bool :=
  resolved.all fun country => countries.any fun c => country = .str c

/-- Root, an admin, the account that is asked about, or an admin of any country. -/
def accountUsage : Handler := fun db issuer kwargs =>
  pyOr (isPrivileged db issuer || (kwargs.getD "account" .none).isAccount issuer) do
    return (← db.listAccountAttributes issuer).any isCountryAdmin

/-! ## The handlers -/

/-- The check of every action without a handler of its own. -/
def permDefault : Handler := rootOrAdmin

/-- Checks if an account can add an RSE. -/
def permAddRse : Handler := rootOrAdmin

/-- Checks if an account can update an RSE. -/
def permUpdateRse : Handler := rootOrAdmin

/-- Checks if an account can add a replication rule: an unlocked one for itself, if it is not
    privileged. -/
def permAddRule : Handler := fun db issuer kwargs => do
  -- the second operand of the `and` is evaluated only when the first is true
  if (← kwargs.getItem "account").isAccount issuer then
    if !(← kwargs.getItem "locked").truthy then return true
  return isPrivileged db issuer

/-- Checks if an account can add a subscription. -/
def permAddSubscription : Handler := rootOrAdmin

/-- Checks if an account can add an attribute to an RSE. -/
def permAddRseAttribute : Handler := rootOrAdmin

/-- Checks if an account can delete an attribute of an RSE. -/
def permDelRseAttribute : Handler := rootOrAdmin

/-- Checks if an account can delete an RSE. -/
def permDelRse : Handler := rootOrAdmin

/-- Checks if an account can add an account. -/
def permAddAccount : Handler := rootOnly

/-- Checks if an account can delete an account. -/
def permDelAccount : Handler := rootOnly

/-- Checks if an account can update an account. -/
def permUpdateAccount : Handler := rootOrAdmin

/-- Checks if an account can add a scope to an account. -/
def permAddScope : Handler := rootOrAdmin

/-- Checks if a user can request a token with a user name for an account. -/
def permGetAuthTokenUserPass : Handler := identityOfAccount "username" .userpass

/-- Checks if a user can request a token with a GSS credential for an account. -/
def permGetAuthTokenGss : Handler := identityOfAccount "gsscred" .gss

/-- Checks if a user can request a token with a certificate for an account. -/
def permGetAuthTokenX509 : Handler := identityOfAccount "dn" .x509

/-- Checks if a user can request a token with a SAML name for an account. -/
def permGetAuthTokenSaml : Handler := identityOfAccount "saml_nameid" .saml

/-- Checks if an account can add an identity to an account. -/
def permAddAccountIdentity : Handler := rootOrAdmin

/-- Checks if an account can delete an identity of an account. -/
def permDelAccountIdentity : Handler := rootOrAdmin

/-- Checks if an account can delete an identity, which is one of its own, if it is not root. -/
def permDelIdentity : Handler := fun _ issuer kwargs =>
  pyOr (isRoot issuer) ((kwargs.getD "accounts" .none).contains issuer.external)

/-- Checks if an account can add a data identifier, with rules, to a scope. -/
def permAddDid : Handler := fun db issuer kwargs => do
  -- check the accounts of the issued rules
  if !isPrivileged db issuer then
    let rules ← (kwargs.getD "rules" (.list [])).iter
    if ← rules.anyM (ruleOfOther issuer) then return false
  scopeOwnerOrMock db issuer kwargs

/-- Checks if an account can add data identifiers in bulk. -/
def permAddDids : Handler := fun db issuer kwargs => do
  -- check the accounts of the issued rules; nothing else is asked of the DIDs
  if !isPrivileged db issuer then
    let dids ← (← kwargs.getItem "dids").iter
    let bad ← dids.anyM fun did => do
      let rules ← (← did.get "rules" (.list [])).iter
      rules.anyM (ruleOfOther issuer)
    if bad then return false
  return isPrivileged db issuer

/-- Checks if an account can append data identifiers to one in the scope. -/
def permAttachDids : Handler := scopeOwnerOrMock

/-- Checks if an account can append data identifiers to several others, whose scopes are to be
    its own. -/
def permAttachDidsToDids : Handler := fun db issuer kwargs =>
  pyOr (isPrivileged db issuer) do
    let attachments ← (← kwargs.getItem "attachments").iter
    let scopes ← attachments.mapM (·.getItem "scope")
    let scopes ← pySet db.setOrder scopes
    -- the first scope of somebody else ends the loop
    if ← scopes.anyM fun scope => do return !(← db.isScopeOwner (.atom scope) issuer) then
      return false
    return true

/-- Checks if an account can create a sample of a collection. -/
def permCreateDidSample : Handler := scopeOwnerOrMock

/-- Checks if an account can delete a replication rule. -/
def permDelRule : Handler := rootOrAdmin

/-- Checks if an account can update a replication rule. -/
def permUpdateRule : Handler := rootOrAdmin

/-- Checks if an account can approve a replication rule. -/
def permApproveRule : Handler := rootOrAdmin

/-- Checks if an account can reduce a replication rule. -/
def permReduceRule : Handler := rootOrAdmin

/-- Checks if an account can move a replication rule. -/
def permMoveRule : Handler := rootOrAdmin

/-- Checks if an account can update a subscription. -/
def permUpdateSubscription : Handler := rootOrAdmin

/-- Checks if an account can detach data identifiers from another one. -/
def permDetachDids : Handler := permAttachDids

/-- Checks if an account can set several metadata of a data identifier. -/
def permSetMetadataBulk : Handler := scopeOwner

/-- Checks if an account can set a metadatum of a data identifier. -/
def permSetMetadata : Handler := scopeOwner

/-- Checks if an account can close a data identifier, or open it again. -/
def permSetStatus : Handler := fun db issuer kwargs =>
  -- only the privileged open a DID again
  if (kwargs.getD "open" (.bool false)).truthy && !isPrivileged db issuer then .ok false
  else scopeOwner db issuer kwargs

/-- Checks if an account can add a protocol to an RSE. -/
def permAddProtocol : Handler := rootOrAdmin

/-- Checks if an account can delete protocols from an RSE. -/
def permDelProtocol : Handler := rootOrAdmin

/-- Checks if an account can update protocols of an RSE. -/
def permUpdateProtocol : Handler := rootOrAdmin

/-- Checks if an account can add QoS policies to an RSE. -/
def permAddQosPolicy : Handler := rootOrAdmin

/-- Checks if an account can delete QoS policies from an RSE. -/
def permDeleteQosPolicy : Handler := rootOrAdmin

/-- Checks if an account can declare bad file replicas. -/
def permDeclareBadFileReplicas : Handler := rootOnly

/-- Checks if an account can declare suspicious file replicas. -/
def permDeclareSuspiciousFileReplicas : Handler := everybody

/-- Checks if an account can add replicas, which everybody can on RSEs with certain names. -/
def permAddReplicas : Handler := fun db issuer kwargs =>
  let rse := kwargs.getD "rse" (.str "")
  .ok (rse.strEndswith "SCRATCHDISK" || rse.strEndswith "USERDISK" || rse.strEndswith "MOCK" ||
    rse.strEndswith "LOCALGROUPDISK" || isPrivileged db issuer)

/-- Checks if an account can skip the check for availability when it adds or deletes file
    replicas. -/
def permSkipAvailabilityCheck : Handler := rootOrAdmin

/-- Checks if an account can delete replicas. None can. -/
def permDeleteReplicas : Handler := fun _ _ _ => .ok false

/-- Checks if an account can update the states of replicas. -/
def permUpdateReplicasStates : Handler := rootOrAdmin

/-- Checks if an account can submit requests for transfers or deletions on RSEs. -/
def permQueueRequests : Handler := rootOnly

/-- Checks if an account can list requests. -/
def permListRequests : Handler := rootOrAdmin

/-- Checks if an account can list historical requests. -/
def permListRequestsHistory : Handler := rootOrAdmin

/-- Checks if an account can get a request by its DID. -/
def permGetRequestByDid : Handler := everybody

/-- Checks if an account can get a historical request by its DID. -/
def permGetRequestHistoryByDid : Handler := rootOrAdmin

/-- Checks if an account can cancel a request. -/
def permCancelRequest : Handler := rootOnly

/-- Checks if an account can retrieve the next request of a type and a state. -/
def permGetNext : Handler := rootOnly

/-- Checks if an account can set the usage of an RSE. -/
def permSetRseUsage : Handler := rootOnly

/-- Checks if an account can set the limits of an RSE. -/
def permSetRseLimits : Handler := rootOrAdmin

/-- Checks if an account can set the limit of an account on an RSE. -/
def permSetLocalAccountLimit : Handler := localAccountLimit

/-- Checks if an account can set the limit of an account on the RSEs of an expression. -/
def permSetGlobalAccountLimit : Handler := fun db issuer kwargs =>
  pyOr (isPrivileged db issuer) do
    let countries ← adminInCountry db issuer
    -- unlike its siblings this handler does not ask whether there is a country at all
    return subsetOfCountries (← resolvedRseCountries db issuer kwargs) countries

/-- Checks if an account can delete the limit of an account on an RSE. -/
def permDeleteLocalAccountLimit : Handler := localAccountLimit

/-- Checks if an account can delete the limit of an account on the RSEs of an expression. -/
def permDeleteGlobalAccountLimit : Handler := fun db issuer kwargs =>
  pyOr (isPrivileged db issuer) do
    let countries ← adminInCountry db issuer
    if countries.isEmpty then return false
    return subsetOfCountries (← resolvedRseCountries db issuer kwargs) countries

/-- Checks if an account can read or write the configuration. -/
def permConfig : Handler := rootOrAdmin

/-- Checks if an account can get the usage of an account on an RSE. -/
def permGetLocalAccountUsage : Handler := accountUsage

/-- Checks if an account can get the usage of an account on the RSEs of an expression. -/
def permGetGlobalAccountUsage : Handler := accountUsage

/-- Checks if an account can add attributes to accounts. -/
def permAddAccountAttribute : Handler := rootOrAdmin

/-- Checks if an account can delete attributes of accounts. -/
def permDelAccountAttribute : Handler := permAddAccountAttribute

/-- Checks if an account can list heartbeats. -/
def permListHeartbeats : Handler := rootOnly

/-- Checks if an account can resurrect DIDs. -/
def permResurrect : Handler := rootOrAdmin

/-- Checks if an account can approve or reject exceptions of the lifetime model. -/
def permUpdateLifetimeExceptions : Handler := fun db issuer kwargs => do
  match ← kwargs.getItem "vo" with
  | .none => return isPrivileged db issuer
  | vo =>
    -- with a VO given, the exception must belong to it, for root as well
    let exceptions ← db.nextException (← kwargs.getItem "exception_id")
    if !vo.isStr exceptions.scope.vo then return false
    return isPrivileged db issuer

/-- Checks if an account can request a token with an SSH key. -/
def permGetAuthTokenSsh : Handler := everybody

/-- Checks if an account can request a signed URL. -/
def permGetSignedUrl : Handler := rootOnly

/-- Checks if an account can declare bad PFNs. -/
def permAddBadPfns : Handler := rootOnly

/-- Checks if an account can remove a DID from those that are followed. -/
def permRemoveDidFromFollowed : Handler := fun db issuer kwargs =>
  pyOr (isPrivileged db issuer) do
    if (← kwargs.getItem "account").isAccount issuer then return true
    return (← (← kwargs.getItem "scope").external) = "mock"

/-- Checks if an account can remove DIDs in bulk from those that are followed. -/
def permRemoveDidsFromFollowed : Handler := fun db issuer kwargs =>
  pyOr (isPrivileged db issuer) do
    return (← kwargs.getItem "account").isAccount issuer

/-- Checks if an account can export what is known of the RSEs. -/
def permExport : Handler := rootOnly

/-! ## Dispatch -/

/-- The dictionary `perm` of `has_permission`. -/
def permTable : List (String × Handler) :=
  [("add_account", permAddAccount),
   ("del_account", permDelAccount),
   ("update_account", permUpdateAccount),
   ("add_rule", permAddRule),
   ("add_subscription", permAddSubscription),
   ("add_scope", permAddScope),
   ("add_rse", permAddRse),
   ("update_rse", permUpdateRse),
   ("add_protocol", permAddProtocol),
   ("del_protocol", permDelProtocol),
   ("update_protocol", permUpdateProtocol),
   ("add_qos_policy", permAddQosPolicy),
   ("delete_qos_policy", permDeleteQosPolicy),
   ("declare_bad_file_replicas", permDeclareBadFileReplicas),
   ("declare_suspicious_file_replicas", permDeclareSuspiciousFileReplicas),
   ("add_replicas", permAddReplicas),
   ("delete_replicas", permDeleteReplicas),
   ("skip_availability_check", permSkipAvailabilityCheck),
   ("update_replicas_states", permUpdateReplicasStates),
   ("add_rse_attribute", permAddRseAttribute),
   ("del_rse_attribute", permDelRseAttribute),
   ("del_rse", permDelRse),
   ("del_rule", permDelRule),
   ("update_rule", permUpdateRule),
   ("approve_rule", permApproveRule),
   ("update_subscription", permUpdateSubscription),
   ("reduce_rule", permReduceRule),
   ("move_rule", permMoveRule),
   ("get_auth_token_user_pass", permGetAuthTokenUserPass),
   ("get_auth_token_gss", permGetAuthTokenGss),
   ("get_auth_token_x509", permGetAuthTokenX509),
   ("get_auth_token_saml", permGetAuthTokenSaml),
   ("add_account_identity", permAddAccountIdentity),
   ("add_did", permAddDid),
   ("add_dids", permAddDids),
   ("attach_dids", permAttachDids),
   ("detach_dids", permDetachDids),
   ("attach_dids_to_dids", permAttachDidsToDids),
   ("create_did_sample", permCreateDidSample),
   ("set_metadata", permSetMetadata),
   ("set_metadata_bulk", permSetMetadataBulk),
   ("set_status", permSetStatus),
   ("queue_requests", permQueueRequests),
   ("set_rse_usage", permSetRseUsage),
   ("set_rse_limits", permSetRseLimits),
   ("list_requests", permListRequests),
   ("list_requests_history", permListRequestsHistory),
   ("get_request_by_did", permGetRequestByDid),
   ("get_request_history_by_did", permGetRequestHistoryByDid),
   ("cancel_request", permCancelRequest),
   ("get_next", permGetNext),
   ("set_local_account_limit", permSetLocalAccountLimit),
   ("set_global_account_limit", permSetGlobalAccountLimit),
   ("delete_local_account_limit", permDeleteLocalAccountLimit),
   ("delete_global_account_limit", permDeleteGlobalAccountLimit),
   ("config_sections", permConfig),
   ("config_add_section", permConfig),
   ("config_has_section", permConfig),
   ("config_options", permConfig),
   ("config_has_option", permConfig),
   ("config_get", permConfig),
   ("config_items", permConfig),
   ("config_set", permConfig),
   ("config_remove_section", permConfig),
   ("config_remove_option", permConfig),
   ("get_local_account_usage", permGetLocalAccountUsage),
   ("get_global_account_usage", permGetGlobalAccountUsage),
   ("add_attribute", permAddAccountAttribute),
   ("del_attribute", permDelAccountAttribute),
   ("list_heartbeats", permListHeartbeats),
   ("resurrect", permResurrect),
   ("update_lifetime_exceptions", permUpdateLifetimeExceptions),
   ("get_auth_token_ssh", permGetAuthTokenSsh),
   ("get_signed_url", permGetSignedUrl),
   ("add_bad_pfns", permAddBadPfns),
   ("del_account_identity", permDelAccountIdentity),
   ("del_identity", permDelIdentity),
   ("remove_did_from_followed", permRemoveDidFromFollowed),
   ("remove_dids_from_followed", permRemoveDidsFromFollowed),
   ("export", permExport)]

/-- `perm.get(action, perm_default)` -/
def handlerOf (action : String) : Handler := (permTable.lookup action).getD permDefault

/-- Checks if an account has the permission to execute an action with parameters. -/
def hasPermission (db : Db) (issuer : InternalAccount) (action : String) (kwargs : Dict) :
    Except PyErr Bool :=
  handlerOf action db issuer kwargs

end DiracRucioPolicy
