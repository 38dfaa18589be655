import DiracRucioPolicy.ForStd.List
import DiracRucioPolicy.Native.Permission

/-!
# The shapes of the handlers

The dispatch table has eighty entries, but many of its handlers do the same. The shape of
an action says which of the different checks its handler makes. What is to be shown of the
handler of every action is shown once for every shape.

## Key results

- `permTable_eq_shapes`: the dispatch table in terms of shapes
- `handlerOf_eq_shape`: the handler of every action is that of its shape
-/

namespace DiracRucioPolicy

/-- What a request for a token proves its identity with. -/
inductive Credential where
  | password
  | gss
  | x509
  | saml
deriving DecidableEq

namespace Credential

/-- The key of `kwargs` under which the identity stands. -/
def key : Credential → String
  | password => "username"
  | gss => "gsscred"
  | x509 => "dn"
  | saml => "saml_nameid"

/-- The type under which the identity is stored. -/
def type : Credential → IdentityType
  | password => .userpass
  | gss => .gss
  | x509 => .x509
  | saml => .saml

/-- The identity does not stand under the key of the account. -/
theorem key_ne_account (c : Credential) : c.key ≠ "account" := by
  cases c with
  | password => decide
  | gss => decide
  | x509 => decide
  | saml => decide

end Credential

/-- The different checks of the policy. -/
inductive Shape where
  | rootOrAdmin
  | rootOnly
  | everybody
  | nobody
  | scopeOwner
  | scopeOwnerOrMock
  | identityOfAccount (c : Credential)
  | addRule
  | delIdentity
  | addDid
  | addDids
  | attachDidsToDids
  | setStatus
  | addReplicas
  | localLimit
  | setGlobalLimit
  | deleteGlobalLimit
  | usage
  | updateExceptions
  | removeDid
  | removeDids
deriving DecidableEq

/-- The handler of that shape. -/
def Shape.handler : Shape → Handler
  | rootOrAdmin => DiracRucioPolicy.rootOrAdmin
  | rootOnly => DiracRucioPolicy.rootOnly
  | everybody => DiracRucioPolicy.everybody
  | nobody => permDeleteReplicas
  | scopeOwner => DiracRucioPolicy.scopeOwner
  | scopeOwnerOrMock => DiracRucioPolicy.scopeOwnerOrMock
  | identityOfAccount c => DiracRucioPolicy.identityOfAccount c.key c.type
  | addRule => permAddRule
  | delIdentity => permDelIdentity
  | addDid => permAddDid
  | addDids => permAddDids
  | attachDidsToDids => permAttachDidsToDids
  | setStatus => permSetStatus
  | addReplicas => permAddReplicas
  | localLimit => localAccountLimit
  | setGlobalLimit => permSetGlobalAccountLimit
  | deleteGlobalLimit => permDeleteGlobalAccountLimit
  | usage => accountUsage
  | updateExceptions => permUpdateLifetimeExceptions
  | removeDid => permRemoveDidFromFollowed
  | removeDids => permRemoveDidsFromFollowed

/-- The shapes of the actions in the dispatch table. -/
def shapes : List (String × Shape) :=
  [("add_account", .rootOnly),
   ("del_account", .rootOnly),
   ("update_account", .rootOrAdmin),
   ("add_rule", .addRule),
   ("add_subscription", .rootOrAdmin),
   ("add_scope", .rootOrAdmin),
   ("add_rse", .rootOrAdmin),
   ("update_rse", .rootOrAdmin),
   ("add_protocol", .rootOrAdmin),
   ("del_protocol", .rootOrAdmin),
   ("update_protocol", .rootOrAdmin),
   ("add_qos_policy", .rootOrAdmin),
   ("delete_qos_policy", .rootOrAdmin),
   ("declare_bad_file_replicas", .rootOnly),
   ("declare_suspicious_file_replicas", .everybody),
   ("add_replicas", .addReplicas),
   ("delete_replicas", .nobody),
   ("skip_availability_check", .rootOrAdmin),
   ("update_replicas_states", .rootOrAdmin),
   ("add_rse_attribute", .rootOrAdmin),
   ("del_rse_attribute", .rootOrAdmin),
   ("del_rse", .rootOrAdmin),
   ("del_rule", .rootOrAdmin),
   ("update_rule", .rootOrAdmin),
   ("approve_rule", .rootOrAdmin),
   ("update_subscription", .rootOrAdmin),
   ("reduce_rule", .rootOrAdmin),
   ("move_rule", .rootOrAdmin),
   ("get_auth_token_user_pass", .identityOfAccount .password),
   ("get_auth_token_gss", .identityOfAccount .gss),
   ("get_auth_token_x509", .identityOfAccount .x509),
   ("get_auth_token_saml", .identityOfAccount .saml),
   ("add_account_identity", .rootOrAdmin),
   ("add_did", .addDid),
   ("add_dids", .addDids),
   ("attach_dids", .scopeOwnerOrMock),
   ("detach_dids", .scopeOwnerOrMock),
   ("attach_dids_to_dids", .attachDidsToDids),
   ("create_did_sample", .scopeOwnerOrMock),
   ("set_metadata", .scopeOwner),
   ("set_metadata_bulk", .scopeOwner),
   ("set_status", .setStatus),
   ("queue_requests", .rootOnly),
   ("set_rse_usage", .rootOnly),
   ("set_rse_limits", .rootOrAdmin),
   ("list_requests", .rootOrAdmin),
   ("list_requests_history", .rootOrAdmin),
   ("get_request_by_did", .everybody),
   ("get_request_history_by_did", .rootOrAdmin),
   ("cancel_request", .rootOnly),
   ("get_next", .rootOnly),
   ("set_local_account_limit", .localLimit),
   ("set_global_account_limit", .setGlobalLimit),
   ("delete_local_account_limit", .localLimit),
   ("delete_global_account_limit", .deleteGlobalLimit),
   ("config_sections", .rootOrAdmin),
   ("config_add_section", .rootOrAdmin),
   ("config_has_section", .rootOrAdmin),
   ("config_options", .rootOrAdmin),
   ("config_has_option", .rootOrAdmin),
   ("config_get", .rootOrAdmin),
   ("config_items", .rootOrAdmin),
   ("config_set", .rootOrAdmin),
   ("config_remove_section", .rootOrAdmin),
   ("config_remove_option", .rootOrAdmin),
   ("get_local_account_usage", .usage),
   ("get_global_account_usage", .usage),
   ("add_attribute", .rootOrAdmin),
   ("del_attribute", .rootOrAdmin),
   ("list_heartbeats", .rootOnly),
   ("resurrect", .rootOrAdmin),
   ("update_lifetime_exceptions", .updateExceptions),
   ("get_auth_token_ssh", .everybody),
   ("get_signed_url", .rootOnly),
   ("add_bad_pfns", .rootOnly),
   ("del_account_identity", .rootOrAdmin),
   ("del_identity", .delIdentity),
   ("remove_did_from_followed", .removeDid),
   ("remove_dids_from_followed", .removeDids),
   ("export", .rootOnly)]

/-- The dispatch table is the table of the shapes. -/
theorem permTable_eq_shapes : permTable = shapes.map fun e => (e.1, e.2.handler) := rfl

/-- The shape of an action. One that the policy does not know is left to the privileged. -/
def shapeOf (action : String) : Shape := (shapes.lookup action).getD .rootOrAdmin

/-- The handler of an action is that of its shape. -/
theorem handlerOf_eq_shape (action : String) : handlerOf action = (shapeOf action).handler := by
  rw [handlerOf, shapeOf, permTable_eq_shapes, List.lookup_map_snd]
  cases shapes.lookup action with
  | none => rfl  -- `perm_default`
  | some shape => rfl

/-- A shape other than that of the default is in the table. -/
theorem mem_shapes {action : String} (h : shapeOf action ≠ .rootOrAdmin) :
    (action, shapeOf action) ∈ shapes := by
  unfold shapeOf at h ⊢
  cases hlookup : shapes.lookup action with
  | none =>
    rw [hlookup] at h
    exact absurd rfl h
  | some shape => exact List.mem_of_lookup hlookup

/-- Only `add_rule` has its shape. -/
theorem eq_of_shapeOf_addRule {action : String} (h : shapeOf action = .addRule) :
    action = "add_rule" := by
  have htable : ∀ e ∈ shapes, e.2 = .addRule → e.1 = "add_rule" := by decide
  have hmem : (action, shapeOf action) ∈ shapes := mem_shapes (by rw [h]; decide)
  exact htable _ hmem h

end DiracRucioPolicy
