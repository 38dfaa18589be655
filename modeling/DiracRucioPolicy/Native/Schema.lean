import DiracRucioPolicy.ForStd.CharClass
import DiracRucioPolicy.ForStd.JsonSchema
import DiracRucioPolicy.Native.Python

/-!
# The policy's schemas

`schema.py`: every constant that `SCHEMAS` reaches, and `validate_schema`. The
pattern texts are quoted above their translations. Descriptions are left out, as
is the constant `IPv4orIPv6` and the others that no entry of `SCHEMAS` uses.
-/

namespace DiracRucioPolicy

open Regex

/-! ## Patterns -/

namespace Patterns

variable (u : UnicodeDb)

/-- `^[a-z0-9-_]+$` -/
def account : Regex Char :=
  anchored (plus (cls u [.range 'a' 'z', .range '0' '9', .char '-', .char '_']))

/-- `^[a-zA-Z_\-.0-9]+$` -/
def scope : Regex Char :=
  anchored (plus (cls u [.range 'a' 'z', .range 'A' 'Z', .char '_', .char '-', .char '.',
    .range '0' '9']))

/-- `^/[A-Za-z0-9][A-Za-z0-9\.\-\_/]*$` -/
def name : Regex Char :=
  anchored (.seq (chr '/') (.seq (cls u [.range 'A' 'Z', .range 'a' 'z', .range '0' '9'])
    (star (cls u [.range 'A' 'Z', .range 'a' 'z', .range '0' '9', .char '.', .char '-',
      .char '_', .char '/']))))

/-- `\w` -/
def word : Regex Char := cls u [.word]

/-- `[A-Z0-9]+([_-][A-Z0-9]+)*`, the inside of the RSE patterns. -/
def rseBlocks : Regex Char :=
  .seq (plus (cls u [.range 'A' 'Z', .range '0' '9']))
    (star (.group 2 (.seq (cls u [.char '_', .char '-'])
      (plus (cls u [.range 'A' 'Z', .range '0' '9'])))))

/-- `^([A-Z0-9]+([_-][A-Z0-9]+)*)$` -/
def rse : Regex Char := anchored (.group 1 (rseBlocks u))

/-- `([A-Za-z0-9\._-]+[=<>][A-Za-z0-9_-]+)` -/
def rseAttribute : Regex Char :=
  .group 1 (.seq
    (plus (cls u [.range 'A' 'Z', .range 'a' 'z', .range '0' '9', .char '.', .char '_', .char '-']))
    (.seq (cls u [.char '=', .char '<', .char '>'])
      (plus (cls u [.range 'A' 'Z', .range 'a' 'z', .range '0' '9', .char '_', .char '-']))))

/-- `[a-fA-F\d]` -/
def hexOrDigit : Regex Char := cls u [.range 'a' 'f', .range 'A' 'F', .digit]

/-- `^[a-fA-F\d]{8}$` -/
def adler32 : Regex Char := anchored (exactly 8 (hexOrDigit u))

/-- `^[a-fA-F\d]{32}$` -/
def md5 : Regex Char := anchored (exactly 32 (hexOrDigit u))

/-- `[0-9a-fA-F]{n}` -/
def hex (n : Nat) : Regex Char :=
  exactly n (cls u [.range '0' '9', .range 'a' 'f', .range 'A' 'F'])

/-- `^(\{){0,1}[0-9a-fA-F]{8}-?[0-9a-fA-F]{4}-?[0-9a-fA-F]{4}-?[0-9a-fA-F]{4}-?[0-9a-fA-F]{12}(\}){0,1}$` -/
def uuid : Regex Char :=
  anchored (.seq (opt (.group 1 (chr '{')))
    (.seq (hex u 8) (.seq (opt (chr '-'))
    (.seq (hex u 4) (.seq (opt (chr '-'))
    (.seq (hex u 4) (.seq (opt (chr '-'))
    (.seq (hex u 4) (.seq (opt (chr '-'))
    (.seq (hex u 12) (opt (.group 2 (chr '}')))))))))))))

/-- `^[a-zA-Z0-9-_\\/\\.]{1,30}$`, a raw string: the class holds the backslash. -/
def accountAttribute : Regex Char :=
  anchored (.rep (cls u [.range 'a' 'z', .range 'A' 'Z', .range '0' '9', .char '-', .char '_',
    .char '\\', .char '/', .char '\\', .char '.']) 1 (some 29))

end Patterns

/-- `SCOPE_NAME_REGEXP`: `/([^/]*)(?=/)(.*)` -/
def scopeNameRegexp : Regex Char :=
  .seq (chr '/') (.seq (.group 1 (star (notChr '/')))
    (.seq (.look (chr '/')) (.group 2 (star dot))))

/-- `re.match(SCOPE_NAME_REGEXP, url)`, reduced to its groups 1 and 2. -/
def matchScopeName (url : String) : Option (String × String) := do
  let m ← scopeNameRegexp.matchStart url.toList
  let scope ← m.group 1
  let name ← m.group 2
  return (String.ofList scope, String.ofList name)

/-! ## Schemas -/

namespace Schemas

/-- How long the name of an account can be. -/
def accountLength : Nat := 25

/-- How long the name of a scope can be. -/
def scopeLength : Nat := 25

/-- How long the name of a data identifier can be. -/
def nameLength : Nat := 250

/-- A list of strings, as the values of an `enum`. -/
def strings (ss : List String) : List Json := ss.map .str

section

variable (u : UnicodeDb)

/-- Account name. -/
def account : Schema :=
  { type := some [.string], pattern := some (Patterns.account u), maxLength := some accountLength }

/-- Array of accounts. -/
def accounts : Schema :=
  { type := some [.array], items := some (account u), minItems := some 0, maxItems := some 1000 }

/-- Account type. -/
def accountType : Schema :=
  { type := some [.string], enum := some (strings ["USER", "GROUP", "SERVICE"]) }

/-- Activity name. -/
def activity : Schema :=
  { type := some [.string]
    enum := some (strings
      ["Data Brokering", "Data Consolidation", "Data Rebalancing", "Debug", "Express",
       "Functional Test", "Group Subscriptions", "Production Input", "Production Output",
       "Analysis Input", "Analysis Output", "Staging", "T0 Export", "T0 Tape",
       "Upload/Download (Job)", "Upload/Download (User)", "User Subscriptions",
       "Data Challenge"]) }

/-- Scope name. -/
def scope : Schema :=
  { type := some [.string], pattern := some (Patterns.scope u), maxLength := some scopeLength }

/-- Scope name, as it is read: any name with a word character. -/
def rScope : Schema := { type := some [.string], pattern := some (Patterns.word u) }

/-- Data identifier name. -/
def name : Schema :=
  { type := some [.string], pattern := some (Patterns.name u), maxLength := some nameLength }

/-- Data identifier name, as it is read. -/
def rName : Schema := { type := some [.string], pattern := some (Patterns.word u) }

/-- Rule locked status. -/
def locked : Schema := { type := some [.boolean, .null] }

/-- Rule approval request. -/
def askApproval : Schema := { type := some [.boolean, .null] }

/-- Asynchronous rule creation. -/
def asynchronous : Schema := { type := some [.boolean, .null] }

/-- Time in seconds to wait before the rule is applied. -/
def delayInjection : Schema := { type := some [.integer, .null] }

/-- Rule purge replica status. -/
def purgeReplicas : Schema := { type := some [.boolean] }

/-- Rule ignore availability status. -/
def ignoreAvailability : Schema := { type := some [.boolean] }

/-- RSE name. -/
def rse : Schema := { type := some [.string], pattern := some (Patterns.rse u) }

/-- RSE attribute. -/
def rseAttribute : Schema :=
  { type := some [.string], pattern := some (Patterns.rseAttribute u) }

/-- Replica state. -/
def replicaState : Schema :=
  { type := some [.string]
    enum := some (strings
      ["AVAILABLE", "UNAVAILABLE", "COPYING", "BEING_DELETED", "BAD", "SOURCE",
       "A", "U", "C", "B", "D", "S"]) }

/-- DID type. -/
def didType : Schema :=
  { type := some [.string], enum := some (strings ["DATASET", "CONTAINER", "FILE", "F"]) }

/-- Rule grouping. -/
def grouping : Schema :=
  { type := some [.string, .null], enum := some (strings ["DATASET", "NONE", "ALL"] ++ [.null]) }

/-- Rule notification setting. -/
def notify : Schema :=
  { type := some [.string, .null], enum := some (strings ["Y", "C", "N", "P"] ++ [.null]) }

/-- Rule comment. -/
def comment : Schema := { type := some [.string, .null], maxLength := some 250 }

/-- Metadata of a rule. -/
def metadata : Schema := { type := some [.string, .null], maxLength := some 3999 }

/-- Size in bytes. -/
def bytes : Schema := { type := some [.integer] }

/-- Adler-32 checksum. -/
def adler32 : Schema := { type := some [.string], pattern := some (Patterns.adler32 u) }

/-- Rule weight. -/
def weight : Schema := { type := some [.string, .null] }

/-- MD5 checksum. -/
def md5 : Schema := { type := some [.string], pattern := some (Patterns.md5 u) }

/-- Universally unique identifier. -/
def uuid : Schema := { type := some [.string], pattern := some (Patterns.uuid u) }

/-- Data identifier metadata. Other keys than the GUID are allowed. -/
def «meta» : Schema :=
  { type := some [.object], properties := [("guid", uuid u)], additionalProperties := true }

/-- Physical file name. -/
def pfn : Schema := { type := some [.string] }

/-- Number of replica copies. -/
def copies : Schema := { type := some [.integer] }

/-- RSE expression. -/
def rseExpression : Schema := { type := some [.string] }

/-- RSE expression of the sources. -/
def sourceReplicaExpression : Schema := { type := some [.string, .null] }

/-- Lifetime. -/
def lifetime : Schema := { type := some [.number] }

/-- Rule lifetime. -/
def ruleLifetime : Schema := { type := some [.number, .null] }

/-- Subscription of a rule. -/
def subscriptionId : Schema := { type := some [.string, .null] }

/-- Priority of the transfers. -/
def priority : Schema := { type := some [.integer] }

/-- Rule split container mode. -/
def splitContainer : Schema := { type := some [.boolean, .null] }

/-- Replication rule. It need not name an account. -/
def rule : Schema :=
  { type := some [.object]
    properties :=
      [("dids", { type := some [.array] }),
       ("account", account u),
       ("copies", copies),
       ("rse_expression", rseExpression),
       ("grouping", grouping),
       ("weight", weight),
       ("lifetime", ruleLifetime),
       ("locked", locked),
       ("subscription_id", subscriptionId),
       ("source_replica_expression", sourceReplicaExpression),
       ("activity", activity),
       ("notify", notify),
       ("purge_replicas", purgeReplicas),
       ("ignore_availability", ignoreAvailability),
       ("comment", comment),
       ("ask_approval", askApproval),
       ("asynchronous", asynchronous),
       ("delay_injection", delayInjection),
       ("priority", priority),
       ("split_container", splitContainer),
       ("meta", metadata)]
    required := ["dids", "copies", "rse_expression"]
    additionalProperties := false }

/-- Array of replication rules. -/
def rules : Schema :=
  { type := some [.array], items := some (rule u), minItems := some 1, maxItems := some 1000 }

/-- Dataset or container type. -/
def collectionType : Schema :=
  { type := some [.string], enum := some (strings ["DATASET", "CONTAINER"]) }

/-- Dataset or container. -/
def collection : Schema :=
  { type := some [.object]
    properties :=
      [("scope", scope u),
       ("name", name u),
       ("type", collectionType),
       ("meta", «meta» u),
       ("rules", rules u)]
    required := ["scope", "name", "type"]
    additionalProperties := false }

/-- Array of datasets or containers. -/
def collections : Schema :=
  { type := some [.array], items := some (collection u)
    minItems := some 1, maxItems := some 1000 }

/-- Data identifier. -/
def did : Schema :=
  { type := some [.object]
    properties :=
      [("scope", scope u),
       ("name", name u),
       ("type", didType),
       ("meta", «meta» u),
       ("rules", rules u),
       ("bytes", bytes),
       ("adler32", adler32 u),
       ("md5", md5 u),
       ("state", replicaState),
       ("pfn", pfn)]
    required := ["scope", "name"]
    additionalProperties := false }

/-- Array to filter DIDs by metadata. -/
def didFilters : Schema := { type := some [.array], additionalProperties := true }

/-- Data identifier, as it is read: only the patterns of scope and name differ. -/
def rDid : Schema :=
  { type := some [.object]
    properties :=
      [("scope", rScope u),
       ("name", rName u),
       ("type", didType),
       ("meta", «meta» u),
       ("rules", rules u),
       ("bytes", bytes),
       ("adler32", adler32 u),
       ("md5", md5 u),
       ("state", replicaState),
       ("pfn", pfn)]
    required := ["scope", "name"]
    additionalProperties := false }

/-- Array of data identifiers. -/
def dids : Schema :=
  { type := some [.array], items := some (did u), minItems := some 1, maxItems := some 1000 }

/-- Array of data identifiers, as they are read. -/
def rDids : Schema :=
  { type := some [.array], items := some (rDid u), minItems := some 1, maxItems := some 1000 }

/-- Attachment. Unlike a data identifier it need not have a scope. -/
def attachment : Schema :=
  { type := some [.object]
    properties :=
      [("scope", scope u),
       ("name", name u),
       ("rse", { type := some [.string, .null], pattern := some (Patterns.rse u) }),
       ("dids", dids u)]
    required := ["dids"]
    additionalProperties := false }

/-- Array of attachments. -/
def attachments : Schema :=
  { type := some [.array], items := some (attachment u)
    minItems := some 1, maxItems := some 1000 }

/-- Filter of a subscription. -/
def subscriptionFilter : Schema :=
  { type := some [.object]
    properties :=
      [("datatype", { type := some [.array] }),
       ("prod_step", { type := some [.array] }),
       ("stream_name", { type := some [.array] }),
       ("project", { type := some [.array] }),
       ("scope", { type := some [.array] }),
       ("pattern", { type := some [.string] }),
       ("excluded_pattern", { type := some [.string] }),
       ("group", { type := some [.string] }),
       ("provenance", { type := some [.string] }),
       ("account", accounts u),
       ("grouping", { type := some [.string] }),
       ("split_rule", { type := some [.boolean] })] }

/-- File whose replica is added. -/
def addReplicaFile : Schema :=
  { type := some [.object]
    properties :=
      [("scope", scope u), ("name", name u), ("bytes", bytes), ("adler32", adler32 u)]
    required := ["scope", "name", "bytes", "adler32"] }

/-- Array of such files. -/
def addReplicaFiles : Schema :=
  { type := some [.array], items := some (addReplicaFile u)
    minItems := some 1, maxItems := some 1000 }

/-- Message of a cache that adds replicas. -/
def cacheAddReplicas : Schema :=
  { type := some [.object]
    properties :=
      [("files", addReplicaFiles u),
       ("rse", rse u),
       ("lifetime", lifetime),
       ("operation", { enum := some (strings ["add_replicas"]) })]
    required := ["files", "rse", "lifetime", "operation"] }

/-- File whose replica is deleted. -/
def deleteReplicaFile : Schema :=
  { type := some [.object]
    properties := [("scope", scope u), ("name", name u)]
    required := ["scope", "name"] }

/-- Array of such files. -/
def deleteReplicaFiles : Schema :=
  { type := some [.array], items := some (deleteReplicaFile u)
    minItems := some 1, maxItems := some 1000 }

/-- Message of a cache that deletes replicas. -/
def cacheDeleteReplicas : Schema :=
  { type := some [.object]
    properties :=
      [("files", deleteReplicaFiles u),
       ("rse", rse u),
       ("operation", { enum := some (strings ["delete_replicas"]) })]
    required := ["files", "rse", "operation"] }

/-- Account attribute. -/
def accountAttribute : Schema :=
  { type := some [.string], pattern := some (Patterns.accountAttribute u) }

/-- Data to import into Rucio. -/
def «import» : Schema :=
  { type := some [.object]
    properties :=
      [("rses", { type := some [.object] }), ("distances", { type := some [.object] })] }

/-- The table `SCHEMAS`. -/
def schemas : List (String × Schema) :=
  [("account", account u),
   ("account_type", accountType),
   ("activity", activity),
   ("name", name u),
   ("r_name", rName u),
   ("rse", rse u),
   ("rse_attribute", rseAttribute u),
   ("scope", scope u),
   ("r_scope", rScope u),
   ("did", did u),
   ("did_filters", didFilters),
   ("r_did", rDid u),
   ("dids", dids u),
   ("rule", rule u),
   ("r_dids", rDids u),
   ("collection", collection u),
   ("collections", collections u),
   ("attachment", attachment u),
   ("attachments", attachments u),
   ("subscription_filter", subscriptionFilter u),
   ("cache_add_replicas", cacheAddReplicas u),
   ("cache_delete_replicas", cacheDeleteReplicas u),
   ("account_attribute", accountAttribute u),
   ("import", «import»)]

end

end Schemas

/-! ## `validate_schema` -/

/-- Validate `obj` against the schema called `name`. A falsy object is not looked at,
    and a name without an entry stands for the empty schema. -/
def validateSchema (u : UnicodeDb) (name : String) (obj : Json) : Except PyErr Unit :=
  if obj.truthy then
    if (((Schemas.schemas u).lookup name).getD {}).valid obj then .ok ()
    else .error (.invalidObject
      [.text "Problem validating ", .text name, .text ": ", .validationError])
  else .ok ()

/-- `validateSchema` returns normally on falsy objects and on objects that satisfy
    the schema. -/
theorem validateSchema_ok_iff (u : UnicodeDb) (name : String) (obj : Json) :
    validateSchema u name obj = .ok () ↔
      obj.truthy = false ∨ (((Schemas.schemas u).lookup name).getD {}).valid obj = true := by
  unfold validateSchema
  cases obj.truthy with
  | false => simp
  | true =>
    cases (((Schemas.schemas u).lookup name).getD {}).valid obj with
    | false => simp
    | true => simp

/-- The same for a name with an entry in `SCHEMAS`. -/
theorem validateSchema_entry_iff {u : UnicodeDb} {name : String} {schema : Schema}
    (hname : (Schemas.schemas u).lookup name = some schema) (obj : Json) :
    validateSchema u name obj = .ok () ↔ obj.truthy = false ∨ schema.valid obj = true := by
  rw [validateSchema_ok_iff, hname, Option.getD_some]

end DiracRucioPolicy
