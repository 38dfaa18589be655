import DiracRucioPolicy.Native.Python

/-!
# The database the handlers read

The functions that `permission.py` imports from Rucio are queries on the database
session. `Db` holds the tables behind them, and each query is a function of it:
`has_account_attribute` and `list_account_attributes` read the same table.
-/

namespace DiracRucioPolicy

/-- Rucio's `IdentityType`. -/
inductive IdentityType where
  | x509 | gss | userpass | ssh | saml | oidc
deriving DecidableEq, Repr

/-- An identity: its key (a distinguished name, a user name, ...) and its type. -/
structure Identity where
  key : String
  type : IdentityType
deriving DecidableEq, Repr

/-- Rucio's `AccountStatus`. -/
inductive AccountStatus where
  | active | suspended | deleted
deriving DecidableEq, Repr

/-- One row of the lifetime exceptions; the handlers read its scope only. -/
structure ExceptionRecord where
  scope : InternalScope
deriving DecidableEq, Repr

/-- What a permission check can look at: the tables, in which accounts and scopes stand
    under their internal names, and the order in which the process iterates sets. The
    records of an expression are dictionaries of which nothing is known. -/
structure Db where
  accounts : String → Option AccountStatus
  accountAttributes : String → List (String × PyAtom)
  scopeOwner : String → Option String
  identities : Identity → String → Bool
  rseAttributes : PyVal → List (String × PyAtom)
  parseExpression : PyVal → String → Except PyErr (List Dict)
  lifetimeExceptions : PyVal → List ExceptionRecord
  setOrder : SetOrder

namespace Db

/-- The database without rows. -/
def empty : Db where
  accounts _ := none
  accountAttributes _ := []
  scopeOwner _ := none
  identities _ _ := false
  rseAttributes _ := []
  parseExpression _ _ := .ok []
  lifetimeExceptions _ := []
  setOrder := .insertion

/-- `has_account_attribute`: the account has an attribute of that key. -/
def hasAccountAttribute (db : Db) (account : InternalAccount) (key : String) : Bool :=
  (db.accountAttributes account.internal).any (·.1 = key)

/-- `list_account_attributes`: the keys and values of the attributes of an active account. -/
def listAccountAttributes (db : Db) (account : InternalAccount) :
    Except PyErr (List (String × PyAtom)) :=
  if db.accounts account.internal = some .active then
    .ok (db.accountAttributes account.internal)
  else .error .accountNotFound

/-- What a query compares with a column of internal names: `None` is NULL, and of the other
    values only the wrappers can be bound. -/
def bindInternal : PyVal → Except PyErr (Option String)
  | .none => .ok none
  | .account a => .ok (some a.internal)
  | .scope s => .ok (some s.internal)
  | _ => .error .statementError

/-- What a query compares with a column of text. -/
def bindText : PyVal → Except PyErr (Option String)
  | .none => .ok none
  | .str s => .ok (some s)
  | _ => .error .statementError

/-- `is_scope_owner`: the account owns the scope of that internal name. Nothing is equal to
    NULL. -/
def isScopeOwner (db : Db) (scope : PyVal) (account : InternalAccount) : Except PyErr Bool := do
  let name ← bindInternal scope
  return name.any fun name => db.scopeOwner name = some account.internal

/-- `exist_identity_account`: the identity is linked to the account. -/
def existIdentityAccount (db : Db) (identity : PyVal) (type : IdentityType) (account : PyVal) :
    Except PyErr Bool := do
  let key ← bindText identity
  let name ← bindInternal account
  return key.any fun key => name.any fun name => db.identities ⟨key, type⟩ name

/-- The key `RseAttr.COUNTRY`. -/
def rseAttrCountry : String := "country"

/-- `list_rse_attributes(rse_id).get(RseAttr.COUNTRY)` -/
def rseCountry (db : Db) (rseId : PyVal) : PyAtom :=
  ((db.rseAttributes rseId).lookup rseAttrCountry).getD .none

/-- `next(list_exceptions(exception_id, states=False))` -/
def nextException (db : Db) (exceptionId : PyVal) : Except PyErr ExceptionRecord :=
  match db.lifetimeExceptions exceptionId with
  | [] => .error .stopIteration
  | e :: _ => .ok e

end Db

end DiracRucioPolicy
