import Mathlib.Data.List.Dedup
import Mathlib.Data.List.Infix
import Mathlib.Data.Rat.Defs

/-!
# Python values, errors and the operations the policy uses on them

The permission handlers receive `kwargs: dict[str, Any]`. `PyVal` is what such a
dictionary can hold: the plain Python values and Rucio's `InternalAccount` and
`InternalScope` wrappers. Every operation that can raise returns `Except PyErr`.
-/

namespace DiracRucioPolicy

/-- A piece of an error message: literal text, the `repr` of a string
    (`{did!r}` in an f-string), or the text of a `jsonschema.ValidationError`. -/
inductive MsgPart where
  | text (s : String)
  | repr (s : String)
  | validationError
deriving DecidableEq, Repr

/-- The exceptions that the policy raises or lets through. The last two are those of
    Rucio for an account that is not active, and of the database for a value that cannot
    be bound to a column. -/
inductive PyErr where
  | keyError (key : String)
  | typeError
  | attributeError (name : String)
  | stopIteration
  | valueError (msg : List MsgPart)
  | invalidObject (msg : List MsgPart)
  | accountNotFound
  | statementError
deriving DecidableEq, Repr

/-- The internal name of an account or a scope, under which the database stores it. In the
    default VO it is the external name. -/
def internalName (external vo : String) : String :=
  if vo = "def" then external else external ++ "@" ++ vo

/-- Rucio's account identifier: its external name and its virtual organisation. -/
structure InternalAccount where
  external : String
  vo : String
deriving DecidableEq, Repr

/-- `account.internal` -/
def InternalAccount.internal (a : InternalAccount) : String := internalName a.external a.vo

/-- Rucio's scope identifier. -/
structure InternalScope where
  external : String
  vo : String
deriving DecidableEq, Repr

/-- `scope.internal` -/
def InternalScope.internal (s : InternalScope) : String := internalName s.external s.vo

/-- The hashable values: what a set can hold and what a database column stores. `int` is
    a number without a fractional part, as `1.0` is equal to `1`, and `float` one with. -/
inductive PyAtom where
  | none
  | bool (b : Bool)
  | int (n : Int)
  | float (q : Rat)
  | str (s : String)
  | account (a : InternalAccount)
  | scope (s : InternalScope)
deriving DecidableEq, Repr

/-- A value of a `kwargs` dictionary. -/
inductive PyVal where
  | atom (a : PyAtom)
  | list (vs : List PyVal)
  | dict (entries : List (String × PyVal))

namespace PyVal

/-- `None` -/
@[match_pattern] abbrev none : PyVal := .atom .none

/-- `True` or `False` -/
@[match_pattern] abbrev bool (b : Bool) : PyVal := .atom (.bool b)

/-- A number without a fractional part. -/
@[match_pattern] abbrev int (n : Int) : PyVal := .atom (.int n)

/-- A number with a fractional part. -/
@[match_pattern] abbrev float (q : Rat) : PyVal := .atom (.float q)

/-- A string. -/
@[match_pattern] abbrev str (s : String) : PyVal := .atom (.str s)

/-- An account. -/
@[match_pattern] abbrev account (a : InternalAccount) : PyVal := .atom (.account a)

/-- A scope. -/
@[match_pattern] abbrev scope (s : InternalScope) : PyVal := .atom (.scope s)

end PyVal

/-- The entries of a dictionary; of a repeated key the first entry counts. -/
abbrev Dict := List (String × PyVal)

namespace Dict

/-- `d.get(key)`, where `none` stands for the absent key. -/
def get? (d : Dict) (key : String) : Option PyVal := d.lookup key

/-- `d.get(key, default)` -/
def getD (d : Dict) (key : String) (default : PyVal) : PyVal := (d.get? key).getD default

/-- `d[key]` -/
def getItem (d : Dict) (key : String) : Except PyErr PyVal :=
  match d.get? key with
  | some v => .ok v
  | none => .error (.keyError key)

/-- `key in d` -/
def Has (d : Dict) (key : String) : Prop := (d.get? key).isSome = true

end Dict

namespace PyVal

/-- `bool(v)`. The wrappers define neither `__bool__` nor `__len__`. -/
def truthy : PyVal → Bool
  | none => false
  | bool b => b
  | int n => n ≠ 0
  | float q => q ≠ 0
  | str s => s ≠ ""
  | account _ | scope _ => true
  | list vs => !vs.isEmpty
  | dict entries => !entries.isEmpty

/-- `v == a` for an account `a`. Accounts are equal when their internal names are, and to
    no value of another type. -/
def isAccount (v : PyVal) (a : InternalAccount) : Bool :=
  match v with
  | account b => b.internal = a.internal
  | _ => false

/-- `v == s` for a string `s`. -/
def isStr (v : PyVal) (s : String) : Bool :=
  match v with
  | str t => t = s
  | _ => false

/-- `v[key]` for a string key. -/
def getItem (v : PyVal) (key : String) : Except PyErr PyVal :=
  match v with
  | dict entries => Dict.getItem entries key
  | _ => .error .typeError

/-- `v.get(key, default)` -/
def get (v : PyVal) (key : String) (default : PyVal) : Except PyErr PyVal :=
  match v with
  | dict entries => .ok (Dict.getD entries key default)
  | _ => .error (.attributeError "get")

/-- The elements that `for x in v` visits. A string yields its characters and a
    dictionary its keys. -/
def iter : PyVal → Except PyErr (List PyVal)
  | list vs => .ok vs
  -- the elements of a string and of a dictionary are strings again
  | str s => .ok (s.toList.map fun c => str c.toString)
  | dict entries => .ok (entries.map fun e => str e.1)
  | none | bool _ | int _ | float _ | account _ | scope _ => .error .typeError

/-- `s in v` for a string `s`: membership in a list, a substring of a string, a key
    of a dictionary. -/
def contains (v : PyVal) (s : String) : Except PyErr Bool :=
  match v with
  | list vs => .ok (vs.any (·.isStr s))
  | str t => .ok (decide (s.toList <:+: t.toList))  -- a substring test
  | dict entries => .ok (entries.any (·.1 = s))
  | none | bool _ | int _ | float _ | account _ | scope _ => .error .typeError

/-- `v.external` -/
def external : PyVal → Except PyErr String
  | account a => .ok a.external
  | scope s => .ok s.external
  | _ => .error (.attributeError "external")

/-- The value as an element of a set. Lists and dictionaries are not hashable. -/
def hash : PyVal → Except PyErr PyAtom
  | atom a => .ok a
  | list _ | dict _ => .error .typeError

/-- `str(v).endswith(suffix)` for a suffix of letters. The text of a list or a
    dictionary ends in a bracket, that of a number in a digit. -/
def strEndswith (v : PyVal) (suffix : String) : Bool :=
  match v with
  | str s => suffix.toList.isSuffixOf s.toList
  | account a => suffix.toList.isSuffixOf a.external.toList
  | scope s => suffix.toList.isSuffixOf s.external.toList
  | none => suffix.toList.isSuffixOf "None".toList
  | bool true => suffix.toList.isSuffixOf "True".toList
  | bool false => suffix.toList.isSuffixOf "False".toList
  | int _ | float _ | list _ | dict _ => false

end PyVal

/-! ## Control flow -/

/-- `a or b`, where only `b` can raise. -/
def pyOr (a : Bool) (b : Except PyErr Bool) : Except PyErr Bool :=
  if a then .ok true else b

/-- The order in which a process iterates a set. It depends on the hashes of the elements,
    which differ from process to process. -/
structure SetOrder where
  order : List PyAtom → List PyAtom
  perm : ∀ atoms, (order atoms).Perm atoms

/-- The order in which the elements came. -/
def SetOrder.insertion : SetOrder := ⟨id, List.Perm.refl⟩

/-- `list(set(vs))`: raises on an unhashable element, drops repetitions otherwise. Values that
    are equal in Python only (wrappers of one internal name, `1` and `True`) all stay here:
    the handlers ask the same question about each of them. -/
def pySet (order : SetOrder) (vs : List PyVal) : Except PyErr (List PyAtom) := do
  let atoms ← vs.mapM PyVal.hash
  return order.order atoms.dedup

end DiracRucioPolicy
