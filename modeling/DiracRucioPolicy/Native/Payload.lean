import DiracRucioPolicy.ForStd.JsonSchema
import DiracRucioPolicy.Native.Python

/-!
# Validated payloads as arguments

Rucio passes a validated payload on to the permission check. The JSON value becomes a
Python value of the same shape, except that the strings under the keys `scope` and
`account` are wrapped into `InternalScope` and `InternalAccount`.
-/

namespace DiracRucioPolicy

/-- The constructors of the two wrappers, with the virtual organisation filled in. -/
structure Wrapping where
  account : String → InternalAccount
  scope : String → InternalScope

namespace Wrapping

variable (w : Wrapping)

/-- The value under a key of an object, given the value that it is without wrapping. -/
def wrap (key : String) (v : Json) (plain : PyVal) : PyVal :=
  match v with
  | .str s =>
    if key = "scope" then .scope (w.scope s)
    else if key = "account" then .account (w.account s)
    else plain
  | _ => plain

mutual
/-- The Python value of a JSON value. -/
def value : Json → PyVal
  | .null => .none
  | .bool b => .bool b
  | .num q => if q.den = 1 then .int q.num else .float q
  | .str s => .str s
  | .arr vs => .list (values vs)
  | .obj fs => .dict (fields fs)

/-- The elements of an array. -/
def values : List Json → List PyVal
  | [] => []
  | v :: vs => value v :: values vs

/-- The entries of an object, under the same keys. -/
def fields : List (String × Json) → Dict
  | [] => []
  | (k, v) :: fs => (k, w.wrap k v (value v)) :: fields fs
end

end Wrapping

end DiracRucioPolicy
