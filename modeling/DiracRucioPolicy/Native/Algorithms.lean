import DiracRucioPolicy.Native.Python
import Mathlib.Data.List.Infix

/-!
# The policy's algorithms

`algorithms.py`: the scope of an LFN and the path of a file on a storage element.
-/

namespace DiracRucioPolicy

/-- `s.split(sep)` for a one-character separator. -/
def pySplit (s : String) (sep : Char) : List String := (s.toList.splitOn sep).map String.ofList

/-- The non-empty pieces of `did.split("/")`. -/
def components (did : String) : List String := (pySplit did '/').filter (· ≠ "")

/-- The message that names the offending DID. -/
def scopeMsg (did : String) : List MsgPart :=
  [.text "DID ", .repr did,
   .text " does not match expected schema: /<VO Name>/<scope>/<path>."]

/-- Scope extraction algorithm for DIRAC. LFNs with fewer than two components lie in
    the special scope `root`. -/
def extractScopeDirac (did : String) (_scopes : Option (List String)) :
    Except PyErr (String × String) :=
  if !"/".toList.isPrefixOf did.toList then .error (.valueError (scopeMsg did))
  else
    let components := components did
    if h : components.length < 2 then .ok ("root", did)
    else .ok (components[1], did)

/-- The path of a DID is its name. `rse`, `rseAttrs` and `protocolAttrs` are whatever
    Rucio passes. -/
def lfn2pfnDirac {R A P : Type} (_scope name : String) (_rse : R) (_rseAttrs : A)
    (_protocolAttrs : P) : String := name

end DiracRucioPolicy
