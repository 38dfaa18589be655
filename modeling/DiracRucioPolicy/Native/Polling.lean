import DiracRucioPolicy.ForStd.Script
import Mathlib.Algebra.Order.Ring.Rat

/-!
# Waiting for jobs and replication rules

The integration tests submit a job or create a replication rule, and poll until it has the
status that they expect. A reading of the clock and a pause are finite floats, which are
rational numbers; a timeout can be infinite or not a number. How floats are subtracted is a
parameter.
-/

namespace DiracRucioPolicy.Polling

/-- A float. -/
inductive PyFloat where
  | finite (q : Rat)
  | inf
  | negInf
  | nan
deriving DecidableEq, Repr

/-- `x < bound` for a finite float `x`. -/
def PyFloat.isBelow (x : Rat) (bound : PyFloat) : Bool :=
  match bound with
  | finite q => x < q
  | inf => true
  | negInf | nan => false

/-- What a waiting test does: it reads the clock, asks for the status, and sleeps. -/
inductive Command where
  | perfCounter
  | ask
  | sleep (seconds : Rat)
deriving DecidableEq, Repr

/-- The types of the answers, where those to the question for the status are of the type `α`. -/
def Reply (α : Type) : Command → Type
  | .perfCounter => Rat
  | .ask => α
  | .sleep _ => Unit

/-- The exceptions. The last two are those of the client and of a loop without fuel. -/
inductive Error where
  | keyError (key : String)
  | valueError (msg : String)
  | timeoutError (msg : String)
  | client
  | fuel
deriving DecidableEq, Repr

variable {α β : Type}

/-- A waiting test, with the answers `α` to its questions and the result `β`. -/
abbrev Test (α β : Type) := Script (Reply α) Error β

/-- `time.perf_counter()` -/
def perfCounter : Test α Rat := .issue Command.perfCounter

/-- The request to the client. -/
def ask : Test α α := .issue Command.ask

/-- `time.sleep(seconds)` -/
def sleep (seconds : Rat) : Test α Unit := .issue (Command.sleep seconds)

/-- How the two functions differ: how an answer states the status, what they return, and
    their messages. -/
structure Waiting (α β : Type) where
  status : String
  errorOn : List String
  statusOf : α → Except String String  -- or the key that is missing
  result : α → β
  errorState : String → String
  timedOut : Option (String × α) → String
  minus : Rat → Rat → Rat  -- the difference of two floats, rounded
  timeout : PyFloat
  poll : Rat

/-- One round, after which the last status and the answer with it are known. -/
def Waiting.round (w : Waiting α β) (start : Rat) (last : Option (String × α)) :
    Test α (Option (String × α) ⊕ β) := do
  let now ← perfCounter
  if PyFloat.isBelow (w.minus now start) w.timeout then do
    let result ← ask
    let currentStatus ← .ofExcept ((w.statusOf result).mapError .keyError)
    if currentStatus = w.status then
      pure (.inr (w.result result))
    else if currentStatus ∈ w.errorOn then
      .raise (.valueError (w.errorState currentStatus))
    else do
      sleep w.poll
      pure (.inl (some (currentStatus, result)))
  else
    .raise (.timeoutError (w.timedOut last))

/-- The loop of both functions. -/
def Waiting.wait (w : Waiting α β) (fuel : Nat) : Test α β := do
  let start ← perfCounter
  .loop .fuel (w.round start) fuel none

/-- `d[key]` -/
def getItem {κ ν : Type} [BEq κ] [ToString κ] (d : List (κ × ν)) (key : κ) : Except String ν :=
  match d.lookup key with
  | some v => .ok v
  | none => .error (toString key)

/-- The text of a status in a message. -/
def showStatus (last : Option (String × α)) : String := last.elim "None" (·.1)

/-- The answer of `getJobStatus` to a question about jobs. Only the key `Value` is read. -/
abbrev JobResponse := List (String × List (Nat × List (String × String)))

/-- `wait_for_status`, where `str` writes a float. The last response is returned. -/
def waitForStatus (minus : Rat → Rat → Rat) (str : PyFloat → String) (jobId : Nat)
    (status : String) (errorOn : Option (List String)) (timeout : PyFloat) (poll : Rat) :
    Waiting JobResponse JobResponse where
  status := status
  errorOn := errorOn.getD []
  statusOf res := do
    let value ← getItem res "Value"
    let job ← getItem value jobId
    getItem job "Status"
  result res := res
  errorState currentStatus := "Job entered error state '" ++ currentStatus ++ "'"
  timedOut last :=
    "Job " ++ toString jobId ++ " did not reach status '" ++ status ++ "' within " ++
      str timeout ++ " seconds." ++ " Current status is '" ++ showStatus last ++ "'."
  minus := minus
  timeout := timeout
  poll := poll

/-- A replication rule. -/
abbrev RuleResponse := List (String × String)

/-- `wait_for_replication_status`, where `repr` writes the last answer. No status is an
    error there, and nothing is returned. -/
def waitForReplicationStatus (minus : Rat → Rat → Rat) (str : PyFloat → String)
    (repr : Option RuleResponse → String) (rule status : String) (timeout : PyFloat)
    (poll : Rat) : Waiting RuleResponse Unit where
  status := status
  errorOn := []
  statusOf result := getItem result "state"
  result _ := ()
  errorState _ := ""
  timedOut last :=
    "Rule " ++ rule ++ " did not reach status '" ++ status ++ "' within " ++ str timeout ++
      " seconds." ++ " Current status is '" ++ showStatus last ++ "'.\nFull output: " ++
      repr (last.map (·.2))
  minus := minus
  timeout := timeout
  poll := poll

end DiracRucioPolicy.Polling
