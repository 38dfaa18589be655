import Mathlib.Data.List.Infix

/-!
# The scope of a test session

`conftest.py` gives every session of the integration tests a scope of its own, named after
the time and a random token, and the tests write their LFNs in it.
-/

namespace DiracRucioPolicy.Fixtures

/-- `n` in base `b`, with zeros in front up to `w` digits, for `n < b ^ w`. -/
def digits (b : Nat) : Nat → Nat → List Char
  | 0, _ => []
  | w + 1, n => digits b w (n / b) ++ [Nat.digitChar (n % b)]

/-- `datetime.now()` up to the second, in a year of four digits. -/
structure DateTime where
  year : Nat
  month : Nat
  day : Nat
  hour : Nat
  minute : Nat
  second : Nat
  year_ge : 1000 ≤ year
  year_lt : year < 10000
  month_le : month ≤ 12
  day_le : day ≤ 31
  hour_lt : hour < 24
  minute_lt : minute < 60
  second_lt : second < 60

/-- `f"{now:%Y%m%d_%H%M%S}"` -/
def dateStr (now : DateTime) : List Char :=
  digits 10 4 now.year ++ digits 10 2 now.month ++ digits 10 2 now.day ++ ['_'] ++
    digits 10 2 now.hour ++ digits 10 2 now.minute ++ digits 10 2 now.second

/-- `token_hex(n)`, for the `n` random bytes. -/
def tokenHex (bytes : List (Fin 256)) : List Char :=
  bytes.flatMap fun x : Fin 256 => digits 16 2 x.val

/-- The scope of the session that starts now. -/
def testScope (now : DateTime) (byte byte' : Fin 256) : String :=
  String.ofList (['t', '_'] ++ dateStr now ++ ['_'] ++ tokenHex [byte, byte'])

/-- The LFN of a file of the session. -/
def testLfn (testScope name : String) : String :=
  "/testvo.example.org/" ++ testScope ++ "/" ++ name

end DiracRucioPolicy.Fixtures
