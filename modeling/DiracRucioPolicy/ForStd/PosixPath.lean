import DiracRucioPolicy.ForStd.List

/-!
# Lexical resolution of POSIX paths

A path is read component by component: an empty component and `.` stay in the
current directory, `..` goes up, everything else goes down. `walk` follows a path
from a directory and fails when it climbs above the start of the stack;
`walkAbs` is resolution on an absolute path, where `..` at the root stays there.

## Key results

- `walk_eq`: where a walk ends, in closed form: the components that no later `..`
  cancels, on top of what is left of the starting directory
- `walkAbs_of_walk`: a walk that never climbs above its start is independent of
  what lies above
- `walkAbs_of_noUp`: without `..` the components are appended in order
-/

namespace PosixPath

/-- What one component of a path does to the current directory. -/
inductive Move (α : Type*) where
  | stay
  | up
  | down (a : α)

variable {α : Type*}

/-- Follow the moves from the directory `st` (innermost component first). `none`
    means that a `..` climbed above the start of the stack. -/
def walk : List (Move α) → List α → Option (List α)
  | [], st => some st
  | .stay :: ms, st => walk ms st
  | .down a :: ms, st => walk ms (a :: st)
  | .up :: _, [] => none
  | .up :: ms, _ :: st => walk ms st

/-- Follow the moves from the directory `st` on a whole file system, where the
    parent of the root is the root. -/
def walkAbs : List (Move α) → List α → List α
  | [], st => st
  | .stay :: ms, st => walkAbs ms st
  | .down a :: ms, st => walkAbs ms (a :: st)
  | .up :: ms, st => walkAbs ms st.tail

/-- How many directories above the start the moves cancel. -/
def cancels : List (Move α) → Nat
  | [] => 0
  | .stay :: ms => cancels ms
  | .down _ :: ms => cancels ms - 1
  | .up :: ms => cancels ms + 1

/-- The components that no later `..` cancels, outermost first. -/
def kept : List (Move α) → List α
  | [] => []
  | .stay :: ms | .up :: ms => kept ms
  | .down a :: ms => if cancels ms = 0 then a :: kept ms else kept ms

/-- The directories entered, in order, when nothing is cancelled. -/
def downs : List (Move α) → List α
  | [] => []
  | .stay :: ms | .up :: ms => downs ms
  | .down a :: ms => a :: downs ms

/-- No component is `..`. -/
def NoUp (ms : List (Move α)) : Prop := Move.up ∉ ms

/-! ## Where a walk ends -/

/-- A walk succeeds when the stack is deep enough for what it cancels, and then ends
    in the kept components on top of the rest of the stack. -/
theorem walk_eq (ms : List (Move α)) (st : List α) :
    walk ms st =
      if cancels ms ≤ st.length then some ((kept ms).reverse ++ st.drop (cancels ms))
      else none := by
  induction ms generalizing st with
  | nil => simp [walk, cancels, kept]
  | cons m ms ih =>
    cases m with
    | stay => exact ih st
    | up =>
      cases st with
      | nil => simp [walk, cancels]  -- the start of the stack: the walk fails
      | cons a st =>
        rw [walk, ih]
        simp only [cancels, kept, List.length_cons, Nat.add_le_add_iff_right, List.drop_succ_cons]
    | down a =>
      rw [walk, ih]
      by_cases hc : cancels ms = 0
      · -- `a` is kept
        simp [cancels, kept, hc]
      · -- a later `..` cancels `a`
        obtain ⟨k, hk⟩ : ∃ k, cancels ms = k + 1 := ⟨cancels ms - 1, by omega⟩
        simp [cancels, kept, hk]

/-- From the start of the stack: the walk ends in the kept components, unless it
    climbs above the start. -/
theorem walk_nil (ms : List (Move α)) :
    walk ms [] = if cancels ms = 0 then some (kept ms).reverse else none := by
  rw [walk_eq]
  simp

/-- The kept components are among the directories entered. -/
theorem kept_sublist_downs (ms : List (Move α)) : (kept ms).Sublist (downs ms) := by
  induction ms with
  | nil => exact .slnil
  | cons m ms ih =>
    cases m with
    | stay => exact ih
    | up => exact ih
    | down a =>
      rw [kept, downs]
      split
      · exact ih.cons_cons a
      · exact ih.cons a

/-- A walk that stays below its start is not affected by what lies above it. -/
theorem walkAbs_of_walk {ms : List (Move α)} {st st' : List α} (above : List α)
    (h : walk ms st = some st') : walkAbs ms (st ++ above) = st' ++ above := by
  induction ms generalizing st with
  | nil =>
    rw [walk, Option.some.injEq] at h
    rw [walkAbs, h]
  | cons m ms ih =>
    cases m with
    | stay => exact ih h
    | up =>
      cases st with
      | nil => exact absurd h (by simp [walk])  -- the walk did not fail
      | cons a st => exact ih h
    | down a => exact @ih (a :: st) h

/-- Without `..` nothing is cancelled. -/
theorem walkAbs_of_noUp {ms : List (Move α)} (h : NoUp ms) (st : List α) :
    walkAbs ms st = (downs ms).reverse ++ st := by
  induction ms generalizing st with
  | nil => simp [walkAbs, downs]
  | cons m ms ih =>
    have htail : NoUp ms := fun hup => h (List.mem_cons_of_mem _ hup)
    cases m with
    | stay => exact ih htail st
    | up => exact absurd List.mem_cons_self h
    | down a =>
      rw [walkAbs, ih htail]
      simp [downs]

/-- Resolving paths without `..` from the same directory ends in the same place
    exactly when they go down through the same components. -/
theorem walkAbs_inj_of_noUp {ms ms' : List (Move α)} (h : NoUp ms) (h' : NoUp ms')
    (st : List α) : walkAbs ms st = walkAbs ms' st ↔ downs ms = downs ms' := by
  rw [walkAbs_of_noUp h, walkAbs_of_noUp h', List.append_cancel_right_eq, List.reverse_inj]

/-! ## Paths as strings -/

/-- What a path component does. -/
def move (c : String) : Move String :=
  if c = "" ∨ c = "." then .stay else if c = ".." then .up else .down c

/-- The moves of a path, slash by slash. -/
def moves (path : String) : List (Move String) :=
  ((path.toList.splitOn '/').map String.ofList).map move

/-- Where the path leads from the directory it starts in, outermost component first;
    `none` when it climbs above that directory. -/
def resolve (path : String) : Option (List String) := (walk (moves path) []).map List.reverse

/-- The file that the path denotes below the directory `base`. -/
def fileAt (base : List String) (path : String) : List String :=
  (walkAbs (moves path) base.reverse).reverse

/-- Only `..` goes up. -/
theorem move_eq_up {c : String} : move c = .up ↔ c = ".." := by
  unfold move
  split
  · rename_i h
    cases h with
    | inl h => simp [h]
    | inr h => simp [h]
  · split <;> simp_all

/-- A name other than the empty one, `.` and `..` goes down. -/
theorem move_ordinary {c : String} (h₀ : c ≠ "") (h₁ : c ≠ ".") (h₂ : c ≠ "..") :
    move c = .down c := by
  simp [move, h₀, h₁, h₂]

/-- The components a path goes down through are the ones that are neither empty nor
    `.` nor `..`. -/
theorem downs_map_move (cs : List String) :
    downs (cs.map move) = cs.filter fun c => c ≠ "" ∧ c ≠ "." ∧ c ≠ ".." := by
  induction cs with
  | nil => rfl
  | cons c cs ih =>
    by_cases h₀ : c = ""
    · simp [h₀, move, downs, ih]
    by_cases h₁ : c = "."
    · simp [h₁, move, downs, ih]
    by_cases h₂ : c = ".."
    · simp [h₂, move, downs, ih]
    simp [move_ordinary h₀ h₁ h₂, downs, ih, h₀, h₁, h₂]

/-- A kept component is an ordinary name. -/
theorem ordinary_of_mem_kept {cs : List String} {c : String} (h : c ∈ kept (cs.map move)) :
    c ≠ "" ∧ c ≠ "." ∧ c ≠ ".." := by
  have hdowns := (kept_sublist_downs _).subset h
  rw [downs_map_move, List.mem_filter] at hdowns
  simpa using hdowns.2

/-- Empty components do not move: a walk may drop them. -/
theorem walk_filter_ne_empty (cs : List String) (st : List String) :
    walk (cs.map move) st = walk ((cs.filter (· ≠ "")).map move) st := by
  induction cs generalizing st with
  | nil => rfl
  | cons c cs ih =>
    by_cases h₀ : c = ""
    · -- `c` is dropped, and it does not move
      have hmove : move c = .stay := by simp [move, h₀]
      rw [List.map_cons, hmove, walk, ih, List.filter_cons_of_neg (by simpa using h₀)]
    · -- `c` stays, and the walks go on from the same directory
      rw [List.filter_cons_of_pos (by simpa using h₀), List.map_cons, List.map_cons]
      cases hm : move c with
      | stay => exact ih st
      | down a => exact ih (a :: st)
      | up =>
        cases st with
        | nil => rfl
        | cons b st => exact ih st

/-- A path that never climbs above its start denotes the same file below every
    directory. -/
theorem fileAt_of_resolve {path : String} {dirs : List String} (base : List String)
    (h : resolve path = some dirs) : fileAt base path = base ++ dirs := by
  rw [resolve, Option.map_eq_some_iff] at h
  obtain ⟨st, hwalk, rfl⟩ := h
  have hfile := walkAbs_of_walk base.reverse hwalk
  rw [List.nil_append] at hfile
  rw [fileAt, hfile, List.reverse_append, List.reverse_reverse]

end PosixPath
