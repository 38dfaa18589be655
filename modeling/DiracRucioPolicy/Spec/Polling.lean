import DiracRucioPolicy.Native.Polling
import Mathlib.Algebra.Order.Group.Abs
import Mathlib.Tactic.Linarith

/-!
# How waiting ends

Waiting with a finite timeout ends, whatever answers come. It ends well only if the last
answer has the status that is waited for, and it fails for the reason that it gives. Time is
measured with floats, so what is said about time holds up to a tolerance.

## Key results

- `spec_round`: what one round of the loop keeps
- `Waiting.wait_explained`: every end of the waiting is explained by the answers and the clock,
  and the number of questions is bounded
-/

namespace DiracRucioPolicy.Polling

open Script

/-! ## The clock and the answers -/

/-- The time, and the answers so far. -/
structure Clocked (α : Type) where
  clock : Rat
  seen : List α

variable {α β : Type}

/-- Time passes while a command is executed. The clock is read at its end, and `sleep` takes as
    long as it should at least. -/
def answers (reads : Rat → Rat → Prop) :
    (c : Command) → Clocked α → Reply α c → Clocked α → Prop
  | .perfCounter, s, r, s' => s.clock ≤ s'.clock ∧ reads s'.clock r ∧ s'.seen = s.seen
  | .ask, s, r, s' => s.clock ≤ s'.clock ∧ s'.seen = s.seen ++ ([r] : List α)
  | .sleep seconds, s, _, s' => s.clock + seconds ≤ s'.clock ∧ s'.seen = s.seen

/-- A server that answers anything, and sometimes fails. -/
def server (reads : Rat → Rat → Prop) : World (Reply α) Error (Clocked α) where
  answers := answers reads
  raises _ s e s' := e = .client ∧ s'.seen = s.seen

/-- The difference of two readings of the clock is the time between them up to a tolerance. -/
def Measures (reads : Rat → Rat → Prop) (minus : Rat → Rat → Rat) (tol : Rat) : Prop :=
  ∀ t₀ r₀ t r, reads t₀ r₀ → reads t r → t₀ ≤ t → |minus r r₀ - (t - t₀)| ≤ tol

/-- What is measured below the timeout is not much above it. -/
theorem Measures.lt_of_isBelow {reads : Rat → Rat → Prop} {minus : Rat → Rat → Rat}
    {tol timeout t₀ r₀ t r : Rat} (h : Measures reads minus tol) (h₀ : reads t₀ r₀)
    (hr : reads t r) (hle : t₀ ≤ t)
    (hbelow : PyFloat.isBelow (minus r r₀) (.finite timeout) = true) : t - t₀ < timeout + tol := by
  have hlt : minus r r₀ < timeout := of_decide_eq_true hbelow
  have habs := (abs_le.mp (h t₀ r₀ t r h₀ hr hle)).1
  linarith

/-- What is not is not much below it. -/
theorem Measures.le_of_not_isBelow {reads : Rat → Rat → Prop} {minus : Rat → Rat → Rat}
    {tol timeout t₀ r₀ t r : Rat} (h : Measures reads minus tol) (h₀ : reads t₀ r₀)
    (hr : reads t r) (hle : t₀ ≤ t)
    (hbelow : ¬ PyFloat.isBelow (minus r r₀) (.finite timeout) = true) :
    timeout - tol ≤ t - t₀ := by
  have hge : timeout ≤ minus r r₀ := not_lt.mp fun hlt => hbelow (decide_eq_true hlt)
  have habs := (abs_le.mp (h t₀ r₀ t r h₀ hr hle)).2
  linarith

/-! ## Explanations -/

namespace Waiting

variable (w : Waiting α β)

/-- The answer is no reason to end. -/
def Pending (r : α) : Prop :=
  ∃ current, w.statusOf r = .ok current ∧ current ≠ w.status ∧ current ∉ w.errorOn

/-- The last status, and the answer with it. -/
def lastOf (seen : List α) : Option (String × α) :=
  seen.getLast?.bind fun r => (w.statusOf r).toOption.map (·, r)

/-- Why the waiting ends, if it has begun at the time `t₀` and the deadline is the time span
    `deadline` later. -/
def Explained (deadline t₀ : Rat) (s : Clocked α) : Except Error β → Prop
  | .ok result => ∃ before r, s.seen = before ++ [r] ∧ (∀ r ∈ before, w.Pending r) ∧
      w.statusOf r = .ok w.status ∧ result = w.result r
  | .error (.valueError msg) => ∃ before r current, s.seen = before ++ [r] ∧
      (∀ r ∈ before, w.Pending r) ∧ w.statusOf r = .ok current ∧ current ≠ w.status ∧
      current ∈ w.errorOn ∧ msg = w.errorState current
  | .error (.timeoutError msg) => (∀ r ∈ s.seen, w.Pending r) ∧ deadline ≤ s.clock - t₀ ∧
      msg = w.timedOut (w.lastOf s.seen)
  | .error (.keyError key) => ∃ before r, s.seen = before ++ [r] ∧
      (∀ r ∈ before, w.Pending r) ∧ w.statusOf r = .error key
  | .error .client => ∀ r ∈ s.seen, w.Pending r
  | .error .fuel => False

/-- There are no more questions than fit into the time span. -/
def Bounded (span : Rat) (s : Clocked α) : Prop :=
  ∀ before r, s.seen = before ++ [r] → (before.length : Rat) * w.poll < span

/-- Before a round with the fuel, after a start at the time `start`. -/
structure Going (timeout tol t₀ start : Rat) (fuel : Nat) (last : Option (String × α))
    (s : Clocked α) : Prop where
  begun : t₀ ≤ start ∧ start ≤ s.clock
  pending : ∀ r ∈ s.seen, w.Pending r
  known : last = w.lastOf s.seen
  bounded : w.Bounded (timeout + tol) s
  asked : (s.seen.length : Rat) * w.poll ≤ s.clock - start
  goesOn : 0 < fuel
  enough : timeout + tol ≤ s.clock - start + ((fuel : Rat) - 1) * w.poll

/-- The waiting ends with an exception, explained and in time. -/
def Fails (timeout tol t₀ : Rat) (e : Error) (s : Clocked α) : Prop :=
  w.Bounded (timeout + tol) s ∧ w.Explained (timeout - tol) t₀ s (.error e)

/-- After the question of a round, the answer to which is not known yet. -/
structure Asked (timeout tol t₀ start : Rat) (fuel : Nat) (result : α) (before : List α)
    (s : Clocked α) : Prop where
  begun : t₀ ≤ start ∧ start ≤ s.clock
  seen : s.seen = before ++ [result]
  pending : ∀ r ∈ before, w.Pending r
  bounded : w.Bounded (timeout + tol) s
  asked : (before.length : Rat) * w.poll ≤ s.clock - start
  goesOn : 0 < fuel
  enough : timeout + tol ≤ s.clock - start + fuel * w.poll

variable {w}

/-! ## One round -/

section

variable {timeout tol t₀ start : Rat} {fuel : Nat} {last : Option (String × α)}

/-- Time passes before the next question. -/
theorem Going.wait {s s' : Clocked α} (h : w.Going timeout tol t₀ start fuel last s)
    (hclock : s.clock ≤ s'.clock) (hseen : s'.seen = s.seen) :
    w.Going timeout tol t₀ start fuel last s' where
  begun := ⟨h.begun.1, h.begun.2.trans hclock⟩
  pending := by rw [hseen]; exact h.pending
  known := by rw [hseen]; exact h.known
  bounded := by rw [Bounded, hseen]; exact h.bounded
  asked := by
    rw [hseen]
    linarith [h.asked]
  goesOn := h.goesOn
  enough := by linarith [h.enough]

/-- A command of the client fails. -/
theorem Going.fails {s s' : Clocked α} (h : w.Going timeout tol t₀ start fuel last s)
    (hseen : s'.seen = s.seen) : w.Fails timeout tol t₀ .client s' := by
  refine ⟨?_, ?_⟩
  · rw [Bounded, hseen]
    exact h.bounded
  · show ∀ r ∈ s'.seen, w.Pending r
    rw [hseen]
    exact h.pending

/-- The status of the last answer is the last status. -/
theorem lastOf_append {before : List α} {result : α} {current : String}
    (h : w.statusOf result = .ok current) :
    w.lastOf (before ++ [result]) = some (current, result) := by
  simp [lastOf, h, Except.toOption]

/-- Before the deadline there is fuel for another question. -/
theorem Going.ask (hpoll : 0 < w.poll) {s s' : Clocked α} {result : α}
    (h : w.Going timeout tol t₀ start (fuel + 1) last s) (htime : s.clock - start < timeout + tol)
    (hclock : s.clock ≤ s'.clock) (hseen : s'.seen = s.seen ++ [result]) :
    w.Asked timeout tol t₀ start fuel result s.seen s' where
  begun := ⟨h.begun.1, h.begun.2.trans hclock⟩
  seen := hseen
  pending := h.pending
  bounded := by
    intro before r heq
    rw [hseen] at heq
    rw [← (List.append_inj' heq rfl).1]
    exact lt_of_le_of_lt h.asked htime
  asked := by linarith [h.asked]
  goesOn := by
    have henough := h.enough
    have hpos : (0 : Rat) < fuel * w.poll := by
      push_cast at henough
      linarith
    exact_mod_cast (pos_iff_pos_of_mul_pos hpos).mpr hpoll
  enough := by
    have henough := h.enough
    push_cast at henough
    linarith

/-- The answer was no reason to end, either. -/
theorem Asked.pending_all {s s' : Clocked α} {result : α} {before : List α} {current : String}
    (h : w.Asked timeout tol t₀ start fuel result before s)
    (hcurrent : w.statusOf result = .ok current) (hstatus : current ≠ w.status)
    (herror : current ∉ w.errorOn) (hseen : s'.seen = s.seen) : ∀ r ∈ s'.seen, w.Pending r := by
  rw [hseen, h.seen]
  intro r hr
  cases List.mem_append.mp hr with
  | inl hr => exact h.pending r hr
  | inr hr => exact List.mem_singleton.mp hr ▸ ⟨current, hcurrent, hstatus, herror⟩

/-- After the pause the next round begins. -/
theorem Asked.goOn (hpoll : 0 < w.poll) {s s' : Clocked α} {result : α} {before : List α}
    {current : String} (h : w.Asked timeout tol t₀ start fuel result before s)
    (hcurrent : w.statusOf result = .ok current) (hstatus : current ≠ w.status)
    (herror : current ∉ w.errorOn) (hclock : s.clock + w.poll ≤ s'.clock)
    (hseen : s'.seen = s.seen) :
    w.Going timeout tol t₀ start fuel (some (current, result)) s' where
  begun := ⟨h.begun.1, by linarith [h.begun.2]⟩
  pending := h.pending_all hcurrent hstatus herror hseen
  known := by rw [hseen, h.seen, lastOf_append hcurrent]
  bounded := by rw [Bounded, hseen]; exact h.bounded
  asked := by
    have hasked := h.asked
    rw [hseen, h.seen, List.length_append, List.length_singleton]
    push_cast
    linarith
  goesOn := h.goesOn
  enough := by
    have henough := h.enough
    linarith

variable {reads : Rat → Rat → Prop} {r₀ : Rat}

/-- A round goes on with one unit of fuel less, or ends explained. -/
theorem spec_round (hpoll : 0 < w.poll) (htimeout : w.timeout = .finite timeout)
    (hmeasures : Measures reads w.minus tol) (hstart : reads start r₀) (fuel : Nat)
    (last : Option (String × α)) :
    Triple (server reads) (fun _ _ => True) (w.Fails timeout tol t₀)
      (w.Going timeout tol t₀ start (fuel + 1) last) (w.round r₀ last) fun r s =>
        (∀ last', r = .inl last' → w.Going timeout tol t₀ start fuel last' s) ∧
          ∀ result, r = .inr result →
            w.Bounded (timeout + tol) s ∧ w.Explained (timeout - tol) t₀ s (.ok result) := by
  refine Triple.bind (Q := fun now s =>
    w.Going timeout tol t₀ start (fuel + 1) last s ∧ reads s.clock now) ?_ fun now => ?_
  · refine Triple.issue (fun _ _ => trivial) ?_ ?_
    · intro s r s' hs h
      obtain ⟨hclock, hread, hseen⟩ := h
      exact ⟨hs.wait hclock hseen, hread⟩
    · intro s e s' hs h
      obtain ⟨rfl, hseen⟩ := h
      exact hs.fails hseen
  rw [htimeout]
  refine Triple.ite ?_ ?_
  · intro htime
    refine Triple.bind (Q := fun result s => ∃ before,
      w.Asked timeout tol t₀ start fuel result before s) ?_ fun result => ?_
    · refine Triple.issue (fun _ _ => trivial) ?_ ?_
      · intro s r s' hs h
        obtain ⟨hgoing, hread⟩ := hs
        have hbefore := hmeasures.lt_of_isBelow hstart hread hgoing.begun.2 htime
        exact ⟨s.seen, hgoing.ask hpoll hbefore h.1 h.2⟩
      · intro s e s' hs h
        obtain ⟨rfl, hseen⟩ := h
        exact hs.1.fails hseen
    refine Triple.bind (Q := fun current s => w.statusOf result = .ok current ∧
      ∃ before, w.Asked timeout tol t₀ start fuel result before s) (Triple.ofExcept ?_ ?_)
        fun current => ?_
    · intro current hcurrent s hs
      cases hstatus : w.statusOf result with
      | error key => rw [hstatus] at hcurrent; cases hcurrent
      | ok current' => rw [hstatus] at hcurrent; cases hcurrent; exact ⟨rfl, hs⟩
    · intro e he s hs
      obtain ⟨before, hasked⟩ := hs
      cases hstatus : w.statusOf result with
      | error key =>
        rw [hstatus] at he
        cases he
        exact ⟨hasked.bounded, before, result, hasked.seen, hasked.pending, hstatus⟩
      | ok current' => rw [hstatus] at he; cases he
    refine Triple.ite ?_ fun hne => Triple.ite ?_ ?_
    · intro heq
      refine Triple.pure fun s hs => ⟨nofun, fun r hr => ?_⟩
      obtain ⟨hcurrent, before, hasked⟩ := hs
      cases hr
      exact ⟨hasked.bounded, before, result, hasked.seen, hasked.pending, heq ▸ hcurrent, rfl⟩
    · intro herror
      refine Triple.raise fun s hs => ?_
      obtain ⟨hcurrent, before, hasked⟩ := hs
      exact ⟨hasked.bounded, before, result, current, hasked.seen, hasked.pending, hcurrent, hne,
        herror, rfl⟩
    · intro herror
      refine Triple.bind (Q := fun _ => w.Going timeout tol t₀ start fuel (some (current, result)))
        ?_ fun _ => Triple.pure fun s hs => ⟨fun last' hlast => ?_, nofun⟩
      · refine Triple.issue (fun _ _ => trivial) ?_ ?_
        · intro s r s' hs h
          obtain ⟨hcurrent, before, hasked⟩ := hs
          exact hasked.goOn hpoll hcurrent hne herror h.1 h.2
        · intro s e s' hs h
          obtain ⟨hcurrent, before, hasked⟩ := hs
          obtain ⟨rfl, hseen⟩ := h
          refine ⟨?_, hasked.pending_all hcurrent hne herror hseen⟩
          rw [Bounded, hseen]
          exact hasked.bounded
      · cases hlast
        exact hs
  · intro htime
    refine Triple.raise fun s hs => ?_
    obtain ⟨hgoing, hread⟩ := hs
    have hafter := hmeasures.le_of_not_isBelow hstart hread hgoing.begun.2 htime
    refine ⟨hgoing.bounded, hgoing.pending, ?_, by rw [hgoing.known]⟩
    linarith [hgoing.begun.1]

end

/-! ## The loop -/

/-- With a finite timeout and a positive pause the waiting ends, and its end is explained: the
    last answer has the status that is waited for, or it is an error, or there was none in
    time. The number of questions is bounded by the time. -/
theorem wait_explained (w : Waiting α β) (hpoll : 0 < w.poll) {timeout tol : Rat}
    (htimeout : w.timeout = .finite timeout) {reads : Rat → Rat → Prop}
    (hmeasures : Measures reads w.minus tol) {rounds : Nat}
    (htime : timeout + tol ≤ rounds * w.poll) {s s' : Clocked α} {o : Except Error β}
    (hseen : s.seen = []) (hend : Ends (server reads) (w.wait (rounds + 1)) s o s') :
    w.Explained (timeout - tol) s.clock s' o ∧ w.Bounded (timeout + tol) s' := by
  have hnone : ∀ {s' : Clocked α}, s'.seen = s.seen → w.Bounded (timeout + tol) s' := by
    intro s' hsame before r h
    rw [hsame, hseen] at h
    exact absurd h.symm (List.append_ne_nil_of_right_ne_nil before (List.cons_ne_nil r []))
  have hwait : Triple (server reads) (fun _ _ => True) (w.Fails timeout tol s.clock) (· = s)
      (w.wait (rounds + 1)) fun result s' =>
        w.Bounded (timeout + tol) s' ∧ w.Explained (timeout - tol) s.clock s' (.ok result) := by
    refine Triple.bind (Q := fun r₀ s' => ∃ start, reads start r₀ ∧
      w.Going timeout tol s.clock start (rounds + 1) none s') ?_ fun r₀ => ?_
    · refine Triple.issue (fun _ _ => trivial) ?_ ?_
      · intro s₀ r s' hs h
        cases hs
        obtain ⟨hclock, hread, hsame⟩ := h
        refine ⟨s'.clock, hread, ⟨hclock, le_rfl⟩, ?_, ?_, hnone hsame, ?_, Nat.succ_pos _, ?_⟩
        · rw [hsame, hseen]
          exact nofun
        · rw [hsame, hseen]
          rfl
        · rw [hsame, hseen]
          simp
        · push_cast
          linarith
      · intro s₀ e s' hs h
        cases hs
        obtain ⟨rfl, hsame⟩ := h
        refine ⟨hnone hsame, ?_⟩
        show ∀ r ∈ s'.seen, w.Pending r
        rw [hsame, hseen]
        exact nofun
    · intro s₁ hs₁
      obtain ⟨start, hread, hgoing⟩ := hs₁
      exact Triple.loop (w.Going timeout tol s.clock start)
        (spec_round hpoll htimeout hmeasures hread) (fun _ _ h => absurd h.goesOn
          (Nat.lt_irrefl 0)) _ _ s₁ hgoing
  obtain ⟨hok, herror⟩ := post_of_wp (hwait s rfl) hend
  cases o with
  | ok result => exact (hok result rfl).symm
  | error e => exact (herror e rfl).symm

end Waiting

/-- No state of a replication rule ends the waiting for another one. -/
theorem not_explained_valueError (minus : Rat → Rat → Rat) (str : PyFloat → String)
    (repr : Option RuleResponse → String) (rule status : String) (timeout : PyFloat)
    (poll deadline t₀ : Rat) (s : Clocked RuleResponse) (msg : String) :
    ¬ (waitForReplicationStatus minus str repr rule status timeout poll).Explained deadline t₀ s
      (.error (.valueError msg)) := by
  intro h
  obtain ⟨_, _, _, _, _, _, _, herror, _⟩ := h
  exact List.not_mem_nil herror

/-! ## A job that is done at the second question -/

/-- An answer about the job 1. -/
def jobAnswer (status : String) : JobResponse := [("Value", [(1, [("Status", status)])])]

/-- Waiting for the job for ten seconds, with floats that are exact. -/
def waitForJob : Waiting JobResponse JobResponse :=
  waitForStatus (· - ·) (fun _ => "10.0") 1 "Done" (some ["Failed"]) (.finite 10) 5

/-- The job is running at first, and done after a pause of five seconds. -/
theorem waitForJob_ends : Ends (server fun t r => r = t) (waitForJob.wait (2 + 1)) ⟨0, []⟩
    (.ok (jobAnswer "Done")) ⟨5, [jobAnswer "Running", jobAnswer "Done"]⟩ := by
  have hread : ∀ s : Clocked JobResponse,
      answers (fun t r => r = t) .perfCounter s s.clock s := fun _ => ⟨le_rfl, rfl, rfl⟩
  have hask : ∀ (s : Clocked JobResponse) (r : JobResponse),
      answers (fun t r => r = t) .ask s r ⟨s.clock, s.seen ++ [r]⟩ := fun _ _ => ⟨le_rfl, rfl⟩
  have hpause : answers (fun t r => r = t) (.sleep 5) ⟨0, [jobAnswer "Running"]⟩ ()
      ⟨5, [jobAnswer "Running"]⟩ := ⟨show (0 : Rat) + 5 ≤ 5 by norm_num, rfl⟩
  have hbelow : PyFloat.isBelow (waitForJob.minus 0 0) waitForJob.timeout = true :=
    decide_eq_true (show (0 : Rat) - 0 < 10 by norm_num)
  have hbelow' : PyFloat.isBelow (waitForJob.minus 5 0) waitForJob.timeout = true :=
    decide_eq_true (show (5 : Rat) - 0 < 10 by norm_num)
  refine .answer (hread ⟨0, []⟩) (.answer (hread ⟨0, []⟩) ?_)
  -- the first question, and the pause
  show Ends _ (Script.bind (ite (PyFloat.isBelow (waitForJob.minus 0 0) _ = true) _ _) _) _ _ _
  rw [if_pos hbelow]
  refine .answer (hask ⟨0, []⟩ (jobAnswer "Running")) ?_
  refine .answer (r := ()) hpause (.answer (hread ⟨5, _⟩) ?_)
  -- the second question
  show Ends _ (Script.bind (ite (PyFloat.isBelow (waitForJob.minus 5 0) _ = true) _ _) _) _ _ _
  rw [if_pos hbelow']
  exact .answer (hask ⟨5, [jobAnswer "Running"]⟩ (jobAnswer "Done")) .ret

/-- The answer is returned because it has the status, and the one before had not. -/
theorem wait_explained_done :
    waitForJob.Explained (10 - 0) 0 ⟨5, [jobAnswer "Running", jobAnswer "Done"]⟩
      (.ok (jobAnswer "Done")) ∧
    waitForJob.Bounded (10 + 0) ⟨5, [jobAnswer "Running", jobAnswer "Done"]⟩ := by
  have hpoll : waitForJob.poll = 5 := rfl
  have hmeasures : Measures (fun t r => r = t) waitForJob.minus 0 := by
    intro t₀ r₀ t r h₀ h _
    rw [h₀, h]
    show |t - t₀ - (t - t₀)| ≤ 0
    simp
  exact Waiting.wait_explained waitForJob (by norm_num [hpoll]) rfl hmeasures
    (by norm_num [hpoll]) rfl waitForJob_ends

end DiracRucioPolicy.Polling
