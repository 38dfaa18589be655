import Mathlib.Logic.Basic

/-!
# Scripts

A script acts by commands: it issues a command, goes on with the answer, and ends with a
result or an exception. A command that raises ends the script. What a command answers and
what it does is left to a world, which need not be deterministic.

## Key results

- `Script.wp_bind`: the precondition of two scripts in sequence
- `Script.invariant_of_wp`, `Script.invariant_of_wp_ok`: what the commands keep
- `Script.guard_of_wp`, `Script.post_of_wp`: when the precondition holds, every command is
  issued where its guard holds, and every end is as required
- `Script.Triple.bind`, `Script.Triple.forM`, `Script.Triple.loop`: the rules for triples
-/

/-- A script with commands `c : C`, the answers to which have the type `R c`. -/
inductive Script {C : Type} (R : C → Type) (ε α : Type) where
  | ret (a : α)
  | raise (e : ε)
  | call (c : C) (next : R c → Script R ε α)

/-- What commands do: a command answers or raises, and may change the state. -/
structure World {C : Type} (R : C → Type) (ε σ : Type) where
  answers : (c : C) → σ → R c → σ → Prop
  raises : C → σ → ε → σ → Prop

namespace Script

variable {C : Type} {R : C → Type} {ε α β σ : Type}

/-- One script, and then another with its result. -/
def bind : Script R ε α → (α → Script R ε β) → Script R ε β
  | ret a, f => f a
  | raise e, _ => raise e
  | call c next, f => call c fun r => (next r).bind f

instance : Monad (Script R ε) where
  pure := ret
  bind := bind

/-- The script of one command. -/
def issue (c : C) : Script R ε (R c) := call c ret

/-- The script, if the condition holds. -/
def when (b : Bool) (p : Script R ε Unit) : Script R ε Unit := if b then p else pure ()

/-- `a or b`, where `b` is run only if it must be. -/
def or (a : Bool) (p : Script R ε Bool) : Script R ε Bool := if a then pure true else p

/-- The result, or the exception. -/
def ofExcept : Except ε α → Script R ε α
  | .ok a => ret a
  | .error e => raise e

/-- A loop, whose body ends it with a result or asks for another round. It raises when it
    runs out of fuel. -/
def loop (e : ε) (body : β → Script R ε (β ⊕ α)) : Nat → β → Script R ε α
  | 0, _ => raise e
  | fuel + 1, b => do
    match ← body b with
    | .inl b' => loop e body fuel b'
    | .inr a => pure a

/-! ## Executions -/

/-- The script can end in the state `s'`, with a result or an exception. -/
inductive Ends (W : World R ε σ) : Script R ε α → σ → Except ε α → σ → Prop
  | ret {a s} : Ends W (.ret a) s (.ok a) s
  | raise {e s} : Ends W (.raise e) s (.error e) s
  | answer {c next s r s₁ o s'} : W.answers c s r s₁ → Ends W (next r) s₁ o s' →
      Ends W (.call c next) s o s'
  | fail {c next s e s'} : W.raises c s e s' → Ends W (.call c next) s (.error e) s'

section

variable (W : World R ε σ) (G : C → σ → Prop) (E : ε → σ → Prop)

/-- What must hold of the state so that every command is issued where its guard holds, the
    result is as required, and an exception, too. -/
def wp : Script R ε α → (α → σ → Prop) → σ → Prop
  | ret a, Q => Q a
  | raise e, _ => E e
  | call c next, Q => fun s => G c s ∧ (∀ r s', W.answers c s r s' → (next r).wp Q s') ∧
      ∀ e s', W.raises c s e s' → E e s'

variable {W G E}

/-- The precondition of a sequence is that of its first part, with that of the second part as
    its postcondition. -/
theorem wp_bind {p : Script R ε α} {f : α → Script R ε β} {Q : β → σ → Prop} {s : σ} :
    wp W G E (p >>= f) Q s ↔ wp W G E p (fun a => wp W G E (f a) Q) s := by
  show wp W G E (p.bind f) Q s ↔ _
  induction p generalizing s with
  | ret a => exact Iff.rfl
  | raise e => exact Iff.rfl
  | call c next ih =>
    simp only [bind, wp]
    apply and_congr_right
    intro _
    apply and_congr_left
    intro _
    exact forall_congr' fun r => forall_congr' fun s' => imp_congr_right fun _ => ih r

/-- A weaker postcondition has a weaker precondition. -/
theorem wp_mono {p : Script R ε α} {Q Q' : α → σ → Prop} {s : σ} (h : wp W G E p Q s)
    (hQ : ∀ a s', Q a s' → Q' a s') : wp W G E p Q' s := by
  induction p generalizing s with
  | ret a => exact hQ a s h
  | raise e => exact h
  | call c next ih =>
    obtain ⟨hguard, hnext, hraise⟩ := h
    exact ⟨hguard, fun r s' hr => ih r (hnext r s' hr), hraise⟩

/-- Every end is as required. -/
theorem post_of_wp {p : Script R ε α} {Q : α → σ → Prop} {s s' : σ} {o : Except ε α}
    (h : wp W G E p Q s) (hend : Ends W p s o s') :
    (∀ a, o = .ok a → Q a s') ∧ ∀ e, o = .error e → E e s' := by
  induction hend with
  | ret =>
    constructor
    · intro a ha
      cases ha
      exact h
    · intro e he
      cases he
  | raise =>
    constructor
    · intro a ha
      cases ha
    · intro e he
      cases he
      exact h
  | answer hr _ ih => exact ih (h.2.1 _ _ hr)
  | fail hr =>
    constructor
    · intro a ha
      cases ha
    · intro e he
      cases he
      exact h.2.2 _ _ hr

/-- What every ready command keeps, even when it raises, holds at every end. -/
theorem invariant_of_wp {I : σ → Prop} {p : Script R ε α} {Q : α → σ → Prop} {s s' : σ}
    {o : Except ε α} (h : wp W G E p Q s)
    (hanswer : ∀ c s r s', I s → G c s → W.answers c s r s' → I s')
    (hraise : ∀ c s e s', I s → G c s → W.raises c s e s' → I s')
    (hend : Ends W p s o s') (hs : I s) : I s' := by
  induction hend with
  | ret => exact hs
  | raise => exact hs
  | answer hr _ ih => exact ih (h.2.1 _ _ hr) (hanswer _ _ _ _ hs h.1 hr)
  | fail hr => exact hraise _ _ _ _ hs h.1 hr

end

/-! ## Triples -/

/-- From a state in which `P` holds the script keeps the guards and ends as required. -/
def Triple (W : World R ε σ) (G : C → σ → Prop) (E : ε → σ → Prop) (P : σ → Prop)
    (p : Script R ε α) (Q : α → σ → Prop) : Prop :=
  ∀ s, P s → wp W G E p Q s

namespace Triple

variable {W : World R ε σ} {G : C → σ → Prop} {E : ε → σ → Prop} {P P' : σ → Prop}
  {Q Q' : α → σ → Prop}

/-- A result is required to satisfy the postcondition. -/
theorem pure {a : α} (h : ∀ s, P s → Q a s) : Triple W G E P (pure a) Q := h

/-- The rule for sequences. -/
theorem bind {p : Script R ε α} {f : α → Script R ε β} {Q' : β → σ → Prop}
    (hp : Triple W G E P p Q) (hf : ∀ a, Triple W G E (Q a) (f a) Q') :
    Triple W G E P (p >>= f) Q' := by
  intro s hs
  rw [wp_bind]
  exact wp_mono (hp s hs) hf

/-- The rule for what is done with a result. -/
theorem map {f : α → β} {p : Script R ε α} {Q' : β → σ → Prop}
    (hp : Triple W G E P p fun a => Q' (f a)) : Triple W G E P (f <$> p) Q' :=
  bind hp fun _ _ h => h

/-- The rule of consequence. -/
theorem conseq {p : Script R ε α} (hp : Triple W G E P p Q) (hP : ∀ s, P' s → P s)
    (hQ : ∀ a s, Q a s → Q' a s) : Triple W G E P' p Q' :=
  fun s hs => wp_mono (hp s (hP s hs)) hQ

/-- The rule for one command. -/
theorem issue {c : C} {Q : R c → σ → Prop} (hguard : ∀ s, P s → G c s)
    (hanswer : ∀ s r s', P s → W.answers c s r s' → Q r s')
    (hraise : ∀ s e s', P s → W.raises c s e s' → E e s') : Triple W G E P (issue c) Q :=
  fun s hs => ⟨hguard s hs, fun r s' => hanswer s r s' hs, fun e s' => hraise s e s' hs⟩

/-- The rule for a conditional command. -/
theorem when {b : Bool} {p : Script R ε Unit} {Q : Unit → σ → Prop}
    (hp : b = true → Triple W G E P p Q) (hskip : b = false → ∀ s, P s → Q () s) :
    Triple W G E P (when b p) Q := by
  cases b with
  | true => exact hp rfl
  | false => exact hskip rfl

/-- The rule for a test that is made only if it must be. -/
theorem or {a : Bool} {p : Script R ε Bool} {Q : Bool → σ → Prop}
    (htrue : a = true → ∀ s, P s → Q true s) (hp : a = false → Triple W G E P p Q) :
    Triple W G E P (or a p) Q := by
  cases a with
  | true => exact htrue rfl
  | false => exact hp rfl

/-- The invariant of a loop over a list speaks about the elements that are done. -/
theorem forM {xs : List β} {body : β → Script R ε Unit} (I : List β → σ → Prop)
    (hbody : ∀ done x, x ∈ xs → Triple W G E (I done) (body x) fun _ => I (done ++ [x])) :
    Triple W G E (I []) (ForM.forM xs body) fun _ => I xs := by
  suffices h : ∀ done, Triple W G E (I done) (ForM.forM xs body) fun _ => I (done ++ xs) from h []
  induction xs with
  | nil =>
    intro done
    rw [List.append_nil]
    exact pure fun _ h => h
  | cons x xs ih =>
    intro done
    rw [List.forM_cons]
    refine bind (hbody done x List.mem_cons_self) fun _ => ?_
    have hrest := ih (fun done y hy => hbody done y (List.mem_cons_of_mem x hy)) (done ++ [x])
    rwa [List.append_assoc] at hrest

/-- An exception is required to satisfy its own postcondition. -/
theorem raise {e : ε} {Q : α → σ → Prop} (h : ∀ s, P s → E e s) :
    Triple W G E P (raise e) Q := h

/-- The rule for a result or an exception. -/
theorem ofExcept {x : Except ε α} {Q : α → σ → Prop} (hok : ∀ a, x = .ok a → ∀ s, P s → Q a s)
    (herror : ∀ e, x = .error e → ∀ s, P s → E e s) : Triple W G E P (ofExcept x) Q := by
  cases x with
  | ok a => exact pure (hok a rfl)
  | error e => exact raise (herror e rfl)

/-- The rule for a case distinction. -/
theorem ite {p : Prop} [Decidable p] {x y : Script R ε α} {Q : α → σ → Prop}
    (hx : p → Triple W G E P x Q) (hy : ¬ p → Triple W G E P y Q) :
    Triple W G E P (if p then x else y) Q := by
  split
  · exact hx (by assumption)
  · exact hy (by assumption)

/-- The invariant of a loop speaks about the fuel that is left, and implies that there is
    some. -/
theorem loop {e : ε} {body : β → Script R ε (β ⊕ α)} {Q : α → σ → Prop} (I : Nat → β → σ → Prop)
    (hbody : ∀ fuel b, Triple W G E (I (fuel + 1) b) (body b) fun r s =>
      (∀ b', r = .inl b' → I fuel b' s) ∧ ∀ a, r = .inr a → Q a s)
    (hfuel : ∀ b s, ¬ I 0 b s) (fuel : Nat) (b : β) :
    Triple W G E (I fuel b) (loop e body fuel b) Q := by
  induction fuel generalizing b with
  | zero => exact fun s hs => absurd hs (hfuel b s)
  | succ fuel ih =>
    refine bind (hbody fuel b) fun r => ?_
    cases r with
    | inl b' => exact (ih b').conseq (fun s hs => hs.1 b' rfl) fun _ _ hs => hs
    | inr a => exact pure fun s hs => hs.2 a rfl

end Triple

end Script
