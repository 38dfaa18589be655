import Mathlib.Data.List.Basic

/-!
# Except lemmas for the standard library

When a computation in `Except`, or a traversal of a list in it, returns a value. A
traversal stops at the first element that raises, so a result says something about every
element.

## Key results

- `Except.bind_eq_ok_iff`, `Except.bind_returns_iff`: sequences
- `List.anyM_eq_ok_false_iff`, `List.allM_eq_ok_true_iff`, `List.exists_mapM_eq_ok_iff`:
  results of traversals
- `List.anyM_returns_iff`: a traversal that stops early raises nothing
- `List.mapM_eq_ok_map`, `List.mapM_eq_error`: a traversal without and with a refusal
-/

namespace Except

variable {ε α β : Type}

/-- After a result the computation goes on with it. -/
theorem ok_bind (a : α) (f : α → Except ε β) : (.ok a >>= f) = f a := rfl

/-- A sequence of two computations returns what the second returns on the result of the
    first. -/
theorem bind_eq_ok_iff {x : Except ε α} {f : α → Except ε β} {b : β} :
    (x >>= f) = .ok b ↔ ∃ a, x = .ok a ∧ f a = .ok b := by
  cases x with
  | error e => simp [bind, Except.bind]
  | ok a => simp [bind, Except.bind]

/-- The computation returns a value: it raises nothing. -/
def Returns (x : Except ε α) : Prop := ∃ a, x = .ok a

/-- A value is returned. -/
theorem returns_ok (a : α) : (.ok a : Except ε α).Returns := ⟨a, rfl⟩

/-- An exception is not. -/
theorem not_returns_error (e : ε) : ¬ (.error e : Except ε α).Returns := by
  intro h
  obtain ⟨a, ha⟩ := h
  cases ha

/-- A sequence returns when both computations do. -/
theorem bind_returns_iff {x : Except ε α} {f : α → Except ε β} :
    (x >>= f).Returns ↔ ∃ a, x = .ok a ∧ (f a).Returns := by
  cases x with
  | error e => simp [bind, Except.bind, Returns]
  | ok a => simp [bind, Except.bind]

/-- What is done with the result does not matter when it raises nothing. -/
theorem bind_returns_iff_of_forall {x : Except ε α} {f : α → Except ε β}
    (hf : ∀ a, (f a).Returns) : (x >>= f).Returns ↔ x.Returns := by
  rw [bind_returns_iff]
  constructor
  · intro h
    obtain ⟨a, ha, -⟩ := h
    exact ⟨a, ha⟩
  · intro h
    obtain ⟨a, ha⟩ := h
    exact ⟨a, ha, hf a⟩

/-- Two tests that return are the same when they are true in the same case. -/
theorem eq_of_returns {x y : Except ε Bool} (hx : x.Returns) (hy : y.Returns)
    (h : x = .ok true ↔ y = .ok true) : x = y := by
  obtain ⟨a, rfl⟩ := hx
  obtain ⟨b, rfl⟩ := hy
  simp only [Except.ok.injEq] at h ⊢
  exact Bool.eq_iff_iff.mpr h

/-- `return` returns its value. -/
@[simp] theorem pure_eq_ok_iff {a b : α} : (pure a : Except ε α) = .ok b ↔ a = b := by
  simp [pure, Except.pure]

end Except

namespace List

variable {ε α β : Type}

/-- `anyM` returns false exactly when the test returns false on every element. -/
theorem anyM_eq_ok_false_iff {p : α → Except ε Bool} {l : List α} :
    l.anyM p = .ok false ↔ ∀ a ∈ l, p a = .ok false := by
  induction l with
  | nil => simp
  | cons a l ih =>
    rw [anyM_cons, Except.bind_eq_ok_iff, forall_mem_cons, ← ih]
    constructor
    · intro h
      obtain ⟨b, hb, hrest⟩ := h
      -- an element on which the test is true ends the loop with true
      cases b with
      | true => simp at hrest
      | false => exact ⟨hb, by simpa using hrest⟩
    · intro h
      exact ⟨false, h.1, by simpa using h.2⟩

/-- The test counts on the elements of the list only. -/
theorem anyM_congr {p q : α → Except ε Bool} {l : List α} (h : ∀ a ∈ l, p a = q a) :
    l.anyM p = l.anyM q := by
  induction l with
  | nil => rfl
  | cons a l ih =>
    rw [forall_mem_cons] at h
    rw [anyM_cons, anyM_cons, h.1, ih h.2]

/-- `anyM` returns when the test returns on every element. -/
theorem anyM_returns {p : α → Except ε Bool} {l : List α} (h : ∀ a ∈ l, (p a).Returns) :
    (l.anyM p).Returns := by
  induction l with
  | nil => exact Except.returns_ok false
  | cons a l ih =>
    rw [forall_mem_cons] at h
    obtain ⟨⟨b, hb⟩, htail⟩ := h
    rw [anyM_cons, hb, Except.ok_bind]
    cases b with
    | true => exact Except.returns_ok true
    | false => exact ih htail

/-- `anyM` ends at the first element that does not pass as false. It returns exactly when
    the test returns there; what follows is not looked at. -/
theorem anyM_returns_iff {p : α → Except ε Bool} {q : α → Bool} {l : List α}
    (hq : ∀ a ∈ l, p a = .ok false ↔ q a = false) :
    (l.anyM p).Returns ↔ ∀ a, l.find? q = some a → (p a).Returns := by
  induction l with
  | nil => simp [Except.Returns]
  | cons a l ih =>
    rw [forall_mem_cons] at hq
    rw [anyM_cons, find?_cons]
    cases hqa : q a with
    | false =>
      -- the test is false here, and the loop goes on
      rw [hq.1.mpr hqa, Except.ok_bind]
      exact ih hq.2
    | true =>
      have hpa : p a ≠ .ok false := fun h => by simp [hq.1.mp h] at hqa
      rw [Except.bind_returns_iff]
      constructor
      · intro h b hb
        obtain ⟨c, hc, -⟩ := h
        rw [← Option.some.inj hb, hc]
        exact Except.returns_ok c
      · intro h
        obtain ⟨b, hb⟩ := h a rfl
        cases b with
        | true => exact ⟨true, hb, Except.returns_ok true⟩
        | false => exact absurd hb hpa

/-- The second part of a list is looked at when no element of the first ends the loop. -/
theorem anyM_append {p : α → Except ε Bool} (l₁ l₂ : List α) :
    (l₁ ++ l₂).anyM p = l₁.anyM p >>= fun b => if b then pure true else l₂.anyM p := by
  induction l₁ with
  | nil => rfl
  | cons a l₁ ih =>
    rw [cons_append, anyM_cons, anyM_cons, ih]
    cases p a with
    | error e => rfl
    | ok b => cases b <;> rfl

/-- A loop over a list inside a loop is a loop over the joined list. -/
theorem anyM_flatMap {f : α → List β} {p : β → Except ε Bool} {l : List α} :
    (l.flatMap f).anyM p = l.anyM fun a => (f a).anyM p := by
  induction l with
  | nil => rfl
  | cons a l ih =>
    rw [flatMap_cons, anyM_append, anyM_cons, ih]

/-- `allM` returns true exactly when the test returns true on every element. -/
theorem allM_eq_ok_true_iff {p : α → Except ε Bool} {l : List α} :
    l.allM p = .ok true ↔ ∀ a ∈ l, p a = .ok true := by
  induction l with
  | nil => simp
  | cons a l ih =>
    rw [allM_cons, Except.bind_eq_ok_iff, forall_mem_cons, ← ih]
    constructor
    · intro h
      obtain ⟨b, hb, hrest⟩ := h
      -- an element on which the test is false ends the loop with false
      cases b with
      | true => exact ⟨hb, by simpa using hrest⟩
      | false => simp at hrest
    · intro h
      exact ⟨true, h.1, by simpa using h.2⟩

/-- `allM` returns when the test returns on every element. -/
theorem allM_returns {p : α → Except ε Bool} {l : List α} (h : ∀ a ∈ l, (p a).Returns) :
    (l.allM p).Returns := by
  induction l with
  | nil => exact Except.returns_ok true
  | cons a l ih =>
    rw [forall_mem_cons] at h
    obtain ⟨⟨b, hb⟩, htail⟩ := h
    rw [allM_cons, hb, Except.ok_bind]
    cases b with
    | true => exact ih htail
    | false => exact Except.returns_ok false

/-- A test is the conjunction of the tests on the elements when it is true in the same
    case. -/
theorem eq_allM_iff {x : Except ε Bool} {p : α → Except ε Bool} {l : List α} (hx : x.Returns)
    (hp : ∀ a ∈ l, (p a).Returns) :
    x = l.allM p ↔ (x = .ok true ↔ ∀ a ∈ l, p a = .ok true) := by
  rw [← allM_eq_ok_true_iff]
  constructor
  · intro h
    rw [h]
  · exact Except.eq_of_returns hx (allM_returns hp)

/-- `mapM` returns a list of values with a property exactly when the function returns such
    a value on every element. -/
theorem exists_mapM_eq_ok_iff {f : α → Except ε β} {P : β → Prop} {l : List α} :
    (∃ bs, l.mapM f = .ok bs ∧ ∀ b ∈ bs, P b) ↔ ∀ a ∈ l, ∃ b, f a = .ok b ∧ P b := by
  induction l with
  | nil => simp
  | cons a l ih =>
    rw [forall_mem_cons, ← ih]
    simp only [mapM_cons, Except.bind_eq_ok_iff, Except.pure_eq_ok_iff]
    constructor
    · intro h
      obtain ⟨bs, ⟨b, hb, bs', hbs', heq⟩, hall⟩ := h
      rw [← heq, forall_mem_cons] at hall
      exact ⟨⟨b, hb, hall.1⟩, bs', hbs', hall.2⟩
    · intro h
      obtain ⟨⟨b, hb, hPb⟩, bs, hbs, hall⟩ := h
      exact ⟨b :: bs, ⟨b, hb, bs, hbs, rfl⟩, forall_mem_cons.mpr ⟨hPb, hall⟩⟩

/-! ## Loops over mapped lists -/

/-- A traversal on which nothing raises is a map. -/
theorem mapM_eq_ok_map {f : α → Except ε β} {g : α → β} {l : List α}
    (h : ∀ a ∈ l, f a = .ok (g a)) : l.mapM f = .ok (l.map g) := by
  induction l with
  | nil => rfl
  | cons a l ih =>
    rw [forall_mem_cons] at h
    rw [mapM_cons, h.1, ih h.2]
    rfl

/-- A traversal in which only one exception can be raised, and is, raises it. -/
theorem mapM_eq_error {f : α → Except ε β} {e : ε} {l : List α}
    (h : ∀ a ∈ l, f a = .error e ∨ (f a).Returns) (hex : ∃ a ∈ l, f a = .error e) :
    l.mapM f = .error e := by
  induction l with
  | nil =>
    obtain ⟨a, ha, -⟩ := hex
    exact absurd ha not_mem_nil
  | cons a l ih =>
    rw [forall_mem_cons] at h
    rw [mapM_cons]
    cases h.1 with
    | inl herr =>
      rw [herr]
      rfl
    | inr hret =>
      -- the first element returns, so it is one of the others that raises
      obtain ⟨b, hb⟩ := hret
      rw [exists_mem_cons_iff, hb] at hex
      rw [hb, Except.ok_bind, ih h.2 (hex.resolve_left fun herr => nomatch herr)]
      rfl

end List
