import Mathlib.Data.List.Basic

/-!
# Runs of a labelled transition system

A run is a sequence of labelled steps from one state to another. What every step
preserves holds after every run, and what a run loses is lost in one of its steps.

## Key results

- `Run.invariant`: the invariant rule
- `Run.exists_step_of_lost`: the step that loses a property
-/

variable {σ ℓ : Type*} {step : σ → ℓ → σ → Prop}

/-- A run from one state to another, with the labels of its steps. -/
inductive Run (step : σ → ℓ → σ → Prop) : σ → List ℓ → σ → Prop where
  | nil (s : σ) : Run step s [] s
  | cons {s t u : σ} {l : ℓ} {ls : List ℓ} : step s l t → Run step t ls u → Run step s (l :: ls) u

namespace Run

variable {s u : σ} {ls : List ℓ}

/-- The run from `s` to `u` goes through the step from `s₁` to `s₂`. -/
def Through (step : σ → ℓ → σ → Prop) (s : σ) (ls : List ℓ) (u s₁ : σ) (l : ℓ) (s₂ : σ) : Prop :=
  ∃ ls₁ ls₂, ls = ls₁ ++ l :: ls₂ ∧ Run step s ls₁ s₁ ∧ step s₁ l s₂ ∧ Run step s₂ ls₂ u

/-- A run of the steps of one system is a run of any system that allows these steps. -/
theorem mono {step' : σ → ℓ → σ → Prop} (h : Run step s ls u)
    (hstep : ∀ s l t, step s l t → step' s l t) : Run step' s ls u := by
  induction h with
  | nil s => exact .nil s
  | cons hfirst _ ih => exact .cons (hstep _ _ _ hfirst) ih

/-- What holds at the start and is kept by every step holds at the end. -/
theorem invariant {I : σ → Prop} (h : Run step s ls u) (hs : I s)
    (hstep : ∀ s l t, I s → step s l t → I t) : I u := by
  induction h with
  | nil s => exact hs
  | cons hfirst _ ih => exact ih (hstep _ _ _ hs hfirst)

/-- A property that holds at the start and not at the end is lost in one step. -/
theorem exists_step_of_lost {P : σ → Prop} (h : Run step s ls u) (hs : P s) (hu : ¬ P u) :
    ∃ s₁ l s₂, Through step s ls u s₁ l s₂ ∧ P s₁ ∧ ¬ P s₂ := by
  induction h with
  | nil s => exact absurd hs hu
  | @cons s t u l ls hfirst hrest ih =>
    by_cases ht : P t
    · -- the step is one of the rest
      obtain ⟨s₁, l', s₂, ⟨ls₁, ls₂, hls, hrun, hstep, hrun'⟩, hlost⟩ := ih ht hu
      exact ⟨s₁, l', s₂, ⟨l :: ls₁, ls₂, by rw [hls, List.cons_append], .cons hfirst hrun, hstep,
        hrun'⟩, hlost⟩
    · exact ⟨s, l, t, ⟨[], ls, rfl, .nil s, hfirst, hrest⟩, hs, ht⟩

end Run
