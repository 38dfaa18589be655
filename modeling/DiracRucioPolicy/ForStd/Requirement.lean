import Mathlib.Data.Set.NAry

/-!
# Requirements on roles

A requirement is a set of alternatives, each of which is a set of roles. It is met by
whoever holds all roles of one of the alternatives. Requirements have no negative part, so
more roles never hurt.

## Key results

- `Requirement.met_or`, `Requirement.met_and`, `Requirement.met_each`,
  `Requirement.met_given`: how requirements are composed
- `Requirement.Met.mono`: a requirement stays met when roles are added
-/

/-- Alternatives, each of them a set of roles. -/
abbrev Requirement (ρ : Type*) := Set (Set ρ)

namespace Requirement

variable {ρ : Type*} {ι : Type*} {α : Type*}

/-- All roles of one of the alternatives are held. -/
def Met (r : Requirement ρ) (held : Set ρ) : Prop := ∃ alt ∈ r, alt ⊆ held

/-- Nothing is required. -/
def nothing : Requirement ρ := {∅}

/-- The one role. -/
def role (a : ρ) : Requirement ρ := {{a}}

/-- One of the requirements of the family. -/
def any (r : ι → Requirement ρ) : Requirement ρ := {alt | ∃ i, alt ∈ r i}

/-- Both requirements. -/
def and (r s : Requirement ρ) : Requirement ρ := Set.image2 (· ∪ ·) r s

/-- The requirements of all the elements of the list. -/
def each (l : List α) (r : α → Requirement ρ) : Requirement ρ :=
  match l with
  | [] => nothing
  | a :: l => (r a).and (each l r)

/-- The requirement, if the condition holds; it cannot be met otherwise. -/
def given (p : Prop) (r : Requirement ρ) : Requirement ρ := {alt | p ∧ alt ∈ r}

variable {r s : Requirement ρ} {held held' : Set ρ}

/-- More roles meet what some of them meet. -/
theorem Met.mono (h : r.Met held) (hsub : held ⊆ held') : r.Met held' := by
  obtain ⟨alt, halt, hheld⟩ := h
  exact ⟨alt, halt, hheld.trans hsub⟩

/-- Without alternatives there is nothing to meet. -/
@[simp] theorem not_met_empty : ¬ Met (∅ : Requirement ρ) held := by
  intro h
  obtain ⟨alt, halt, -⟩ := h
  exact halt

/-- Nothing is met by everybody. -/
@[simp] theorem met_nothing : (nothing : Requirement ρ).Met held :=
  ⟨∅, rfl, Set.empty_subset held⟩

/-- One role is met by whoever holds it. -/
@[simp] theorem met_role {a : ρ} : (role a).Met held ↔ a ∈ held := by
  simp [Met, role]

/-- Of two requirements one is met. -/
@[simp] theorem met_or : Met (r ∪ s) held ↔ r.Met held ∨ s.Met held := by
  simp [Met, or_and_right, exists_or]

/-- Of a family of requirements one is met. -/
@[simp] theorem met_any {r : ι → Requirement ρ} : (any r).Met held ↔ ∃ i, (r i).Met held := by
  simp only [Met, any, Set.mem_ofPred_eq]
  constructor
  · intro h
    obtain ⟨alt, ⟨i, halt⟩, hheld⟩ := h
    exact ⟨i, alt, halt, hheld⟩
  · intro h
    obtain ⟨i, alt, halt, hheld⟩ := h
    exact ⟨alt, ⟨i, halt⟩, hheld⟩

/-- Both requirements are met. -/
@[simp] theorem met_and : (r.and s).Met held ↔ r.Met held ∧ s.Met held := by
  constructor
  · intro h
    obtain ⟨_, ⟨alt, halt, alt', halt', rfl⟩, hheld⟩ := h
    rw [Set.union_subset_iff] at hheld
    exact ⟨⟨alt, halt, hheld.1⟩, alt', halt', hheld.2⟩
  · intro h
    obtain ⟨⟨alt, halt, hheld⟩, alt', halt', hheld'⟩ := h
    exact ⟨_, Set.mem_image2_of_mem halt halt', Set.union_subset hheld hheld'⟩

/-- The requirements of all elements are met. -/
@[simp] theorem met_each {l : List α} {r : α → Requirement ρ} :
    (each l r).Met held ↔ ∀ a ∈ l, (r a).Met held := by
  induction l with
  | nil => simp [each]
  | cons a l ih => rw [each, met_and, ih, List.forall_mem_cons]

/-- The requirement counts under its condition only. -/
@[simp] theorem met_given {p : Prop} : (given p r).Met held ↔ p ∧ r.Met held := by
  simp only [Met, given, Set.mem_ofPred_eq, and_assoc, exists_and_left]

end Requirement
