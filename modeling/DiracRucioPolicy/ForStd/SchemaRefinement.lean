import DiracRucioPolicy.ForStd.JsonSchema

/-!
# Refinement of JSON schemas

A schema refines another one when every value of the first is a value of the second.
There is one rule for each group of keywords.

## Key results

- `Refines.enum`, `Refines.items`, `Refines.properties`: the rules
- `lookup_replaceField_self`, `lookup_replaceField_of_ne`: replacing the value of a key
-/

namespace Schema

/-! ## Refinement -/

/-- Every value of `s` is a value of `t`. -/
def Refines (s t : Schema) : Prop := ∀ v, s.valid v = true → t.valid v = true

namespace Refines

/-- Every schema refines itself. -/
theorem refl (s : Schema) : s.Refines s := fun _ h => h

/-- More values are enumerated. -/
theorem enum {s : Schema} {vs ws : List Json} (h : vs ⊆ ws) :
    { s with enum := some vs }.Refines { s with enum := some ws } := by
  intro v hv
  rw [valid_iff] at hv ⊢
  obtain ⟨h1, henum, hrest⟩ := hv
  refine ⟨h1, ?_, hrest⟩
  rw [enumOk_iff] at henum ⊢
  intro ws' hws
  obtain rfl : ws = ws' := Option.some.inj hws
  exact h (henum vs rfl)

/-- The items are refined. -/
theorem items {s a b : Schema} (h : a.Refines b) :
    { s with items := some a }.Refines { s with items := some b } := by
  intro v hv
  rw [valid_iff] at hv ⊢
  obtain ⟨h1, h2, h3, h4, h5, h6, hitems, hrest⟩ := hv
  refine ⟨h1, h2, h3, h4, h5, h6, ?_, hrest⟩
  intro t ht vs hvs x hx
  obtain rfl : b = t := Option.some.inj ht
  exact h x (hitems a rfl vs hvs x hx)

/-- The properties are refined and fewer of them are required. A property that only the
    second schema knows is harmless when the first is closed: the key is then absent. -/
theorem properties {s : Schema} {ps qs : List (String × Schema)} {required required' : List String}
    {additional additional' : Bool}
    (hprops : ∀ q ∈ qs, (∃ t, (q.1, t) ∈ ps ∧ t.Refines q.2) ∨
      additional = false ∧ q.1 ∉ ps.map Prod.fst)
    (hrequired : required' ⊆ required)
    (hadditional : additional' = false →
      additional = false ∧ ps.map Prod.fst ⊆ qs.map Prod.fst) :
    { s with
      properties := ps, required := required, additionalProperties := additional }.Refines
    { s with
      properties := qs, required := required', additionalProperties := additional' } := by
  intro v hv
  rw [valid_iff] at hv ⊢
  obtain ⟨h1, h2, h3, h4, h5, h6, h7, hps, hreq, hadd⟩ := hv
  refine ⟨h1, h2, h3, h4, h5, h6, h7, ?_, ?_, ?_⟩
  · -- the properties that are present
    intro q hq x hx
    cases hprops q hq with
    | inl hknown =>
      obtain ⟨t, ht, href⟩ := hknown
      exact href x (hps (q.1, t) ht x hx)
    | inr hunknown =>
      obtain ⟨rfl, hnew⟩ := hunknown
      exact absurd (mem_properties_of_get? hadd hx) hnew
  · -- the required keys
    rw [requiredOk_iff] at hreq ⊢
    intro fields hfields k hk
    exact hreq fields hfields k (hrequired hk)
  · -- the keys beyond the properties
    rw [additionalOk_iff] at hadd ⊢
    intro hclosed k hk
    obtain ⟨hclosed', hsub⟩ := hadditional hclosed
    obtain ⟨t, ht⟩ := hadd hclosed' k hk
    obtain ⟨q, hq, rfl⟩ := List.mem_map.mp (hsub (List.mem_map.mpr ⟨_, ht, rfl⟩))
    exact ⟨q.2, hq⟩

end Refines

end Schema

/-! ## Replacing a field -/

namespace Json

variable {fields : List (String × Json)} {k : String} {x : Json}

/-- The fields with the value of the key `k` replaced by `x`. -/
def replaceField (fields : List (String × Json)) (k : String) (x : Json) :
    List (String × Json) :=
  fields.map fun f => if f.1 = k then (f.1, x) else f

/-- The other keys keep their values. -/
theorem lookup_replaceField_of_ne {l : String} (h : l ≠ k) :
    (replaceField fields k x).lookup l = fields.lookup l := by
  induction fields with
  | nil => rfl
  | cons f fields ih =>
    obtain ⟨m, y⟩ := f
    rw [replaceField] at ih ⊢
    rw [List.map_cons, List.lookup_cons, List.lookup_cons, ih]
    by_cases hm : m = k
    · -- the replaced field is not the one that is looked up
      have hlk : (l == k) = false := beq_eq_false_iff_ne.mpr h
      simp [hm, hlk]
    · simp [hm]

/-- The key has the new value, if it had one. -/
theorem lookup_replaceField_self (h : (fields.lookup k).isSome = true) :
    (replaceField fields k x).lookup k = some x := by
  induction fields with
  | nil => cases h
  | cons f fields ih =>
    obtain ⟨m, y⟩ := f
    rw [replaceField, List.map_cons]
    by_cases hm : m = k
    · simp [hm]
    · -- the key is found further on
      have hkm : (k == m) = false := by
        rw [beq_eq_false_iff_ne]
        exact fun heq => hm heq.symm
      rw [List.lookup_cons, hkm] at h
      rw [if_neg hm, List.lookup_cons, hkm]
      exact ih h

end Json
