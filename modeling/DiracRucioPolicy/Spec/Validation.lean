import DiracRucioPolicy.Native.Schema

/-!
# What `validate_schema` accepts

The wrapper around `jsonschema.validate` looks at an object only when Python takes it
for true. On all other objects it decides the schema exactly.

## Key results

- `validateSchema_satisfies_iff`: the accepted objects, by the declarative reading of
  the schema
- `validateSchema_of_refused`: every other object raises `InvalidObject`
- `validate_exact`: the two together, for every entry of `SCHEMAS`
-/

namespace DiracRucioPolicy

/-- `obj` is not looked at. -/
def Falsy (obj : Json) : Prop := obj ∈ [.null, .bool false, .num 0, .str "", .arr [], .obj []]

instance (obj : Json) : Decidable (Falsy obj) := inferInstanceAs (Decidable (obj ∈ _))

variable (u : UnicodeDb)

/-- The accepted objects of a schema that has an entry in `SCHEMAS`. -/
theorem validateSchema_satisfies_iff {name : String} {schema : Schema}
    (hname : (Schemas.schemas u).lookup name = some schema) (obj : Json) :
    validateSchema u name obj = .ok () ↔ Falsy obj ∨ schema.Satisfies obj := by
  rw [validateSchema_entry_iff hname, Schema.valid_iff_satisfies, Json.truthy_eq_false_iff, Falsy]

/-- What is not accepted raises `InvalidObject`, and the message names the schema. -/
theorem validateSchema_of_refused {name : String} {obj : Json}
    (h : validateSchema u name obj ≠ .ok ()) :
    validateSchema u name obj = .error (.invalidObject
      [.text "Problem validating ", .text name, .text ": ", .validationError]) := by
  unfold validateSchema at h ⊢
  split
  · split
    · rename_i htruthy hvalid
      simp [htruthy, hvalid] at h
    · rfl
  · rename_i htruthy
    simp [htruthy] at h

/-- `validate_schema` returns normally on the falsy objects and on those that satisfy
    the schema, and raises `InvalidObject` on all others. -/
theorem validate_exact (name : String) (schema : Schema) (obj : Json)
    (hname : (Schemas.schemas u).lookup name = some schema) :
    (validateSchema u name obj = .ok () ↔ Falsy obj ∨ schema.Satisfies obj) ∧
    (¬ (Falsy obj ∨ schema.Satisfies obj) →
      validateSchema u name obj = .error (.invalidObject
        [.text "Problem validating ", .text name, .text ": ", .validationError])) := by
  have hok := validateSchema_satisfies_iff u hname obj
  exact ⟨hok, fun h => validateSchema_of_refused u fun hret => h (hok.mp hret)⟩

/-- The account `bob` is accepted, and `Bob` raises. -/
theorem validate_exact_account :
    (validateSchema .ascii "account" (.str "bob") = .ok () ↔
      Falsy (.str "bob") ∨ (Schemas.account .ascii).Satisfies (.str "bob")) ∧
    validateSchema .ascii "account" (.str "Bob") = .error (.invalidObject
      [.text "Problem validating ", .text "account", .text ": ", .validationError]) :=
  ⟨(validate_exact .ascii "account" (Schemas.account .ascii) (.str "bob") rfl).1,
    (validate_exact .ascii "account" (Schemas.account .ascii) (.str "Bob") rfl).2 (by
      rw [← Schema.valid_iff_satisfies]
      decide)⟩

/-- The empty array has fewer items than `dids` asks for, and is accepted. -/
theorem validate_accepts_empty :
    ¬ ∀ (u : UnicodeDb) (name : String) (schema : Schema) (obj : Json),
      (Schemas.schemas u).lookup name = some schema →
      (validateSchema u name obj = .ok () ↔ schema.Satisfies obj) := by
  intro h
  have haccepted := (h .ascii "dids" (Schemas.dids .ascii) (.arr []) rfl).mp (by decide)
  rw [← Schema.valid_iff_satisfies] at haccepted
  exact absurd haccepted (by decide)

end DiracRucioPolicy
