import DiracRucioPolicy.ForStd.Regex
import Mathlib.Data.Rat.Defs

/-!
# JSON values and JSON Schema validation

The fragment of JSON Schema built from `type`, `enum`, `pattern`, `maxLength`,
`minItems`, `maxItems`, `items`, `properties`, `required` and
`additionalProperties`. `Schema.valid` is the validator, by recursion on the
schema; `Schema.Satisfies` is the declarative reading of the keywords.

## Key results

- `Schema.valid_iff`: one level of the validator, keyword by keyword
- `Schema.valid_iff_satisfies`: the validator decides the declarative relation
-/

/-- A JSON value. Numbers are rationals, so that `1` and `1.0` are the same
    number. Objects are read through `Json.get?`: of a repeated key only the
    first entry counts. -/
inductive Json where
  | null
  | bool (b : Bool)
  | num (q : Rat)
  | str (s : String)
  | arr (vs : List Json)
  | obj (fields : List (String × Json))

namespace Json

/-! ## Equality -/

mutual
/-- Equality of JSON values is decidable. -/
def decEq : (v w : Json) → Decidable (v = w)
  | .null, .null => isTrue rfl
  | .bool a, .bool b => decidable_of_iff (a = b) (by simp)
  | .num a, .num b => decidable_of_iff (a = b) (by simp)
  | .str a, .str b => decidable_of_iff (a = b) (by simp)
  | .arr a, .arr b => @decidable_of_iff _ (a = b) (by simp) (decEqList a b)
  | .obj a, .obj b => @decidable_of_iff _ (a = b) (by simp) (decEqFields a b)
  | .null, .bool _ | .null, .num _ | .null, .str _ | .null, .arr _ | .null, .obj _
  | .bool _, .null | .bool _, .num _ | .bool _, .str _ | .bool _, .arr _ | .bool _, .obj _
  | .num _, .null | .num _, .bool _ | .num _, .str _ | .num _, .arr _ | .num _, .obj _
  | .str _, .null | .str _, .bool _ | .str _, .num _ | .str _, .arr _ | .str _, .obj _
  | .arr _, .null | .arr _, .bool _ | .arr _, .num _ | .arr _, .str _ | .arr _, .obj _
  | .obj _, .null | .obj _, .bool _ | .obj _, .num _ | .obj _, .str _ | .obj _, .arr _ =>
    isFalse (by simp)

/-- Equality of arrays. -/
def decEqList : (vs ws : List Json) → Decidable (vs = ws)
  | [], [] => isTrue rfl
  | v :: vs, w :: ws =>
    @decidable_of_iff _ (v = w ∧ vs = ws) (by simp)
      (@instDecidableAnd _ _ (decEq v w) (decEqList vs ws))
  | [], _ :: _ | _ :: _, [] => isFalse (by simp)

/-- Equality of objects. -/
def decEqFields : (fs gs : List (String × Json)) → Decidable (fs = gs)
  | [], [] => isTrue rfl
  | (k, v) :: fs, (l, w) :: gs =>
    @decidable_of_iff _ (k = l ∧ v = w ∧ fs = gs) (by simp [and_assoc])
      (@instDecidableAnd _ _ _ (@instDecidableAnd _ _ (decEq v w) (decEqFields fs gs)))
  | [], _ :: _ | _ :: _, [] => isFalse (by simp)
end

instance : DecidableEq Json := decEq

/-! ## Reading values -/

/-- The value of key `k`, if the value is an object that has it. -/
def get? : Json → String → Option Json
  | .obj fields, k => fields.lookup k
  | _, _ => none

/-- The keys of an object. -/
def keys : Json → List String
  | .obj fields => fields.map Prod.fst
  | _ => []

/-- A key with a value is one of the keys. -/
theorem mem_keys_of_get? {v x : Json} {k : String} (h : v.get? k = some x) : k ∈ v.keys := by
  cases v with
  | obj fields =>
    obtain ⟨l₁, l₂, hfields, -⟩ := List.lookup_eq_some_iff.mp h
    rw [keys, hfields, List.map_append, List.map_cons]
    exact List.mem_append_right _ List.mem_cons_self
  | _ => cases h

/-- The truth value Python gives to a JSON value. -/
def truthy : Json → Bool
  | .null => false
  | .bool b => b
  | .num q => q ≠ 0
  | .str s => s ≠ ""
  | .arr vs => !vs.isEmpty
  | .obj fields => !fields.isEmpty

/-- There are six falsy values. -/
theorem truthy_eq_false_iff (v : Json) :
    v.truthy = false ↔ v ∈ [.null, .bool false, .num 0, .str "", .arr [], .obj []] := by
  cases v with
  | arr vs => cases vs <;> simp [truthy]
  | obj fields => cases fields <;> simp [truthy]
  | _ => simp [truthy]

/-- The type names of JSON Schema. -/
inductive Kind where
  | null | boolean | integer | number | string | array | object
deriving DecidableEq, Repr

/-- `v` is of the named type; an integer is a number without fractional part. -/
def hasKind : Kind → Json → Bool
  | .null, .null | .boolean, .bool _ | .number, .num _ | .string, .str _
  | .array, .arr _ | .object, .obj _ => true
  | .integer, .num q => q.den = 1
  | _, _ => false

end Json

/-- A JSON Schema object. A keyword that is absent constrains nothing. -/
structure Schema where
  type : Option (List Json.Kind) := none
  enum : Option (List Json) := none
  pattern : Option (Regex Char) := none
  maxLength : Option Nat := none
  minItems : Option Nat := none
  maxItems : Option Nat := none
  items : Option Schema := none
  properties : List (String × Schema) := []
  required : List String := []
  additionalProperties : Bool := true

namespace Schema

/-! ## Keywords that do not look at subschemas -/

/-- `type` is a list of the types that are allowed. -/
def typeOk : Option (List Json.Kind) → Json → Bool
  | none, _ => true
  | some ks, v => ks.any (Json.hasKind · v)

/-- `enum` lists the values that are allowed. -/
def enumOk : Option (List Json) → Json → Bool
  | none, _ => true
  | some vs, v => v ∈ vs

/-- `pattern` is tested with a search, and only on strings. -/
def patternOk : Option (Regex Char) → Json → Bool
  | some r, .str s => (r.search s.toList).isSome
  | _, _ => true

/-- `maxLength` is tested on strings. -/
def maxLengthOk : Option Nat → Json → Bool
  | some n, .str s => s.length ≤ n
  | _, _ => true

/-- `minItems` is tested on arrays. -/
def minItemsOk : Option Nat → Json → Bool
  | some n, .arr vs => n ≤ vs.length
  | _, _ => true

/-- So is `maxItems`. -/
def maxItemsOk : Option Nat → Json → Bool
  | some n, .arr vs => vs.length ≤ n
  | _, _ => true

/-- The keys that are `required` of an object. -/
def requiredOk (ks : List String) : Json → Bool
  | .obj fields => ks.all fun k => (fields.lookup k).isSome
  | _ => true

/-- With `additionalProperties` false, every key must be a declared property. -/
def additionalOk (props : List (String × Schema)) (additional : Bool) (v : Json) : Bool :=
  additional || v.keys.all fun k => k ∈ props.map Prod.fst

/-! ## The validator -/

mutual
/-- `v` satisfies every keyword of the schema. -/
def valid : Schema → Json → Bool
  | ⟨type, enum, pattern, maxLength, minItems, maxItems, items, props, required, additional⟩, v =>
    typeOk type v && enumOk enum v && patternOk pattern v && maxLengthOk maxLength v &&
    minItemsOk minItems v && maxItemsOk maxItems v && validItems items v &&
    validProps props v && requiredOk required v && additionalOk props additional v

/-- Every element of an array satisfies `items`. -/
def validItems : Option Schema → Json → Bool
  | some s, .arr vs => vs.all s.valid
  | _, _ => true

/-- Every declared property that is present satisfies its schema. -/
def validProps : List (String × Schema) → Json → Bool
  | [], _ => true
  | (k, s) :: ps, v =>
    -- a property that is absent constrains nothing
    (match v.get? k with
      | none => true
      | some x => s.valid x) && validProps ps v
end

/-- An array has valid items when each is valid. -/
theorem validItems_iff (items : Option Schema) (v : Json) :
    validItems items v = true ↔
      ∀ s ∈ items, ∀ vs, v = .arr vs → ∀ x ∈ vs, s.valid x = true := by
  cases items with
  | none => simp [validItems]
  | some s => cases v <;> simp [validItems]

/-- An object has valid properties when the value of each is valid. -/
theorem validProps_iff (ps : List (String × Schema)) (v : Json) :
    validProps ps v = true ↔
      ∀ p ∈ ps, ∀ x, v.get? p.1 = some x → p.2.valid x = true := by
  induction ps with
  | nil => simp [validProps]
  | cons p ps ih =>
    obtain ⟨k, s⟩ := p
    rw [validProps, Bool.and_eq_true, ih, List.forall_mem_cons]
    refine and_congr_left fun _ => ?_
    cases v.get? k <;> simp

/-- One level of the validator, keyword by keyword. -/
theorem valid_iff (s : Schema) (v : Json) :
    s.valid v = true ↔
      typeOk s.type v = true ∧ enumOk s.enum v = true ∧ patternOk s.pattern v = true ∧
      maxLengthOk s.maxLength v = true ∧ minItemsOk s.minItems v = true ∧
      maxItemsOk s.maxItems v = true ∧
      (∀ t ∈ s.items, ∀ vs, v = .arr vs → ∀ x ∈ vs, t.valid x = true) ∧
      (∀ p ∈ s.properties, ∀ x, v.get? p.1 = some x → p.2.valid x = true) ∧
      requiredOk s.required v = true ∧
      additionalOk s.properties s.additionalProperties v = true := by
  obtain ⟨⟩ := s
  simp only [valid, Bool.and_eq_true, validItems_iff, validProps_iff, and_assoc]

/-- A schema of type `string` accepts only strings. -/
theorem eq_str_of_valid {s : Schema} {v : Json} (ht : s.type = some [.string])
    (h : s.valid v = true) : ∃ w, v = .str w := by
  have htype := ((valid_iff s v).mp h).1
  rw [ht] at htype
  cases v with
  | str w => exact ⟨w, rfl⟩
  | _ => simp [typeOk, Json.hasKind] at htype

/-- A schema of type `array` accepts only arrays. -/
theorem eq_arr_of_valid {s : Schema} {v : Json} (ht : s.type = some [.array])
    (h : s.valid v = true) : ∃ vs, v = .arr vs := by
  have htype := ((valid_iff s v).mp h).1
  rw [ht] at htype
  cases v with
  | arr vs => exact ⟨vs, rfl⟩
  | _ => simp [typeOk, Json.hasKind] at htype

/-- A schema of type `object` accepts only objects. -/
theorem eq_obj_of_valid {s : Schema} {v : Json} (ht : s.type = some [.object])
    (h : s.valid v = true) : ∃ fields, v = .obj fields := by
  have htype := ((valid_iff s v).mp h).1
  rw [ht] at htype
  cases v with
  | obj fields => exact ⟨fields, rfl⟩
  | _ => simp [typeOk, Json.hasKind] at htype

/-! ## The declarative reading -/

/-- JSON Schema semantics: `v` is of one of the types, equals an enumerated value, and so on
    for each keyword. What a keyword demands is written here without the tests of the
    validator. Two leaves are shared with it: which values a type name has (`hasKind`), and
    the search for a pattern. -/
inductive Satisfies : Schema → Json → Prop
  | intro {s : Schema} {v : Json}
      (type : ∀ ks, s.type = some ks → ∃ k ∈ ks, v.hasKind k = true)
      (enum : ∀ vs, s.enum = some vs → v ∈ vs)
      (pattern : ∀ r, s.pattern = some r → ∀ w, v = .str w → (r.search w.toList).isSome = true)
      (maxLength : ∀ n, s.maxLength = some n → ∀ w, v = .str w → w.length ≤ n)
      (minItems : ∀ n, s.minItems = some n → ∀ vs, v = .arr vs → n ≤ vs.length)
      (maxItems : ∀ n, s.maxItems = some n → ∀ vs, v = .arr vs → vs.length ≤ n)
      (items : ∀ t, s.items = some t → ∀ vs, v = .arr vs → ∀ x ∈ vs, Satisfies t x)
      (properties : ∀ k t, (k, t) ∈ s.properties → ∀ x, v.get? k = some x → Satisfies t x)
      (required : ∀ fields, v = .obj fields → ∀ k ∈ s.required, ∃ x, v.get? k = some x)
      (additionalProperties : s.additionalProperties = false →
        ∀ k ∈ v.keys, ∃ t, (k, t) ∈ s.properties) :
      Satisfies s v

/-- The test of `type` is exact. -/
theorem typeOk_iff (o : Option (List Json.Kind)) (v : Json) :
    typeOk o v = true ↔ ∀ ks, o = some ks → ∃ k ∈ ks, v.hasKind k = true := by
  cases o <;> simp [typeOk]

/-- So is that of `enum`. -/
theorem enumOk_iff (o : Option (List Json)) (v : Json) :
    enumOk o v = true ↔ ∀ vs, o = some vs → v ∈ vs := by
  cases o <;> simp [enumOk]

/-- So is that of `pattern`. -/
theorem patternOk_iff (o : Option (Regex Char)) (v : Json) :
    patternOk o v = true ↔
      ∀ r, o = some r → ∀ w, v = .str w → (r.search w.toList).isSome = true := by
  cases o <;> cases v <;> simp [patternOk]

/-- So is that of `maxLength`. -/
theorem maxLengthOk_iff (o : Option Nat) (v : Json) :
    maxLengthOk o v = true ↔ ∀ n, o = some n → ∀ w, v = .str w → w.length ≤ n := by
  cases o <;> cases v <;> simp [maxLengthOk]

/-- So is that of `minItems`. -/
theorem minItemsOk_iff (o : Option Nat) (v : Json) :
    minItemsOk o v = true ↔ ∀ n, o = some n → ∀ vs, v = .arr vs → n ≤ vs.length := by
  cases o <;> cases v <;> simp [minItemsOk]

/-- So is that of `maxItems`. -/
theorem maxItemsOk_iff (o : Option Nat) (v : Json) :
    maxItemsOk o v = true ↔ ∀ n, o = some n → ∀ vs, v = .arr vs → vs.length ≤ n := by
  cases o <;> cases v <;> simp [maxItemsOk]

/-- So is that of `required`. -/
theorem requiredOk_iff (ks : List String) (v : Json) :
    requiredOk ks v = true ↔
      ∀ fields, v = .obj fields → ∀ k ∈ ks, ∃ x, v.get? k = some x := by
  cases v <;> simp [requiredOk, Json.get?, Option.isSome_iff_exists]

/-- So is that of `additionalProperties`. -/
theorem additionalOk_iff (props : List (String × Schema)) (additional : Bool) (v : Json) :
    additionalOk props additional v = true ↔
      (additional = false → ∀ k ∈ v.keys, ∃ t, (k, t) ∈ props) := by
  cases additional <;> simp [additionalOk]

/-- The keys of an object that a closed schema accepts are declared properties. -/
theorem mem_properties_of_get? {props : List (String × Schema)} {v x : Json} {k : String}
    (h : additionalOk props false v = true) (hx : v.get? k = some x) :
    k ∈ props.map Prod.fst := by
  obtain ⟨t, ht⟩ := (additionalOk_iff props false v).mp h rfl k (Json.mem_keys_of_get? hx)
  exact List.mem_map.mpr ⟨(k, t), ht, rfl⟩

/-- An object schema looks at the declared properties and at the keys. -/
theorem valid_obj_iff {s : Schema} (htype : s.type = some [.object]) (henum : s.enum = none)
    (fields : List (String × Json)) :
    s.valid (.obj fields) = true ↔
      (∀ p ∈ s.properties, ∀ x, fields.lookup p.1 = some x → p.2.valid x = true) ∧
        (∀ k ∈ s.required, ∃ x, fields.lookup k = some x) ∧
        (s.additionalProperties = false →
          ∀ k ∈ fields.map Prod.fst, ∃ t, (k, t) ∈ s.properties) := by
  rw [valid_iff, requiredOk_iff, additionalOk_iff]
  simp [htype, henum, typeOk, Json.hasKind, enumOk, patternOk, maxLengthOk, minItemsOk,
    maxItemsOk, Json.get?, Json.keys]

/-- The validator decides the declarative reading of the schema. -/
theorem valid_iff_satisfies (s : Schema) (v : Json) : s.valid v = true ↔ s.Satisfies v := by
  have hitems : ∀ t, s.items = some t → ∀ x, t.valid x = true ↔ t.Satisfies x :=
    fun t ht x => valid_iff_satisfies t x
  have hprops : ∀ k t, (k, t) ∈ s.properties → ∀ x, t.valid x = true ↔ t.Satisfies x :=
    fun k t ht x => valid_iff_satisfies t x
  -- only `items` and `properties` look at subschemas
  rw [valid_iff, typeOk_iff, enumOk_iff, patternOk_iff, maxLengthOk_iff, minItemsOk_iff,
    maxItemsOk_iff, requiredOk_iff, additionalOk_iff]
  constructor
  · intro h
    obtain ⟨h1, h2, h3, h4, h5, h6, h7, h8, h9, h10⟩ := h
    exact .intro h1 h2 h3 h4 h5 h6
      (fun t ht vs hv x hx => (hitems t ht x).mp (h7 t (by simp [ht]) vs hv x hx))
      (fun k t ht x hx => (hprops k t ht x).mp (h8 (k, t) ht x hx)) h9 h10
  · intro h
    obtain ⟨h1, h2, h3, h4, h5, h6, h7, h8, h9, h10⟩ := h
    exact ⟨h1, h2, h3, h4, h5, h6,
      fun t ht vs hv x hx => (hitems t (by simpa using ht) x).mpr
        (h7 t (by simpa using ht) vs hv x hx),
      fun p hp x hx => (hprops p.1 p.2 hp x).mpr (h8 p.1 p.2 hp x hx), h9, h10⟩
termination_by sizeOf s
decreasing_by
  · -- the schema of the items is part of the schema
    obtain ⟨⟩ := s
    simp only at ht
    subst ht
    simp only [Schema.mk.sizeOf_spec, Option.some.sizeOf_spec]
    omega
  · -- the schema of a property is a member of the list of properties
    obtain ⟨⟩ := s
    have hlt := List.sizeOf_lt_of_mem ht
    simp only [Prod.mk.sizeOf_spec] at hlt
    simp only [Schema.mk.sizeOf_spec]
    omega

end Schema
