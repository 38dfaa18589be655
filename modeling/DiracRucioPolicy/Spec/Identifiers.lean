import DiracRucioPolicy.Native.Schema

/-!
# The languages of scopes and names

What `validate_schema` accepts as a scope, as a name and as a DID made of the two.
Both patterns end in `$`, so both accept one newline after the identifier.

## Key results

- `valid_anchored_iff`: a string schema whose pattern stands between `^` and `$`
- `valid_scope_iff` / `valid_name_iff`: the accepted scopes and names
- `validateSchema_name_iff`: the same for `validate_schema("name", ...)`
- `validateSchema_did_iff`: a DID object is accepted when its two parts are
-/

namespace DiracRucioPolicy

open Regex

/-- `w` is `v`, or `v` and a final newline: what `$` lets through. -/
def Line (v w : List Char) : Prop := w = v ∨ w = v ++ ['\n']

/-- The characters of a scope. -/
def scopeChar (c : Char) : Bool := c.isAlphanum || c == '_' || c == '-' || c == '.'

/-- The characters of a name after its second one. -/
def nameChar (c : Char) : Bool := scopeChar c || c == '/'

/-- The body of a scope: at least one scope character. -/
def ScopeBody (v : List Char) : Prop := v ≠ [] ∧ ∀ c ∈ v, scopeChar c = true

/-- The body of a name: a slash, an ASCII letter or digit, then name characters. -/
def NameBody (v : List Char) : Prop :=
  ∃ a body, v = '/' :: a :: body ∧ a.isAlphanum = true ∧ ∀ c ∈ body, nameChar c = true

/-- Letters and digits are name characters. -/
theorem nameChar_of_isAlphanum {c : Char} (h : c.isAlphanum = true) : nameChar c = true := by
  simp [nameChar, scopeChar, h]

/-- Only the slash is missing in scopes. -/
theorem scopeChar_of_nameChar {c : Char} (h : nameChar c = true) (hc : c ≠ '/') :
    scopeChar c = true := by
  simpa [nameChar, hc] using h

/-- Every character of a name body is a name character. -/
theorem NameBody.nameChar {v : List Char} (h : NameBody v) : ∀ c ∈ v, nameChar c = true := by
  obtain ⟨a, body, rfl, ha, hbody⟩ := h
  intro c hc
  cases List.mem_cons.mp hc with
  | inl hc => rw [hc]; rfl  -- the slash
  | inr hc =>
    cases List.mem_cons.mp hc with
    | inl hc => rw [hc]; exact nameChar_of_isAlphanum ha
    | inr hc => exact hbody c hc

/-- A newline is not a name character. -/
theorem NameBody.newline_notMem {v : List Char} (h : NameBody v) : '\n' ∉ v := by
  intro hmem
  have := h.nameChar '\n' hmem
  exact absurd this (by decide)

/-! ## Character classes -/

variable (u : UnicodeDb)

/-- The three ranges that every identifier pattern contains. -/
theorem classTest_alphanum (c : Char) :
    classTest u [.range 'A' 'Z', .range 'a' 'z', .range '0' '9'] c = c.isAlphanum := by
  show _ = ((decide ('A' ≤ c ∧ c ≤ 'Z') || (decide ('a' ≤ c) && decide (c ≤ 'z'))) ||
    (decide ('0' ≤ c) && decide (c ≤ '9')))
  simp only [classTest, itemTest, List.any_cons, List.any_nil, Bool.or_false, Bool.or_assoc,
    Bool.decide_and]

/-- The class of the pattern has the scope characters. -/
theorem classTest_scope (c : Char) :
    classTest u [.range 'a' 'z', .range 'A' 'Z', .char '_', .char '-', .char '.',
      .range '0' '9'] c = scopeChar c := by
  rw [scopeChar, ← classTest_alphanum u c]
  simp only [classTest, itemTest, List.any_cons, List.any_nil, Bool.or_false]
  ac_rfl

/-- The class of the pattern has the name characters. -/
theorem classTest_name (c : Char) :
    classTest u [.range 'A' 'Z', .range 'a' 'z', .range '0' '9', .char '.', .char '-',
      .char '_', .char '/'] c = nameChar c := by
  rw [nameChar, scopeChar, ← classTest_alphanum u c]
  simp only [classTest, itemTest, List.any_cons, List.any_nil, Bool.or_false]
  ac_rfl

/-! ## Patterns -/

/-- The language of the pattern for scopes, between its anchors. -/
theorem mem_lang_scope (v : List Char) :
    v ∈ (plus (cls u [.range 'a' 'z', .range 'A' 'Z', .char '_', .char '-', .char '.',
      .range '0' '9'])).lang ↔ ScopeBody v := by
  simp only [cls, mem_lang_plus_set, classTest_scope, ScopeBody]

/-- The language of the pattern for names, between its anchors. -/
theorem mem_lang_name (v : List Char) :
    v ∈ (Regex.seq (chr '/') (.seq (cls u [.range 'A' 'Z', .range 'a' 'z', .range '0' '9'])
      (star (cls u [.range 'A' 'Z', .range 'a' 'z', .range '0' '9', .char '.', .char '-',
        .char '_', .char '/'])))).lang ↔ NameBody v := by
  rw [lang, lang, Language.mem_mul]
  constructor
  · -- the word is a slash, a letter or digit, and a repetition of the last class
    intro h
    obtain ⟨x, ⟨s, hs, rfl⟩, y, hy, rfl⟩ := h
    obtain ⟨z, ⟨a, ha, rfl⟩, body, hbody, rfl⟩ := Language.mem_mul.mp hy
    rw [beq_iff_eq] at hs
    rw [classTest_alphanum] at ha
    rw [cls, mem_lang_star_set] at hbody
    refine ⟨a, body, by rw [hs]; rfl, ha, fun c hc => ?_⟩
    rw [← classTest_name u c]
    exact hbody c hc
  · intro h
    obtain ⟨a, body, rfl, ha, hbody⟩ := h
    refine ⟨['/'], ⟨'/', rfl, rfl⟩, a :: body, ?_, rfl⟩
    refine Language.mem_mul.mpr ⟨[a], ⟨a, ?_, rfl⟩, body, ?_, rfl⟩
    · rw [classTest_alphanum]
      exact ha
    rw [cls, mem_lang_star_set]
    intro c hc
    rw [classTest_name]
    exact hbody c hc

/-! ## Schemas -/

/-- A string schema with an anchored pattern accepts the words of the pattern, with or
    without a final newline, up to its maximal length. -/
theorem valid_anchored_iff {r : Regex Char} (hr : r.Plain) (maxLength : Option Nat) (s : String) :
    Schema.valid { type := some [.string], pattern := some (anchored r), maxLength := maxLength }
        (.str s) = true ↔
      (∀ n, maxLength = some n → s.length ≤ n) ∧ ∃ v ∈ r.lang, Line v s.toList := by
  rw [Schema.valid_iff, Schema.maxLengthOk_iff]
  simp [Schema.typeOk, Json.hasKind, Schema.enumOk, Schema.patternOk, search_anchored r hr, Line,
    Schema.minItemsOk, Schema.maxItemsOk, Schema.requiredOk, Schema.additionalOk, and_comm]

/-- The schema of scopes: up to 25 characters, and perhaps a final newline. -/
theorem valid_scope_iff (s : String) :
    (Schemas.scope u).valid (.str s) = true ↔
      s.length ≤ 25 ∧ ∃ v, ScopeBody v ∧ Line v s.toList := by
  rw [Schemas.scope, Patterns.scope, valid_anchored_iff (by simp [Plain, plus, cls])]
  simp only [Option.some.injEq, forall_eq', mem_lang_scope, Schemas.scopeLength]

/-- The schema of names: up to 250 characters, and perhaps a final newline. -/
theorem valid_name_iff (s : String) :
    (Schemas.name u).valid (.str s) = true ↔
      s.length ≤ 250 ∧ ∃ v, NameBody v ∧ Line v s.toList := by
  rw [Schemas.name, Patterns.name, valid_anchored_iff (by simp [Plain, Regex.star, cls, chr])]
  simp only [Option.some.injEq, forall_eq', mem_lang_name, Schemas.nameLength]

/-- On a non-empty string `validate_schema` decides the schema of that name. -/
theorem validateSchema_str_iff {name : String} {schema : Schema}
    (hname : (Schemas.schemas u).lookup name = some schema) {s : String} (hs : s ≠ "") :
    validateSchema u name (.str s) = .ok () ↔ schema.valid (.str s) = true := by
  rw [validateSchema_entry_iff hname]
  simp [Json.truthy, hs]

/-- So `validate_schema` accepts these names. -/
theorem validateSchema_name_iff {s : String} (hs : s ≠ "") :
    validateSchema u "name" (.str s) = .ok () ↔
      s.length ≤ 250 ∧ ∃ v, NameBody v ∧ Line v s.toList := by
  have hname : (Schemas.schemas u).lookup "name" = some (Schemas.name u) := rfl
  rw [validateSchema_str_iff u hname hs, valid_name_iff]

/-- The JSON object `{"scope": scope, "name": name}`. -/
def didObj (scope name : String) : Json := .obj [("scope", .str scope), ("name", .str name)]

/-- A DID object is accepted exactly when its scope and its name are. -/
theorem validateSchema_did_iff (scope name : String) :
    validateSchema u "did" (didObj scope name) = .ok () ↔
      (Schemas.scope u).valid (.str scope) = true ∧ (Schemas.name u).valid (.str name) = true := by
  have hname : (Schemas.schemas u).lookup "did" = some (Schemas.did u) := rfl
  rw [validateSchema_entry_iff hname, Schema.valid_iff]
  simp [didObj, Schemas.did, Schema.typeOk, Json.truthy, Json.hasKind, Schema.enumOk,
    Schema.patternOk, Schema.maxLengthOk, Schema.minItemsOk, Schema.maxItemsOk,
    Schema.requiredOk, Schema.additionalOk, Json.get?, Json.keys, List.lookup_cons]

end DiracRucioPolicy
