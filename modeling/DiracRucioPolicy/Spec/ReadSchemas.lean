import DiracRucioPolicy.Spec.Identifiers

/-!
# Creation schemas and read schemas

`R_DID` is `DID` with `\w` in place of the patterns for the scope and the name, and
`R_DIDS` is the array of these. A scope may consist of dots and dashes only, and then
the creation schema accepts it but the read schema does not.

## Key results

- `valid_rDid_iff`: on a valid DID the read schema asks for a word character in the
  scope
- `read_accepts_iff`: when a created DID, or a list of them, can be read
-/

namespace DiracRucioPolicy

open Regex

/-- The ASCII characters that `\w` accepts. -/
def wordChar (c : Char) : Bool := c.isAlphanum || c == '_'

/-- The scope of the DID contains an ASCII letter, a digit or an underscore. -/
def WordScope (d : Json) : Prop :=
  ∃ scope, d.get? "scope" = some (.str scope) ∧ ∃ c ∈ scope.toList, wordChar c = true

/-! ## ASCII -/

/-- Letters and digits are ASCII. -/
theorem toNat_lt_of_isAlphanum {c : Char} (h : c.isAlphanum = true) : c.toNat < 128 := by
  rw [← classTest_alphanum .ascii c] at h
  simp only [classTest, itemTest, List.any_cons, List.any_nil, Bool.or_false, Bool.or_eq_true,
    Bool.and_eq_true, decide_eq_true_eq] at h
  rcases h with h | h | h
  all_goals exact (Char.toNat_le_of_le h.2).trans_lt (by decide)

/-- So are all name characters. -/
theorem toNat_lt_of_nameChar {c : Char} (h : nameChar c = true) : c.toNat < 128 := by
  simp only [nameChar, scopeChar, Bool.or_eq_true, beq_iff_eq] at h
  rcases h with (((h | h) | h) | h) | h
  · exact toNat_lt_of_isAlphanum h
  all_goals rw [h]; decide

variable (u : UnicodeDb)

/-- A line of name characters is pure ASCII. -/
theorem word_of_line {v w : List Char} (hv : ∀ c ∈ v, nameChar c = true) (hline : Line v w)
    {c : Char} (hc : c ∈ w) : u.word c = wordChar c := by
  apply u.word_ascii
  have hcases : c ∈ v ∨ c = '\n' := by
    cases hline with
    | inl h => rw [h] at hc; exact Or.inl hc
    | inr h => rw [h] at hc; simpa using hc
  cases hcases with
  | inl h => exact toNat_lt_of_nameChar (hv c h)
  | inr h => rw [h]; decide

/-! ## The read schemas -/

/-- `\w` accepts the strings with a word character. -/
theorem valid_word_iff (s : String) :
    (Schemas.rScope u).valid (.str s) = true ↔ ∃ c ∈ s.toList, u.word c = true := by
  have hclass : ∀ c, classTest u [.word] c = u.word c := by
    intro c
    simp [classTest, itemTest]
  have hsearch := search_set_iff (classTest u [.word]) s.toList
  simp only [hclass] at hsearch
  rw [Schema.valid_iff, ← hsearch]
  simp [Schemas.rScope, Patterns.word, cls, Schema.typeOk, Json.hasKind, Schema.enumOk,
    Schema.patternOk, Schema.maxLengthOk, Schema.minItemsOk, Schema.maxItemsOk,
    Schema.requiredOk, Schema.additionalOk]

/-- Every accepted scope is a string; the read schema accepts it when it has a word
    character. -/
theorem valid_rScope_iff {x : Json} (h : (Schemas.scope u).valid x = true) :
    (Schemas.rScope u).valid x = true ↔ ∃ s, x = .str s ∧ ∃ c ∈ s.toList, wordChar c = true := by
  obtain ⟨s, rfl⟩ := Schema.eq_str_of_valid rfl h
  obtain ⟨-, v, hv, hline⟩ := (valid_scope_iff u s).mp h
  have hname : ∀ c ∈ v, nameChar c = true := fun c hc => by simp [nameChar, hv.2 c hc]
  rw [valid_word_iff]
  constructor
  · intro hw
    obtain ⟨c, hc, hcw⟩ := hw
    exact ⟨s, rfl, c, hc, by rw [← word_of_line u hname hline hc]; exact hcw⟩
  · intro hw
    obtain ⟨s', hs', c, hc, hcw⟩ := hw
    obtain rfl : s = s' := by simpa using hs'
    exact ⟨c, hc, by rw [word_of_line u hname hline hc]; exact hcw⟩

/-- Every accepted name is accepted by the read schema: it has a letter or a digit. -/
theorem valid_rName {x : Json} (h : (Schemas.name u).valid x = true) :
    (Schemas.rName u).valid x = true := by
  obtain ⟨s, rfl⟩ := Schema.eq_str_of_valid rfl h
  obtain ⟨-, v, hv, hline⟩ := (valid_name_iff u s).mp h
  obtain ⟨a, body, hvb, ha, -⟩ := hv
  have hmem : a ∈ s.toList := by
    cases hline with
    | inl h => rw [h, hvb]; simp
    | inr h => rw [h, hvb]; simp
  refine (valid_word_iff u s).mpr ⟨a, hmem, ?_⟩
  rw [u.word_ascii a (toNat_lt_of_isAlphanum ha), ha, Bool.true_or]

/-- On a valid DID the read schema asks for a word character in the scope. -/
theorem valid_rDid_iff {d : Json} (h : (Schemas.did u).valid d = true) :
    (Schemas.rDid u).valid d = true ↔ WordScope d := by
  rw [Schema.valid_iff] at h ⊢
  obtain ⟨htype, henum, hpat, hlen, hmin, hmax, hitems, hprops, hreq, hadd⟩ := h
  -- the required scope is there, and it is a valid scope
  simp only [Schemas.did, List.forall_mem_cons] at hprops
  obtain ⟨hscope, hname, hrest⟩ := hprops
  have hget : ∃ x, d.get? "scope" = some x := by
    cases d with
    | obj fields =>
      exact (Schema.requiredOk_iff _ _).mp hreq fields rfl "scope" (by simp [Schemas.did])
    | _ => simp [Schemas.did, Schema.typeOk, Json.hasKind] at htype
  obtain ⟨x, hx⟩ := hget
  have hword : (Schemas.rScope u).valid x = true ↔ WordScope d := by
    rw [valid_rScope_iff u (hscope x hx), WordScope, hx]
    simp only [Option.some.injEq]
  rw [← hword]
  -- the two schemas differ in the properties `scope` and `name` only
  constructor
  · intro hr
    obtain ⟨-, -, -, -, -, -, -, hr, -, -⟩ := hr
    exact hr ("scope", Schemas.rScope u) (by simp [Schemas.rDid]) x hx
  · intro hr
    refine ⟨htype, henum, hpat, hlen, hmin, hmax, hitems, ?_, hreq, hadd⟩
    simp only [Schemas.rDid, List.forall_mem_cons]
    refine ⟨fun y hy => ?_, fun y hy => valid_rName u (hname y hy), hrest⟩
    rw [hx, Option.some.injEq] at hy
    rw [← hy]
    exact hr

/-- On a valid array of DIDs the read schema asks for a word character in each scope. -/
theorem valid_rDids_iff {v : Json} (h : (Schemas.dids u).valid v = true) :
    (Schemas.rDids u).valid v = true ↔ ∀ vs, v = .arr vs → ∀ d ∈ vs, WordScope d := by
  rw [Schema.valid_iff] at h ⊢
  obtain ⟨htype, henum, hpat, hlen, hmin, hmax, hitems, hprops, hreq, hadd⟩ := h
  have hdid : ∀ vs, v = .arr vs → ∀ d ∈ vs, (Schemas.did u).valid d = true :=
    hitems (Schemas.did u) rfl
  -- the two schemas differ in the schema of the items only
  constructor
  · intro hr vs hv d hd
    obtain ⟨-, -, -, -, -, -, hr, -⟩ := hr
    exact (valid_rDid_iff u (hdid vs hv d hd)).mp (hr (Schemas.rDid u) rfl vs hv d hd)
  · intro hr
    refine ⟨htype, henum, hpat, hlen, hmin, hmax, ?_, hprops, hreq, hadd⟩
    intro t ht vs hv d hd
    obtain rfl : Schemas.rDid u = t := by simpa [Schemas.rDids] using ht
    exact (valid_rDid_iff u (hdid vs hv d hd)).mpr (hr vs hv d hd)

/-! ## What can be written can be read -/

/-- A DID that the creation schema accepts can be read exactly when its scope has an
    ASCII letter, a digit or an underscore; a list of DIDs when each scope has one. -/
theorem read_accepts_iff (u : UnicodeDb) (v : Json) :
    (validateSchema u "did" v = .ok () →
      (validateSchema u "r_did" v = .ok () ↔ (v.truthy = true → WordScope v))) ∧
    (validateSchema u "dids" v = .ok () →
      (validateSchema u "r_dids" v = .ok () ↔ ∀ vs, v = .arr vs → ∀ d ∈ vs, WordScope d)) := by
  have hdid : (Schemas.schemas u).lookup "did" = some (Schemas.did u) := rfl
  have hrDid : (Schemas.schemas u).lookup "r_did" = some (Schemas.rDid u) := rfl
  have hdids : (Schemas.schemas u).lookup "dids" = some (Schemas.dids u) := rfl
  have hrDids : (Schemas.schemas u).lookup "r_dids" = some (Schemas.rDids u) := rfl
  rw [validateSchema_entry_iff hdid, validateSchema_entry_iff hrDid,
    validateSchema_entry_iff hdids, validateSchema_entry_iff hrDids]
  constructor
  · intro h
    cases htruthy : v.truthy with
    | false => simp
    | true =>
      have hvalid : (Schemas.did u).valid v = true := h.resolve_left (by simp [htruthy])
      simpa using valid_rDid_iff u hvalid
  · intro h
    cases htruthy : v.truthy with
    | false =>
      -- the only falsy array is empty
      have hnil : ∀ vs, v = .arr vs → ∀ d ∈ vs, WordScope d := by
        intro vs hv d hd
        rw [hv] at htruthy
        simp only [Json.truthy, Bool.not_eq_false', List.isEmpty_iff] at htruthy
        rw [htruthy] at hd
        exact absurd hd List.not_mem_nil
      exact ⟨fun _ => hnil, fun _ => Or.inl rfl⟩
    | true =>
      have hvalid : (Schemas.dids u).valid v = true := h.resolve_left (by simp [htruthy])
      simpa using valid_rDids_iff u hvalid

/-- The DID `/vo/foo/bar` in the scope `foo` can be read. -/
theorem read_accepts_foo :
    (validateSchema .ascii "r_did" (didObj "foo" "/vo/foo/bar") = .ok () ↔
      ((didObj "foo" "/vo/foo/bar").truthy = true → WordScope (didObj "foo" "/vo/foo/bar"))) ∧
    (validateSchema .ascii "r_dids" (.arr [didObj "foo" "/vo/foo/bar"]) = .ok () ↔
      ∀ vs, Json.arr [didObj "foo" "/vo/foo/bar"] = .arr vs → ∀ d ∈ vs, WordScope d) :=
  ⟨(read_accepts_iff .ascii (didObj "foo" "/vo/foo/bar")).1 (by decide),
    (read_accepts_iff .ascii (.arr [didObj "foo" "/vo/foo/bar"])).2 (by decide)⟩

/-- The scope `-` can be created but not read. -/
theorem read_refuses_dash :
    ¬ ∀ (u : UnicodeDb) (v : Json),
      (validateSchema u "did" v = .ok () → validateSchema u "r_did" v = .ok ()) ∧
      (validateSchema u "dids" v = .ok () → validateSchema u "r_dids" v = .ok ()) := by
  intro h
  have hread := (h .ascii (didObj "-" "/vo/foo/bar")).1 (by decide)
  exact absurd hread (by decide)

end DiracRucioPolicy
