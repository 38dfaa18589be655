import DiracRucioPolicy.Spec.ReadSchemas

/-!
# Identifier schemas and their grammars

Five schemas describe identifiers by an anchored pattern, and two describe checksums. The
patterns accept the words of the grammar, but not only these: `$` lets a final newline
stand, the raw string of `ACCOUNT_ATTRIBUTE` puts a backslash into its class, and `\d`
accepts the decimal digits of every script.

## Key results

- `Identifier.exact_iff`: what a final newline costs
- `identifiers_exact_iff`: on which strings each schema decides its grammar
-/

namespace DiracRucioPolicy

open Regex

/-! ## Identifiers with a final newline -/

/-- A kind of identifier: the schema that describes it, the words of its grammar, and the
    number of characters it may have. No word contains a newline. -/
structure Identifier where
  schema : String
  Word : List Char → Prop
  maxLength : Option Nat
  newline_notMem : ∀ {v}, Word v → '\n' ∉ v

namespace Identifier

variable (g : Identifier)

/-- The string is an identifier of the grammar. -/
def Accepts (s : String) : Prop := (∀ n, g.maxLength = some n → s.length ≤ n) ∧ g.Word s.toList

/-- The string is a word of the grammar and a newline, within the length. -/
def HasNewline (s : String) : Prop :=
  (∀ n, g.maxLength = some n → s.length ≤ n) ∧ ∃ v, g.Word v ∧ s.toList = v ++ ['\n']

/-- A schema that accepts the lines of the grammar decides it except on those with a
    newline. -/
theorem exact_iff {accepted : Prop} {s : String}
    (h : accepted ↔ (∀ n, g.maxLength = some n → s.length ≤ n) ∧ ∃ v, g.Word v ∧ Line v s.toList) :
    (accepted ↔ g.Accepts s) ↔ ¬ g.HasNewline s := by
  constructor
  · intro hexact hnewline
    obtain ⟨hlen, v, hv, hs⟩ := hnewline
    have hword := (hexact.mp (h.mpr ⟨hlen, v, hv, Or.inr hs⟩)).2
    exact g.newline_notMem hword (by rw [hs]; simp)
  · intro hnewline
    constructor
    · intro hacc
      obtain ⟨hlen, v, hv, hline⟩ := h.mp hacc
      cases hline with
      | inl hs => exact ⟨hlen, by rw [hs]; exact hv⟩
      | inr hs => exact absurd ⟨hlen, v, hv, hs⟩ hnewline
    · intro hacc
      exact h.mpr ⟨hacc.1, s.toList, hacc.2, Or.inl rfl⟩

/-- The strings that `validate_schema` accepts when the pattern is the grammar between
    anchors. -/
theorem accepted_iff {u : UnicodeDb} {r : Regex Char} (hr : r.Plain)
    (hschema : (Schemas.schemas u).lookup g.schema = some
      { type := some [.string], pattern := some (anchored r), maxLength := g.maxLength })
    (hlang : ∀ v, v ∈ r.lang ↔ g.Word v) {s : String} (hs : s ≠ "") :
    validateSchema u g.schema (.str s) = .ok () ↔
      (∀ n, g.maxLength = some n → s.length ≤ n) ∧ ∃ v, g.Word v ∧ Line v s.toList := by
  rw [validateSchema_str_iff u hschema hs, valid_anchored_iff hr]
  simp only [hlang]

end Identifier

/-! ## The grammars -/

/-- The characters of an account. -/
def accountChar (c : Char) : Bool :=
  'a' ≤ c && c ≤ 'z' || '0' ≤ c && c ≤ '9' || c == '-' || c == '_'

/-- The characters of a block of an RSE name. -/
def rseChar (c : Char) : Bool := 'A' ≤ c && c ≤ 'Z' || '0' ≤ c && c ≤ '9'

/-- The characters between the blocks of an RSE name. -/
def rseSeparator (c : Char) : Bool := c == '_' || c == '-'

/-- The ASCII hexadecimal digits. -/
def hexChar (c : Char) : Bool :=
  'a' ≤ c && c ≤ 'f' || 'A' ≤ c && c ≤ 'F' || '0' ≤ c && c ≤ '9'

/-- 1 to 25 of `a-z 0-9 - _` -/
def accountId : Identifier where
  schema := "account"
  Word v := v ≠ [] ∧ ∀ c ∈ v, accountChar c = true
  maxLength := some 25
  newline_notMem h hmem := absurd (h.2 _ hmem) (by decide)

/-- 1 to 25 of `A-Z a-z 0-9 _ - .` -/
def scopeId : Identifier where
  schema := "scope"
  Word := ScopeBody
  maxLength := some 25
  newline_notMem h hmem := absurd (h.2 _ hmem) (by decide)

/-- At most 250 characters: `/`, a letter or digit, then `A-Z a-z 0-9 . - _ /`. -/
def nameId : Identifier where
  schema := "name"
  Word := NameBody
  maxLength := some 250
  newline_notMem := NameBody.newline_notMem

/-- Non-empty blocks of `A-Z 0-9`, joined by single `_` or `-`. -/
def rseId : Identifier where
  schema := "rse"
  Word := Joined rseChar rseSeparator
  maxLength := none
  newline_notMem h hmem := absurd (h.mem _ hmem) (by decide)

/-- The account attributes: 1 to 30 of `A-Z a-z 0-9 - _ / .` -/
def AttributeWord (v : List Char) : Prop :=
  1 ≤ v.length ∧ v.length ≤ 30 ∧ ∀ c ∈ v, nameChar c = true

/-- 1 to 30 of the same characters or backslashes. -/
def BackslashWord (v : List Char) : Prop :=
  1 ≤ v.length ∧ v.length ≤ 30 ∧ ∀ c ∈ v, nameChar c = true ∨ c = '\\'

/-- `n` ASCII hexadecimal digits. -/
def HexWord (n : Nat) (v : List Char) : Prop := v.length = n ∧ ∀ c ∈ v, hexChar c = true

/-- No character is a newline or lies outside ASCII. -/
def PlainAscii (v : List Char) : Prop := ∀ c ∈ v, c ≠ '\n' ∧ c.toNat < 128

variable (u : UnicodeDb)

/-! ## Character classes -/

/-- The class of the pattern has the characters of an account. -/
theorem classTest_account (c : Char) :
    classTest u [.range 'a' 'z', .range '0' '9', .char '-', .char '_'] c = accountChar c := by
  simp only [classTest, itemTest, List.any_cons, List.any_nil, Bool.or_false, accountChar,
    Bool.or_assoc]

/-- The class of the pattern has the characters of an RSE. -/
theorem classTest_rse (c : Char) :
    classTest u [.range 'A' 'Z', .range '0' '9'] c = rseChar c := by
  simp only [classTest, itemTest, List.any_cons, List.any_nil, Bool.or_false, rseChar]

/-- The class of the pattern has the characters between the parts of an RSE. -/
theorem classTest_rseSeparator (c : Char) :
    classTest u [.char '_', .char '-'] c = rseSeparator c := by
  simp only [classTest, itemTest, List.any_cons, List.any_nil, Bool.or_false, rseSeparator]

/-- The class of the pattern has the characters of a name, and the backslash as well. -/
theorem classTest_attribute_iff (c : Char) :
    classTest u [.range 'a' 'z', .range 'A' 'Z', .range '0' '9', .char '-', .char '_',
      .char '\\', .char '/', .char '\\', .char '.'] c = true ↔ nameChar c = true ∨ c = '\\' := by
  rw [nameChar, scopeChar, ← classTest_alphanum u c]
  simp only [classTest, itemTest, List.any_cons, List.any_nil, Bool.or_false, Bool.or_eq_true,
    beq_iff_eq]
  tauto

/-- On ASCII `\d` is a digit, so the class of the checksums has the hexadecimal digits. -/
theorem classTest_hexOrDigit {c : Char} (hc : c.toNat < 128) :
    classTest u [.range 'a' 'f', .range 'A' 'F', .digit] c = hexChar c := by
  have hdigit : u.digit c = ('0' ≤ c && c ≤ '9' : Bool) := u.digit_ascii c hc
  simp only [classTest, itemTest, List.any_cons, List.any_nil, Bool.or_false, hexChar, hdigit,
    Bool.or_assoc]

/-- A hexadecimal digit is ASCII. -/
theorem toNat_lt_of_hexChar {c : Char} (h : hexChar c = true) : c.toNat < 128 := by
  simp only [hexChar, Bool.or_eq_true, Bool.and_eq_true, decide_eq_true_eq] at h
  rcases h with (h | h) | h
  all_goals exact (Char.toNat_le_of_le h.2).trans_lt (by decide)

/-! ## Identifiers -/

/-- The schemas of accounts, scopes, names and RSEs decide their grammars except on the
    words with a final newline. -/
theorem identifier_exact_iff {g : Identifier} (hg : g ∈ [accountId, scopeId, nameId, rseId])
    {s : String} (hs : s ≠ "") :
    (validateSchema u g.schema (.str s) = .ok () ↔ g.Accepts s) ↔ ¬ g.HasNewline s := by
  apply g.exact_iff
  simp only [List.mem_cons, List.not_mem_nil, or_false] at hg
  rcases hg with rfl | rfl | rfl | rfl
  · -- account
    refine accountId.accepted_iff (by simp [Plain, plus, cls]) rfl (fun v => ?_) hs
    simp only [cls, mem_lang_plus_set, classTest_account, accountId]
  · -- scope
    exact scopeId.accepted_iff (by simp [Plain, plus, cls]) rfl (mem_lang_scope u) hs
  · -- name
    exact nameId.accepted_iff (by simp [Plain, Regex.star, cls, chr]) rfl (mem_lang_name u) hs
  · -- rse: the language of a group is the language of its inside
    refine rseId.accepted_iff (r := .group 1 (Patterns.rseBlocks u))
      (by simp [Patterns.rseBlocks, Plain, plus, Regex.star, cls]) rfl (fun v => ?_) hs
    rw [lang, Patterns.rseBlocks, cls, cls, mem_lang_joined]
    simp only [funext (classTest_rse u), funext (classTest_rseSeparator u), rseId]

/-- The schema of account attributes accepts the words with backslashes, and a final newline. -/
theorem accountAttribute_accepted_iff {s : String} (hs : s ≠ "") :
    validateSchema u "account_attribute" (.str s) = .ok () ↔
      ∃ v, BackslashWord v ∧ Line v s.toList := by
  have hname : (Schemas.schemas u).lookup "account_attribute" =
    some (Schemas.accountAttribute u) := rfl
  rw [validateSchema_str_iff u hname hs, Schemas.accountAttribute, Patterns.accountAttribute,
    valid_anchored_iff (by simp [Plain, cls])]
  simp only [cls, mem_lang_rep_set, classTest_attribute_iff, BackslashWord, Option.some.injEq,
    forall_eq', reduceCtorEq, false_implies, implies_true, true_and]

/-- The schema of account attributes decides its grammar except on the words with a
    backslash or a final newline. -/
theorem accountAttribute_exact_iff {s : String} (hs : s ≠ "") :
    (validateSchema u "account_attribute" (.str s) = .ok () ↔ AttributeWord s.toList) ↔
      ¬ ∃ v, BackslashWord v ∧ (s.toList = v ++ ['\n'] ∨ s.toList = v ∧ '\\' ∈ v) := by
  rw [accountAttribute_accepted_iff u hs]
  constructor
  · intro hexact hstray
    obtain ⟨v, hv, hs⟩ := hstray
    cases hs with
    | inl hs =>
      have hword := hexact.mp ⟨v, hv, Or.inr hs⟩
      exact absurd (hword.2.2 '\n' (by rw [hs]; simp)) (by decide)
    | inr hs =>
      have hword := hexact.mp ⟨v, hv, Or.inl hs.1⟩
      exact absurd (hword.2.2 '\\' (by rw [hs.1]; exact hs.2)) (by decide)
  · intro hstray
    constructor
    · intro hacc
      obtain ⟨v, hv, hline⟩ := hacc
      cases hline with
      | inl hs =>
        -- without a backslash every character is one of the grammar
        refine ⟨by rw [hs]; exact hv.1, by rw [hs]; exact hv.2.1, fun c hc => ?_⟩
        rw [hs] at hc
        refine (hv.2.2 c hc).resolve_right fun hback => ?_
        rw [hback] at hc
        exact hstray ⟨v, hv, Or.inr ⟨hs, hc⟩⟩
      | inr hs => exact absurd ⟨v, hv, Or.inl hs⟩ hstray
    · intro hword
      exact ⟨s.toList, ⟨hword.1, hword.2.1, fun c hc => Or.inl (hword.2.2 c hc)⟩, Or.inl rfl⟩

/-! ## Checksums -/

/-- An accepted checksum has the digits of its grammar exactly when it is plain ASCII. -/
theorem hexWord_iff {n : Nat} {a : List Char}
    (h : ∃ v ∈ (exactly n (Patterns.hexOrDigit u)).lang, Line v a) :
    HexWord n a ↔ PlainAscii a := by
  obtain ⟨v, hv, hline⟩ := h
  rw [Patterns.hexOrDigit, cls, mem_lang_exactly_set] at hv
  constructor
  · intro hword c hc
    have hhex := hword.2 c hc
    refine ⟨fun hnl => ?_, toNat_lt_of_hexChar hhex⟩
    rw [hnl] at hhex
    exact absurd hhex (by decide)
  · intro hplain
    cases hline with
    | inl ha =>
      rw [ha] at hplain ⊢
      refine ⟨hv.1, fun c hc => ?_⟩
      rw [← classTest_hexOrDigit u (hplain c hc).2]
      exact hv.2 c hc
    | inr ha => exact absurd rfl (hplain '\n' (by rw [ha]; simp)).1

/-- The checksums of an accepted DID. -/
theorem checksum_of_did {d x : Json} {key : String} {n : Nat}
    (hkey : (key, ({ type := some [.string]
                     pattern := some (anchored (exactly n (Patterns.hexOrDigit u))) } : Schema)) ∈
      (Schemas.did u).properties)
    (h : validateSchema u "did" d = .ok ()) (hx : d.get? key = some x) :
    ∃ a, x = .str a ∧ (HexWord n a.toList ↔ PlainAscii a.toList) := by
  have hname : (Schemas.schemas u).lookup "did" = some (Schemas.did u) := rfl
  have hvalid : (Schemas.did u).valid d = true := by
    rw [validateSchema_entry_iff hname] at h
    apply h.resolve_left
    -- an object with a key is not falsy
    intro hfalsy
    cases d with
    | obj fields =>
      cases fields with
      | nil => cases hx
      | cons f fields => cases hfalsy
    | _ => cases hx
  have hvx := ((Schema.valid_iff _ _).mp hvalid).2.2.2.2.2.2.2.1 _ hkey x hx
  obtain ⟨a, rfl⟩ := Schema.eq_str_of_valid rfl hvx
  have hlines := (valid_anchored_iff (by simp [exactly, Patterns.hexOrDigit, Plain, cls]) none a).mp
    hvx
  exact ⟨a, rfl, hexWord_iff u hlines.2⟩

/-! ## All identifiers -/

/-- Each schema decides its grammar exactly on the strings that are not one of the strays
    of its pattern: a word followed by a newline, for account attributes also a word with
    a backslash, for the checksums of a DID also digits outside ASCII. -/
theorem identifiers_exact_iff :
    (∀ g ∈ [accountId, scopeId, nameId, rseId], ∀ s : String, s ≠ "" →
      ((validateSchema u g.schema (.str s) = .ok () ↔ g.Accepts s) ↔ ¬ g.HasNewline s)) ∧
    (∀ s : String, s ≠ "" →
      ((validateSchema u "account_attribute" (.str s) = .ok () ↔ AttributeWord s.toList) ↔
        ¬ ∃ v, BackslashWord v ∧ (s.toList = v ++ ['\n'] ∨ s.toList = v ∧ '\\' ∈ v))) ∧
    (∀ d, validateSchema u "did" d = .ok () →
      (∀ x, d.get? "adler32" = some x →
        ∃ a, x = .str a ∧ (HexWord 8 a.toList ↔ PlainAscii a.toList)) ∧
      (∀ x, d.get? "md5" = some x →
        ∃ a, x = .str a ∧ (HexWord 32 a.toList ↔ PlainAscii a.toList))) := by
  refine ⟨fun g hg s hs => identifier_exact_iff u hg hs,
    fun s hs => accountAttribute_exact_iff u hs, fun d h => ⟨fun x hx => ?_, fun x hx => ?_⟩⟩
  · exact checksum_of_did u (by simp [Schemas.did, Schemas.adler32, Patterns.adler32]) h hx
  · exact checksum_of_did u (by simp [Schemas.did, Schemas.md5, Patterns.md5]) h hx

/-- The DID `/vo/foo` in the scope `foo`, with the given checksum. -/
def didWithAdler32 (checksum : String) : Json :=
  .obj [("scope", .str "foo"), ("name", .str "/vo/foo"), ("adler32", .str checksum)]

/-- The account `foo` and a checksum of ASCII digits. -/
theorem identifiers_exact_foo :
    (validateSchema .ascii "account" (.str "foo") = .ok () ↔ accountId.Accepts "foo") ∧
    ∃ a, Json.str "0a1b2c3d" = .str a ∧ (HexWord 8 a.toList ↔ PlainAscii a.toList) := by
  have hexact := identifiers_exact_iff .ascii
  constructor
  · apply (hexact.1 accountId (by simp) "foo" (by decide)).mpr
    -- the last character is no newline
    intro hnewline
    obtain ⟨-, v, -, hv⟩ := hnewline
    have hlast := congrArg List.getLast? hv
    rw [List.getLast?_concat] at hlast
    exact absurd hlast (by decide)
  · exact (hexact.2.2 (didWithAdler32 "0a1b2c3d") (by decide)).1 _ rfl

/-- The Arabic digits, which are decimal digits of Unicode. -/
def arabicDigit (c : Char) : Bool := '٠' ≤ c && c ≤ '٩'

/-- No Arabic digit is ASCII. -/
theorem arabicDigit_ascii {c : Char} (hc : c.toNat < 128) : arabicDigit c = false := by
  rw [arabicDigit, Bool.and_eq_false_iff, decide_eq_false_iff_not]
  left
  intro h
  have hle : '٠'.toNat ≤ c.toNat := Char.toNat_le_of_le h
  have hzero : 128 ≤ '٠'.toNat := by decide
  omega

/-- A database that knows the Arabic digits besides ASCII. -/
def arabicDb : UnicodeDb where
  word c := c.isAlphanum || c == '_' || arabicDigit c
  digit c := c.isDigit || arabicDigit c
  word_ascii c hc := by rw [arabicDigit_ascii hc, Bool.or_false]
  digit_ascii c hc := by rw [arabicDigit_ascii hc, Bool.or_false]

/-- A final newline, a backslash and a digit outside ASCII are accepted. -/
theorem identifiers_stray :
    (¬ ∀ (u : UnicodeDb) (s : String), s ≠ "" →
      (validateSchema u "account" (.str s) = .ok () ↔ accountId.Accepts s)) ∧
    (¬ ∀ (u : UnicodeDb) (s : String), s ≠ "" →
      (validateSchema u "account_attribute" (.str s) = .ok () ↔ AttributeWord s.toList)) ∧
    (¬ ∀ (u : UnicodeDb) (d : Json), validateSchema u "did" d = .ok () →
      ∀ a, d.get? "adler32" = some (.str a) → HexWord 8 a.toList) := by
  refine ⟨fun h => ?_, fun h => ?_, fun h => ?_⟩
  · have hacc := (h .ascii "a\n" (by decide)).mp (by decide)
    exact accountId.newline_notMem hacc.2 (by decide)
  · have hacc := (h .ascii "a\\b" (by decide)).mp (by decide)
    exact absurd (hacc.2.2 '\\' (by decide)) (by decide)
  · have hhex := h arabicDb (didWithAdler32 "٣٣٣٣٣٣٣٣") (by decide) "٣٣٣٣٣٣٣٣" rfl
    exact absurd (hhex.2 '٣' (by decide)) (by decide)

end DiracRucioPolicy
