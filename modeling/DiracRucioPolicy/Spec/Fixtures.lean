import DiracRucioPolicy.Native.Fixtures
import DiracRucioPolicy.Spec.Namespace

/-!
# Test sessions

The scope of a test session fits the schema of scopes whatever the time, and no two
sessions share one unless they start in the same second with the same token. The LFNs of
the session lie in it.

## Key results

- `digits_inj`: numbers of a fixed width are read off their digits
- `testScope_exact`: the scope of a session and its LFNs
-/

namespace DiracRucioPolicy.Fixtures

/-! ## Numbers of a fixed width -/

/-- Numbers are written with the width. -/
@[simp]
theorem length_digits (b w n : Nat) : (digits b w n).length = w := by
  induction w generalizing n with
  | zero => rfl
  | succ w ih => rw [digits, List.length_append, ih, List.length_singleton]

/-- Digits up to base 16 are letters and digits. -/
theorem isAlphanum_of_mem_digits {b w n : Nat} (hb : 0 < b) (hle : b ≤ 16) {c : Char}
    (hc : c ∈ digits b w n) : c.isAlphanum = true := by
  have hdigit : ∀ d : Fin 16, (Nat.digitChar d).isAlphanum = true := by decide
  induction w generalizing n with
  | zero => exact absurd hc List.not_mem_nil
  | succ w ih =>
    rw [digits, List.mem_append, List.mem_singleton] at hc
    cases hc with
    | inl hc => exact ih hc
    | inr hc =>
      have hlt : n % b < 16 := (Nat.mod_lt n hb).trans_le hle
      rw [hc]
      exact hdigit ⟨n % b, hlt⟩

/-- A digit is known from its character. -/
theorem digitChar_inj {d d' : Nat} (hd : d < 16) (hd' : d' < 16)
    (h : Nat.digitChar d = Nat.digitChar d') : d = d' := by
  have hinj : ∀ x y : Fin 16, Nat.digitChar x = Nat.digitChar y → x = y := by decide
  exact congrArg Fin.val (hinj ⟨d, hd⟩ ⟨d', hd'⟩ h)

/-- Two numbers of the same width with the same digits are the same. -/
theorem digits_inj {b w n m : Nat} (hb : 0 < b) (hle : b ≤ 16) (hn : n < b ^ w) (hm : m < b ^ w)
    (h : digits b w n = digits b w m) : n = m := by
  induction w generalizing n m with
  | zero =>
    rw [pow_zero] at hn hm
    omega
  | succ w ih =>
    rw [digits, digits] at h
    obtain ⟨hfront, hlast⟩ := List.append_inj' h rfl
    -- the last digit is the remainder, the others are the quotient
    have hrest := ih (Nat.div_lt_of_lt_mul (by rwa [pow_succ, Nat.mul_comm] at hn))
      (Nat.div_lt_of_lt_mul (by rwa [pow_succ, Nat.mul_comm] at hm)) hfront
    have hmod := digitChar_inj ((Nat.mod_lt n hb).trans_le hle) ((Nat.mod_lt m hb).trans_le hle)
      (List.cons.inj hlast).1
    rw [← Nat.div_add_mod n b, hrest, hmod, Nat.div_add_mod m b]

/-! ## The scope -/

/-- The scope of a session always has 22 characters, of the 25 that are allowed. -/
theorem length_testScope (now : DateTime) (byte byte' : Fin 256) :
    (testScope now byte byte').length = 22 := by
  simp only [testScope, String.length_ofList, dateStr, tokenHex, List.flatMap_cons,
    List.flatMap_nil, List.length_append, length_digits, List.length_cons, List.length_nil]

/-- The time can be read off its text. -/
theorem dateStr_inj {now now' : DateTime} (h : dateStr now = dateStr now') : now = now' := by
  have hlen : ∀ w n m, (digits 10 w n).length = (digits 10 w m).length := by
    intro w n m
    rw [length_digits, length_digits]
  have hnum : ∀ {w n m : Nat}, n < 10 ^ w → m < 10 ^ w → digits 10 w n = digits 10 w m → n = m :=
    digits_inj (by decide) (by decide)
  obtain ⟨year, month, day, hour, minute, second, hyear, hyear', hmonth, hday, hhour, hminute,
    hsecond⟩ := now
  obtain ⟨year', month', day', hour', minute', second', hy, hy', hm, hd, hh, hmin, hs⟩ := now'
  simp only [dateStr] at h
  -- from the end: each number has a fixed width
  obtain ⟨h, h₁⟩ := List.append_inj' h (hlen 2 _ _)
  obtain ⟨h, h₂⟩ := List.append_inj' h (hlen 2 _ _)
  obtain ⟨h, h₃⟩ := List.append_inj' h (hlen 2 _ _)
  obtain ⟨h, h₄⟩ := List.append_inj' (List.append_cancel_right h) (hlen 2 _ _)
  obtain ⟨h₆, h₅⟩ := List.append_inj' h (hlen 2 _ _)
  obtain rfl := hnum (by omega) (by omega) h₁
  obtain rfl := hnum (by omega) (by omega) h₂
  obtain rfl := hnum (by omega) (by omega) h₃
  obtain rfl := hnum (by omega) (by omega) h₄
  obtain rfl := hnum (by omega) (by omega) h₅
  obtain rfl := hnum (by omega) (by omega) h₆
  rfl

/-- The time and the token can be read off the scope. -/
theorem testScope_inj {now now' : DateTime} {byte byte' x x' : Fin 256}
    (h : testScope now byte byte' = testScope now' x x') :
    now = now' ∧ byte = x ∧ byte' = x' := by
  have hbyte : ∀ {y z : Fin 256}, digits 16 2 y = digits 16 2 z → y = z := by
    intro y z hdigits
    exact Fin.ext (digits_inj (by decide) (by decide) y.isLt z.isLt hdigits)
  have hlen : ∀ n m, (digits 16 2 n).length = (digits 16 2 m).length := by
    intro n m
    rw [length_digits, length_digits]
  have hlist := String.ofList_injective h
  simp only [tokenHex, List.flatMap_cons, List.flatMap_nil, List.append_nil] at hlist
  rw [← List.append_assoc, ← List.append_assoc] at hlist
  obtain ⟨hfront, hlast⟩ := List.append_inj' hlist (hlen _ _)
  obtain ⟨hdate, hfirst⟩ := List.append_inj' hfront (hlen _ _)
  exact ⟨dateStr_inj (List.append_cancel_left (List.append_cancel_right hdate)), hbyte hfirst,
    hbyte hlast⟩

/-- The scope of a session is a name on one level of the tree. -/
theorem scopeBody_testScope (now : DateTime) (byte byte' : Fin 256) :
    ScopeBody (testScope now byte byte').toList := by
  have hdigits : ∀ {b w n : Nat}, 0 < b → b ≤ 16 → ∀ c ∈ digits b w n, scopeChar c = true := by
    intro b w n hb hle c hc
    rw [scopeChar, isAlphanum_of_mem_digits hb hle hc, Bool.true_or, Bool.true_or, Bool.true_or]
  have hten : ∀ {w n : Nat}, ∀ c ∈ digits 10 w n, scopeChar c = true :=
    hdigits (by decide) (by decide)
  have hhex : ∀ {w n : Nat}, ∀ c ∈ digits 16 w n, scopeChar c = true :=
    hdigits (by decide) (by decide)
  have hfront : ∀ c ∈ ['t', '_'], scopeChar c = true := List.all_eq_true.mp (by decide)
  have hdash : ∀ c ∈ ['_'], scopeChar c = true := List.all_eq_true.mp (by decide)
  rw [testScope, String.toList_ofList]
  refine ⟨List.append_ne_nil_of_left_ne_nil (List.cons_ne_nil _ _) _, ?_⟩
  simp only [tokenHex, dateStr, List.flatMap_cons, List.flatMap_nil, List.append_nil,
    List.forall_mem_append]
  exact ⟨⟨⟨hfront, ⟨⟨⟨⟨⟨hten, hten⟩, hten⟩, hdash⟩, hten⟩, hten⟩, hten⟩, hdash⟩, hhex, hhex⟩

/-- The LFN of a file of the session, as a position in the tree. -/
def sessionLfn (now : DateTime) (byte byte' : Fin 256) (name : Component) : Lfn where
  vo := ⟨"testvo.example.org", by decide, by decide, by decide⟩
  path :=
    [⟨testScope now byte byte', scopeBody_testScope now byte byte',
      fun h => by
        have hlen := congrArg String.length h
        rw [length_testScope] at hlen
        exact absurd hlen (by decide),
      fun h => by
        have hlen := congrArg String.length h
        rw [length_testScope] at hlen
        exact absurd hlen (by decide)⟩, name]
  initial := by decide

/-- The LFN is the text that the tests write. -/
theorem write_sessionLfn (now : DateTime) (byte byte' : Fin 256) (name : Component) :
    (sessionLfn now byte byte' name).write = testLfn (testScope now byte byte') name.word := by
  have hfront : "/testvo.example.org/".toList = '/' :: ("testvo.example.org".toList ++ ['/']) := by
    decide
  have hslash : "/".toList = ['/'] := by decide
  unfold testLfn
  rw [← String.toList_inj, String.toList_append, String.toList_append, String.toList_append,
    hfront, hslash]
  simp only [Lfn.write, Lfn.words, sessionLfn, List.map_cons, List.map_nil, List.flatMap_cons,
    List.flatMap_nil, String.toList_ofList, List.append_nil, List.cons_append, List.nil_append,
    List.append_assoc]

/-- Its scope is the scope of the session. -/
theorem scope_sessionLfn (now : DateTime) (byte byte' : Fin 256) (name : Component) :
    (sessionLfn now byte byte' name).scope = testScope now byte byte' := by
  rw [Lfn.scope, Lfn.words, sessionLfn, List.map_cons, List.map_cons, List.getElem?_cons_succ,
    List.getElem?_cons_zero, Option.getD_some]

/-- The scope of a session is accepted, two sessions share it only if they start in the
    same second with the same token, and every file of the session gets an LFN in it, which
    is accepted as long as its name has at most 207 characters. -/
theorem testScope_exact (u : UnicodeDb) (now : DateTime) (byte byte' : Fin 256) :
    validateSchema u "scope" (.str (testScope now byte byte')) = .ok () ∧
    (∀ now' x x', testScope now byte byte' = testScope now' x x' →
      now = now' ∧ byte = x ∧ byte' = x') ∧
    ∀ (name : Component) (scopes : Option (List String)),
      extractScopeDirac (testLfn (testScope now byte byte') name.word) scopes =
        .ok (testScope now byte byte', testLfn (testScope now byte byte') name.word) ∧
      (validateSchema u "did" (didObj (testScope now byte byte')
        (testLfn (testScope now byte byte') name.word)) = .ok () ↔ name.word.length ≤ 207) := by
  have hscope : (Schemas.scope u).valid (.str (testScope now byte byte')) = true := by
    rw [valid_scope_iff, length_testScope]
    exact ⟨by decide, _, scopeBody_testScope now byte byte', Or.inl rfl⟩
  refine ⟨?_, fun now' x x' h => testScope_inj h, fun name scopes => ⟨?_, ?_⟩⟩
  · have hne : testScope now byte byte' ≠ "" := by
      intro h
      have hlen := length_testScope now byte byte'
      rw [h] at hlen
      exact absurd hlen (by decide)
    exact (validateSchema_str_iff u rfl hne).mpr hscope
  · have hextract := (sessionLfn now byte byte' name).extractScopeDirac_write scopes
    rwa [write_sessionLfn, scope_sessionLfn] at hextract
  · have hbody := (sessionLfn now byte byte' name).nameBody_write
    rw [write_sessionLfn] at hbody
    have hlen : (testLfn (testScope now byte byte') name.word).length =
        43 + name.word.length := by
      have hvo : "/testvo.example.org/".length = 20 := by decide
      have hslash : "/".length = 1 := by decide
      unfold testLfn
      rw [String.length_append, String.length_append, String.length_append, hvo, hslash,
        length_testScope]
    rw [validateSchema_did_iff, and_iff_right hscope, valid_name_iff, hlen,
      and_iff_left ⟨_, hbody, Or.inl rfl⟩]
    omega

end DiracRucioPolicy.Fixtures
