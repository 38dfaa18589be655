import DiracRucioPolicy.ForStd.Regex

/-!
# Character classes of Python regular expressions

Bracketed classes, `\w`, `\d`, `.`, `^` and `$` as Python's `re` reads them on
`str` patterns. What `\w` and `\d` accept outside ASCII is the business of the
Unicode database the interpreter was built with, so it is a parameter.
-/

/-- The order of characters is the order of their code points. -/
theorem Char.toNat_le_of_le {c d : Char} (h : c ≤ d) : c.toNat ≤ d.toNat :=
  UInt32.le_iff_toNat_le.mp (Char.le_def.mp h)

/-- The two character properties that `re` looks up: `word` for `\w`
    (`str.isalnum()` or an underscore) and `digit` for `\d` (`str.isdecimal()`).
    On ASCII every version of the database agrees. -/
structure UnicodeDb where
  word : Char → Bool
  digit : Char → Bool
  word_ascii : ∀ c : Char, c.toNat < 128 → word c = (c.isAlphanum || c == '_')
  digit_ascii : ∀ c : Char, c.toNat < 128 → digit c = c.isDigit

/-- The database that knows no character beyond ASCII. -/
def UnicodeDb.ascii : UnicodeDb where
  word c := c.isAlphanum || c == '_'
  digit := Char.isDigit
  word_ascii _ _ := rfl
  digit_ascii _ _ := rfl

/-- One item between the brackets of a character class. -/
inductive ClassItem where
  | char (c : Char)
  | range (lo hi : Char)
  | word
  | digit

namespace Regex

/-- `c` belongs to the item. -/
def itemTest (u : UnicodeDb) : ClassItem → Char → Bool
  | .char d, c => c == d
  | .range lo hi, c => lo ≤ c && c ≤ hi
  | .word, c => u.word c
  | .digit, c => u.digit c

/-- `c` belongs to one of the items. -/
def classTest (u : UnicodeDb) (items : List ClassItem) (c : Char) : Bool :=
  items.any (itemTest u · c)

/-- `[items]` -/
def cls (u : UnicodeDb) (items : List ClassItem) : Regex Char := .set (classTest u items)

/-- A literal character. -/
def chr (c : Char) : Regex Char := .set (· == c)

/-- `[^c]` -/
def notChr (c : Char) : Regex Char := .set (· != c)

/-- `.` matches everything but a newline. -/
def dot : Regex Char := .set (· != '\n')

/-- `$` matches at the end and in front of a final newline. -/
def dollar : Regex Char := .eos (· == '\n')

/-- `^r$` -/
def anchored (r : Regex Char) : Regex Char := .seq .bos (.seq r dollar)

/-- `re.search("^r$", w)` succeeds on the words of `r`, with or without one final
    newline. -/
theorem search_anchored (r : Regex Char) (hr : r.Plain) (w : List Char) :
    ((anchored r).search w).isSome = true ↔
      ∃ v ∈ r.lang, w = v ∨ w = v ++ ['\n'] := by
  rw [anchored, dollar, search_anchored_iff r hr]
  constructor
  · intro h
    cases h with
    | inl h => exact ⟨w, h, Or.inl rfl⟩
    | inr h =>
      obtain ⟨v, a, ha, hw, hv⟩ := h
      rw [beq_iff_eq] at ha
      exact ⟨v, hv, Or.inr (by rw [hw, ha])⟩
  · intro h
    obtain ⟨v, hv, hw⟩ := h
    cases hw with
    | inl hw => exact Or.inl (by rw [hw]; exact hv)
    | inr hw => exact Or.inr ⟨v, '\n', rfl, hw, hv⟩

end Regex
