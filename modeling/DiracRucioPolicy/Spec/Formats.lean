import DiracRucioPolicy.Spec.Grammars
import DiracRucioPolicy.Spec.ScopeNameUrl

/-!
# GUIDs and RSE attributes

Two formats of `schema.py`. A GUID has 32 hexadecimal digits, in five blocks; the brackets
around it and the dashes between the blocks may each be there or not. The pattern of RSE
attributes has no anchors, so it only asks that an attribute occurs in the text.

## Key results

- `guid_exact`: which texts are GUIDs, and that each denotes only one
- `rseAttribute_exact`: which texts are RSE attributes
-/

namespace DiracRucioPolicy

open Regex

/-! ## GUIDs -/

/-- A GUID: its hexadecimal digits. -/
structure Guid where
  digits : List Char
  hex : HexWord 32 digits

/-- How a GUID is written: which brackets are there, and behind which digits a dash. -/
structure GuidStyle where
  opened : Bool
  dash8 : Bool
  dash12 : Bool
  dash16 : Bool
  dash20 : Bool
  closed : Bool

/-- A character that may be there. -/
def mark (b : Bool) (c : Char) : List Char := if b then [c] else []

namespace Guid

/-- `n` digits, from the digit `i` on. -/
def block (g : Guid) (i n : Nat) : List Char := (g.digits.drop i).take n

/-- The text of a GUID. -/
def write (g : Guid) (st : GuidStyle) : List Char :=
  mark st.opened '{' ++ (g.block 0 8 ++ (mark st.dash8 '-' ++ (g.block 8 4 ++
    (mark st.dash12 '-' ++ (g.block 12 4 ++ (mark st.dash16 '-' ++ (g.block 16 4 ++
      (mark st.dash20 '-' ++ (g.block 20 12 ++ mark st.closed '}')))))))))

/-- Read the digits. -/
def read (w : List Char) : List Char := w.filter hexChar

end Guid

/-! ## The language of the pattern -/

variable (u : UnicodeDb)

/-- The class of the pattern has the hexadecimal digits. -/
theorem classTest_hex (c : Char) :
    classTest u [.range '0' '9', .range 'a' 'f', .range 'A' 'F'] c = hexChar c := by
  simp only [classTest, itemTest, List.any_cons, List.any_nil, Bool.or_false, hexChar]
  ac_rfl

/-- A block of the pattern is one of hexadecimal digits. -/
theorem mem_lang_hex (n : Nat) (w : List Char) : w ∈ (Patterns.hex u n).lang ↔ HexWord n w := by
  simp only [Patterns.hex, cls, mem_lang_exactly_set, classTest_hex, HexWord]

/-- An optional character of a pattern is a character that may be there. -/
theorem mem_lang_opt_chr {r : Regex Char} {c : Char} (hr : r.lang = (chr c).lang)
    (w : List Char) : w ∈ (opt r).lang ↔ ∃ b, mark b c = w := by
  rw [mem_lang_opt, hr]
  constructor
  · intro h
    cases h with
    | inl h => exact ⟨false, h.symm⟩
    | inr h =>
      obtain ⟨a, ha, rfl⟩ := h
      rw [beq_iff_eq] at ha
      exact ⟨true, by rw [ha]; rfl⟩
  · intro h
    obtain ⟨b, rfl⟩ := h
    cases b with
    | false => exact Or.inl rfl
    | true => exact Or.inr ⟨c, beq_self_eq_true c, rfl⟩

/-- The words of a pattern that starts with an optional character. -/
theorem mem_lang_opt_seq {r : Regex Char} {c : Char} (hr : r.lang = (chr c).lang)
    (t : Regex Char) (w : List Char) :
    w ∈ (Regex.seq (opt r) t).lang ↔ ∃ b, ∃ x ∈ t.lang, mark b c ++ x = w := by
  rw [lang, Language.mem_mul]
  simp only [mem_lang_opt_chr hr]
  constructor
  · intro h
    obtain ⟨m, ⟨b, rfl⟩, x, hx, hw⟩ := h
    exact ⟨b, x, hx, hw⟩
  · intro h
    obtain ⟨b, x, hx, hw⟩ := h
    exact ⟨mark b c, ⟨b, rfl⟩, x, hx, hw⟩

/-- The words of a pattern that starts with a block of digits. -/
theorem mem_lang_hex_seq (n : Nat) (t : Regex Char) (w : List Char) :
    w ∈ (Regex.seq (Patterns.hex u n) t).lang ↔ ∃ d, HexWord n d ∧ ∃ x ∈ t.lang, d ++ x = w := by
  rw [lang, Language.mem_mul]
  simp only [mem_lang_hex]

/-- Blocks of hexadecimal digits in a row. -/
theorem HexWord.append {m n : Nat} {v w : List Char} (hv : HexWord m v) (hw : HexWord n w) :
    HexWord (m + n) (v ++ w) := by
  refine ⟨by rw [List.length_append, hv.1, hw.1], fun c hc => ?_⟩
  cases List.mem_append.mp hc with
  | inl hc => exact hv.2 c hc
  | inr hc => exact hw.2 c hc

namespace Guid

/-- Every block of a GUID has hexadecimal digits only. -/
theorem hexWord_block (g : Guid) {i n : Nat} (h : i + n ≤ 32) : HexWord n (g.block i n) := by
  refine ⟨?_, fun c hc => ?_⟩
  · rw [block, List.length_take, List.length_drop, g.hex.1]
    omega
  · exact g.hex.2 c (List.mem_of_mem_drop (List.mem_of_mem_take hc))

/-- The digits at a place are a block. -/
theorem block_eq {g : Guid} {v d w : List Char} (h : g.digits = v ++ (d ++ w)) {i n : Nat}
    (hi : v.length = i) (hn : d.length = n) : g.block i n = d := by
  rw [block, h, List.drop_left' hi, List.take_left' hn]

end Guid

/-- The pattern between its anchors matches the texts of GUIDs. -/
theorem mem_lang_uuid (w : List Char) :
    w ∈ (Regex.seq (opt (.group 1 (chr '{')))
      (.seq (Patterns.hex u 8) (.seq (opt (chr '-'))
      (.seq (Patterns.hex u 4) (.seq (opt (chr '-'))
      (.seq (Patterns.hex u 4) (.seq (opt (chr '-'))
      (.seq (Patterns.hex u 4) (.seq (opt (chr '-'))
      (.seq (Patterns.hex u 12) (opt (.group 2 (chr '}'))))))))))))).lang ↔
      ∃ (g : Guid) (st : GuidStyle), g.write st = w := by
  have hopen : (Regex.group 1 (chr '{')).lang = (chr '{').lang := rfl
  have hclose : (Regex.group 2 (chr '}')).lang = (chr '}').lang := rfl
  have hdash : (chr '-').lang = (chr '-').lang := rfl
  simp only [mem_lang_opt_seq hopen, mem_lang_opt_seq hdash, mem_lang_hex_seq,
    mem_lang_opt_chr hclose]
  constructor
  · intro h
    obtain ⟨opened, _, ⟨d₁, h₁, _, ⟨dash8, _, ⟨d₂, h₂, _, ⟨dash12, _, ⟨d₃, h₃, _, ⟨dash16, _,
      ⟨d₄, h₄, _, ⟨dash20, _, ⟨d₅, h₅, _, ⟨closed, rfl⟩, rfl⟩, rfl⟩, rfl⟩, rfl⟩, rfl⟩, rfl⟩,
      rfl⟩, rfl⟩, rfl⟩, rfl⟩ := h
    let g : Guid := ⟨d₁ ++ (d₂ ++ (d₃ ++ (d₄ ++ d₅))),
      h₁.append (h₂.append (h₃.append (h₄.append h₅)))⟩
    have hlen : ∀ {m n : Nat} {v w : List Char}, v.length = m → w.length = n →
        (v ++ w).length = m + n := by
      intro m n v w hv hw
      rw [List.length_append, hv, hw]
    -- each block starts behind the ones in front of it
    have hb₁ : g.block 0 8 = d₁ := Guid.block_eq (v := []) rfl rfl h₁.1
    have hb₂ : g.block 8 4 = d₂ := Guid.block_eq rfl h₁.1 h₂.1
    have hb₃ : g.block 12 4 = d₃ :=
      Guid.block_eq (v := d₁ ++ d₂) (w := d₄ ++ d₅) (by simp [g]) (hlen h₁.1 h₂.1) h₃.1
    have hb₄ : g.block 16 4 = d₄ :=
      Guid.block_eq (v := d₁ ++ d₂ ++ d₃) (w := d₅) (by simp [g])
        (hlen (hlen h₁.1 h₂.1) h₃.1) h₄.1
    have hb₅ : g.block 20 12 = d₅ :=
      Guid.block_eq (v := d₁ ++ d₂ ++ d₃ ++ d₄) (w := []) (by simp [g])
        (hlen (hlen (hlen h₁.1 h₂.1) h₃.1) h₄.1) h₅.1
    refine ⟨g, ⟨opened, dash8, dash12, dash16, dash20, closed⟩, ?_⟩
    rw [Guid.write, hb₁, hb₂, hb₃, hb₄, hb₅]
  · intro h
    obtain ⟨g, st, rfl⟩ := h
    exact ⟨st.opened, _, ⟨_, g.hexWord_block (by omega), _, ⟨st.dash8, _, ⟨_,
      g.hexWord_block (by omega), _, ⟨st.dash12, _, ⟨_, g.hexWord_block (by omega), _,
      ⟨st.dash16, _, ⟨_, g.hexWord_block (by omega), _, ⟨st.dash20, _, ⟨_,
      g.hexWord_block (by omega), _, ⟨st.closed, rfl⟩, rfl⟩, rfl⟩, rfl⟩, rfl⟩, rfl⟩, rfl⟩,
      rfl⟩, rfl⟩, rfl⟩, rfl⟩

/-! ## Reading GUIDs -/

namespace Guid

/-- Digits are read as they are. -/
theorem filter_hexChar {w : List Char} (h : ∀ c ∈ w, hexChar c = true) : w.filter hexChar = w :=
  List.filter_eq_self.mpr h

/-- Brackets and dashes are not read. -/
theorem filter_mark (b : Bool) {c : Char} (hc : hexChar c = false) :
    (mark b c).filter hexChar = [] := by
  cases b with
  | false => rfl
  | true => rw [mark, if_pos rfl, List.filter_cons_of_neg (by rw [hc]; exact Bool.false_ne_true),
      List.filter_nil]

/-- The blocks make up the digits. -/
theorem blocks_eq (g : Guid) : g.block 0 8 ++ (g.block 8 4 ++ (g.block 12 4 ++ (g.block 16 4 ++
    g.block 20 12))) = g.digits := by
  have hdrop : ∀ i n, g.block i n ++ g.digits.drop (i + n) = g.digits.drop i := by
    intro i n
    rw [block, ← List.drop_drop, List.take_append_drop]
  have hlast : g.block 20 12 = g.digits.drop 20 := by
    rw [block, List.take_of_length_le]
    rw [List.length_drop, g.hex.1]
  rw [hlast, hdrop 16 4, hdrop 12 4, hdrop 8 4, hdrop 0 8, List.drop_zero]

/-- Brackets and dashes do not change the digits. -/
theorem read_write (g : Guid) (st : GuidStyle) : read (g.write st) = g.digits := by
  have hblock : ∀ {i n : Nat}, i + n ≤ 32 → (g.block i n).filter hexChar = g.block i n :=
    fun h => filter_hexChar (g.hexWord_block h).2
  have hdash : ∀ b, (mark b '-').filter hexChar = [] := fun b => filter_mark b (by decide)
  have hopen : (mark st.opened '{').filter hexChar = [] := filter_mark _ (by decide)
  have hclose : (mark st.closed '}').filter hexChar = [] := filter_mark _ (by decide)
  simp only [read, write, List.filter_append, hopen, hclose, hdash, List.nil_append,
    List.append_nil]
  rw [hblock (by omega), hblock (by omega), hblock (by omega), hblock (by omega),
    hblock (by omega), g.blocks_eq]

/-- A block is not empty and starts with a digit. -/
theorem head?_block_append (g : Guid) {i n : Nat} (hn : 0 < n) (h : i + n ≤ 32) (w : List Char)
    {c : Char} (hc : hexChar c = false) : (g.block i n ++ w).head? ≠ some c := by
  have hblock := g.hexWord_block h
  cases hb : g.block i n with
  | nil =>
    rw [hb] at hblock
    exact absurd hblock.1 (by rw [List.length_nil]; omega)
  | cons a v =>
    have ha : hexChar a = true := hblock.2 a (by rw [hb]; exact List.mem_cons_self)
    intro hhead
    rw [List.cons_append, List.head?_cons, Option.some.injEq] at hhead
    rw [hhead, hc] at ha
    exact Bool.false_ne_true ha

/-- Whether a character is there can be seen if it cannot come from behind. -/
theorem mark_append_inj {b b' : Bool} {c : Char} {v w : List Char}
    (h : mark b c ++ v = mark b' c ++ w) (hv : v.head? ≠ some c) (hw : w.head? ≠ some c) :
    b = b' ∧ v = w := by
  cases b with
  | false =>
    cases b' with
    | false => exact ⟨rfl, h⟩
    | true => exact absurd (congrArg List.head? h) hv
  | true =>
    cases b' with
    | false => exact absurd (congrArg List.head? h).symm hw
    | true => exact ⟨rfl, List.append_cancel_left h⟩

/-- The text of a GUID shows how it is written. -/
theorem write_inj (g : Guid) {st st' : GuidStyle} (h : g.write st = g.write st') : st = st' := by
  have hhead : ∀ {i n : Nat} (w : List Char) {c : Char}, 0 < n → i + n ≤ 32 →
      hexChar c = false → (g.block i n ++ w).head? ≠ some c := by
    intro i n w c hn hi hc
    exact g.head?_block_append hn hi w hc
  obtain ⟨opened, dash8, dash12, dash16, dash20, closed⟩ := st
  obtain ⟨opened', dash8', dash12', dash16', dash20', closed'⟩ := st'
  simp only [write] at h
  -- from the front: a character that may be there, and the block behind it
  obtain ⟨rfl, h₁⟩ := mark_append_inj h (hhead _ (by omega) (by omega) (by decide))
    (hhead _ (by omega) (by omega) (by decide))
  obtain ⟨rfl, h₂⟩ := mark_append_inj (List.append_cancel_left h₁)
    (hhead _ (by omega) (by omega) (by decide)) (hhead _ (by omega) (by omega) (by decide))
  obtain ⟨rfl, h₃⟩ := mark_append_inj (List.append_cancel_left h₂)
    (hhead _ (by omega) (by omega) (by decide)) (hhead _ (by omega) (by omega) (by decide))
  obtain ⟨rfl, h₄⟩ := mark_append_inj (List.append_cancel_left h₃)
    (hhead _ (by omega) (by omega) (by decide)) (hhead _ (by omega) (by omega) (by decide))
  obtain ⟨rfl, h₅⟩ := mark_append_inj (List.append_cancel_left h₄)
    (hhead _ (by omega) (by omega) (by decide)) (hhead _ (by omega) (by omega) (by decide))
  have hclosed : mark closed '}' ++ [] = mark closed' '}' ++ [] := by
    rw [List.append_cancel_left h₅]
  obtain ⟨rfl, -⟩ := mark_append_inj hclosed (by simp) (by simp)
  rfl

/-- An optional character is no newline. -/
theorem newline_notMem_mark (b : Bool) {c : Char} (hc : c ≠ '\n') : '\n' ∉ mark b c := by
  cases b with
  | false => exact List.not_mem_nil
  | true =>
    rw [mark, if_pos rfl, List.mem_singleton]
    exact fun h => hc h.symm

/-- The text of a GUID is a single line. -/
theorem newline_notMem_write (g : Guid) (st : GuidStyle) : '\n' ∉ g.write st := by
  have hblock : ∀ i n, '\n' ∉ g.block i n := by
    intro i n h
    have hdigit := g.hex.2 '\n' (List.mem_of_mem_drop (List.mem_of_mem_take h))
    exact absurd hdigit (by decide)
  simp only [write, List.mem_append, hblock, newline_notMem_mark _ (show '{' ≠ '\n' by decide),
    newline_notMem_mark _ (show '-' ≠ '\n' by decide),
    newline_notMem_mark _ (show '}' ≠ '\n' by decide), or_self, not_false_eq_true]

end Guid

/-- The schema of GUIDs accepts their texts, with or without a final newline. -/
theorem valid_uuid_iff (s : String) :
    (Schemas.uuid u).valid (.str s) = true ↔
      ∃ (g : Guid) (st : GuidStyle), Line (g.write st) s.toList := by
  rw [Schemas.uuid, Patterns.uuid,
    valid_anchored_iff (by simp [Plain, opt, chr, Patterns.hex, exactly, cls])]
  simp only [mem_lang_uuid]
  constructor
  · intro h
    obtain ⟨-, v, ⟨g, st, rfl⟩, hline⟩ := h
    exact ⟨g, st, hline⟩
  · intro h
    obtain ⟨g, st, hline⟩ := h
    exact ⟨by simp, g.write st, ⟨g, st, rfl⟩, hline⟩

/-- An accepted object with a key is one that the schema accepts. -/
theorem valid_of_get? {name : String} {schema : Schema}
    (hname : (Schemas.schemas u).lookup name = some schema) {d x : Json} {key : String}
    (h : validateSchema u name d = .ok ()) (hx : d.get? key = some x) : schema.valid d = true := by
  rw [validateSchema_entry_iff hname] at h
  refine h.resolve_left fun hfalsy => ?_
  -- an object with a key is not falsy
  cases d with
  | obj fields =>
    cases fields with
    | nil => cases hx
    | cons f fields => cases hfalsy
  | _ => cases hx

/-- The schema of GUIDs accepts the texts of GUIDs and these with a final newline. A text
    denotes only one GUID, written in one way, and its digits can be read back; so every
    GUID has 64 texts, in half of which the brackets do not match. The GUID of an accepted
    DID is such a text. -/
theorem guid_exact :
    (∀ s : String, (Schemas.uuid u).valid (.str s) = true ↔
      ∃ (g : Guid) (st : GuidStyle), Line (g.write st) s.toList) ∧
    (∀ (w : List Char) (g : Guid) (st : GuidStyle), Line (g.write st) w →
      Guid.read w = g.digits ∧
        ∀ (g' : Guid) (st' : GuidStyle), Line (g'.write st') w → g' = g ∧ st' = st) ∧
    ∀ d m x, validateSchema u "did" d = .ok () → d.get? "meta" = some m →
      m.get? "guid" = some x →
        ∃ (s : String) (g : Guid) (st : GuidStyle), x = .str s ∧ Line (g.write st) s.toList := by
  have hread : ∀ {w : List Char} {g : Guid} {st : GuidStyle}, Line (g.write st) w →
      Guid.read w = g.digits := by
    intro w g st hline
    cases hline with
    | inl h => rw [h, g.read_write]
    | inr h =>
      rw [h, Guid.read, List.filter_append]
      exact (List.append_nil _).trans (g.read_write st)
  refine ⟨valid_uuid_iff u, fun w g st hline => ⟨hread hline, fun g' st' hline' => ?_⟩,
    fun d m x h hm hx => ?_⟩
  · -- the same digits, hence the same GUID, and then the same text
    have hdigits := (hread hline').symm.trans (hread hline)
    obtain ⟨digits, hex⟩ := g
    obtain ⟨digits', hex'⟩ := g'
    obtain rfl : digits' = digits := hdigits
    refine ⟨rfl, Guid.write_inj ⟨digits', hex⟩ ?_⟩
    rw [← hline'.takeWhile_newline (Guid.newline_notMem_write _ st'),
      ← hline.takeWhile_newline (Guid.newline_notMem_write _ st)]
  · have hvalid := valid_of_get? u (by rfl) h hm
    have hprops := ((Schema.valid_iff _ _).mp hvalid).2.2.2.2.2.2.2.1
    have hmeta : (Schemas.«meta» u).valid m = true :=
      hprops ("meta", Schemas.«meta» u) (by simp [Schemas.did]) m hm
    have hguid := ((Schema.valid_iff _ _).mp hmeta).2.2.2.2.2.2.2.1
      ("guid", Schemas.uuid u) (by simp [Schemas.«meta»]) x hx
    obtain ⟨s, rfl⟩ := Schema.eq_str_of_valid rfl hguid
    obtain ⟨g, st, hline⟩ := (valid_uuid_iff u s).mp hguid
    exact ⟨s, g, st, rfl, hline⟩

/-- A GUID with one bracket. -/
theorem guid_exact_bracket :
    (Schemas.uuid .ascii).valid (.str "\x7b01234567-89ab-cdef-0123-456789abcdef") = true ∧
    Guid.read "\x7b01234567-89ab-cdef-0123-456789abcdef".toList =
      "0123456789abcdef0123456789abcdef".toList := by
  let g : Guid := ⟨"0123456789abcdef0123456789abcdef".toList, by decide,
    List.all_eq_true.mp (by decide)⟩
  have hline : Line (g.write ⟨true, true, true, true, true, false⟩)
      "\x7b01234567-89ab-cdef-0123-456789abcdef".toList := Or.inl (by decide)
  exact ⟨((guid_exact .ascii).1 _).mpr ⟨g, _, hline⟩, ((guid_exact .ascii).2.1 _ g _ hline).1⟩

/-! ## RSE attributes -/

/-- The characters of the value of an RSE attribute. -/
def valueChar (c : Char) : Bool := c.isAlphanum || c == '_' || c == '-'

/-- The comparisons. -/
def comparison (c : Char) : Bool := c == '=' || c == '<' || c == '>'

/-- Somewhere in the text a comparison stands between a character of a key and one of a
    value. -/
def HasComparison (w : List Char) : Prop :=
  ∃ a o b, [a, o, b] <:+: w ∧ scopeChar a = true ∧ comparison o = true ∧ valueChar b = true

/-- The characters of a key are those of a scope. -/
theorem classTest_key (c : Char) :
    classTest u [.range 'A' 'Z', .range 'a' 'z', .range '0' '9', .char '.', .char '_',
      .char '-'] c = scopeChar c := by
  rw [scopeChar, ← classTest_alphanum u c]
  simp only [classTest, itemTest, List.any_cons, List.any_nil, Bool.or_false]
  ac_rfl

/-- The class of the pattern has the characters of a value. -/
theorem classTest_value (c : Char) :
    classTest u [.range 'A' 'Z', .range 'a' 'z', .range '0' '9', .char '_', .char '-'] c =
      valueChar c := by
  rw [valueChar, ← classTest_alphanum u c]
  simp only [classTest, itemTest, List.any_cons, List.any_nil, Bool.or_false, Bool.or_assoc]

/-- The class of the pattern has the three comparisons. -/
theorem classTest_comparison (c : Char) :
    classTest u [.char '=', .char '<', .char '>'] c = comparison c := by
  simp only [classTest, itemTest, List.any_cons, List.any_nil, Bool.or_false, comparison,
    Bool.or_assoc]

/-- A word of the pattern: a key, a comparison and a value. -/
theorem mem_lang_rseAttribute (w : List Char) :
    w ∈ (Patterns.rseAttribute u).lang ↔
      ∃ k o v, w = k ++ o :: v ∧ (k ≠ [] ∧ ∀ c ∈ k, scopeChar c = true) ∧ comparison o = true ∧
        v ≠ [] ∧ ∀ c ∈ v, valueChar c = true := by
  rw [Patterns.rseAttribute, lang, lang, Language.mem_mul]
  simp only [cls, mem_lang_plus_set, classTest_key]
  constructor
  · intro h
    obtain ⟨k, hk, y, hy, rfl⟩ := h
    rw [lang, Language.mem_mul] at hy
    obtain ⟨z, ⟨o, ho, rfl⟩, v, hv, rfl⟩ := hy
    rw [classTest_comparison] at ho
    simp only [mem_lang_plus_set, classTest_value] at hv
    exact ⟨k, o, v, rfl, hk, ho, hv⟩
  · intro h
    obtain ⟨k, o, v, rfl, hk, ho, hv⟩ := h
    refine ⟨k, hk, o :: v, ?_, rfl⟩
    rw [lang, Language.mem_mul]
    refine ⟨[o], ⟨o, by rw [classTest_comparison]; exact ho, rfl⟩, v, ?_, rfl⟩
    simp only [mem_lang_plus_set, classTest_value]
    exact hv

/-- The middle of a word of the pattern is a word already. -/
theorem exists_lang_rseAttribute_iff (w : List Char) :
    (∃ v ∈ (Patterns.rseAttribute u).lang, v <:+: w) ↔ HasComparison w := by
  simp only [mem_lang_rseAttribute]
  constructor
  · intro h
    obtain ⟨x, ⟨k, o, v, rfl, ⟨hkne, hk⟩, ho, hvne, hv⟩, hinf⟩ := h
    -- the last character of the key and the first one of the value
    obtain ⟨k, a, rfl⟩ := List.eq_nil_or_concat k |>.resolve_left hkne
    obtain ⟨b, v, rfl⟩ := List.exists_cons_of_ne_nil hvne
    refine ⟨a, o, b, List.IsInfix.trans ⟨k, v, ?_⟩ hinf, hk a (by simp), ho, hv b (by simp)⟩
    simp
  · intro h
    obtain ⟨a, o, b, hinf, ha, ho, hb⟩ := h
    exact ⟨[a, o, b], ⟨[a], o, [b], rfl, ⟨List.cons_ne_nil _ _, by simpa using ha⟩, ho,
      List.cons_ne_nil _ _, by simpa using hb⟩, hinf⟩

/-- A comparison anywhere in the text is enough for the schema. -/
theorem valid_rseAttribute_iff (s : String) :
    (Schemas.rseAttribute u).valid (.str s) = true ↔ HasComparison s.toList := by
  have hplain : (Patterns.rseAttribute u).Plain := by
    simp [Patterns.rseAttribute, Plain, plus, cls]
  rw [← exists_lang_rseAttribute_iff u, ← search_plain_iff _ hplain, Schema.valid_iff]
  simp [Schemas.rseAttribute, Schema.typeOk, Json.hasKind, Schema.enumOk,
    Schema.patternOk, Schema.maxLengthOk, Schema.minItemsOk, Schema.maxItemsOk,
    Schema.requiredOk, Schema.additionalOk]

/-- The schema of RSE attributes accepts exactly the texts in which a comparison stands
    between a character of a key and one of a value, with anything around: a text that
    contains an accepted one is accepted. -/
theorem rseAttribute_exact :
    (∀ s : String, validateSchema u "rse_attribute" (.str s) = .ok () ↔
      s = "" ∨ HasComparison s.toList) ∧
    ∀ s t : String, s ≠ "" → s.toList <:+: t.toList →
      validateSchema u "rse_attribute" (.str s) = .ok () →
        validateSchema u "rse_attribute" (.str t) = .ok () := by
  have hexact : ∀ s : String, validateSchema u "rse_attribute" (.str s) = .ok () ↔
      s = "" ∨ HasComparison s.toList := by
    intro s
    have hname : (Schemas.schemas u).lookup "rse_attribute" = some (Schemas.rseAttribute u) := rfl
    rw [validateSchema_entry_iff hname, valid_rseAttribute_iff]
    simp [Json.truthy]
  refine ⟨hexact, fun s t hs hinf h => ?_⟩
  obtain ⟨a, o, b, hmid, ha, ho, hb⟩ := ((hexact s).mp h).resolve_left hs
  exact (hexact t).mpr (Or.inr ⟨a, o, b, hmid.trans hinf, ha, ho, hb⟩)

/-- The brackets and the bar around `tier=1` are accepted. -/
theorem rseAttribute_exact_tier :
    validateSchema .ascii "rse_attribute" (.str "(tier=1)|") = .ok () :=
  (rseAttribute_exact .ascii).2 "tier=1" "(tier=1)|" (by decide) ⟨['('], [')', '|'], by decide⟩
    (((rseAttribute_exact .ascii).1 "tier=1").mpr (Or.inr ⟨'r', '=', '1',
      ⟨"tie".toList, [], by decide⟩, by decide, by decide, by decide⟩))

end DiracRucioPolicy
