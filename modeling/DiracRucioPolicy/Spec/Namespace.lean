import DiracRucioPolicy.Spec.PhysicalPath
import DiracRucioPolicy.Spec.ScopeNameUrl
import Mathlib.Order.Basic
import Mathlib.Data.Set.List

/-!
# The namespace of LFNs

What the policy is about: files live in a tree, below the directory of a VO, and the
second level of the tree names the scope. `Lfn` is a position in that tree; that its
components are names a path can hold is part of the value. The policy never sees such a
value, only its text, and five places take the text apart: the schemas, the extraction of
the scope, the regular expression of the URLs, and the path on a storage element. Here
they are shown to read the same position out of it.

## Key results

- `Lfn.parse_eq_some_iff`: reading an LFN is inverse to writing it
- `lfn_text_exact`: the names that are written by an LFN
- `policy_reads_lfn`: what each part of the policy makes of a written LFN
- `storage_tree`: the tree of LFNs and the tree of files
-/

namespace DiracRucioPolicy

open PosixPath

/-! ## Positions -/

instance (v : List Char) : Decidable (ScopeBody v) :=
  decidable_of_iff ((!v.isEmpty && v.all scopeChar) = true) (by simp [ScopeBody])

/-- A name on one level of the tree. -/
structure Component where
  word : String
  body : ScopeBody word.toList
  ne_dot : word ≠ "."
  ne_dotdot : word ≠ ".."
deriving DecidableEq

namespace Component

/-- A name is its word. -/
theorem ext {c c' : Component} (h : c.word = c'.word) : c = c' := by
  cases c
  cases c'
  cases h
  rfl

/-- Different names have different words. -/
theorem word_injective : Function.Injective word := fun _ _ h => ext h

/-- A name is not empty. -/
theorem ne_empty (c : Component) : c.word ≠ "" := by
  intro h
  exact c.body.1 (String.toList_eq_nil_iff.mpr h)

/-- A name contains no slash. -/
theorem slash_notMem (c : Component) : '/' ∉ c.word.toList :=
  fun h => absurd (c.body.2 _ h) (by decide)

/-- The component of a name, if it is one. -/
def ofString? (s : String) : Option Component :=
  if h : ScopeBody s.toList ∧ s ≠ "." ∧ s ≠ ".." then some ⟨s, h.1, h.2.1, h.2.2⟩ else none

/-- A name is read from its word, and from nothing else. -/
theorem ofString?_eq_some_iff {s : String} {c : Component} : ofString? s = some c ↔ c.word = s := by
  unfold ofString?
  constructor
  · intro h
    split at h
    · rw [← Option.some.inj h]
    · exact nomatch h
  · intro h
    subst h
    rw [dif_pos ⟨c.body, c.ne_dot, c.ne_dotdot⟩]

/-- A row of names is read component by component. -/
theorem mapM_ofString?_eq_some_iff {ss : List String} {cs : List Component} :
    ss.mapM ofString? = some cs ↔ cs.map word = ss := by
  induction ss generalizing cs with
  | nil =>
    rw [List.mapM_nil, Option.pure_def, Option.some.injEq, List.map_eq_nil_iff, eq_comm]
  | cons s ss ih =>
    simp only [List.mapM_cons, Option.bind_eq_bind, Option.bind_eq_some_iff, Option.pure_def,
      Option.some.injEq, ofString?_eq_some_iff, ih, List.map_eq_cons_iff]
    constructor
    · intro h
      obtain ⟨c, hc, cs', hcs, rfl⟩ := h
      exact ⟨c, cs', rfl, hc, hcs⟩
    · intro h
      obtain ⟨c, cs', rfl, hc, hcs⟩ := h
      exact ⟨c, hc, cs', hcs, rfl⟩

/-- Names that are components one by one are so in a row. -/
theorem exists_map_word {ss : List String} (h : ∀ s ∈ ss, ScopeBody s.toList ∧ s ≠ "." ∧ s ≠ "..") :
    ∃ cs : List Component, cs.map word = ss := by
  have hrange : ss ∈ Set.range (List.map word) := by
    rw [Set.range_list_map]
    intro s hs
    obtain ⟨hbody, hdot, hdotdot⟩ := h s hs
    exact ⟨⟨s, hbody, hdot, hdotdot⟩, rfl⟩
  exact hrange

end Component

/-- A position in the tree: a VO, whose name starts with an ASCII letter or digit, and the
    way down from its directory. -/
structure Lfn where
  vo : Component
  path : List Component
  initial : vo.word.toList.head?.any Char.isAlphanum = true
deriving DecidableEq

namespace Lfn

/-- The names from the VO down. -/
def words (l : Lfn) : List String := (l.vo :: l.path).map Component.word

/-- The text of an LFN: each name behind a slash. -/
def write (l : Lfn) : String := String.ofList ((l.words.map String.toList).flatMap ('/' :: ·))

/-- The scope of an LFN: the second name, or `root` for the directory of a VO. -/
def scope (l : Lfn) : String := l.words[1]?.getD "root"

/-- The position that a row of components leads to. -/
def ofComponents? : List Component → Option Lfn
  | [] => none
  | vo :: path =>
    if h : vo.word.toList.head?.any Char.isAlphanum = true then some ⟨vo, path, h⟩ else none

/-- Read the text of an LFN. -/
def parse (s : String) : Option Lfn :=
  if s.toList.head? = some '/' then
    ((pySplit s '/').tail.mapM Component.ofString?).bind ofComponents?
  else none

/-- Different positions have different words. -/
theorem words_injective : Function.Injective words := by
  intro l l' h
  have hmap := List.map_injective_iff.mpr Component.word_injective h
  obtain ⟨vo, path, initial⟩ := l
  obtain ⟨vo', path', initial'⟩ := l'
  cases hmap
  rfl

/-- A position is read from its names, and from nothing else. -/
theorem ofComponents?_eq_some_iff {cs : List Component} {l : Lfn} :
    ofComponents? cs = some l ↔ l.vo :: l.path = cs := by
  obtain ⟨vo, path, initial⟩ := l
  cases cs with
  | nil => simp [ofComponents?]
  | cons c cs =>
    constructor
    · intro h
      rw [ofComponents?] at h
      split at h
      · cases h
        rfl
      · exact nomatch h
    · intro h
      cases h
      rw [ofComponents?, dif_pos initial]

variable (l : Lfn)

/-- What all words of a position have in common. -/
theorem mem_words {w : String} (h : w ∈ l.words) :
    ScopeBody w.toList ∧ w ≠ "" ∧ w ≠ "." ∧ w ≠ ".." ∧ '/' ∉ w.toList := by
  obtain ⟨c, -, rfl⟩ := List.mem_map.mp h
  exact ⟨c.body, c.ne_empty, c.ne_dot, c.ne_dotdot, c.slash_notMem⟩

/-! ## Reading and writing -/

/-- The text starts with the slash in front of the VO. -/
theorem toList_write : l.write.toList =
    '/' :: (l.vo.word.toList ++
      ((l.path.map Component.word).map String.toList).flatMap ('/' :: ·)) := by
  rw [write, String.toList_ofList, words, List.map_cons, List.map_cons, List.flatMap_cons,
    List.cons_append]

/-- No position is written as the empty text. -/
theorem write_ne_empty : l.write ≠ "" := by
  intro h
  have hlist := l.toList_write
  rw [h] at hlist
  exact nomatch hlist

/-- Splitting the text gives the names back, behind the empty piece in front of the first
    slash. -/
theorem pySplit_write : pySplit l.write '/' = "" :: l.words := by
  have hws : ∀ w ∈ l.words.map String.toList, '/' ∉ w := by
    intro w hw
    obtain ⟨c, hc, rfl⟩ := List.mem_map.mp hw
    exact (l.mem_words hc).2.2.2.2
  have hsplit := List.splitOn_append_flatMap_cons List.not_mem_nil hws
  rw [List.nil_append] at hsplit
  have hofList : String.ofList ∘ String.toList = id := funext fun s => String.ofList_toList
  rw [pySplit, write, String.toList_ofList, hsplit, List.map_cons, List.map_map, hofList,
    List.map_id, String.ofList_nil]

/-- What is read is what was written. -/
theorem parse_eq_some_iff {s : String} : parse s = some l ↔ l.write = s := by
  constructor
  · intro h
    unfold parse at h
    split at h
    · rename_i hslash
      obtain ⟨w, hw⟩ := List.head?_eq_some_iff.mp hslash
      obtain ⟨cs, hcs, hl⟩ := Option.bind_eq_some_iff.mp h
      rw [Component.mapM_ofString?_eq_some_iff] at hcs
      rw [ofComponents?_eq_some_iff] at hl
      -- both texts have the same pieces
      apply pySplit_inj '/'
      rw [l.pySplit_write, pySplit_of_slash hw, ← hcs, ← hl, words]
    · exact nomatch h
  · intro h
    subst h
    have hhead : l.write.toList.head? = some '/' := by rw [l.toList_write, List.head?_cons]
    have hread : l.words.mapM Component.ofString? = some (l.vo :: l.path) :=
      Component.mapM_ofString?_eq_some_iff.mpr rfl
    rw [parse, if_pos hhead, l.pySplit_write, List.tail_cons, hread, Option.bind_some,
      ofComponents?_eq_some_iff]

/-! ## The names that an LFN writes -/

/-- The text of an LFN is the text of a name. -/
theorem nameBody_write : NameBody l.write.toList := by
  cases hvo : l.vo.word.toList with
  | nil => exact absurd hvo l.vo.body.1
  | cons a w =>
    have ha := l.initial
    rw [hvo] at ha
    have hw : ∀ c ∈ w, scopeChar c = true := by
      intro c hc
      apply l.vo.body.2
      rw [hvo]
      exact List.mem_cons_of_mem a hc
    rw [l.toList_write, hvo, List.cons_append]
    refine ⟨a, _, rfl, ha, fun c hc => ?_⟩
    cases List.mem_append.mp hc with
    | inl hc => simp [nameChar, hw c hc]
    | inr hc =>
      -- a slash, or a character of one of the further names
      obtain ⟨t, ht, hct⟩ := List.mem_flatMap.mp hc
      obtain ⟨s, hs, rfl⟩ := List.mem_map.mp ht
      obtain ⟨c', -, rfl⟩ := List.mem_map.mp hs
      cases List.mem_cons.mp hct with
      | inl hct => rw [hct]; rfl
      | inr hct => simp [nameChar, c'.body.2 c hct]

/-- Positions are written canonically. -/
theorem canonical_write : Canonical l.write := by
  intro c hc
  rw [l.pySplit_write, List.tail_cons] at hc
  obtain ⟨-, hne, hdot, hdotdot, -⟩ := l.mem_words hc
  exact ⟨hne, hdot, hdotdot⟩

/-- The pieces of an accepted single line are names of the tree when it is canonical. -/
theorem exists_of_canonical {s : String} (hs : NameBody s.toList) (hcan : Canonical s) :
    ∃ l : Lfn, l.write = s := by
  have hchars := hs.nameChar
  obtain ⟨a, body, hbody, ha, -⟩ := hs
  have hsplit := pySplit_of_slash hbody
  obtain ⟨hcomp, -, -⟩ := components_of_canonical hbody hcan
  have hslash : a ≠ '/' := by
    intro h
    rw [h] at ha
    exact absurd ha (by decide)
  obtain ⟨w, rest, hfirst⟩ := components_head hbody hslash
  -- every piece is made of characters of the name, without the slashes
  have hpieces : ∀ p ∈ components s, ScopeBody p.toList ∧ p ≠ "." ∧ p ≠ ".." := by
    intro p hp
    obtain ⟨hne, hnoslash, hinf⟩ := mem_components hp
    have hmem := hp
    rw [hcomp] at hmem
    refine ⟨⟨?_, fun c hc => ?_⟩, (hcan p hmem).2⟩
    · intro hnil
      exact hne (String.toList_eq_nil_iff.mp hnil)
    · apply scopeChar_of_nameChar (hchars c (hinf.subset hc))
      intro h
      rw [h] at hc
      exact hnoslash hc
  obtain ⟨cs, hcs⟩ := Component.exists_map_word hpieces
  rw [hfirst] at hcs
  obtain ⟨vo, path, rfl, hvo, hpath⟩ := List.map_eq_cons_iff.mp hcs
  have hinitial : vo.word.toList.head?.any Char.isAlphanum = true := by
    rw [hvo, String.toList_ofList, List.head?_cons]
    exact ha
  refine ⟨⟨vo, path, hinitial⟩, ?_⟩
  apply pySplit_inj '/'
  rw [pySplit_write, hsplit, ← hcomp, hfirst, ← hcs]
  rfl

end Lfn

/-- Reading an LFN is inverse to writing it, and the names that are read are exactly the
    accepted ones that are not empty, are a single line and are canonical. -/
theorem lfn_text_exact (u : UnicodeDb) :
    (∀ (s : String) (l : Lfn), Lfn.parse s = some l ↔ l.write = s) ∧
    ∀ s : String,
      (s ≠ "" ∧ validateSchema u "name" (.str s) = .ok () ∧ '\n' ∉ s.toList ∧ Canonical s) ↔
        (Lfn.parse s).isSome = true ∧ s.length ≤ 250 := by
  refine ⟨fun s l => l.parse_eq_some_iff, fun s => ?_⟩
  constructor
  · intro h
    obtain ⟨hne, hname, hnl, hcan⟩ := h
    obtain ⟨hlen, v, hv, hline⟩ := (validateSchema_name_iff u hne).mp hname
    rw [(hline.eq_iff hv.newline_notMem).mpr hnl] at hv
    obtain ⟨l, hl⟩ := Lfn.exists_of_canonical hv hcan
    rw [l.parse_eq_some_iff.mpr hl]
    exact ⟨rfl, hlen⟩
  · intro h
    obtain ⟨hparse, hlen⟩ := h
    obtain ⟨l, hl⟩ := Option.isSome_iff_exists.mp hparse
    have hs : l.write = s := l.parse_eq_some_iff.mp hl
    subst hs
    have hbody := l.nameBody_write
    have hname := (validateSchema_name_iff u l.write_ne_empty).mpr ⟨hlen, _, hbody, Or.inl rfl⟩
    exact ⟨l.write_ne_empty, hname, hbody.newline_notMem, l.canonical_write⟩

/-! ## What the policy makes of an LFN -/

namespace Lfn

variable (l : Lfn)

/-- The components of the text are the words. -/
theorem components_write : components l.write = l.words := by
  rw [(components_of_canonical l.toList_write l.canonical_write).1, l.pySplit_write,
    List.tail_cons]

/-- The file of an LFN lies where its names lead. -/
theorem fileAt_write (base : List String) : fileAt base l.write = base ++ l.words := by
  obtain ⟨-, hup, hproper⟩ := components_of_canonical l.toList_write l.canonical_write
  rw [fileAt, walkAbs_of_noUp (noUp_of_components hup), downs_moves hup, hproper,
    l.pySplit_write, List.tail_cons, List.reverse_append, List.reverse_reverse,
    List.reverse_reverse]

/-- The scope that is extracted is that of the position. -/
theorem extractScopeDirac_write (scopes : Option (List String)) :
    extractScopeDirac l.write scopes = .ok (l.scope, l.write) := by
  rw [extractScopeDirac_of_slash l.toList_write, l.components_write, scope]

/-- The scope of an LFN is the text of a scope. -/
theorem scopeBody_scope : ScopeBody l.scope.toList := by
  unfold scope
  cases h : l.words[1]? with
  | none => rw [Option.getD_none]; decide
  | some w => exact (l.mem_words (List.mem_of_getElem? h)).1

end Lfn

/-- Every part of the policy reads a written LFN as what it is. The scope is extracted from
    the text; the schemas accept the name, the scope and the DID up to their lengths; the
    URL of the DID gives both back; and the file lies where the names lead. -/
theorem policy_reads_lfn {R A P : Type} (u : UnicodeDb) (scopes : Option (List String)) (rse : R)
    (rseAttrs : A) (protocolAttrs : P) (base : List String) (l : Lfn) :
    extractScopeDirac l.write scopes = .ok (l.scope, l.write) ∧
    (validateSchema u "name" (.str l.write) = .ok () ↔ l.write.length ≤ 250) ∧
    (validateSchema u "scope" (.str l.scope) = .ok () ↔ l.scope.length ≤ 25) ∧
    (validateSchema u "did" (didObj l.scope l.write) = .ok () ↔
      l.scope.length ≤ 25 ∧ l.write.length ≤ 250) ∧
    matchScopeName ("/" ++ l.scope ++ l.write) = some (l.scope, l.write) ∧
    fileAt base (lfn2pfnDirac l.scope l.write rse rseAttrs protocolAttrs) = base ++ l.words := by
  have hscope : (Schemas.scope u).valid (.str l.scope) = true ↔ l.scope.length ≤ 25 := by
    rw [valid_scope_iff]
    exact and_iff_left ⟨_, l.scopeBody_scope, Or.inl rfl⟩
  have hname : (Schemas.name u).valid (.str l.write) = true ↔ l.write.length ≤ 250 := by
    rw [valid_name_iff]
    exact and_iff_left ⟨_, l.nameBody_write, Or.inl rfl⟩
  have hnil : l.scope ≠ "" := by
    intro h
    exact l.scopeBody_scope.1 (String.toList_eq_nil_iff.mpr h)
  refine ⟨l.extractScopeDirac_write scopes, ?_, ?_, ?_, ?_, l.fileAt_write base⟩
  · rw [← hname]
    exact validateSchema_str_iff u rfl l.write_ne_empty
  · rw [← hscope]
    exact validateSchema_str_iff u rfl hnil
  · rw [validateSchema_did_iff, hscope, hname]
  · have hurl := matchScopeName_url l.scopeBody_scope (Or.inl rfl) l.nameBody_write (Or.inl rfl)
    rwa [String.ofList_toList] at hurl

/-! ## The tree -/

namespace Lfn

/-- An LFN is above the ones that go on from it. -/
instance : PartialOrder Lfn where
  le l l' := l.words <+: l'.words
  le_refl _ := List.prefix_rfl
  le_trans _ _ _ h h' := h.trans h'
  le_antisymm _ _ h h' := words_injective (h.eq_of_length_le h'.length_le)

end Lfn

end DiracRucioPolicy
