import DiracRucioPolicy.Spec.LfnScope

/-!
# Writing LFNs

An LFN is written from its components with at least one slash in front of each of them
and any number of slashes behind the last. Splitting it gives the components back, so
the number of slashes never changes the scope.

## Key results

- `components_of_writes`: the components of a written LFN
- `writes_components`: every string that starts with a slash is written from its
  components
- `extractScopeDirac_lfn`: the scope of every string
-/

namespace DiracRucioPolicy

/-- `w` writes the components `cs`. The components are non-empty and free of slashes. -/
inductive Writes : List String → List Char → Prop
  | slashes (n : Nat) : Writes [] (List.replicate n '/')
  | component {c : String} {cs : List String} {w : List Char} (hne : c ≠ "")
      (hslash : '/' ∉ c.toList) (n : Nat) (h : Writes cs w) :
      Writes (c :: cs) (List.replicate (n + 1) '/' ++ c.toList ++ w)

/-! ## Components of written LFNs -/

/-- A slash at the start adds no component. -/
theorem components_cons_slash (w : List Char) :
    components (String.ofList ('/' :: w)) = components (String.ofList w) := by
  have happ := components_append [] w
  rw [List.nil_append] at happ
  rw [happ]
  rfl

/-- Neither are several slashes. -/
theorem components_slashes (n : Nat) (w : List Char) :
    components (String.ofList (List.replicate n '/' ++ w)) = components (String.ofList w) := by
  induction n with
  | zero => rfl
  | succ n ih => rw [List.replicate_succ, List.cons_append, components_cons_slash, ih]

/-- A string without slashes is its own component. -/
theorem components_of_slashFree {c : String} (hne : c ≠ "") (hslash : '/' ∉ c.toList) :
    components c = [c] := by
  rw [components, pySplit, List.splitOn_eq_singleton hslash, List.map_singleton,
    String.ofList_toList, List.filter_cons_of_pos (by simpa using hne), List.filter_nil]

/-- What is written behind a component is empty or starts with a slash. -/
theorem Writes.eq_nil_or_slash {cs : List String} {w : List Char} (h : Writes cs w) :
    w = [] ∨ ∃ w', w = '/' :: w' := by
  cases h with
  | slashes n =>
    cases n with
    | zero => exact Or.inl rfl
    | succ n => exact Or.inr ⟨List.replicate n '/', rfl⟩
  | component _ _ n _ => exact Or.inr ⟨_, rfl⟩

/-- Splitting a written LFN gives back the components it was written from. -/
theorem components_of_writes {cs : List String} {w : List Char} (h : Writes cs w) :
    components (String.ofList w) = cs := by
  induction h with
  | slashes n =>
    have hnil := components_slashes n []
    rw [List.append_nil] at hnil
    rw [hnil]
    rfl
  | @component c cs w hne hslash n h ih =>
    rw [List.append_assoc, components_slashes]
    cases h.eq_nil_or_slash with
    | inl hnil =>
      -- nothing follows, so this is the last component
      rw [hnil] at ih ⊢
      rw [List.append_nil, String.ofList_toList, components_of_slashFree hne hslash, ← ih]
      rfl
    | inr hcons =>
      -- the slash behind the component ends it
      obtain ⟨w', rfl⟩ := hcons
      rw [components_cons_slash] at ih
      rw [components_append, String.ofList_toList, components_of_slashFree hne hslash, ih]
      rfl

/-! ## Every LFN is written -/

/-- One more slash at the start writes the same components. -/
theorem Writes.cons_slash {cs : List String} {w : List Char} (h : Writes cs w) :
    Writes cs ('/' :: w) := by
  cases h with
  | slashes n => exact .slashes (n + 1)
  | component hne hslash n h => exact .component hne hslash (n + 1) h

/-- Every string is a piece without slashes, followed by a written string. -/
theorem exists_piece_writes (w : List Char) :
    ∃ p cs w', w = p ++ w' ∧ '/' ∉ p ∧ Writes cs w' := by
  induction w with
  | nil => exact ⟨[], [], [], rfl, List.not_mem_nil, .slashes 0⟩
  | cons a w ih =>
    obtain ⟨p, cs, w', rfl, hp, hw'⟩ := ih
    by_cases ha : a = '/'
    · -- the slash ends the piece, which becomes a component unless it is empty
      subst ha
      by_cases hnil : p = []
      · rw [hnil]
        exact ⟨[], cs, _, rfl, List.not_mem_nil, hw'.cons_slash⟩
      · have hne : String.ofList p ≠ "" := by
          rw [Ne, ← String.toList_inj, String.toList_ofList]
          exact hnil
        have hslash : '/' ∉ (String.ofList p).toList := by
          rw [String.toList_ofList]
          exact hp
        have hwrites := Writes.component hne hslash 0 hw'
        rw [String.toList_ofList] at hwrites
        exact ⟨[], _, _, rfl, List.not_mem_nil, hwrites⟩
    · have hp' : '/' ∉ a :: p := by
        rw [List.mem_cons, not_or]
        exact ⟨fun h => ha h.symm, hp⟩
      exact ⟨a :: p, cs, w', rfl, hp', hw'⟩

/-- A string that starts with a slash is written from its components. -/
theorem writes_components (w : List Char) :
    Writes (components (String.ofList ('/' :: w))) ('/' :: w) := by
  obtain ⟨p, cs, w', hw, hp, hwrites⟩ := exists_piece_writes ('/' :: w)
  cases p with
  | nil =>
    rw [hw, List.nil_append, components_of_writes hwrites]
    exact hwrites
  | cons a p =>
    obtain ⟨rfl, -⟩ := List.cons.inj hw
    exact absurd List.mem_cons_self hp

/-! ## The scope of a string -/

/-- A string without a slash at its start has no scope. -/
theorem extractScopeDirac_of_not_slash {did : String} (h : did.toList.head? ≠ some '/')
    (scopes : Option (List String)) :
    extractScopeDirac did scopes = .error (.valueError (scopeMsg did)) := by
  have hslash : "/".toList.isPrefixOf did.toList = false := by
    cases hdid : did.toList with
    | nil => rfl
    | cons a w =>
      rw [hdid, List.head?_cons] at h
      show ('/' == a && List.isPrefixOf [] w) = false
      rw [Bool.and_eq_false_iff, beq_eq_false_iff_ne]
      exact Or.inl fun heq => h (by rw [heq])
  rw [extractScopeDirac, hslash]
  rfl

/-- The scope depends on the start of the string and on its components. -/
theorem extractScopeDirac_eq_ok_iff {s scope did : String} {scopes : Option (List String)} :
    extractScopeDirac s scopes = .ok (scope, did) ↔
      s.toList.head? = some '/' ∧ (components s)[1]?.getD "root" = scope ∧ s = did := by
  by_cases h : s.toList.head? = some '/'
  · obtain ⟨w, hw⟩ := List.head?_eq_some_iff.mp h
    rw [extractScopeDirac_of_slash hw, Except.ok.injEq, Prod.mk.injEq]
    simp only [h, true_and]
  · rw [extractScopeDirac_of_not_slash h]
    simp [h]

/-- A written LFN lies in the scope named by its second component, or in `root`; a string
    that does not start with a slash has no scope. Neither depends on `scopes`, and
    doubling a slash or appending one does not change the scope. -/
theorem extractScopeDirac_lfn (scopes : Option (List String)) :
    (∀ (cs : List String) (did : String), Writes cs did.toList → did ≠ "" →
      extractScopeDirac did scopes = .ok (cs[1]?.getD "root", did)) ∧
    (∀ did : String, did.toList.head? ≠ some '/' →
      extractScopeDirac did scopes = .error (.valueError (scopeMsg did))) ∧
    (∀ (p q : List Char) (scope did : String),
      extractScopeDirac (String.ofList (p ++ '/' :: q)) scopes = .ok (scope, did) →
      extractScopeDirac (String.ofList (p ++ '/' :: '/' :: q)) scopes =
        .ok (scope, String.ofList (p ++ '/' :: '/' :: q))) ∧
    (∀ (w : List Char) (scope did : String),
      extractScopeDirac (String.ofList w) scopes = .ok (scope, did) →
      extractScopeDirac (String.ofList (w ++ ['/'])) scopes =
        .ok (scope, String.ofList (w ++ ['/']))) := by
  have hkeep : ∀ (w w' : List Char) (scope did : String),
      w'.head? = w.head? → components (String.ofList w') = components (String.ofList w) →
      extractScopeDirac (String.ofList w) scopes = .ok (scope, did) →
      extractScopeDirac (String.ofList w') scopes = .ok (scope, String.ofList w') := by
    intro w w' scope did hhead hcomp h
    rw [extractScopeDirac_eq_ok_iff, String.toList_ofList] at h ⊢
    obtain ⟨hslash, hscope, -⟩ := h
    exact ⟨by rw [hhead, hslash], by rw [hcomp, hscope], rfl⟩
  refine ⟨fun cs did h hne => ?_, fun did h => extractScopeDirac_of_not_slash h scopes,
    fun p q scope did h => ?_, fun w scope did h => ?_⟩
  · -- the text is not empty, so it starts with the slash of the first component
    obtain ⟨w, hw⟩ := h.eq_nil_or_slash.resolve_left fun hnil =>
      hne (String.toList_eq_nil_iff.mp hnil)
    have hcomp := components_of_writes h
    rw [String.ofList_toList] at hcomp
    rw [extractScopeDirac_of_slash hw, hcomp]
  · -- a doubled slash
    apply hkeep (p ++ '/' :: q) _ scope did _ _ h
    · cases p <;> rfl
    · rw [components_append, components_cons_slash, components_append]
  · -- an appended slash
    apply hkeep w _ scope did _ _ h
    · cases w with
      | nil =>
        rw [extractScopeDirac_eq_ok_iff] at h
        exact absurd h.1 (by simp)
      | cons a w => rfl
    · rw [components_append]
      exact List.append_nil _

/-- Slashes at the ends and in between do not change the scope of `/vo/foo`. -/
theorem extractScopeDirac_lfn_foo :
    extractScopeDirac "//vo///foo/" none = .ok ("foo", "//vo///foo/") ∧
    extractScopeDirac "vo/foo" none = .error (.valueError (scopeMsg "vo/foo")) ∧
    extractScopeDirac "/vo//foo" none = .ok ("foo", "/vo//foo") ∧
    extractScopeDirac "/vo/foo/" none = .ok ("foo", "/vo/foo/") :=
  ⟨(extractScopeDirac_lfn none).1 ["vo", "foo"] "//vo///foo/"
      (.component (by decide) (by decide) 1 (.component (by decide) (by decide) 2 (.slashes 1)))
      (by decide),
    (extractScopeDirac_lfn none).2.1 "vo/foo" (by decide),
    (extractScopeDirac_lfn none).2.2.1 "/vo".toList "foo".toList "foo" "/vo/foo" (by decide),
    (extractScopeDirac_lfn none).2.2.2 "/vo/foo".toList "foo" "/vo/foo" (by decide)⟩

end DiracRucioPolicy
