import DiracRucioPolicy.Native.Algorithms
import DiracRucioPolicy.ForStd.List
import DiracRucioPolicy.Spec.Identifiers

/-!
# Scopes of accepted LFNs

How `extract_scope_dirac` and the schemas for names and scopes fit together: which
scope an accepted name gets, when that scope is itself accepted, and what happens
along the chain of parent directories.

## Key results

- `extractScopeDirac_of_slash`: the scope is the second component, or `root`
- `scope_of_name_accepted_iff`: the scope of an accepted name is accepted exactly up
  to 25 characters
- `parent_accepted_same_scope`: every ancestor of an accepted name is accepted and
  lies in the same scope, or in `root` above it
-/

namespace DiracRucioPolicy

/-! ## Components -/

/-- A component is non-empty, free of slashes, and a contiguous part of the string. -/
theorem mem_components {s c : String} (h : c ∈ components s) :
    c ≠ "" ∧ '/' ∉ c.toList ∧ c.toList <:+: s.toList := by
  rw [components, List.mem_filter, pySplit, List.mem_map] at h
  obtain ⟨⟨l, hl, hlc⟩, hne⟩ := h
  rw [← hlc, String.toList_ofList]
  rw [← hlc] at hne
  exact ⟨by simpa using hne, List.notMem_of_mem_splitOn hl, List.infix_of_mem_splitOn hl⟩

/-- Splitting at a slash splits the components. -/
theorem components_append (p q : List Char) :
    components (String.ofList (p ++ '/' :: q)) =
      components (String.ofList p) ++ components (String.ofList q) := by
  simp only [components, pySplit, String.toList_ofList]
  rw [List.splitOn_append_cons_self, List.map_append, List.filter_append]

/-- A string that starts with a slash is in the scope named by its second component. -/
theorem extractScopeDirac_of_slash {s : String} {w : List Char} (hs : s.toList = '/' :: w)
    (scopes : Option (List String)) :
    extractScopeDirac s scopes = .ok ((components s)[1]?.getD "root", s) := by
  unfold extractScopeDirac
  -- no error: the string starts with a slash
  have hslash : "/".toList.isPrefixOf s.toList = true := by
    rw [hs]
    exact List.isPrefixOf_iff_prefix.mpr ⟨w, rfl⟩
  simp only [hslash, Bool.not_true, Bool.false_eq_true, if_false]
  split
  · -- fewer than two components: the special scope
    rename_i hlt
    rw [List.getElem?_eq_none (by omega), Option.getD_none]
  · rename_i hge
    rw [List.getElem?_eq_getElem (by omega), Option.getD_some]

/-- An accepted name starts with a slash and an ASCII letter or digit. -/
theorem toList_of_name {v : List Char} {s : String} (hv : NameBody v) (hline : Line v s.toList) :
    ∃ a w, s.toList = '/' :: a :: w ∧ a.isAlphanum = true := by
  obtain ⟨a, body, rfl, ha, -⟩ := hv
  cases hline with
  | inl h => exact ⟨a, body, h, ha⟩
  | inr h => exact ⟨a, body ++ ['\n'], h, ha⟩

/-! ## The scope of an accepted name -/

/-- A contiguous part of a line is itself a line, over the same characters. -/
theorem Line.of_infix {v w l : List Char} (h : Line v w) (hl : l <:+: w) :
    ∃ b, (∀ c ∈ b, c ∈ v) ∧ Line b l := by
  cases h with
  | inl h =>
    rw [h] at hl
    exact ⟨l, fun c hc => hl.subset hc, Or.inl rfl⟩
  | inr h =>
    rw [h, List.infix_concat_iff] at hl
    cases hl with
    | inr hl => exact ⟨l, fun c hc => hl.subset hc, Or.inl rfl⟩
    | inl hl =>
      -- the part reaches the end: it is empty or takes the newline with it
      cases List.suffix_concat_iff.mp hl with
      | inl hnil => exact ⟨[], by simp, Or.inl hnil⟩
      | inr hsuf =>
        obtain ⟨t, ht, hsuf⟩ := hsuf
        exact ⟨t, fun c hc => hsuf.subset hc, Or.inr ht⟩

/-- The text of a component of an accepted name is the text of a scope, except when
    the component is a bare newline. -/
theorem scopeBody_of_component {v : List Char} {s c : String} (hv : NameBody v)
    (hline : Line v s.toList) (hc : c ∈ components s) (hnl : c ≠ "\n") :
    ∃ b, ScopeBody b ∧ Line b c.toList := by
  obtain ⟨hne, hslash, hinf⟩ := mem_components hc
  obtain ⟨b, hb, hbline⟩ := hline.of_infix hinf
  have hsub : ∀ x ∈ b, x ∈ c.toList := by
    intro x hx
    cases hbline with
    | inl h => rw [h]; exact hx
    | inr h => rw [h]; exact List.mem_append_left _ hx
  have hscope : ∀ x ∈ b, scopeChar x = true := by
    intro x hx
    apply scopeChar_of_nameChar (hv.nameChar x (hb x hx))
    intro hx'
    rw [hx'] at hx
    exact hslash (hsub _ hx)
  refine ⟨b, ⟨?_, hscope⟩, hbline⟩
  -- the body is empty only in the component that is a bare newline
  intro hnil
  rw [hnil] at hbline
  cases hbline with
  | inl h => exact hne (String.toList_eq_nil_iff.mp h)
  | inr h => exact hnl (String.toList_inj.mp h)

/-- A component that is not a bare newline is an accepted scope exactly up to 25
    characters. -/
theorem valid_scope_component_iff (u : UnicodeDb) {v : List Char} {s c : String}
    (hv : NameBody v) (hline : Line v s.toList) (hc : c ∈ components s) (hnl : c ≠ "\n") :
    (Schemas.scope u).valid (.str c) = true ↔ c.length ≤ 25 := by
  rw [valid_scope_iff]
  have := scopeBody_of_component hv hline hc hnl
  exact ⟨fun h => h.1, fun h => ⟨h, this⟩⟩

/-- Extracting the scope of an accepted name succeeds, and the scope is one of the
    components or `root`. -/
theorem extractScopeDirac_of_name {v : List Char} {s : String} (hv : NameBody v)
    (hline : Line v s.toList) (scopes : Option (List String)) :
    extractScopeDirac s scopes = .ok ((components s)[1]?.getD "root", s) ∧
      ((components s)[1]?.getD "root" = "root" ∨
        (components s)[1]?.getD "root" ∈ components s) := by
  obtain ⟨a, w, hs, -⟩ := toList_of_name hv hline
  refine ⟨extractScopeDirac_of_slash hs scopes, ?_⟩
  cases hc : (components s)[1]? with
  | none => exact Or.inl rfl
  | some c => exact Or.inr (List.mem_of_getElem? hc)

/-- The schema for scopes accepts `root`. -/
theorem valid_scope_root (u : UnicodeDb) : (Schemas.scope u).valid (.str "root") = true := by
  rw [valid_scope_iff]
  exact ⟨by decide, "root".toList, ⟨by decide, List.all_eq_true.mp (by decide)⟩, Or.inl rfl⟩

/-- The scope of a non-empty accepted LFN is the second component, or `root` when there
    is none. Unless it is a bare newline it is itself accepted, alone and in a DID
    object, exactly when it has at most 25 characters. -/
theorem scope_of_name_accepted_iff (u : UnicodeDb) (lfn : String)
    (scopes : Option (List String)) (hne : lfn ≠ "")
    (hname : validateSchema u "name" (.str lfn) = .ok ()) :
    ∃ scope, extractScopeDirac lfn scopes = .ok (scope, lfn) ∧
      scope = (components lfn)[1]?.getD "root" ∧
      (scope ≠ "\n" →
        (validateSchema u "scope" (.str scope) = .ok () ↔ scope.length ≤ 25) ∧
        (validateSchema u "did" (didObj scope lfn) = .ok () ↔ scope.length ≤ 25)) := by
  have hvalid := (validateSchema_name_iff u hne).mp hname
  obtain ⟨-, v, hv, hline⟩ := hvalid
  obtain ⟨hext, hscope⟩ := extractScopeDirac_of_name hv hline scopes
  refine ⟨_, hext, rfl, fun hnl => ?_⟩
  -- both schemas come down to the length of the scope
  generalize (components lfn)[1]?.getD "root" = scope at hscope hnl
  have hlen : (Schemas.scope u).valid (.str scope) = true ↔ scope.length ≤ 25 := by
    cases hscope with
    | inl h =>
      rw [h]
      exact ⟨fun _ => by decide, fun _ => valid_scope_root u⟩
    | inr h => exact valid_scope_component_iff u hv hline h hnl
  have hempty : scope ≠ "" := by
    cases hscope with
    | inl h => rw [h]; decide
    | inr h => exact (mem_components h).1
  constructor
  · rw [← hlen]
    exact validateSchema_str_iff u rfl hempty
  · rw [validateSchema_did_iff, hlen, valid_name_iff]
    exact and_iff_left ((validateSchema_name_iff u hne).mp hname)

/-- The scope `foo` is accepted, as it is short. -/
theorem scope_of_name_accepted_foo :
    ∃ scope, extractScopeDirac "/ctao.org/foo/foo.dat" none = .ok (scope, "/ctao.org/foo/foo.dat") ∧
      scope = (components "/ctao.org/foo/foo.dat")[1]?.getD "root" ∧
      (scope ≠ "\n" →
        (validateSchema .ascii "scope" (.str scope) = .ok () ↔ scope.length ≤ 25) ∧
        (validateSchema .ascii "did" (didObj scope "/ctao.org/foo/foo.dat") = .ok () ↔
          scope.length ≤ 25)) :=
  scope_of_name_accepted_iff .ascii "/ctao.org/foo/foo.dat" none (by decide) (by decide)

/-- A second component of 26 characters makes an accepted LFN whose scope is refused. -/
theorem scope_of_name_refused :
    ¬ ∀ (u : UnicodeDb) (lfn : String) (scopes : Option (List String)), lfn ≠ "" →
      validateSchema u "name" (.str lfn) = .ok () →
      ∃ scope, extractScopeDirac lfn scopes = .ok (scope, lfn) ∧
        validateSchema u "scope" (.str scope) = .ok () ∧
        validateSchema u "did" (didObj scope lfn) = .ok () := by
  intro h
  obtain ⟨scope, hext, hscope, -⟩ :=
    h .ascii "/vo/abcdefghijklmnopqrstuvwxyz/f" none (by decide) (by decide)
  have hval : extractScopeDirac "/vo/abcdefghijklmnopqrstuvwxyz/f" none =
      .ok ("abcdefghijklmnopqrstuvwxyz", "/vo/abcdefghijklmnopqrstuvwxyz/f") := by decide
  rw [hval, Except.ok.injEq, Prod.mk.injEq] at hext
  rw [← hext.1] at hscope
  exact absurd hscope (by decide)

/-! ## The parent chain -/

/-- What stands before a slash inside an accepted name is itself the body of a name. -/
theorem NameBody.parent {v p q : List Char} (hv : NameBody v) (hline : Line v (p ++ '/' :: q))
    (hp : p ≠ []) : NameBody p := by
  -- `p` lies inside the body: only the last character can be outside
  have hpv : p <+: v := by
    cases hline with
    | inl h => exact ⟨'/' :: q, h⟩
    | inr h =>
      have hlen : p.length ≤ v.length := by
        have := congrArg List.length h
        simp only [List.length_append, List.length_cons, List.length_nil] at this
        omega
      exact List.prefix_of_prefix_length_le ⟨'/' :: q, h⟩ (List.prefix_append v ['\n']) hlen
  obtain ⟨a, body, rfl, ha, hbody⟩ := hv
  cases p with
  | nil => exact absurd rfl hp
  | cons c p =>
    rw [List.cons_prefix_cons] at hpv
    obtain ⟨rfl, hpv⟩ := hpv
    cases p with
    | nil =>
      -- the second character is no slash
      have hslash : a = '/' := by
        cases hline with
        | inl h => exact (List.cons.inj (List.cons.inj h).2).1.symm
        | inr h => exact (List.cons.inj (List.cons.inj h).2).1.symm
      rw [hslash] at ha
      exact absurd ha (by decide)
    | cons b p =>
      rw [List.cons_prefix_cons] at hpv
      obtain ⟨rfl, hpv⟩ := hpv
      exact ⟨b, p, rfl, ha, fun c hc => hbody c (hpv.subset hc)⟩

/-- Every ancestor `n[:k]` of an accepted name is an accepted name. Its scope is `root`
    while it has fewer than two components, and the scope of the name from there on. -/
theorem parent_accepted_same_scope (u : UnicodeDb) (n : String) (k : Nat)
    (scopes : Option (List String)) (hne : n ≠ "")
    (hname : validateSchema u "name" (.str n) = .ok ()) (hk : 0 < k)
    (hslash : n.toList[k]? = some '/') :
    validateSchema u "name" (.str (String.ofList (n.toList.take k))) = .ok () ∧
    ∃ scope parentScope, extractScopeDirac n scopes = .ok (scope, n) ∧
      extractScopeDirac (String.ofList (n.toList.take k)) scopes =
        .ok (parentScope, String.ofList (n.toList.take k)) ∧
      parentScope =
        if (components (String.ofList (n.toList.take k))).length < 2 then "root" else scope := by
  obtain ⟨hlen, v, hv, hline⟩ := (validateSchema_name_iff u hne).mp hname
  -- cut the name at the slash
  obtain ⟨hkn, hget⟩ := List.getElem?_eq_some_iff.mp hslash
  have hsplit : n.toList = n.toList.take k ++ '/' :: n.toList.drop (k + 1) := by
    rw [← hget, ← List.drop_eq_getElem_cons hkn, List.take_append_drop]
  have hplen : (n.toList.take k).length = k := List.length_take_of_le (by omega)
  generalize n.toList.take k = p at hsplit hplen
  generalize n.toList.drop (k + 1) = q at hsplit
  have hpne : p ≠ [] := List.ne_nil_of_length_pos (by omega)
  have hp : NameBody p := hv.parent (by rw [← hsplit]; exact hline) hpne
  have hpline : Line p (String.ofList p).toList := Or.inl (by rw [String.toList_ofList])
  constructor
  · rw [validateSchema_name_iff u (by simpa using hpne)]
    refine ⟨?_, p, hp, hpline⟩
    rw [String.length_ofList, hplen]
    rw [← String.length_toList] at hlen
    omega
  · refine ⟨_, _, (extractScopeDirac_of_name hv hline scopes).1,
      (extractScopeDirac_of_name hp hpline scopes).1, ?_⟩
    -- the components of the ancestor are the first ones of the name
    have hcomp : components n = components (String.ofList p) ++ components (String.ofList q) := by
      rw [← components_append, ← hsplit, String.ofList_toList]
    rw [hcomp]
    split
    · rename_i hlt
      rw [List.getElem?_eq_none (by omega), Option.getD_none]
    · rename_i hge
      rw [List.getElem?_append_left (by omega)]

/-- The name `/vo/foo/bar` cut at its last slash keeps the scope. -/
theorem parent_accepted_same_scope_foo :
    validateSchema .ascii "name" (.str (String.ofList ("/vo/foo/bar".toList.take 7))) = .ok () ∧
    ∃ scope parentScope, extractScopeDirac "/vo/foo/bar" none = .ok (scope, "/vo/foo/bar") ∧
      extractScopeDirac (String.ofList ("/vo/foo/bar".toList.take 7)) none =
        .ok (parentScope, String.ofList ("/vo/foo/bar".toList.take 7)) ∧
      parentScope =
        if (components (String.ofList ("/vo/foo/bar".toList.take 7))).length < 2 then "root"
        else scope :=
  parent_accepted_same_scope .ascii "/vo/foo/bar" 7 none (by decide) (by decide) (by decide)
    (by decide)

end DiracRucioPolicy
