import DiracRucioPolicy.ForStd.List
import DiracRucioPolicy.Spec.Identifiers

/-!
# DIDs in URLs

`SCOPE_NAME_REGEXP` splits the path `/<scope><name>` of a URL into the scope and the
name of a DID.

## Key results

- `matchScopeName_slash`: what the regular expression does on every path
- `matchScopeName_exact`: on one line it finds the only way to split the path
- `url_roundtrip_iff`: an accepted DID is read back from its URL exactly when its name
  has no final newline
-/

namespace DiracRucioPolicy

open Regex

/-! ## What the regular expression matches -/

/-- The part of the expression after the first group: it only matches in front of a
    slash, and then group 2 takes everything up to the end of the line. -/
theorem run_lookSlash (s : State Char) :
    ((Regex.seq (.look (chr '/')) (.group 2 (Regex.star dot))).run s).head? =
      if s.after.head? = some '/' then some (s.captureWhile 2 (· != '\n')) else none := by
  obtain ⟨b, as, g⟩ := s
  cases as with
  | nil => simp [run, chr]
  | cons a as =>
    by_cases ha : a = '/'
    · -- the lookahead lets the slash stand, so group 2 starts with it
      obtain ⟨shorter, heq, -⟩ := run_group_star_set 2 (· != '\n') ⟨b, a :: as, g⟩
      have hlook : (Regex.look (chr '/')).run ⟨b, a :: as, g⟩ = [⟨b, a :: as, g⟩] := by
        simp [run, chr, ha]
      rw [run, hlook, List.flatMap_cons, List.flatMap_nil, List.append_nil, dot, heq]
      simp [ha]
    · simp [run, chr, ha]  -- the lookahead refuses every other character

/-- On a path that starts with a slash the scope is the text up to the next slash and
    the name the rest of the line; without a next slash there is no match. -/
theorem matchScopeName_slash (w : List Char) :
    matchScopeName (String.ofList ('/' :: w)) =
      if (w.dropWhile (· != '/')).head? = some '/' then
        some (String.ofList (w.takeWhile (· != '/')),
          String.ofList ((w.dropWhile (· != '/')).takeWhile (· != '\n')))
      else none := by
  have hslash : (chr '/').run (.start ('/' :: w)) = [⟨['/'], w, []⟩] := by
    simp [run, chr, State.start]
  -- the first group takes the longest run without a slash; the shorter ones stop in
  -- front of a character that the lookahead refuses
  obtain ⟨shorter, heq, hshort⟩ := run_group_star_set 1 (· != '/') ⟨['/'], w, []⟩
  have hrefused : shorter.flatMap
      (Regex.seq (.look (chr '/')) (.group 2 (Regex.star dot))).run = [] := by
    rw [List.flatMap_eq_nil_iff]
    intro s' hs'
    obtain ⟨a, as, hafter, ha⟩ := hshort s' hs'
    rw [← List.head?_eq_none_iff, run_lookSlash, hafter]
    simpa using ha
  have hmatch : scopeNameRegexp.matchStart ('/' :: w) =
      ((Regex.seq (.look (chr '/')) (.group 2 (Regex.star dot))).run
        (State.captureWhile 1 (· != '/') ⟨['/'], w, []⟩)).head? := by
    rw [matchStart, scopeNameRegexp, run, hslash, List.flatMap_cons, List.flatMap_nil,
      List.append_nil, run, notChr, heq, List.flatMap_cons, hrefused, List.append_nil]
  have hafter : (State.captureWhile 1 (· != '/') ⟨['/'], w, []⟩).after =
      w.dropWhile (· != '/') := rfl
  rw [matchScopeName, String.toList_ofList, hmatch, run_lookSlash, hafter]
  by_cases h : (w.dropWhile (· != '/')).head? = some '/'
  · rw [if_pos h, if_pos h]
    rfl
  · rw [if_neg h, if_neg h]
    rfl

/-- A path is split at the first slash behind its scope. -/
theorem matchScopeName_append {s n : List Char} (hs : '/' ∉ s) :
    matchScopeName (String.ofList ('/' :: (s ++ '/' :: n))) =
      some (String.ofList s, String.ofList (('/' :: n).takeWhile (· != '\n'))) := by
  rw [matchScopeName_slash, List.takeWhile_bne_append hs, List.dropWhile_bne_append hs,
    List.head?_cons, if_pos rfl]

/-! ## The only way to split a path -/

/-- The path is the scope behind a slash, followed by the name. -/
def SplitsAt (url scope name : String) : Prop :=
  '/' ∉ scope.toList ∧ name.toList.head? = some '/' ∧ "/" ++ scope ++ name = url

/-- Without a slash at the start and a further one there is no match. -/
theorem matchScopeName_eq_none {url : String}
    (h : ¬ ∃ w, url.toList = '/' :: w ∧ '/' ∈ w) : matchScopeName url = none := by
  rw [← String.ofList_toList (s := url)]
  cases hurl : url.toList with
  | nil => simp [matchScopeName, scopeNameRegexp, matchStart, run, chr, State.start]
  | cons a w =>
    by_cases ha : a = '/'
    · -- the first group takes all of the rest, and the lookahead finds no slash
      subst ha
      have hw : '/' ∉ w := fun hmem => h ⟨w, hurl, hmem⟩
      rw [matchScopeName_slash, List.dropWhile_bne_of_notMem hw]
      rfl
    · simp [matchScopeName, scopeNameRegexp, matchStart, run, chr, State.start, ha]

/-- A path with a further slash can be split. -/
theorem exists_splitsAt {url : String} {w : List Char} (hurl : url.toList = '/' :: w)
    (hmem : '/' ∈ w) : ∃ scope name, SplitsAt url scope name := by
  obtain ⟨s, n, rfl, hs⟩ := List.eq_append_cons_of_mem hmem
  refine ⟨String.ofList s, String.ofList ('/' :: n), ?_, ?_, ?_⟩
  · rw [String.toList_ofList]
    exact hs
  · rw [String.toList_ofList, List.head?_cons]
  · rw [← String.toList_inj, hurl]
    simp

/-- A single line that splits is read as the parts it was split into. -/
theorem matchScopeName_of_splitsAt {url scope name : String} (hnl : '\n' ∉ url.toList)
    (h : SplitsAt url scope name) : matchScopeName url = some (scope, name) := by
  obtain ⟨hscope, hname, hurl⟩ := h
  obtain ⟨n, hn⟩ := List.head?_eq_some_iff.mp hname
  have hofList : url = String.ofList ('/' :: (scope.toList ++ '/' :: n)) := by
    rw [← hurl, ← String.toList_inj]
    simp [hn]
  have hline : '\n' ∉ '/' :: n := by
    intro hmem
    rw [hofList, String.toList_ofList] at hnl
    exact hnl (List.mem_cons_of_mem _ (List.mem_append_right _ hmem))
  rw [hofList, matchScopeName_append hscope, List.takeWhile_bne_of_notMem hline,
    String.ofList_toList, ← hn, String.ofList_toList]

/-- On a single line a match is a way to split the path. -/
theorem matchScopeName_eq_some_iff {url scope name : String} (hnl : '\n' ∉ url.toList) :
    matchScopeName url = some (scope, name) ↔ SplitsAt url scope name := by
  constructor
  · intro hmatch
    by_cases h : ∃ w, url.toList = '/' :: w ∧ '/' ∈ w
    · obtain ⟨w, hurl, hmem⟩ := h
      obtain ⟨scope', name', hsplit⟩ := exists_splitsAt hurl hmem
      have heq := matchScopeName_of_splitsAt hnl hsplit
      rw [hmatch, Option.some.injEq, Prod.mk.injEq] at heq
      rw [heq.1, heq.2]
      exact hsplit
    · rw [matchScopeName_eq_none h] at hmatch
      cases hmatch
  · exact matchScopeName_of_splitsAt hnl

/-- On a path without a newline the expression matches exactly when the path starts with
    a slash and contains a further one; the match splits the path, and no other pair
    does. -/
theorem matchScopeName_exact (url : String) (hnl : '\n' ∉ url.toList) :
    ((matchScopeName url).isSome = true ↔ ∃ w, url.toList = '/' :: w ∧ '/' ∈ w) ∧
    ∀ scope name, matchScopeName url = some (scope, name) →
      SplitsAt url scope name ∧
        ∀ scope' name', SplitsAt url scope' name' → scope' = scope ∧ name' = name := by
  constructor
  · constructor
    · intro h
      by_contra hnone
      rw [matchScopeName_eq_none hnone] at h
      cases h
    · intro h
      obtain ⟨w, hurl, hmem⟩ := h
      obtain ⟨scope, name, hsplit⟩ := exists_splitsAt hurl hmem
      rw [(matchScopeName_eq_some_iff hnl).mpr hsplit]
      rfl
  · intro scope name hmatch
    refine ⟨(matchScopeName_eq_some_iff hnl).mp hmatch, fun scope' name' hsplit => ?_⟩
    have heq := (matchScopeName_eq_some_iff hnl).mpr hsplit
    rw [hmatch, Option.some.injEq, Prod.mk.injEq] at heq
    exact ⟨heq.1.symm, heq.2.symm⟩

/-- The text `/foo/vo` splits at its second slash. -/
theorem matchScopeName_exact_foo :
    ((matchScopeName "/foo/vo").isSome = true ↔ ∃ w, "/foo/vo".toList = '/' :: w ∧ '/' ∈ w) ∧
    SplitsAt "/foo/vo" "foo" "/vo" ∧
      ∀ scope' name', SplitsAt "/foo/vo" scope' name' → scope' = "foo" ∧ name' = "/vo" :=
  ⟨(matchScopeName_exact "/foo/vo" (by decide)).1,
    (matchScopeName_exact "/foo/vo" (by decide)).2 "foo" "/vo" (by decide)⟩

/-! ## Accepted DIDs -/

/-- The first newline of a line ends its body. -/
theorem Line.takeWhile_newline {v w : List Char} (h : Line v w) (hv : '\n' ∉ v) :
    w.takeWhile (· != '\n') = v := by
  cases h with
  | inl h => rw [h, List.takeWhile_bne_of_notMem hv]
  | inr h => rw [h, List.takeWhile_bne_append hv]

/-- A line is its own body when it has no final newline. -/
theorem Line.eq_iff {v w : List Char} (h : Line v w) (hv : '\n' ∉ v) : v = w ↔ '\n' ∉ w := by
  cases h with
  | inl h =>
    rw [h]
    exact ⟨fun _ => hv, fun _ => rfl⟩
  | inr h =>
    rw [h]
    constructor
    · intro heq
      have := congrArg List.length heq
      simp at this
    · intro hmem
      simp at hmem

/-- The text of an accepted scope contains no slash. -/
theorem slash_notMem_scope {v : List Char} {s : String} (hv : ScopeBody v)
    (hline : Line v s.toList) : '/' ∉ s.toList := by
  have hbody : '/' ∉ v := fun hmem => absurd (hv.2 '/' hmem) (by decide)
  cases hline with
  | inl h => rw [h]; exact hbody
  | inr h => rw [h]; simp [hbody]

/-- What the URL of a DID is read as: the scope, and the name up to its first newline. -/
theorem matchScopeName_url {scope name : String} {vs vn : List Char} (hvs : ScopeBody vs)
    (hs : Line vs scope.toList) (hvn : NameBody vn) (hn : Line vn name.toList) :
    matchScopeName ("/" ++ scope ++ name) = some (scope, String.ofList vn) := by
  have hnl : '\n' ∉ vn := hvn.newline_notMem
  obtain ⟨a, body, hvn', -⟩ := hvn
  have hslash : '/' ∉ scope.toList := slash_notMem_scope hvs hs
  obtain ⟨rest, hrest⟩ : ∃ rest, name.toList = '/' :: rest := by
    cases hn with
    | inl h => exact ⟨a :: body, by rw [h, hvn']⟩
    | inr h => exact ⟨a :: body ++ ['\n'], by rw [h, hvn']; rfl⟩
  have hurl : "/" ++ scope ++ name = String.ofList ('/' :: (scope.toList ++ '/' :: rest)) := by
    rw [← String.toList_inj]
    simp [hrest]
  -- the first slash behind the scope is the one the name starts with
  rw [hurl, matchScopeName_append hslash, ← hrest, hn.takeWhile_newline hnl,
    String.ofList_toList]

/-- The two texts of an accepted DID. -/
theorem lines_of_did {u : UnicodeDb} {scope name : String}
    (h : validateSchema u "did" (didObj scope name) = .ok ()) :
    (∃ vs, ScopeBody vs ∧ Line vs scope.toList) ∧ ∃ vn, NameBody vn ∧ Line vn name.toList := by
  rw [validateSchema_did_iff, valid_scope_iff, valid_name_iff] at h
  exact ⟨h.1.2, h.2.2⟩

/-- An accepted DID is read back from its URL exactly when its name does not end in a
    newline, and no two accepted DIDs with such names are read as the same one. -/
theorem url_roundtrip_iff (u : UnicodeDb) :
    (∀ scope name : String, scope ≠ "" → name ≠ "" →
      validateSchema u "did" (didObj scope name) = .ok () →
      (matchScopeName ("/" ++ scope ++ name) = some (scope, name) ↔ '\n' ∉ name.toList)) ∧
    (∀ scope name scope' name' : String,
      validateSchema u "did" (didObj scope name) = .ok () →
      validateSchema u "did" (didObj scope' name') = .ok () →
      '\n' ∉ name.toList → '\n' ∉ name'.toList →
      matchScopeName ("/" ++ scope ++ name) = matchScopeName ("/" ++ scope' ++ name') →
      scope = scope' ∧ name = name') := by
  have hread : ∀ scope name : String, validateSchema u "did" (didObj scope name) = .ok () →
      (matchScopeName ("/" ++ scope ++ name) = some (scope, name) ↔ '\n' ∉ name.toList) := by
    intro scope name h
    obtain ⟨⟨vs, hvs, hs⟩, vn, hvn, hn⟩ := lines_of_did h
    have hname : String.ofList vn = name ↔ '\n' ∉ name.toList := by
      rw [← hn.eq_iff hvn.newline_notMem, ← String.toList_inj, String.toList_ofList]
    rw [matchScopeName_url hvs hs hvn hn, Option.some.injEq, Prod.mk.injEq, hname]
    exact and_iff_right rfl
  constructor
  · intro scope name _ _ h
    exact hread scope name h
  · intro scope name scope' name' h h' hnl hnl' heq
    rw [(hread scope name h).mpr hnl, (hread scope' name' h').mpr hnl', Option.some.injEq,
      Prod.mk.injEq] at heq
    exact heq

/-- The DID `/vo/foo/bar` in the scope `foo` comes back from its URL. -/
theorem url_roundtrip_foo :
    (matchScopeName ("/" ++ "foo" ++ "/vo/foo/bar") = some ("foo", "/vo/foo/bar") ↔
      '\n' ∉ "/vo/foo/bar".toList) ∧ "foo" = "foo" ∧ "/vo/foo/bar" = "/vo/foo/bar" :=
  ⟨(url_roundtrip_iff .ascii).1 "foo" "/vo/foo/bar" (by decide) (by decide) (by decide),
    (url_roundtrip_iff .ascii).2 "foo" "/vo/foo/bar" "foo" "/vo/foo/bar" (by decide) (by decide)
      (by decide) (by decide) rfl⟩

/-- A name with a final newline is accepted, and its URL reads back without it. -/
theorem url_roundtrip_newline :
    ¬ ∀ (u : UnicodeDb) (scope name : String), scope ≠ "" → name ≠ "" →
      validateSchema u "did" (didObj scope name) = .ok () →
      matchScopeName ("/" ++ scope ++ name) = some (scope, name) := by
  intro h
  have := h .ascii "foo" "/a\n" (by decide) (by decide) (by decide)
  exact absurd this (by decide)

end DiracRucioPolicy
