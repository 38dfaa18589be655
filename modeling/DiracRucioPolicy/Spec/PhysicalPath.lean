import DiracRucioPolicy.ForStd.PosixPath
import DiracRucioPolicy.Spec.LfnScope

/-!
# Where files land

`lfn2pfn_dirac` stores a file under its name, so the place of the file is what the
storage makes of the name as a path. Names may contain `.` and `..` components behind
the first one, and runs of slashes.

## Key results

- `resolve_eq`: where a path leads, in terms of its components
- `ContainedIn.fileAt_prefix`: what containment means for the place of the file
- `contained_iff`: when the file stays in the directory of its VO and scope
- `sameFile_iff`: when two DIDs are stored in the same file
-/

namespace DiracRucioPolicy

open PosixPath

/-! ## Containment -/

/-- The path stays below its start and leads into the directory `/c1/c2`. -/
def ContainedIn (c1 c2 path : String) : Prop :=
  ∃ dirs, resolve path = some dirs ∧ [c1, c2] <+: dirs

/-- Below whatever directory the storage keeps, the file of a contained path lies in the
    directory of its VO and its scope. -/
theorem ContainedIn.fileAt_prefix {c1 c2 path : String} (h : ContainedIn c1 c2 path)
    (base : List String) : base ++ [c1, c2] <+: fileAt base path := by
  obtain ⟨dirs, hres, hpre⟩ := h
  rw [fileAt_of_resolve base hres]
  exact (List.prefix_append_right_inj base).mpr hpre

/-- The first component of an accepted name starts with its letter or digit. -/
theorem components_head {s : String} {a : Char} {w : List Char} (hs : s.toList = '/' :: a :: w)
    (ha : a ≠ '/') : ∃ l cs, components s = String.ofList (a :: l) :: cs := by
  have hsplit : s.toList.splitOn '/' = [] :: ((w.splitOn '/').modifyHead (List.cons a)) := by
    rw [hs, List.splitOn_cons_eq_if_modifyHead, List.splitOn_cons_eq_if_modifyHead]
    simp [ha]
  cases hw : w.splitOn '/' with
  | nil => exact absurd hw (List.splitOn_ne_nil '/' w)
  | cons p ps =>
    rw [hw, List.modifyHead_cons] at hsplit
    refine ⟨p, (ps.map String.ofList).filter (· ≠ ""), ?_⟩
    rw [components, pySplit, hsplit, List.map_cons, List.map_cons, String.ofList_nil,
      List.filter_cons_of_neg (by simp), List.filter_cons_of_pos (by simp)]

/-- The first component of an accepted name goes down. -/
theorem move_first {v : List Char} {s c : String} {cs : List String} (hv : NameBody v)
    (hline : Line v s.toList) (hc : components s = c :: cs) : move c = .down c := by
  obtain ⟨a, w, hs, ha⟩ := toList_of_name hv hline
  have hslash : a ≠ '/' := by
    intro h
    rw [h] at ha
    exact absurd ha (by decide)
  have hdot : a ≠ '.' := by
    intro h
    rw [h] at ha
    exact absurd ha (by decide)
  obtain ⟨l, cs', hcomp⟩ := components_head hs hslash
  obtain ⟨rfl, -⟩ := List.cons.inj (hc.symm.trans hcomp)
  -- the component is none of the special ones, which start with a dot or not at all
  have hne : ∀ t : String, t.toList.head? ≠ some a → String.ofList (a :: l) ≠ t := by
    intro t ht heq
    rw [← heq, String.toList_ofList] at ht
    exact ht rfl
  refine move_ordinary (hne "" (by simp)) (hne "." ?_) (hne ".." ?_)
  all_goals
    intro h
    exact hdot (Option.some.inj h).symm

/-- Resolving a path only looks at its non-empty components. -/
theorem resolve_eq (path : String) :
    resolve path =
      if cancels ((components path).map move) = 0 then some (kept ((components path).map move))
      else none := by
  have hwalk : walk (moves path) [] = walk ((components path).map move) [] :=
    walk_filter_ne_empty (pySplit path '/') []
  rw [resolve, hwalk, walk_nil]
  split
  · rw [Option.map_some, List.reverse_reverse]
  · rfl

/-- The components behind `c1` and `c2` either never leave the directory `/c1/c2`, or
    come back: the names among `c1`, `c2` that their `..` cancel are the first ones they
    leave uncancelled themselves. `c2` must be a name, not `.` or `..`. -/
def ComesBack (c1 c2 : String) (rest : List String) : Prop :=
  c2 ≠ "." ∧ c2 ≠ ".." ∧ cancels (rest.map move) ≤ 2 ∧
    [c1, c2].drop (2 - cancels (rest.map move)) <+: kept (rest.map move)

instance (c1 c2 : String) (rest : List String) : Decidable (ComesBack c1 c2 rest) :=
  inferInstanceAs (Decidable (_ ∧ _ ∧ _ ∧ _))

/-- What the components behind two ordinary ones leave of them. -/
theorem kept_two (c1 c2 : String) (ms : List (Move String)) (h : cancels ms ≤ 2) :
    kept (.down c1 :: .down c2 :: ms) = [c1, c2].take (2 - cancels ms) ++ kept ms := by
  have hcases : cancels ms = 0 ∨ cancels ms = 1 ∨ cancels ms = 2 := by omega
  rcases hcases with h | h | h
  · simp [kept, cancels, h]
  · simp [kept, cancels, h]
  · simp [kept, cancels, h]

/-- A path leads into `/c1/c2` exactly when the components behind `c1` and `c2` come
    back to that directory. -/
theorem contained_iff_comesBack {path c1 c2 : String} {rest : List String}
    (hcomp : components path = c1 :: c2 :: rest) (h1 : move c1 = .down c1) :
    ContainedIn c1 c2 path ↔ ComesBack c1 c2 rest := by
  have hmem : c2 ∈ components path := by rw [hcomp]; simp
  have hne : c2 ≠ "" := (mem_components hmem).1
  by_cases hdots : c2 = "." ∨ c2 = ".."
  · -- `c2` is no name, so no resolved path goes through it
    constructor
    · intro hin
      obtain ⟨dirs, hres, hpre⟩ := hin
      rw [resolve_eq] at hres
      split at hres
      · rw [Option.some.injEq] at hres
        have hkept : c2 ∈ kept ((components path).map move) := by
          rw [hres]
          exact hpre.subset (by simp)
        obtain ⟨-, hd, hdd⟩ := ordinary_of_mem_kept hkept
        cases hdots with
        | inl h => exact absurd h hd
        | inr h => exact absurd h hdd
      · exact nomatch hres
    · intro hback
      cases hdots with
      | inl h => exact absurd h hback.1
      | inr h => exact absurd h hback.2.1
  · rw [not_or] at hdots
    have h2 : move c2 = .down c2 := move_ordinary hne hdots.1 hdots.2
    have hmoves : (components path).map move = .down c1 :: .down c2 :: rest.map move := by
      rw [hcomp, List.map_cons, List.map_cons, h1, h2]
    have hcancel : cancels ((components path).map move) = 0 ↔ cancels (rest.map move) ≤ 2 := by
      rw [hmoves]
      simp only [cancels]
      omega
    -- the names cancelled by `rest` are the ones it has to write again
    have hbegin : cancels (rest.map move) ≤ 2 →
        ([c1, c2] <+: kept ((components path).map move) ↔
          [c1, c2].drop (2 - cancels (rest.map move)) <+: kept (rest.map move)) := by
      intro hle
      rw [hmoves, kept_two c1 c2 _ hle]
      generalize 2 - cancels (rest.map move) = n
      have hinj : [c1, c2].take n ++ [c1, c2].drop n <+: [c1, c2].take n ++ kept (rest.map move) ↔
          [c1, c2].drop n <+: kept (rest.map move) := List.prefix_append_right_inj _
      rwa [List.take_append_drop] at hinj
    constructor
    · intro hin
      obtain ⟨dirs, hres, hpre⟩ := hin
      rw [resolve_eq] at hres
      split at hres
      · rename_i hzero
        rw [Option.some.injEq] at hres
        have hle := hcancel.mp hzero
        exact ⟨hdots.1, hdots.2, hle, (hbegin hle).mp (by rw [hres]; exact hpre)⟩
      · exact nomatch hres
    · intro hback
      obtain ⟨-, -, hle, hdrop⟩ := hback
      refine ⟨kept ((components path).map move), ?_, (hbegin hle).mpr hdrop⟩
      rw [resolve_eq, if_pos (hcancel.mpr hle)]

/-- The file of an accepted name with at least two components lies in the directory of
    its VO and its scope exactly when the components behind these two come back to it. -/
theorem contained_iff {R A P : Type} (u : UnicodeDb) (name : String)
    (scopes : Option (List String)) (rse : R) (rseAttrs : A) (protocolAttrs : P)
    {c1 c2 : String} {rest : List String} (hne : name ≠ "")
    (hname : validateSchema u "name" (.str name) = .ok ())
    (hcomp : components name = c1 :: c2 :: rest) :
    (∃ scope, extractScopeDirac name scopes = .ok (scope, name) ∧ scope = c2 ∧
      ContainedIn c1 c2 (lfn2pfnDirac scope name rse rseAttrs protocolAttrs)) ↔
      ComesBack c1 c2 rest := by
  obtain ⟨-, v, hv, hline⟩ := (validateSchema_name_iff u hne).mp hname
  have hext := (extractScopeDirac_of_name hv hline scopes).1
  have hscope : (components name)[1]?.getD "root" = c2 := by rw [hcomp]; rfl
  rw [hscope] at hext
  have hin := contained_iff_comesBack hcomp (move_first hv hline hcomp)
  constructor
  · intro h
    obtain ⟨scope, -, -, h⟩ := h
    exact hin.mp h
  · intro h
    exact ⟨c2, hext, rfl, hin.mpr h⟩

/-- The name `/vo/alice/data/run1` stays in the directory of `alice`. -/
theorem contained_foo :
    (∃ scope, extractScopeDirac "/vo/alice/data/run1" none = .ok (scope, "/vo/alice/data/run1") ∧
      scope = "alice" ∧
      ContainedIn "vo" "alice" (lfn2pfnDirac scope "/vo/alice/data/run1" "STORAGE-1" () ())) ↔
      ComesBack "vo" "alice" ["data", "run1"] :=
  contained_iff .ascii "/vo/alice/data/run1" none "STORAGE-1" () () (by decide) (by decide)
    (by decide)

/-- `/vo/alice/../bob/data` is an accepted name of the scope `alice`, but its file lies
    in the directory of `bob`. -/
theorem not_contained_dotdot :
    ¬ ∀ (u : UnicodeDb) (name c1 c2 : String) (rest : List String), name ≠ "" →
      validateSchema u "name" (.str name) = .ok () → components name = c1 :: c2 :: rest →
      ∃ scope, extractScopeDirac name none = .ok (scope, name) ∧ scope = c2 ∧
        ContainedIn c1 c2 (lfn2pfnDirac scope name "STORAGE-1" () ()) := by
  intro h
  obtain ⟨scope, -, -, dirs, hres, hpre⟩ :=
    h .ascii "/vo/alice/../bob/data" "vo" "alice" ["..", "bob", "data"] (by decide) (by decide)
      (by decide)
  have hdirs : resolve "/vo/alice/../bob/data" = some ["vo", "bob", "data"] := by decide
  rw [lfn2pfnDirac, hdirs, Option.some.injEq] at hres
  rw [← hres] at hpre
  exact absurd hpre (by decide)

/-! ## One file, two DIDs -/

/-- The components that a path without `..` goes down through. -/
def properComponents (name : String) : List String := (components name).filter (· ≠ ".")

/-- Behind its leading slash the name has no empty, `.` or `..` component. -/
def Canonical (name : String) : Prop :=
  ∀ c ∈ (pySplit name '/').tail, c ≠ "" ∧ c ≠ "." ∧ c ≠ ".."

instance (name : String) : Decidable (Canonical name) :=
  inferInstanceAs (Decidable (∀ c ∈ (pySplit name '/').tail, c ≠ "" ∧ c ≠ "." ∧ c ≠ ".."))

/-- A name without `..` components never goes up. -/
theorem noUp_of_components {name : String} (h : ".." ∉ components name) : NoUp (moves name) := by
  intro hup
  obtain ⟨c, hc, hmove⟩ := List.mem_map.mp hup
  rw [move_eq_up] at hmove
  rw [hmove] at hc
  exact h (List.mem_filter.mpr ⟨hc, by decide⟩)

/-- A path without `..` goes down through its proper components. -/
theorem downs_moves {name : String} (h : ".." ∉ components name) :
    downs (moves name) = properComponents name := by
  have hdowns : downs (moves name) =
      (pySplit name '/').filter fun c => c ≠ "" ∧ c ≠ "." ∧ c ≠ ".." :=
    downs_map_move _
  rw [hdowns, properComponents, components, List.filter_filter]
  refine List.filter_congr fun c hc => ?_
  -- the two filters differ on `..` only, which is not among the components
  have hne : c ≠ ".." := by
    intro h'
    rw [h'] at hc
    exact h (List.mem_filter.mpr ⟨hc, by decide⟩)
  by_cases h₀ : c = ""
  · simp [h₀]
  by_cases h₁ : c = "."
  · simp [h₁]
  simp [h₀, h₁, hne]

/-- Names without `..` are stored in the same file exactly when they go down through the
    same components. -/
theorem fileAt_eq_iff (base : List String) {name name' : String} (h : ".." ∉ components name)
    (h' : ".." ∉ components name') :
    fileAt base name = fileAt base name' ↔ properComponents name = properComponents name' := by
  rw [fileAt, fileAt, List.reverse_inj,
    walkAbs_inj_of_noUp (noUp_of_components h) (noUp_of_components h'), downs_moves h,
    downs_moves h']

/-- A string is determined by its pieces. -/
theorem pySplit_inj {s t : String} (sep : Char) (h : pySplit s sep = pySplit t sep) : s = t := by
  have hlist : s.toList.splitOn sep = t.toList.splitOn sep :=
    List.map_injective_iff.mpr (fun _ _ => String.ofList_injective) h
  have hjoin := congrArg [sep].intercalate hlist
  rwa [List.intercalate_splitOn, List.intercalate_splitOn, String.toList_inj] at hjoin

/-- A string that starts with a slash has an empty first piece. -/
theorem pySplit_of_slash {s : String} {w : List Char} (hs : s.toList = '/' :: w) :
    pySplit s '/' = "" :: (pySplit s '/').tail := by
  rw [pySplit, hs, List.splitOn_cons_eq_if_modifyHead]
  simp

/-- The components of a canonical name are its pieces behind the first slash. -/
theorem components_of_canonical {s : String} {w : List Char} (hs : s.toList = '/' :: w)
    (h : Canonical s) :
    components s = (pySplit s '/').tail ∧ ".." ∉ components s ∧
      properComponents s = (pySplit s '/').tail := by
  have hcomp : components s = (pySplit s '/').tail := by
    rw [components, pySplit_of_slash hs, List.filter_cons_of_neg (by simp), List.tail_cons]
    exact List.filter_eq_self.mpr fun c hc => by simpa using (h c hc).1
  refine ⟨hcomp, ?_, ?_⟩
  · intro hmem
    rw [hcomp] at hmem
    exact (h _ hmem).2.2 rfl
  · rw [properComponents, hcomp]
    exact List.filter_eq_self.mpr fun c hc => by simpa using (h c hc).2.1

/-- Two accepted DIDs whose names have no `..` component are stored in the same file
    exactly when their names have the same components, whatever the scopes are; and in
    different files as soon as the names are canonical and differ. -/
theorem sameFile_iff {R A P : Type} (u : UnicodeDb) (base : List String) (rse : R)
    (rseAttrs : A) (protocolAttrs : P) {scope name scope' name' : String}
    (h : validateSchema u "did" (didObj scope name) = .ok ())
    (h' : validateSchema u "did" (didObj scope' name') = .ok ()) :
    (".." ∉ components name → ".." ∉ components name' →
      (fileAt base (lfn2pfnDirac scope name rse rseAttrs protocolAttrs) =
          fileAt base (lfn2pfnDirac scope' name' rse rseAttrs protocolAttrs) ↔
        properComponents name = properComponents name')) ∧
    (Canonical name → Canonical name' →
      (fileAt base (lfn2pfnDirac scope name rse rseAttrs protocolAttrs) =
          fileAt base (lfn2pfnDirac scope' name' rse rseAttrs protocolAttrs) ↔
        name = name')) := by
  have hslash : ∀ {scope name : String}, validateSchema u "did" (didObj scope name) = .ok () →
      ∃ w, name.toList = '/' :: w := by
    intro scope name h
    rw [validateSchema_did_iff, valid_name_iff] at h
    obtain ⟨-, -, v, hv, hline⟩ := h
    obtain ⟨a, w, hs, -⟩ := toList_of_name hv hline
    exact ⟨a :: w, hs⟩
  obtain ⟨w, hw⟩ := hslash h
  obtain ⟨w', hw'⟩ := hslash h'
  constructor
  · intro hup hup'
    exact fileAt_eq_iff base hup hup'
  · intro hcan hcan'
    obtain ⟨-, hup, hprop⟩ := components_of_canonical hw hcan
    obtain ⟨-, hup', hprop'⟩ := components_of_canonical hw' hcan'
    rw [lfn2pfnDirac, lfn2pfnDirac, fileAt_eq_iff base hup hup', hprop, hprop']
    -- the pieces behind the first, empty one determine the name
    constructor
    · intro htail
      apply pySplit_inj '/'
      rw [pySplit_of_slash hw, pySplit_of_slash hw', htail]
    · intro heq
      rw [heq]

/-- Empty and `.` components do not count, and different canonical names do. -/
theorem sameFile_foo :
    (fileAt ["data"] (lfn2pfnDirac "foo" "/vo/foo//a" "STORAGE-1" () ()) =
        fileAt ["data"] (lfn2pfnDirac "." "/vo/./foo/a/" "STORAGE-1" () ()) ↔
      properComponents "/vo/foo//a" = properComponents "/vo/./foo/a/") ∧
    (fileAt ["data"] (lfn2pfnDirac "foo" "/vo/foo/a" "STORAGE-1" () ()) =
        fileAt ["data"] (lfn2pfnDirac "foo" "/vo/foo/b" "STORAGE-1" () ()) ↔
      "/vo/foo/a" = "/vo/foo/b") :=
  ⟨(sameFile_iff .ascii ["data"] "STORAGE-1" () () (by decide) (by decide)).1 (by decide)
      (by decide),
    (sameFile_iff .ascii ["data"] "STORAGE-1" () () (by decide) (by decide)).2 (by decide)
      (by decide)⟩

/-- Two scopes may hold a DID of the same name, and both are stored in one file. -/
theorem sameFile_two_scopes :
    ¬ ∀ (u : UnicodeDb) (base : List String) (scope name scope' name' : String),
      validateSchema u "did" (didObj scope name) = .ok () →
      validateSchema u "did" (didObj scope' name') = .ok () →
      (scope, name) ≠ (scope', name') →
      fileAt base (lfn2pfnDirac scope name "STORAGE-1" () ()) ≠
        fileAt base (lfn2pfnDirac scope' name' "STORAGE-1" () ()) := by
  intro h
  exact h .ascii [] "alice" "/vo/x" "bob" "/vo/x" (by decide) (by decide) (by decide) rfl

end DiracRucioPolicy
