import Mathlib.Computability.Language

/-!
# Backtracking regular expressions

A small backtracking matcher in the style of Perl and Python: `Regex.run` lists
every way a pattern can match at a position, in the order in which a
backtracking engine tries them, so that the head of the list is the match the
engine reports. Groups record the text they captured.

The expressions are generic in the alphabet: a character class is a predicate,
and `eos` takes the predicate of the elements that may stand between the match
and the end of the input (Python's `$` lets one final newline stand there).

## Key results

- `run_computes`: on patterns without anchors and lookaheads the matcher
  consumes exactly the words of the language `Regex.lang`
- `search_anchored_iff`: what `re.search` accepts for a pattern `^r$`
- `search_set_iff`: what `re.search` accepts for a single class
- `mem_lang_rep_set`, `mem_lang_joined`: the languages of repeated classes and of blocks
  joined by separators
- `run_star_set`: the first match of a greedy class is the longest one
-/

universe u

/-- A regular expression over the alphabet `α`. `rep r lo extra` is the greedy
    repetition `r{lo,lo+extra}`, without an upper bound when `extra` is `none`. -/
inductive Regex (α : Type u) where
  | eps
  | set (p : α → Bool)
  | bos
  | eos (final : α → Bool)
  | seq (r t : Regex α)
  | alt (r t : Regex α)
  | rep (r : Regex α) (lo : Nat) (extra : Option Nat)
  | group (n : Nat) (r : Regex α)
  | look (r : Regex α)

namespace Regex

variable {α : Type u}

/-- `r*` -/
def star (r : Regex α) : Regex α := rep r 0 none

/-- `r+` -/
def plus (r : Regex α) : Regex α := rep r 1 none

/-- `r?`, also written `r{0,1}` -/
def opt (r : Regex α) : Regex α := rep r 0 (some 1)

/-- `r{n}` -/
def exactly (n : Nat) (r : Regex α) : Regex α := rep r n (some 0)

/-- A position of the matcher: the input before it (latest element first), the
    input after it, and the captured groups (latest capture first). -/
structure State (α : Type u) where
  before : List α
  after : List α
  groups : List (Nat × List α)

namespace State

/-- The state at the start of the input `w`. -/
def start (w : List α) : State α := ⟨[], w, []⟩

/-- The text between the position `s` and the later position `s'`. -/
def since (s' s : State α) : List α :=
  (s'.before.take (s'.before.length - s.before.length)).reverse

/-- Move forward over the longest run of elements of the class `p`. -/
def advanceWhile (p : α → Bool) (s : State α) : State α :=
  ⟨(s.after.takeWhile p).reverse ++ s.before, s.after.dropWhile p, s.groups⟩

/-- The same, capturing the run as group `n`. -/
def captureWhile (n : Nat) (p : α → Bool) (s : State α) : State α :=
  { s.advanceWhile p with groups := (n, s.after.takeWhile p) :: s.groups }

/-- The text of group `n`, if the group took part in the match. -/
def group (s : State α) (n : Nat) : Option (List α) := s.groups.lookup n

/-- The text between a position and the end of the run behind it is the run. -/
theorem since_advanceWhile (p : α → Bool) (s : State α) :
    (s.advanceWhile p).since s = s.after.takeWhile p := by
  simp only [since, advanceWhile, List.length_append, List.length_reverse, Nat.add_sub_cancel]
  rw [List.take_left' (by simp), List.reverse_reverse]

end State

/-! ## The matcher -/

/-- Exactly `n` rounds of `step`, in backtracking order. -/
def power (step : State α → List (State α)) : Nat → State α → List (State α)
  | 0, s => [s]
  | n + 1, s => (step s).flatMap (power step n)

/-- At most `n` rounds of `step`, longest first. A round that consumes nothing is
    not repeated. -/
def iterate (step : State α → List (State α)) : Nat → State α → List (State α)
  | 0, s => [s]
  | n + 1, s =>
    ((step s).filter fun s' => s'.after.length < s.after.length).flatMap (iterate step n) ++ [s]

/-- All matches of `r` that start at a position, in backtracking order. -/
def run : Regex α → State α → List (State α)
  | eps, s => [s]
  | set p, s =>
    -- a class consumes one element
    match s.after with
    | [] => []
    | a :: as => if p a then [⟨a :: s.before, as, s.groups⟩] else []
  | bos, s => if s.before.isEmpty then [s] else []
  | eos final, s =>
    -- consumes nothing, also not the final element it lets stand
    match s.after with
    | [] => [s]
    | [a] => if final a then [s] else []
    | _ :: _ :: _ => []
  | seq r t, s => (run r s).flatMap (run t)
  | alt r t, s => run r s ++ run t s  -- the left alternative is tried first
  | rep r lo extra, s =>
    -- without a bound there are at most as many rounds as elements left
    (power (run r) lo s).flatMap fun s' => iterate (run r) (extra.getD s'.after.length) s'
  | group n r, s => (run r s).map fun s' => { s' with groups := (n, s'.since s) :: s'.groups }
  | look r, s =>
    -- a lookahead keeps the captures of its first match and goes back to its start
    match run r s with
    | [] => []
    | s' :: _ => [{ s with groups := s'.groups }]

/-- `re.match`: the first match at the start of the input. -/
def matchStart (r : Regex α) (w : List α) : Option (State α) := (r.run (.start w)).head?

/-- The first match at the position `(before, after)` or a later one. -/
def searchFrom (r : Regex α) : List α → List α → Option (State α)
  | before, [] => (r.run ⟨before, [], []⟩).head?
  | before, a :: as =>
    (r.run ⟨before, a :: as, []⟩).head?.or (searchFrom r (a :: before) as)

/-- `re.search`: the first match at any position. -/
def search (r : Regex α) (w : List α) : Option (State α) := r.searchFrom [] w

/-! ## The language of a pattern -/

/-- `r` has neither anchors nor lookaheads, so what it matches does not depend on
    the position. -/
def Plain : Regex α → Prop
  | eps | set _ => True
  | bos | eos _ | look _ => False
  | seq r t | alt r t => r.Plain ∧ t.Plain
  | rep r _ _ | group _ r => r.Plain

/-- The words that a plain pattern consumes. -/
def lang : Regex α → Language α
  | eps => 1
  | set p => {w | ∃ a, p a = true ∧ w = [a]}
  | bos | eos _ | look _ => 0
  | seq r t => r.lang * t.lang
  | alt r t => r.lang + t.lang
  | rep r lo extra => {w | ∃ n, (∀ k, extra = some k → n ≤ k) ∧ w ∈ r.lang ^ (lo + n)}
  | group _ r => r.lang

/-- From `s` to `s'` the matcher consumed the word `w`. -/
def State.Reads (s s' : State α) (w : List α) : Prop :=
  s.after = w ++ s'.after ∧ s'.before = w.reverse ++ s.before

/-- Nothing is read by staying. -/
theorem State.Reads.refl (s : State α) : s.Reads s [] := ⟨rfl, rfl⟩

/-- What two steps read is read by both in a row. -/
theorem State.Reads.trans {s s' s'' : State α} {w v : List α}
    (h : s.Reads s' w) (h' : s'.Reads s'' v) : s.Reads s'' (w ++ v) := by
  refine ⟨by rw [h.1, h'.1, List.append_assoc], ?_⟩
  rw [h'.2, h.2, List.reverse_append, List.append_assoc]

/-- Two states that agree on everything but the groups read the same words. -/
theorem State.Reads.congr_right {s s' t : State α} {w : List α} (h : s.Reads s' w)
    (hb : t.before = s'.before) (ha : t.after = s'.after) : s.Reads t w := by
  rw [State.Reads, hb, ha]; exact h

/-- What is left after reading a known beginning of the input. -/
theorem State.Reads.after_eq {s s' : State α} {w rest : List α} (h : s.Reads s' w)
    (hafter : s.after = w ++ rest) : s'.after = rest := by
  have hsplit := h.1
  rw [hafter] at hsplit
  exact (List.append_cancel_left hsplit).symm

/-- The step function `step` consumes exactly the words of `L`, at every position. -/
structure Computes (step : State α → List (State α)) (L : Language α) : Prop where
  sound : ∀ {s s'}, s' ∈ step s → ∃ w ∈ L, s.Reads s' w
  complete : ∀ {s w} rest, w ∈ L → s.after = w ++ rest → ∃ s' ∈ step s, s.Reads s' w

namespace Computes

variable {step step' : State α → List (State α)} {L L' : Language α}

/-- Steps in a row consume the concatenations. -/
theorem seq (h : Computes step L) (h' : Computes step' L') :
    Computes (fun s => (step s).flatMap step') (L * L') where
  sound := by
    intro s s'' hs
    obtain ⟨s', hs', hs''⟩ := List.mem_flatMap.mp hs
    obtain ⟨w, hw, hr⟩ := h.sound hs'
    obtain ⟨v, hv, hr'⟩ := h'.sound hs''
    exact ⟨w ++ v, Language.append_mem_mul hw hv, hr.trans hr'⟩
  complete := by
    intro s x rest hx hafter
    obtain ⟨w, hw, v, hv, rfl⟩ := Language.mem_mul.mp hx
    -- the first step reads `w`, the second reads `v` from where the first ended
    obtain ⟨s', hs', hr⟩ := h.complete (v ++ rest) hw (by simpa using hafter)
    have hrest : s'.after = v ++ rest := hr.after_eq (by simpa using hafter)
    obtain ⟨s'', hs'', hr'⟩ := h'.complete rest hv hrest
    exact ⟨s'', List.mem_flatMap.mpr ⟨s', hs', hs''⟩, hr.trans hr'⟩

/-- Steps side by side consume the words of either. -/
theorem alt (h : Computes step L) (h' : Computes step' L') :
    Computes (fun s => step s ++ step' s) (L + L') where
  sound := by
    intro s s' hs
    cases List.mem_append.mp hs with
    | inl hs =>
      obtain ⟨w, hw, hr⟩ := h.sound hs
      exact ⟨w, Or.inl hw, hr⟩
    | inr hs =>
      obtain ⟨w, hw, hr⟩ := h'.sound hs
      exact ⟨w, Or.inr hw, hr⟩
  complete := by
    intro s w rest hw hafter
    cases hw with
    | inl hw =>
      obtain ⟨s', hs', hr⟩ := h.complete rest hw hafter
      exact ⟨s', List.mem_append_left _ hs', hr⟩
    | inr hw =>
      obtain ⟨s', hs', hr⟩ := h'.complete rest hw hafter
      exact ⟨s', List.mem_append_right _ hs', hr⟩

/-- Repeated steps consume the powers. -/
theorem power (h : Computes step L) (n : Nat) : Computes (power step n) (L ^ n) := by
  induction n with
  | zero =>
    refine ⟨fun hs => ?_, fun _ hw _ => ?_⟩
    · rw [Regex.power, List.mem_singleton] at hs
      subst hs
      exact ⟨[], by simp, .refl _⟩
    · rw [pow_zero, Language.mem_one] at hw
      subst hw
      exact ⟨_, List.mem_singleton_self _, .refl _⟩
  | succ n ih =>
    rw [pow_succ']
    exact h.seq ih

/-- Whatever `iterate` reaches, it reaches in at most `n` rounds. -/
theorem iterate_sound (h : Computes step L) {n : Nat} {s s' : State α}
    (hs : s' ∈ iterate step n s) : ∃ m ≤ n, ∃ w ∈ L ^ m, s.Reads s' w := by
  induction n generalizing s with
  | zero =>
    rw [iterate, List.mem_singleton] at hs
    subst hs
    exact ⟨0, le_refl 0, [], by simp, .refl _⟩
  | succ n ih =>
    rw [iterate, List.mem_append, List.mem_singleton] at hs
    cases hs with
    | inl hs =>
      -- one more round, then at most `n`
      obtain ⟨s₁, hs₁, hs'⟩ := List.mem_flatMap.mp hs
      obtain ⟨w, hw, hr⟩ := h.sound (List.mem_of_mem_filter hs₁)
      obtain ⟨m, hm, v, hv, hr'⟩ := ih hs'
      refine ⟨m + 1, Nat.succ_le_succ hm, w ++ v, ?_, hr.trans hr'⟩
      rw [pow_succ']
      exact Language.append_mem_mul hw hv
    | inr hs =>
      -- no round at all
      rw [hs]
      exact ⟨0, Nat.zero_le _, [], by simp, .refl _⟩

/-- Rounds that consume nothing can be left out, so a word of `m` rounds is reached
    when there is fuel for `m` rounds or for every element of the word. -/
theorem iterate_complete (h : Computes step L) {m n : Nat} {s : State α} {w rest : List α}
    (hw : w ∈ L ^ m) (hafter : s.after = w ++ rest) (hn : m ≤ n ∨ w.length ≤ n) :
    ∃ s' ∈ iterate step n s, s.Reads s' w := by
  induction m generalizing n s w with
  | zero =>
    rw [pow_zero, Language.mem_one] at hw
    subst hw
    refine ⟨s, ?_, .refl s⟩
    cases n <;> simp [iterate]
  | succ m ih =>
    rw [pow_succ'] at hw
    obtain ⟨u, hu, v, hv, rfl⟩ := Language.mem_mul.mp hw
    by_cases hnil : u = []
    · -- the round consumes nothing: skip it
      subst hnil
      simp only [List.nil_append] at hafter hn ⊢
      exact ih hv hafter (hn.imp_left fun hle => Nat.le_of_succ_le hle)
    · -- the round consumes something: `iterate` keeps it, and there is fuel left
      have hpos : 0 < u.length := List.length_pos_iff.mpr hnil
      obtain ⟨k, rfl⟩ : ∃ k, n = k + 1 := by
        refine ⟨n - 1, ?_⟩
        simp only [List.length_append] at hn
        omega
      obtain ⟨s₁, hs₁, hr⟩ := h.complete (v ++ rest) hu (by simpa using hafter)
      have hrest : s₁.after = v ++ rest := hr.after_eq (by simpa using hafter)
      have hlt : s₁.after.length < s.after.length := by
        rw [hafter, hrest]
        simp only [List.length_append]
        omega
      obtain ⟨s', hs', hr'⟩ := ih (n := k) hv hrest (by
        simp only [List.length_append] at hn
        omega)
      refine ⟨s', ?_, hr.trans hr'⟩
      rw [iterate]
      refine List.mem_append_left _ (List.mem_flatMap.mpr ⟨s₁, ?_, hs'⟩)
      exact List.mem_filter.mpr ⟨hs₁, by simpa using hlt⟩

end Computes

/-- A plain pattern consumes exactly the words of its language. -/
theorem run_computes (r : Regex α) (h : r.Plain) : Computes r.run r.lang := by
  induction r with
  | eps =>
    refine ⟨fun hs => ?_, fun _ hw _ => ?_⟩
    · rw [run, List.mem_singleton] at hs
      subst hs
      exact ⟨[], by simp [lang], .refl _⟩
    · rw [lang, Language.mem_one] at hw
      subst hw
      exact ⟨_, by rw [run]; exact List.mem_singleton_self _, .refl _⟩
  | set p =>
    refine ⟨fun {s s'} hs => ?_, fun {s w} rest hw hafter => ?_⟩
    · rw [run] at hs
      split at hs
      · simp at hs
      · rename_i a as hafter
        split at hs
        · rename_i hp
          rw [List.mem_singleton] at hs
          subst hs
          exact ⟨[a], ⟨a, hp, rfl⟩, by simpa [State.Reads] using hafter⟩
        · simp at hs
    · obtain ⟨a, hp, rfl⟩ := hw
      refine ⟨⟨a :: s.before, rest, s.groups⟩, ?_, by simpa [State.Reads] using hafter⟩
      simp only [List.singleton_append] at hafter
      simp [run, hafter, hp]
  | bos => exact h.elim
  | eos _ => exact h.elim
  | look _ _ => exact h.elim
  | seq r t ihr iht => exact (ihr h.1).seq (iht h.2)
  | alt r t ihr iht => exact (ihr h.1).alt (iht h.2)
  | rep r lo extra ih =>
    have hstep := ih h
    refine ⟨fun {s s'} hs => ?_, fun {s w} rest hw hafter => ?_⟩
    · -- `lo` rounds, then the optional ones
      rw [run] at hs
      obtain ⟨s₁, hs₁, hs'⟩ := List.mem_flatMap.mp hs
      obtain ⟨w, hw, hr⟩ := (hstep.power lo).sound hs₁
      obtain ⟨m, hm, v, hv, hr'⟩ := hstep.iterate_sound hs'
      refine ⟨w ++ v, ⟨m, fun k hk => by simpa [hk] using hm, ?_⟩, hr.trans hr'⟩
      rw [pow_add]
      exact Language.append_mem_mul hw hv
    · -- the word of `lo + m` rounds is split behind the first `lo`
      obtain ⟨m, hm, hw⟩ := hw
      rw [pow_add] at hw
      obtain ⟨u, hu, v, hv, rfl⟩ := Language.mem_mul.mp hw
      obtain ⟨s₁, hs₁, hr⟩ :=
        (hstep.power lo).complete (v ++ rest) hu (by simpa using hafter)
      have hrest : s₁.after = v ++ rest := hr.after_eq (by simpa using hafter)
      have hfuel : m ≤ extra.getD s₁.after.length ∨ v.length ≤ extra.getD s₁.after.length := by
        cases extra with
        | some k => exact Or.inl (hm k rfl)
        | none => right; simp [hrest]
      obtain ⟨s', hs', hr'⟩ := hstep.iterate_complete hv hrest hfuel
      refine ⟨s', ?_, hr.trans hr'⟩
      rw [run]
      exact List.mem_flatMap.mpr ⟨s₁, hs₁, hs'⟩
  | group n r ih =>
    have hstep := ih h
    refine ⟨fun {s s'} hs => ?_, fun {s w} rest hw hafter => ?_⟩
    · rw [run] at hs
      obtain ⟨s₁, hs₁, rfl⟩ := List.mem_map.mp hs
      obtain ⟨w, hw, hr⟩ := hstep.sound hs₁
      exact ⟨w, hw, hr.congr_right rfl rfl⟩
    · obtain ⟨s', hs', hr⟩ := hstep.complete rest hw hafter
      refine ⟨{ s' with groups := (n, s'.since s) :: s'.groups }, ?_, hr.congr_right rfl rfl⟩
      rw [run]
      exact List.mem_map.mpr ⟨s', hs', rfl⟩

/-! ## Searching -/

/-- `search` finds a match exactly when the pattern matches at some position. -/
theorem searchFrom_isSome_iff (r : Regex α) (before after : List α) :
    (r.searchFrom before after).isSome = true ↔
      ∃ u v, after = u ++ v ∧ r.run ⟨u.reverse ++ before, v, []⟩ ≠ [] := by
  induction after generalizing before with
  | nil =>
    rw [searchFrom, List.isSome_head?]
    constructor
    · intro h
      exact ⟨[], [], rfl, by simpa using h⟩
    · intro h
      obtain ⟨u, v, huv, h⟩ := h
      obtain ⟨rfl, rfl⟩ := List.append_eq_nil_iff.mp huv.symm
      simpa using h
  | cons a as ih =>
    rw [searchFrom, Option.isSome_or, Bool.or_eq_true, ih, List.isSome_head?]
    constructor
    · intro h
      cases h with
      | inl h => exact ⟨[], a :: as, rfl, by simpa using h⟩
      | inr h =>
        obtain ⟨u, v, rfl, h⟩ := h
        exact ⟨a :: u, v, rfl, by simpa using h⟩
    · intro h
      obtain ⟨u, v, huv, h⟩ := h
      cases u with
      | nil =>
        -- the match is at this position
        rw [List.nil_append] at huv
        subst huv
        exact Or.inl (by simpa using h)
      | cons b u =>
        -- the match is further on
        obtain ⟨rfl, rfl⟩ := List.cons_eq_cons.mp huv
        exact Or.inr ⟨u, v, rfl, by simpa using h⟩

/-- `re.search` of `^r$` accepts the words of `r`, and those words followed by one
    more element that `$` lets stand at the end. -/
theorem search_anchored_iff (r : Regex α) (hr : r.Plain) (final : α → Bool) (w : List α) :
    ((seq bos (seq r (eos final))).search w).isSome = true ↔
      w ∈ r.lang ∨ ∃ v a, final a = true ∧ w = v ++ [a] ∧ v ∈ r.lang := by
  rw [search, searchFrom_isSome_iff]
  have hc := run_computes r hr
  constructor
  · intro h
    obtain ⟨u, v, rfl, h⟩ := h
    obtain ⟨s, hs⟩ := List.exists_mem_of_ne_nil _ h
    simp only [run, List.append_nil] at hs
    obtain ⟨s₁, hs₁, hs⟩ := List.mem_flatMap.mp hs
    -- `^` only matches at the start
    cases u with
    | cons b u => simp at hs₁
    | nil =>
      simp only [List.reverse_nil, List.isEmpty_nil, if_true, List.mem_singleton] at hs₁
      subst hs₁
      obtain ⟨s₂, hs₂, hs⟩ := List.mem_flatMap.mp hs
      obtain ⟨x, hx, hread⟩ := hc.sound hs₂
      have hv : v = x ++ s₂.after := hread.1
      -- `$` matches in front of nothing, or of one final element
      split at hs
      · rename_i hnil
        left
        simpa [hv, hnil] using hx
      · rename_i a hone
        split at hs
        · rename_i hfin
          right
          exact ⟨x, a, hfin, by simp [hv, hone], hx⟩
        · simp at hs
      · simp at hs
  · intro h
    refine ⟨[], w, rfl, ?_⟩
    cases h with
    | inl h =>
      obtain ⟨s', hs', hread⟩ := hc.complete (s := .start w) [] h (by simp [State.start])
      have hnil : s'.after = [] := hread.after_eq (by simp [State.start])
      apply List.ne_nil_of_mem (a := s')
      simp only [run, List.reverse_nil, List.append_nil, List.isEmpty_nil, if_true,
        List.flatMap_cons, List.flatMap_nil, List.mem_flatMap]
      exact ⟨s', hs', by simp [hnil]⟩
    | inr h =>
      obtain ⟨v, a, hfin, rfl, hv⟩ := h
      obtain ⟨s', hs', hread⟩ :=
        hc.complete (s := .start (v ++ [a])) [a] hv (by simp [State.start])
      have hone : s'.after = [a] := hread.after_eq (by simp [State.start])
      apply List.ne_nil_of_mem (a := s')
      simp only [run, List.reverse_nil, List.append_nil, List.isEmpty_nil, if_true,
        List.flatMap_cons, List.flatMap_nil, List.mem_flatMap]
      exact ⟨s', hs', by simp [hone, hfin]⟩

/-- `re.search` of a plain pattern accepts the inputs that contain a word of the pattern. -/
theorem search_plain_iff (r : Regex α) (hr : r.Plain) (w : List α) :
    (r.search w).isSome = true ↔ ∃ v ∈ r.lang, v <:+: w := by
  rw [search, searchFrom_isSome_iff]
  have hc := run_computes r hr
  constructor
  · intro h
    obtain ⟨u, v, rfl, h⟩ := h
    obtain ⟨s, hs⟩ := List.exists_mem_of_ne_nil _ h
    obtain ⟨x, hx, hread⟩ := hc.sound hs
    have hv : v = x ++ s.after := hread.1
    exact ⟨x, hx, u, s.after, by rw [hv, List.append_assoc]⟩
  · intro h
    obtain ⟨x, hx, u, rest, rfl⟩ := h
    obtain ⟨s, hs, -⟩ := hc.complete (s := ⟨u.reverse ++ [], x ++ rest, []⟩) rest hx rfl
    exact ⟨u, x ++ rest, List.append_assoc u x rest, List.ne_nil_of_mem hs⟩

/-- `re.search` of a single class accepts the inputs with an element of the class. -/
theorem search_set_iff (p : α → Bool) (w : List α) :
    ((set p).search w).isSome = true ↔ ∃ a ∈ w, p a = true := by
  rw [search, searchFrom_isSome_iff]
  constructor
  · intro h
    obtain ⟨u, v, rfl, h⟩ := h
    cases v with
    | nil => simp [run] at h
    | cons a v =>
      refine ⟨a, by simp, ?_⟩
      by_contra hp
      simp [run, hp] at h
  · intro h
    obtain ⟨a, ha, hp⟩ := h
    obtain ⟨u, v, rfl⟩ := List.append_of_mem ha
    exact ⟨u, a :: v, rfl, by simp [run, hp]⟩

/-! ## Languages of repeated classes -/

/-- `n` elements of a class in a row. -/
theorem mem_lang_set_pow (p : α → Bool) (n : Nat) (w : List α) :
    w ∈ (set p).lang ^ n ↔ w.length = n ∧ ∀ a ∈ w, p a = true := by
  induction n generalizing w with
  | zero =>
    rw [pow_zero, Language.mem_one]
    constructor
    · intro h
      rw [h]
      simp
    · exact fun h => List.length_eq_zero_iff.mp h.1
  | succ n ih =>
    rw [pow_succ', Language.mem_mul]
    constructor
    · intro h
      obtain ⟨u, ⟨a, hp, rfl⟩, v, hv, rfl⟩ := h
      obtain ⟨hlen, hall⟩ := (ih v).mp hv
      exact ⟨by simp [hlen], by simpa [hp] using hall⟩
    · intro h
      obtain ⟨hlen, hall⟩ := h
      cases w with
      | nil => simp at hlen
      | cons a w =>
        refine ⟨[a], ⟨a, hall a (by simp), rfl⟩, w, (ih w).mpr ⟨by simpa using hlen, ?_⟩, rfl⟩
        exact fun b hb => hall b (List.mem_cons_of_mem _ hb)

/-- A repeated class consumes the words of elements of the class, within the bounds. -/
theorem mem_lang_rep_set (p : α → Bool) (lo : Nat) (extra : Option Nat) (w : List α) :
    w ∈ (rep (set p) lo extra).lang ↔
      lo ≤ w.length ∧ (∀ k, extra = some k → w.length ≤ lo + k) ∧ ∀ a ∈ w, p a = true := by
  constructor
  · intro h
    obtain ⟨n, hn, hw⟩ := h
    obtain ⟨hlen, hall⟩ := (mem_lang_set_pow p _ w).mp hw
    refine ⟨by omega, fun k hk => ?_, hall⟩
    have := hn k hk
    omega
  · intro h
    obtain ⟨hlo, hextra, hall⟩ := h
    refine ⟨w.length - lo, fun k hk => ?_, (mem_lang_set_pow p _ w).mpr ⟨by omega, hall⟩⟩
    have := hextra k hk
    omega

/-- Any number of elements of the class. -/
theorem mem_lang_star_set (p : α → Bool) (w : List α) :
    w ∈ (star (set p)).lang ↔ ∀ a ∈ w, p a = true := by
  simp [star, mem_lang_rep_set]

/-- At least one element of the class. -/
theorem mem_lang_plus_set (p : α → Bool) (w : List α) :
    w ∈ (plus (set p)).lang ↔ w ≠ [] ∧ ∀ a ∈ w, p a = true := by
  simp [plus, mem_lang_rep_set, Nat.one_le_iff_ne_zero]

/-- An optional pattern matches nothing, or what the pattern matches. -/
theorem mem_lang_opt (r : Regex α) (w : List α) :
    w ∈ (opt r).lang ↔ w = [] ∨ w ∈ r.lang := by
  rw [opt, lang]
  constructor
  · intro h
    obtain ⟨n, hn, hw⟩ := h
    rw [Nat.zero_add] at hw
    have hle := hn 1 rfl
    have hcases : n = 0 ∨ n = 1 := by omega
    cases hcases with
    | inl h =>
      rw [h, pow_zero, Language.mem_one] at hw
      exact Or.inl hw
    | inr h =>
      rw [h, pow_one] at hw
      exact Or.inr hw
  · intro h
    cases h with
    | inl h => exact ⟨0, by simp, by simp [h]⟩
    | inr h => exact ⟨1, by simp, by simpa using h⟩

/-- Exactly `n` elements of the class. -/
theorem mem_lang_exactly_set (n : Nat) (p : α → Bool) (w : List α) :
    w ∈ (exactly n (set p)).lang ↔ w.length = n ∧ ∀ a ∈ w, p a = true := by
  simp only [exactly, mem_lang_rep_set, Option.some.injEq, forall_eq', Nat.add_zero, ← and_assoc]
  apply and_congr_left
  intro _
  omega

/-! ## Languages of joined blocks -/

/-- Non-empty blocks of the class `p`, with one element of the class `sep` between
    neighbours. -/
inductive Joined (p sep : α → Bool) : List α → Prop
  | block {b : List α} (hne : b ≠ []) (hb : ∀ a ∈ b, p a = true) : Joined p sep b
  | join {b w : List α} {s : α} (hne : b ≠ []) (hb : ∀ a ∈ b, p a = true) (hs : sep s = true)
      (hw : Joined p sep w) : Joined p sep (b ++ s :: w)

/-- Joined blocks consist of elements of the two classes. -/
theorem Joined.mem {p sep : α → Bool} {w : List α} (h : Joined p sep w) :
    ∀ a ∈ w, p a = true ∨ sep a = true := by
  induction h with
  | block _ hb => exact fun a ha => Or.inl (hb a ha)
  | @join b w s _ hb hs _ ih =>
    intro a ha
    rw [List.mem_append, List.mem_cons] at ha
    rcases ha with ha | rfl | ha
    · exact Or.inl (hb a ha)
    · exact Or.inr hs
    · exact ih a ha

/-- A block, then rounds of a separator and a block, are joined blocks. -/
theorem joined_of_mem_pow {p sep : α → Bool} {x y : List α} {m : Nat} (hx : x ≠ [])
    (hxp : ∀ a ∈ x, p a = true) (hy : y ∈ ((set sep).seq (plus (set p))).lang ^ m) :
    Joined p sep (x ++ y) := by
  induction m generalizing x y with
  | zero =>
    rw [pow_zero, Language.mem_one] at hy
    rw [hy, List.append_nil]
    exact .block hx hxp
  | succ m ih =>
    -- the first round gives the separator and the next block
    rw [pow_succ'] at hy
    obtain ⟨u, hu, v, hv, rfl⟩ := Language.mem_mul.mp hy
    obtain ⟨z, ⟨s, hs, rfl⟩, b, hb, rfl⟩ := Language.mem_mul.mp hu
    rw [mem_lang_plus_set] at hb
    exact .join hx hxp hs (ih hb.1 hb.2 hv)

/-- The pattern for joined blocks, `p+(sep p+)*` with a group inside the repetition. -/
theorem mem_lang_joined (p sep : α → Bool) (n : Nat) (w : List α) :
    w ∈ (seq (plus (set p)) (star (group n (seq (set sep) (plus (set p)))))).lang ↔
      Joined p sep w := by
  rw [lang, Language.mem_mul]
  constructor
  · intro h
    obtain ⟨x, hx, y, ⟨m, -, hy⟩, rfl⟩ := h
    rw [mem_lang_plus_set] at hx
    exact joined_of_mem_pow hx.1 hx.2 hy
  · intro h
    induction h with
    | @block b hne hb =>
      exact ⟨b, (mem_lang_plus_set p b).mpr ⟨hne, hb⟩, [], ⟨0, by simp, by simp⟩, by simp⟩
    | @join b w s hne hb hs hw ih =>
      -- the separator and the first block of the rest are one more round
      obtain ⟨x, hx, y, ⟨m, -, hy⟩, rfl⟩ := ih
      refine ⟨b, (mem_lang_plus_set p b).mpr ⟨hne, hb⟩, s :: x ++ y, ⟨m + 1, by simp, ?_⟩, by simp⟩
      rw [← Nat.add_assoc, pow_succ']
      have hround : s :: x ∈ ((set sep).seq (plus (set p))).lang :=
        Language.mem_mul.mpr ⟨[s], ⟨s, hs, rfl⟩, x, hx, rfl⟩
      exact Language.append_mem_mul hround hy

/-! ## The first match of a greedy class -/

/-- A class reads one of its elements. -/
theorem run_set_cons {p : α → Bool} {a : α} (hp : p a = true) (b as : List α)
    (g : List (Nat × List α)) : (set p).run ⟨b, a :: as, g⟩ = [⟨a :: b, as, g⟩] := by
  simp [run, hp]

/-- A greedy class first takes the longest run of its elements; every shorter
    alternative stops in front of another element of the class. -/
theorem iterate_set (p : α → Bool) (n : Nat) (s : State α) (hn : s.after.length ≤ n) :
    ∃ shorter, iterate (set p).run n s = s.advanceWhile p :: shorter ∧
      ∀ s' ∈ shorter, ∃ a as, s'.after = a :: as ∧ p a = true := by
  obtain ⟨b, as, g⟩ := s
  induction as generalizing b n with
  | nil => cases n <;> exact ⟨[], by simp [iterate, run, State.advanceWhile], by simp⟩
  | cons a as ih =>
    cases n with
    | zero => simp at hn
    | succ n =>
      by_cases hp : p a = true
      · -- all that is reached behind `a` comes first, stopping here comes last
        obtain ⟨shorter, heq, hall⟩ := ih n (a :: b) (by simpa using hn)
        refine ⟨shorter ++ [⟨b, a :: as, g⟩], ?_, ?_⟩
        · rw [iterate, run_set_cons hp]
          simp [heq, hp, State.advanceWhile]
        · intro s' hs'
          cases List.mem_append.mp hs' with
          | inl hs' => exact hall s' hs'
          | inr hs' =>
            rw [List.mem_singleton] at hs'
            exact ⟨a, as, by rw [hs'], hp⟩
      · exact ⟨[], by simp [iterate, run, hp, State.advanceWhile], by simp⟩

/-- The same for the pattern `p*`. -/
theorem run_star_set (p : α → Bool) (s : State α) :
    ∃ shorter, (star (set p)).run s = s.advanceWhile p :: shorter ∧
      ∀ s' ∈ shorter, ∃ a as, s'.after = a :: as ∧ p a = true := by
  obtain ⟨shorter, heq, hall⟩ := iterate_set p s.after.length s (le_refl _)
  exact ⟨shorter, by simpa [star, run, power] using heq, hall⟩

/-- The same for a greedy class inside a group. -/
theorem run_group_star_set (n : Nat) (p : α → Bool) (s : State α) :
    ∃ shorter, (group n (star (set p))).run s = s.captureWhile n p :: shorter ∧
      ∀ s' ∈ shorter, ∃ a as, s'.after = a :: as ∧ p a = true := by
  obtain ⟨shorter, heq, hall⟩ := run_star_set p s
  refine ⟨shorter.map fun s' => { s' with groups := (n, s'.since s) :: s'.groups }, ?_, ?_⟩
  · rw [run, heq, List.map_cons, State.since_advanceWhile]
    rfl
  · intro s' hs'
    obtain ⟨t, ht, rfl⟩ := List.mem_map.mp hs'
    exact hall t ht

end Regex
