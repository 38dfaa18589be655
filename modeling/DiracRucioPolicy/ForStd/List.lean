import Mathlib.Data.List.Infix

/-!
# List lemmas for the standard library

Facts about `List.splitOn`, about `takeWhile` and `dropWhile` up to a separator, and about
tables, that are useful beyond path handling.
-/

namespace List

variable {α : Type*} [BEq α] [LawfulBEq α] {a : α}

/-- A piece of a split list does not contain the separator. -/
theorem notMem_of_mem_splitOn {xs l : List α} (hl : l ∈ xs.splitOn a) : a ∉ l := by
  induction xs generalizing l with
  | nil =>
    rw [splitOn_nil, mem_singleton] at hl
    rw [hl]
    exact not_mem_nil
  | cons x xs ih =>
    rw [splitOn_cons_eq_if_modifyHead] at hl
    split at hl
    · -- `x` is a separator: an empty piece is added
      cases mem_cons.mp hl with
      | inl h => rw [h]; exact not_mem_nil
      | inr h => exact ih h
    · -- `x` joins the first piece
      rename_i hx
      rw [beq_iff_eq] at hx
      cases hsplit : xs.splitOn a with
      | nil => exact absurd hsplit (splitOn_ne_nil a xs)
      | cons p ps =>
        rw [hsplit, modifyHead_cons] at hl
        have htail : ∀ q ∈ p :: ps, a ∉ q := fun q hq => ih (by rw [hsplit]; exact hq)
        cases mem_cons.mp hl with
        | inl h =>
          rw [h, mem_cons, not_or]
          exact ⟨fun h => hx h.symm, htail p mem_cons_self⟩
        | inr h => exact htail l (mem_cons_of_mem _ h)

/-- A piece of a split list is a contiguous part of it. -/
theorem infix_of_mem_splitOn {xs l : List α} (hl : l ∈ xs.splitOn a) : l <:+: xs := by
  have hjoin : ∀ ls : List (List α), ∀ m ∈ ls, m <:+: [a].intercalate ls := by
    intro ls
    induction ls with
    | nil => intro m hm; exact absurd hm not_mem_nil
    | cons x ls ih =>
      intro m hm
      cases ls with
      | nil =>
        rw [mem_singleton] at hm
        rw [hm, intercalate_singleton]
      | cons y ls =>
        rw [intercalate_cons_cons]
        cases mem_cons.mp hm with
        | inl h =>
          rw [h, append_assoc]
          exact infix_append_left
        | inr h => exact infix_append_of_infix_right (ih m h)
  have := hjoin (xs.splitOn a) l hl
  rwa [intercalate_splitOn] at this

/-- Pieces that are written behind separators are split where they were joined. -/
theorem splitOn_append_flatMap_cons {xs : List α} {ls : List (List α)} (hxs : a ∉ xs)
    (hls : ∀ l ∈ ls, a ∉ l) : (xs ++ ls.flatMap (a :: ·)).splitOn a = xs :: ls := by
  induction ls generalizing xs with
  | nil => rw [flatMap_nil, append_nil, splitOn_eq_singleton hxs]
  | cons l ls ih =>
    have hl := ih (hls l mem_cons_self) fun l' hl' => hls l' (mem_cons_of_mem _ hl')
    rw [flatMap_cons, cons_append, splitOn_append_cons_self_of_not_mem hxs, hl]

/-! ## Up to the first separator -/

/-- A list without the separator passes the test for everything else. -/
theorem bne_of_notMem {xs : List α} (h : a ∉ xs) : ∀ x ∈ xs, (x != a) = true := by
  intro x hx
  rw [bne_iff_ne]
  intro heq
  rw [heq] at hx
  exact h hx

/-- Without a separator the whole list is taken. -/
theorem takeWhile_bne_of_notMem {xs : List α} (h : a ∉ xs) : xs.takeWhile (· != a) = xs := by
  calc xs.takeWhile (· != a) = (xs ++ []).takeWhile (· != a) := by rw [append_nil]
    _ = xs := by rw [takeWhile_append_of_pos (bne_of_notMem h), takeWhile_nil, append_nil]

/-- Without a separator nothing is left. -/
theorem dropWhile_bne_of_notMem {xs : List α} (h : a ∉ xs) : xs.dropWhile (· != a) = [] := by
  calc xs.dropWhile (· != a) = (xs ++ []).dropWhile (· != a) := by rw [append_nil]
    _ = [] := by rw [dropWhile_append_of_pos (bne_of_notMem h), dropWhile_nil]

/-- The first separator ends the run in front of it. -/
theorem takeWhile_bne_append {xs : List α} (h : a ∉ xs) (ys : List α) :
    (xs ++ a :: ys).takeWhile (· != a) = xs := by
  rw [takeWhile_append_of_pos (bne_of_notMem h), takeWhile_cons_of_neg (by simp), append_nil]

/-- What is left starts with the first separator. -/
theorem dropWhile_bne_append {xs : List α} (h : a ∉ xs) (ys : List α) :
    (xs ++ a :: ys).dropWhile (· != a) = a :: ys := by
  rw [dropWhile_append_of_pos (bne_of_notMem h), dropWhile_cons_of_neg (by simp)]

/-! ## Tables -/

/-- What is looked up in a table is in it. -/
theorem mem_of_lookup {β : Type*} {table : List (α × β)} {b : β}
    (h : table.lookup a = some b) : (a, b) ∈ table := by
  obtain ⟨l₁, l₂, htable, -⟩ := lookup_eq_some_iff.mp h
  rw [htable]
  exact mem_append_right l₁ mem_cons_self

omit [LawfulBEq α] in
/-- The values of a table can be mapped before or after the lookup. -/
theorem lookup_map_snd {β γ : Type*} (f : β → γ) (table : List (α × β)) (a : α) :
    (table.map fun e => (e.1, f e.2)).lookup a = (table.lookup a).map f := by
  induction table with
  | nil => rfl
  | cons e table ih =>
    rw [map_cons, lookup_cons, lookup_cons, ih]
    cases a == e.1 with
    | true => rfl
    | false => rfl

end List
