import Mathlib.Data.Finset.Lattice.Fold
import Mathlib.Data.Finset.Range
import Mathlib.Data.List.MinMax

/-!
# Extremes kept online

A greatest and a least value kept while values arrive, by the chain `if greatest < x … else if
x < least …`: a value that raises the greatest is not compared with the least.

* `Extremes.add` — one value;
* `Extremes.Of` — the values kept are the extremes of those that have arrived;
* `foldl_add_greatest` — the greatest is the greatest of all;
* `foldl_add_least` — the least is the least of those that were no record when they arrived
  (`nonRecords`);
* `foldl_add_least_eq_min?_iff` — so it is the least of all when the first value is not smaller
  than all that follow.

For values that come as a sequence, `leastUpTo f k` is the least of the first `k + 1`, and
`Peak f s n m` says that `m` is what a maximum started at `s` has become after `n` of them.
-/

variable {α : Type*} [LinearOrder α]

/-- The greatest and the least value so far. -/
structure Extremes (α : Type*) where
  greatest : α
  least : α
  deriving DecidableEq, Repr

namespace Extremes

/-- One more value. -/
def add (s : Extremes α) (x : α) : Extremes α :=
  if s.greatest < x then { s with greatest := x }
  else if x < s.least then { s with least := x }
  else s

/-- These are the greatest and the least of the values. -/
structure Of (s : Extremes α) (xs : List α) : Prop where
  greatest : xs.max? = some s.greatest
  least : xs.min? = some s.least

/-- The values that do not exceed the bound `m` and all values before them. -/
def nonRecords : α → List α → List α
  | _, [] => []
  | m, x :: xs => if m < x then nonRecords x xs else x :: nonRecords m xs

theorem add_greatest (s : Extremes α) (x : α) : (s.add x).greatest = max s.greatest x := by
  unfold add
  by_cases hx : s.greatest < x
  · rw [if_pos hx, max_eq_right hx.le]
  · rw [if_neg hx, max_eq_left (not_lt.mp hx)]
    split <;> rfl

/-- The greatest value is the greatest of all. -/
theorem foldl_add_greatest (s : Extremes α) (xs : List α) :
    (xs.foldl add s).greatest = xs.foldl max s.greatest := by
  induction xs generalizing s with
  | nil => rfl
  | cons x xs ih => rw [List.foldl_cons, List.foldl_cons, ih, add_greatest]

/-- **The least value is the least of the non-records.** -/
theorem foldl_add_least (s : Extremes α) (xs : List α) :
    (xs.foldl add s).least = (nonRecords s.greatest xs).foldl min s.least := by
  induction xs generalizing s with
  | nil => rfl
  | cons x xs ih =>
    rw [List.foldl_cons, ih, nonRecords]
    unfold add
    by_cases hx : s.greatest < x
    · -- A record is not compared with the least.
      rw [if_pos hx, if_pos hx]
    · rw [if_neg hx, if_neg hx, List.foldl_cons]
      by_cases hlt : x < s.least
      · rw [if_pos hlt, min_eq_right hlt.le]
      · rw [if_neg hlt, min_eq_left (not_lt.mp hlt)]

theorem nonRecords_subset (m : α) (xs : List α) : nonRecords m xs ⊆ xs := by
  induction xs generalizing m with
  | nil => exact List.Subset.refl _
  | cons x xs ih =>
    rw [nonRecords]
    split
    · exact List.subset_cons_of_subset x (ih x)
    · exact List.cons_subset_cons x (ih m)

/-- A value at most the bound is no record. -/
theorem mem_nonRecords {m y : α} {xs : List α} (hy : y ∈ xs) (hle : y ≤ m) :
    y ∈ nonRecords m xs := by
  induction xs generalizing m with
  | nil => exact absurd hy List.not_mem_nil
  | cons x xs ih =>
    rw [nonRecords]
    by_cases hx : m < x
    · -- The bound has grown, and `y` is not the value that made it grow.
      rw [if_pos hx]
      rcases List.mem_cons.mp hy with rfl | hy
      · exact absurd hle (not_le.mpr hx)
      · exact ih hy (hle.trans hx.le)
    · rw [if_neg hx]
      rcases List.mem_cons.mp hy with rfl | hy
      · exact List.mem_cons_self
      · exact List.mem_cons_of_mem x (ih hy hle)

/-- The greatest of values not below the start is the greatest value kept. -/
theorem foldl_add_greatest_eq_max? (s : Extremes α) {x : α} {xs : List α}
    (hlow : ∀ y ∈ x :: xs, s.greatest ≤ y) :
    (x :: xs).max? = some ((x :: xs).foldl add s).greatest := by
  rw [foldl_add_greatest, List.max?_cons', List.foldl_cons,
    max_eq_right (hlow x List.mem_cons_self)]

/-- The least value kept is the start or a non-record, and not above any of these. -/
theorem least_mem_and_le (s : Extremes α) (xs : List α) :
    ((xs.foldl add s).least = s.least ∨ (xs.foldl add s).least ∈ nonRecords s.greatest xs) ∧
      (xs.foldl add s).least ≤ s.least ∧
      ∀ y ∈ nonRecords s.greatest xs, (xs.foldl add s).least ≤ y := by
  rw [foldl_add_least]
  -- The fold is the least of the list with the start in front.
  have hmin : (s.least :: nonRecords s.greatest xs).min?
      = some ((nonRecords s.greatest xs).foldl min s.least) := List.min?_cons'
  obtain ⟨hmem, hle⟩ := List.min?_eq_some_iff.mp hmin
  exact ⟨List.mem_cons.mp hmem, hle _ List.mem_cons_self,
    fun y hy => hle y (List.mem_cons_of_mem _ hy)⟩

/-- A later value that is at most the first is no record. -/
theorem mem_nonRecords_of_le_first {m x y : α} {xs : List α} (hy : y ∈ xs) (hle : y ≤ x) :
    y ∈ nonRecords m (x :: xs) := by
  rw [nonRecords]
  by_cases hx : m < x
  · rw [if_pos hx]
    exact mem_nonRecords hy hle
  · rw [if_neg hx]
    apply List.mem_cons_of_mem
    exact mem_nonRecords hy (hle.trans (not_lt.mp hx))

/-- **When the least value kept is the least of all.**  The first value is a record unless it
    equals the start; so what counts is whether a later one is at most the first. -/
theorem foldl_add_least_eq_min?_iff (s : Extremes α) {x : α} {xs : List α}
    (hlow : ∀ y ∈ x :: xs, s.greatest ≤ y) (hhigh : ∀ y ∈ x :: xs, y ≤ s.least) :
    (x :: xs).min? = some ((x :: xs).foldl add s).least ↔
      x = s.greatest ∨ x = s.least ∨ ∃ y ∈ xs, y ≤ x := by
  obtain ⟨hmem, hstart, hle⟩ := least_mem_and_le s (x :: xs)
  generalize ((x :: xs).foldl add s).least = v at hmem hstart hle ⊢
  have hx : x ≤ s.least := hhigh x List.mem_cons_self
  -- The later values are all taken care of, so only the first one matters.
  have hfirst : (x :: xs).min? = some v ↔ v ≤ x := by
    rw [List.min?_eq_some_iff]
    constructor
    · intro h
      exact h.2 x List.mem_cons_self
    · intro hvx
      refine ⟨?_, fun y hy => ?_⟩
      · rcases hmem with rfl | hmem
        · rw [le_antisymm hvx hx]
          exact List.mem_cons_self
        · exact nonRecords_subset _ _ hmem
      · rcases List.mem_cons.mp hy with rfl | hy
        · exact hvx
        · rcases le_total y x with hyx | hxy
          · exact hle y (mem_nonRecords_of_le_first hy hyx)
          · exact hvx.trans hxy
  rw [hfirst]
  constructor
  · intro hvx
    rcases hmem with rfl | hmem
    · exact .inr (.inl (le_antisymm hx hvx))
    · by_cases hrecord : s.greatest < x
      · -- The first value is a record, so `v` comes after it.
        rw [nonRecords, if_pos hrecord] at hmem
        exact .inr (.inr ⟨v, nonRecords_subset x xs hmem, hvx⟩)
      · exact .inl (le_antisymm (not_lt.mp hrecord) (hlow x List.mem_cons_self))
  · rintro (heq | heq | ⟨y, hy, hyx⟩)
    · apply hle
      exact mem_nonRecords List.mem_cons_self heq.le
    · rw [heq]
      exact hstart
    · exact (hle y (mem_nonRecords_of_le_first hy hyx)).trans hyx

/-! ### Sequences -/

variable {f : ℕ → α} {k n : ℕ}

/-- The least of the values `f 0, …, f k`. -/
def leastUpTo (f : ℕ → α) (k : ℕ) : α :=
  (Finset.range (k + 1)).inf' Finset.nonempty_range_add_one f

@[simp] theorem leastUpTo_zero (f : ℕ → α) : leastUpTo f 0 = f 0 := rfl

theorem leastUpTo_succ (f : ℕ → α) (k : ℕ) :
    leastUpTo f (k + 1) = min (leastUpTo f k) (f (k + 1)) := by
  unfold leastUpTo
  simp only [Finset.range_add_one (n := k + 1)]
  rw [Finset.inf'_insert, min_comm]

theorem leastUpTo_le (f : ℕ → α) {j : ℕ} (h : j ≤ k) : leastUpTo f k ≤ f j :=
  Finset.inf'_le _ (Finset.mem_range.mpr (Nat.lt_succ_of_le h))

theorem le_leastUpTo {b : α} (h : ∀ j ≤ k, b ≤ f j) : b ≤ leastUpTo f k :=
  Finset.le_inf' _ _ fun j hj => h j (Nat.le_of_lt_succ (Finset.mem_range.mp hj))

/-- A maximum started at `s` is `m` after the values `f 0, …, f (n - 1)`. -/
structure Peak (f : ℕ → α) (s : α) (n : ℕ) (m : α) : Prop where
  start_le : s ≤ m
  le : ∀ k < n, f k ≤ m
  reached : m = s ∨ ∃ k < n, f k = m

variable {s m : α}

theorem Peak.zero (f : ℕ → α) (s : α) : Peak f s 0 s :=
  ⟨le_rfl, fun k hk => absurd hk (Nat.not_lt_zero k), .inl rfl⟩

/-- One value more. -/
theorem Peak.succ (h : Peak f s n m) : Peak f s (n + 1) (max m (f n)) where
  start_le := le_max_of_le_left h.start_le
  le := by
    intro k hk
    rcases Nat.lt_succ_iff_lt_or_eq.mp hk with hk | rfl
    · exact le_max_of_le_left (h.le k hk)
    · exact le_max_right _ _
  reached := by
    rcases le_total m (f n) with hle | hle
    · rw [max_eq_right hle]
      exact .inr ⟨n, Nat.lt_succ_self n, rfl⟩
    · rw [max_eq_left hle]
      rcases h.reached with hstart | ⟨k, hk, heq⟩
      · exact .inl hstart
      · exact .inr ⟨k, Nat.lt_succ_of_lt hk, heq⟩

/-- Started below all values, it is the greatest of them. -/
theorem Peak.eq_sup' (h : Peak f s (n + 1) m) (hf : ∀ k < n + 1, s ≤ f k) :
    m = (Finset.range (n + 1)).sup' Finset.nonempty_range_add_one f := by
  have hfirst : f 0 ≤ (Finset.range (n + 1)).sup' Finset.nonempty_range_add_one f :=
    Finset.le_sup' f (Finset.mem_range.mpr (Nat.succ_pos n))
  apply le_antisymm
  · rcases h.reached with rfl | ⟨k, hk, rfl⟩
    · exact (hf 0 (Nat.succ_pos n)).trans hfirst
    · exact Finset.le_sup' f (Finset.mem_range.mpr hk)
  · exact Finset.sup'_le _ _ fun k hk => h.le k (Finset.mem_range.mp hk)

end Extremes
