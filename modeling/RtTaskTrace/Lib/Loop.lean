import Mathlib.Logic.Function.Iterate
import Mathlib.Algebra.Order.Floor.Div
import Mathlib.Data.Int.GCD
import Mathlib.Tactic.Linarith

/-!
# While loops, and the loop that walks in equal strides

`whileFuel cond body n s` runs `while (cond s) s = body s` for at most `n` rounds; `none`
means that the loop was still going.  A loop is a total function only where it ends, so the
results are stated on `Ends`, which does not speak of fuel:

* `whileFuel_eq_some_iff` — the loop gives `s'` exactly when `s'` is the first iterate of
  the body at which the condition fails, and that iterate is within the fuel;
* `ends_iff_whileFuel` — for a body whose iterates repeat with period `N`, fuel `N` decides
  termination: a loop that ends at all ends within `N` rounds.

The second half is the arithmetic of the loop `while (x < y) x += p`: `strideTo p x y` is
where it stops.  When the addition wraps at `N`, `exists_wrapped_stride_iff` says whether it
stops at all.
-/

namespace Loop

variable {σ : Type*} {cond : σ → Bool} {body : σ → σ}

/-! ### While loops with fuel -/

/-- `while (cond s) s = body s`, for at most `n` rounds. -/
def whileFuel (cond : σ → Bool) (body : σ → σ) : ℕ → σ → Option σ
  | 0, s => if cond s then none else some s
  | n + 1, s => if cond s then whileFuel cond body n (body s) else some s

/-- The loop ends: some iterate of the body fails the condition. -/
def Ends (cond : σ → Bool) (body : σ → σ) (s : σ) : Prop :=
  ∃ k, cond (body^[k] s) = false

/-- **The loop's result.**  The first iterate of the body that fails the condition. -/
theorem whileFuel_eq_some_iff (n : ℕ) (s s' : σ) :
    whileFuel cond body n s = some s' ↔
      ∃ k ≤ n, s' = body^[k] s ∧ cond s' = false ∧ ∀ j < k, cond (body^[j] s) = true := by
  -- By induction on the fuel: a round taken shifts every iterate by one.
  induction n generalizing s with
  | zero =>
    by_cases hc : cond s = true
    · simp [whileFuel, hc]
      rintro rfl
      exact hc
    · simp only [whileFuel, hc]
      constructor
      · intro h
        cases h
        exact ⟨0, le_refl _, rfl, by simpa using hc, by simp⟩
      · rintro ⟨k, hk, rfl, -, -⟩
        obtain rfl : k = 0 := by omega
        rfl
  | succ n ih =>
    by_cases hc : cond s = true
    · rw [whileFuel, if_pos hc, ih]
      constructor
      · rintro ⟨k, hk, rfl, hs', hj⟩
        refine ⟨k + 1, by omega, rfl, hs', fun j hlt => ?_⟩
        -- The first iterate is the state itself, the others those after the round.
        cases j with
        | zero => exact hc
        | succ j => exact hj j (by omega)
      · rintro ⟨k, hk, rfl, hs', hj⟩
        -- The loop has made a round, so it has not stopped at once.
        cases k with
        | zero => simp [hc] at hs'
        | succ k => exact ⟨k, by omega, rfl, hs', fun j hlt => hj (j + 1) (by omega)⟩
    · rw [whileFuel, if_neg hc]
      constructor
      · intro h
        cases h
        exact ⟨0, Nat.zero_le _, rfl, by simpa using hc, by simp⟩
      · rintro ⟨k, hk, rfl, -, hj⟩
        -- The condition fails at once, so it stops there.
        cases k with
        | zero => rfl
        | succ k => exact absurd (hj 0 (by omega)) hc

/-- The loop stops at the `k`-th iterate when that is the first one to fail the condition. -/
theorem whileFuel_eq_iterate {n k : ℕ} {s : σ} (hk : k ≤ n)
    (hstop : cond (body^[k] s) = false) (hgo : ∀ j < k, cond (body^[j] s) = true) :
    whileFuel cond body n s = some (body^[k] s) :=
  (whileFuel_eq_some_iff n s _).mpr ⟨k, hk, rfl, hstop, hgo⟩

/-- **Fuel `N` decides termination** when the iterates of the body repeat with period `N`. -/
theorem ends_iff_whileFuel {N : ℕ} (hN : 0 < N) (hperiod : ∀ s, body^[N] s = s) (s : σ) :
    Ends cond body s ↔ ∃ s', whileFuel cond body N s = some s' := by
  constructor
  · intro h
    classical
    have hfirst := Nat.find_spec h
    have hbefore : ∀ j < Nat.find h, cond (body^[j] s) = true := fun j hj => by
      simpa using Nat.find_min h hj
    -- an iterate past `N` repeats an earlier one, so the first failure is within `N`
    have hle : Nat.find h ≤ N := by
      by_contra hlt
      have hrep : body^[Nat.find h] s = body^[Nat.find h - N] s := by
        conv_lhs => rw [show Nat.find h = (Nat.find h - N) + N by omega]
        rw [Function.iterate_add_apply, hperiod]
      rw [hrep, hbefore _ (by omega)] at hfirst
      cases hfirst
    exact ⟨_, whileFuel_eq_iterate hle hfirst hbefore⟩
  · rintro ⟨s', h⟩
    obtain ⟨k, -, rfl, hs', -⟩ := (whileFuel_eq_some_iff N s s').mp h
    exact ⟨k, hs'⟩

/-! ### Equal strides -/

/-- Where `while (x < y) x += p` stops. -/
def strideTo (p x y : ℕ) : ℕ := x + (y - x) ⌈/⌉ p * p

/-- The walk passes its goal. -/
theorem le_strideTo {p : ℕ} (hp : 0 < p) (x y : ℕ) : y ≤ strideTo p x y := by
  have h : y - x ≤ (y - x) ⌈/⌉ p * p := by
    simpa [mul_comm] using (le_smul_ceilDiv hp (b := y - x) : _)
  unfold strideTo
  omega

/-- No stride is taken from a point at or past the goal. -/
theorem strideTo_of_le (p : ℕ) {x y : ℕ} (h : y ≤ x) : strideTo p x y = x := by
  simp [strideTo, Nat.sub_eq_zero_of_le h]

/-- The last stride starts short of the goal: the walk never overshoots by a full stride. -/
theorem strideTo_lt {p x y : ℕ} (hp : 0 < p) (h : x < y) : strideTo p x y < y + p := by
  have hdiv : (y - x + p - 1) / p * p ≤ y - x + p - 1 := Nat.div_mul_le_self _ _
  simp only [strideTo, Nat.ceilDiv_eq_add_pred_div]
  omega

/-- Every stride but the last ends short of the goal. -/
theorem lt_of_lt_strides {p x y j : ℕ} (hp : 0 < p) (hj : j < (y - x) ⌈/⌉ p) :
    x + j * p < y := by
  have h : ¬ y - x ≤ p * j := fun hle => absurd ((ceilDiv_le_iff_le_mul hp).mpr hle) (by omega)
  rw [mul_comm] at h
  omega

/-- Some stride is needed from a point short of the goal. -/
theorem one_le_strides {p x y : ℕ} (hp : 0 < p) (h : x < y) : 1 ≤ (y - x) ⌈/⌉ p := by
  rw [Nat.ceilDiv_eq_add_pred_div, Nat.one_le_div_iff hp]
  omega

/-- There are no more strides than there is way to go. -/
theorem strides_le {p : ℕ} (hp : 0 < p) (x y : ℕ) : (y - x) ⌈/⌉ p ≤ y - x := by
  rw [ceilDiv_le_iff_le_mul hp]
  exact Nat.le_mul_of_pos_left _ hp

/-- At least one stride is taken from a point short of the goal. -/
theorem add_le_strideTo {p x y : ℕ} (hp : 0 < p) (h : x < y) : x + p ≤ strideTo p x y := by
  have := Nat.mul_le_mul_right p (one_le_strides hp h)
  unfold strideTo
  omega

/-- By how much the last stride passes the goal. -/
theorem strideTo_add_mod {p x y : ℕ} (hp : 0 < p) (h : x < y) :
    strideTo p x y + (y - x - 1) % p + 1 = y + p := by
  have hceil : (y - x) ⌈/⌉ p = (y - x - 1) / p + 1 := by
    rw [Nat.ceilDiv_eq_add_pred_div, show y - x + p - 1 = y - x - 1 + p by omega,
      Nat.add_div_right _ hp]
  have hdiv := Nat.div_add_mod' (y - x - 1) p
  rw [strideTo, hceil, Nat.add_mul, Nat.one_mul]
  omega

/-- One stride is enough for a goal at most one stride away. -/
theorem strideTo_le_add {p x y : ℕ} (hp : 0 < p) (h : y ≤ x + p) : strideTo p x y ≤ x + p := by
  have hone : (y - x) ⌈/⌉ p ≤ 1 := by
    rw [ceilDiv_le_iff_le_mul hp]
    omega
  have := Nat.mul_le_mul_right p hone
  unfold strideTo
  omega

/-- A goal past the start but within one stride is reached in exactly one. -/
theorem strideTo_eq_add {p x y : ℕ} (hp : 0 < p) (hlt : x < y) (h : y ≤ x + p) :
    strideTo p x y = x + p :=
  le_antisymm (strideTo_le_add hp h) (add_le_strideTo hp hlt)

/-- So a goal within one stride takes one. -/
theorem strides_eq_one {p x y : ℕ} (hp : 0 < p) (hlt : x < y) (h : y ≤ x + p) :
    (y - x) ⌈/⌉ p = 1 := by
  have hstride := strideTo_eq_add hp hlt h
  unfold strideTo at hstride
  exact Nat.eq_of_mul_eq_mul_right hp (by omega)

/-! ### Equal strides that wrap -/

/-- Strides of `p` that wrap at `N` keep the remainder modulo the greatest common divisor, so
    none of them ends closer to `N` than that allows. -/
theorem wrapped_stride_le {p N : ℕ} (hN : 0 < N) (x k : ℕ) :
    (x + k * p) % N + Nat.gcd p N ≤ N + x % Nat.gcd p N := by
  have hrem : (x + k * p) % N % Nat.gcd p N = x % Nat.gcd p N := by
    rw [Nat.mod_mod_of_dvd _ (Nat.gcd_dvd_right p N), Nat.add_mod,
      Nat.mod_eq_zero_of_dvd ((Nat.gcd_dvd_left p N).mul_left k), Nat.add_zero, Nat.mod_mod]
  have hlt := Nat.mod_lt (x + k * p) hN
  generalize (x + k * p) % N = v at hrem hlt ⊢
  obtain ⟨b, hb⟩ := Nat.gcd_dvd_right p N
  have hdiv := Nat.div_add_mod v (Nat.gcd p N)
  rw [hrem] at hdiv
  have hquot : v / Nat.gcd p N + 1 ≤ b := Nat.div_lt_of_lt_mul (hb ▸ hlt)
  have hmul := Nat.mul_le_mul_left (Nat.gcd p N) hquot
  rw [← hb, Nat.mul_add, Nat.mul_one] at hmul
  omega

/-- The bound of `wrapped_stride_le` is reached. -/
theorem exists_wrapped_stride_eq {p N : ℕ} (hN : 0 < N) (x : ℕ) :
    ∃ k, (x + k * p) % N + Nat.gcd p N = N + x % Nat.gcd p N := by
  rcases Nat.lt_or_eq_of_le (Nat.gcd_le_right p hN) with hlt | heq
  · -- Some number of strides moves by the divisor, and so any multiple of it can be reached.
    obtain ⟨m, -, hm⟩ := Nat.exists_mul_mod_eq_gcd hlt
    obtain ⟨b, hb⟩ := Nat.gcd_dvd_right p N
    have hx := Nat.mod_lt x hN
    have hrem : x % N % Nat.gcd p N = x % Nat.gcd p N :=
      Nat.mod_mod_of_dvd _ (Nat.gcd_dvd_right p N)
    have hdiv := Nat.div_add_mod (x % N) (Nat.gcd p N)
    rw [hrem] at hdiv
    have hquot : x % N / Nat.gcd p N + 1 ≤ b :=
      Nat.div_lt_of_lt_mul (lt_of_lt_of_eq hx hb)
    obtain ⟨q, hq⟩ := Nat.exists_eq_add_of_le hquot
    have hpos := Nat.gcd_pos_of_pos_right p hN
    have hend : x % N + q * Nat.gcd p N + Nat.gcd p N = N + x % Nat.gcd p N := by
      have hmul : N = Nat.gcd p N * (x % N / Nat.gcd p N + 1 + q) := by
        rw [← hq]
        exact hb
      rw [Nat.mul_add, Nat.mul_add, Nat.mul_one, Nat.mul_comm (Nat.gcd p N) q] at hmul
      omega
    have hrlt := Nat.mod_lt x hpos
    refine ⟨q * m, ?_⟩
    rw [← hend, Nat.add_right_cancel_iff, Nat.mul_assoc, Nat.mul_comm m p, Nat.add_mod,
      Nat.mul_mod, hm, Nat.mod_mul_mod, Nat.add_mod_mod]
    exact Nat.mod_eq_of_lt (by omega)
  · -- The period is a multiple of `N`: the strides do not move at all.
    refine ⟨0, ?_⟩
    rw [heq, Nat.zero_mul, Nat.add_zero, Nat.add_comm]

/-- **Whether a walk that wraps passes its goal.** -/
theorem exists_wrapped_stride_iff {p N : ℕ} (hN : 0 < N) (x y : ℕ) :
    (∃ k, y ≤ (x + k * p) % N) ↔ y + Nat.gcd p N ≤ N + x % Nat.gcd p N := by
  constructor
  · rintro ⟨k, hk⟩
    have := wrapped_stride_le hN (p := p) x k
    omega
  · intro hle
    obtain ⟨k, hk⟩ := exists_wrapped_stride_eq hN (p := p) x
    exact ⟨k, by omega⟩

end Loop
