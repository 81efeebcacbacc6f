import RtTaskTrace.Supervisor.Estimator

namespace RtTaskTrace

open Loop

/-!
# The estimator over a task that is reported in part

A task that stops recording for a while leaves out executions, and the estimate is only walked
past the ones it is told of.  Here the jobs of a periodic task that meets every deadline are
reported or not, as `reported` says.

Until a loss is counted the estimate is the least of what the reported jobs make of it: job
`j` says "one period after my start for every *reported* job since", which lags behind the
releases by a period for every job left out (`pace`, `lePace_of_no_loss`).  So a loss is
counted as soon as that lag is more than the slack (`losses_eq_zero_iff`).
-/

namespace Estimate

variable {timing : Timing} {reported : ℕ → Bool} {x : ℕ → Execution} {r : ℤ} {n : ℕ}

/-- The estimator after the first `k` jobs, of which it is told the reported ones. -/
def runReported (timing : Timing) (reported : ℕ → Bool) (x : ℕ → Execution) : ℕ → Estimate
  | 0 => initial
  | k + 1 =>
    if reported k then (runReported timing reported x k).step timing (x k)
    else runReported timing reported x k

/-- The number of jobs from `j` on and before `k` that are not reported. -/
def unreported (reported : ℕ → Bool) (j k : ℕ) : ℕ :=
  (List.range k).countP fun i => decide (j ≤ i) && !reported i

theorem unreported_self (reported : ℕ → Bool) (k : ℕ) : unreported reported k k = 0 := by
  unfold unreported
  rw [List.countP_eq_zero]
  intro i hi
  have hik := List.mem_range.mp hi
  rw [decide_eq_false (by omega), Bool.false_and]
  exact Bool.false_ne_true

theorem unreported_succ {j k : ℕ} (hjk : j ≤ k) :
    unreported reported j (k + 1) = unreported reported j k + if reported k then 0 else 1 := by
  unfold unreported
  rw [List.range_succ, List.countP_append]
  cases hk : reported k <;> simp [hk, hjk]

/-- The jobs of a periodic task that meets every deadline, the first released at `r`. -/
structure OnTime (timing : Timing) (r : ℤ) (x : ℕ → Execution) (n : ℕ) : Prop where
  period_pos : 0 < timing.period
  deadline_le : timing.deadline ≤ timing.period
  start_pos : ∀ k < n, 0 < (x k).start
  release_le : ∀ k < n, r + k * timing.period ≤ (x k).start
  start_lt_stop : ∀ k < n, (x k).start < (x k).stop
  stop_le : ∀ k < n, (x k).stop ≤ r + k * timing.period + timing.deadline

/-- Where the reported job `j` expects job `k` to be ready: at the release of `k` plus its own
    start delay, less one period for every job left out between them. -/
def pace (timing : Timing) (reported : ℕ → Bool) (r : ℤ) (x : ℕ → Execution) (j k : ℕ) : ℤ :=
  r + k * timing.period + ((x j).start - (r + j * timing.period))
    - unreported reported j k * timing.period

/-- Job `k` ends at most a deadline after the time the reported job `j` expects it at. -/
def Bridged (timing : Timing) (reported : ℕ → Bool) (r : ℤ) (x : ℕ → Execution) (j k : ℕ) :
    Prop :=
  ((x k).stop - (r + k * timing.period)) + unreported reported j k * timing.period
    ≤ ((x j).start - (r + j * timing.period)) + timing.deadline

theorem pace_self (k : ℕ) : pace timing reported r x k k = (x k).start := by
  unfold pace
  rw [unreported_self]
  push_cast
  ring

/-- A reported job moves every expectation on by a period, one left out moves none. -/
theorem pace_succ {j k : ℕ} (hjk : j ≤ k) :
    pace timing reported r x j (k + 1)
      = pace timing reported r x j k + if reported k then (timing.period : ℤ) else 0 := by
  unfold pace
  rw [unreported_succ hjk]
  cases reported k
  · rw [if_neg Bool.false_ne_true, if_neg Bool.false_ne_true]
    push_cast
    ring
  · rw [if_pos rfl, if_pos rfl]
    push_cast
    ring

/-- The estimate is the least expectation of the jobs reported so far, and there is none
    before the first. -/
def LePace (timing : Timing) (reported : ℕ → Bool) (r : ℤ) (x : ℕ → Execution) (k : ℕ)
    (e : Estimate) : Prop :=
  ∀ b : ℤ, (e.ready = 0 ∨ b ≤ e.ready) ↔
    ∀ j < k, reported j = true → b ≤ pace timing reported r x j k

/-- What an execution is judged against: the least expectation, its own start included. -/
theorem LePace.le_readyAt_iff {k : ℕ} {e : Estimate} (h : LePace timing reported r x k e)
    (hk : reported k = true) (b : ℤ) :
    b ≤ e.readyAt (x k) ↔ ∀ j ≤ k, reported j = true → b ≤ pace timing reported r x j k := by
  rw [Estimate.le_readyAt_iff, h b]
  constructor
  · rintro ⟨hbefore, hstart⟩ j hj hrep
    rcases Nat.lt_or_eq_of_le hj with hlt | rfl
    · exact hbefore j hlt hrep
    · rw [pace_self]
      exact hstart
  · intro hall
    refine ⟨fun j hj hrep => hall j hj.le hrep, ?_⟩
    have hself := hall k le_rfl hk
    rw [pace_self] at hself
    exact hself

/-- **When a job reported in part of the stream is lost.** -/
theorem LePace.not_lost_iff {k : ℕ} {e : Estimate} (h : LePace timing reported r x k e)
    (hk : reported k = true) (hlt : (x k).start < (x k).stop) :
    ¬ e.Lost timing (x k) ↔
      ∀ j ≤ k, reported j = true → Bridged timing reported r x j k := by
  have hstart := e.readyAt_le_start (x k)
  have hlost : ¬ e.Lost timing (x k) ↔ ((x k).stop - timing.deadline : ℤ) ≤ e.readyAt (x k) := by
    unfold Lost
    omega
  -- Not lost is a bound on the time judged against, so one on every expectation.
  rw [hlost, h.le_readyAt_iff hk]
  apply forall_congr'
  intro j
  apply forall₂_congr
  intro _ _
  unfold pace Bridged
  constructor <;> intro hle <;> linarith

/-- A job left out changes no expectation. -/
theorem LePace.skip {k : ℕ} {e : Estimate} (h : LePace timing reported r x k e)
    (hk : reported k = false) : LePace timing reported r x (k + 1) e := by
  intro b
  rw [h b]
  constructor
  · intro hall j hj hrep
    -- The job left out is not among those reported.
    have hne : j ≠ k := by
      rintro rfl
      rw [hk] at hrep
      exact absurd hrep (by decide)
    rw [pace_succ (by omega), hk, if_neg (by decide), add_zero]
    exact hall j (by omega) hrep
  · intro hall j hj hrep
    have hle := hall j (by omega) hrep
    rw [pace_succ hj.le, hk, if_neg (by decide), add_zero] at hle
    exact hle

/-- A reported job that is not lost moves the estimate on with all expectations. -/
theorem LePace.step (hx : OnTime timing r x n) {k : ℕ} (hkn : k < n) {e : Estimate}
    (h : LePace timing reported r x k e) (hk : reported k = true)
    (hlost : ¬ e.Lost timing (x k)) :
    LePace timing reported r x (k + 1) (e.step timing (x k)) := by
  have hlt := hx.start_lt_stop k hkn
  have hready : (e.step timing (x k)).ready = e.readyAt (x k) + timing.period := by
    -- A job that is not lost ends within a period of the time it is judged against.
    refine step_ready_of_not_lost hx.period_pos hlt ?_ hlost
    have := hx.deadline_le
    unfold Lost at hlost
    omega
  intro b
  have hpos := hx.period_pos
  -- Both sides of the equivalence move by a period.
  have hshift : ((e.step timing (x k)).ready = 0 ∨ b ≤ (e.step timing (x k)).ready) ↔
      b - timing.period ≤ e.readyAt (x k) := by
    rw [hready]
    push_cast
    omega
  rw [hshift, h.le_readyAt_iff hk]
  constructor
  · intro hall j hj hrep
    rw [pace_succ (by omega), hk, if_pos rfl]
    have := hall j (by omega) hrep
    omega
  · intro hall j hj hrep
    have hle := hall j (by omega) hrep
    rw [pace_succ hj, hk, if_pos rfl] at hle
    omega

/-- **As long as no reported job is lost**, the estimate is the least expectation. -/
theorem lePace_of_no_loss (hx : OnTime timing r x n) {k : ℕ} (hkn : k ≤ n)
    (hlost : ∀ i < k, reported i = true →
      ¬ (runReported timing reported x i).Lost timing (x i)) :
    LePace timing reported r x k (runReported timing reported x k) := by
  induction k with
  | zero =>
    intro b
    exact iff_of_true (Or.inl rfl) fun j hj => absurd hj (Nat.not_lt_zero j)
  | succ k ih =>
    have ih := ih (by omega) fun i hi => hlost i (by omega)
    rw [runReported]
    cases hk : reported k
    · -- A job that is not reported leaves the estimate alone.
      rw [if_neg (by decide)]
      exact ih.skip hk
    · rw [if_pos rfl]
      exact ih.step hx (by omega) hk (hlost k (by omega) hk)

/-- The count stays at zero exactly as long as no reported job is lost. -/
theorem runReported_losses (k : ℕ) :
    (runReported timing reported x k).losses = 0 ↔
      ∀ i < k, reported i = true → ¬ (runReported timing reported x i).Lost timing (x i) := by
  induction k with
  | zero => exact iff_of_true rfl fun i hi => absurd hi (Nat.not_lt_zero i)
  | succ k ih =>
    rw [Nat.forall_lt_succ_right, ← ih, runReported]
    cases hk : reported k
    · simp
    · rw [if_pos rfl, step_losses]
      by_cases hl : (runReported timing reported x k).Lost timing (x k) <;> simp [hl]

/-- **When leaving jobs out costs no loss.**  The count stays at zero exactly when, for any two
    reported jobs, the periods left out between them fit into the slack. -/
theorem losses_eq_zero_iff (reported : ℕ → Bool) (hx : OnTime timing r x n) :
    (runReported timing reported x n).losses = 0 ↔
      ∀ k < n, reported k = true → ∀ j ≤ k, reported j = true →
        Bridged timing reported r x j k := by
  rw [runReported_losses]
  constructor
  · intro hlost k hk hrep
    have hpace := lePace_of_no_loss hx hk.le fun i hi => hlost i (by omega)
    exact (hpace.not_lost_iff hrep (hx.start_lt_stop k hk)).mp (hlost k hk hrep)
  · intro hall k
    -- strong induction: the jobs before `k` are not lost, so the estimate is known at `k`
    induction k using Nat.strong_induction_on with
    | _ k ih =>
      intro hk hrep
      have hpace := lePace_of_no_loss hx hk.le fun i hi => ih i hi (by omega)
      exact (hpace.not_lost_iff hrep (hx.start_lt_stop k hk)).mpr (hall k hk hrep)

end Estimate

end RtTaskTrace
