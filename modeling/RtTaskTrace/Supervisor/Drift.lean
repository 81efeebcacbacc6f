import RtTaskTrace.Supervisor.DeadlineLoss
import Mathlib.Tactic.IntervalCases

namespace RtTaskTrace

/-!
# A task that drifts

A task whose real period is a little longer than the declared one falls behind the estimate by up
to that excess at every job, until the estimator takes the accumulated latency for a deadline
loss and pushes the estimate forward.  How often that can happen is an amortised count: a loss
needs a latency above `D - rho`, the latency grows by at most `e` at each job, and after a loss it
is `e` at most, however far the push went.

* `Drifts` — what is assumed of the jobs;
* `latency_succ`, `latency_after_loss` — the latency from one job to the next;
* `Budget` — the losses so far against the jobs they have taken; `drift_budget` is its induction;
* `drift_losses_le` — the bound on the monitor's count.
-/

namespace Estimate

/-- Jobs of a drifting task: the starts are a period and at most `e` apart, the response times
    are at most `rho`, and this leaves room for a drift of `e` before the deadline. -/
structure Drifts (timing : Timing) (x : ℕ → Execution) (rho e n : ℕ) : Prop where
  deadline_le : timing.deadline ≤ timing.period
  excess_pos : 0 < e
  response_le : rho ≤ timing.runtime
  slack : rho + e ≤ timing.deadline
  pos : ∀ k < n, 0 < (x k).start
  lt : ∀ k < n, (x k).start < (x k).stop
  response : ∀ k < n, (x k).stop - (x k).start ≤ rho
  period_le : ∀ k, k + 1 < n → (x k).start + timing.period ≤ (x (k + 1)).start
  le_period : ∀ k, k + 1 < n → (x (k + 1)).start ≤ (x k).start + timing.period + e

section Drift

variable {timing : Timing} {x : ℕ → Execution} {rho e n : ℕ}

/-- The latency measured at job `k`. -/
def latencyAt (timing : Timing) (x : ℕ → Execution) (k : ℕ) : ℕ :=
  (x k).start - (run (fun _ => timing) x k).readyAt (x k)

/-- Job `k` is counted as lost. -/
def LostAt (timing : Timing) (x : ℕ → Execution) (k : ℕ) : Prop :=
  (run (fun _ => timing) x k).Lost timing (x k)

theorem losses_of_lost {k : ℕ} (h : LostAt timing x k) :
    (run (fun _ => timing) x (k + 1)).losses = (run (fun _ => timing) x k).losses + 1 := by
  rw [run_succ, step_losses]
  exact if_pos h

theorem losses_of_not_lost {k : ℕ} (h : ¬ LostAt timing x k) :
    (run (fun _ => timing) x (k + 1)).losses = (run (fun _ => timing) x k).losses := by
  rw [run_succ, step_losses]
  exact if_neg h

theorem Drifts.period_pos (h : Drifts timing x rho e n) : 0 < timing.period := by
  have := h.deadline_le
  have := h.slack
  have := h.excess_pos
  omega

/-- A lost job started too late for its response time. -/
theorem Drifts.lt_latency (h : Drifts timing x rho e n) {k : ℕ} (hk : k < n)
    (hlost : LostAt timing x k) : timing.deadline < latencyAt timing x k + rho := by
  have hresponse := h.response k hk
  have hlt := h.lt k hk
  have hread := (run (fun _ => timing) x k).readyAt_le_start (x k)
  unfold LostAt Lost at hlost
  unfold latencyAt
  omega

/-- The first job has no latency. -/
theorem latencyAt_zero : latencyAt timing x 0 = 0 := Nat.sub_self _

/-- **A job that is not lost** passes its latency on, with the excess of its period. -/
theorem Drifts.latency_succ (h : Drifts timing x rho e n) {k : ℕ} (hk : k + 1 < n)
    (hlost : ¬ LostAt timing x k) :
    latencyAt timing x (k + 1) ≤ latencyAt timing x k + e := by
  have hlt := h.lt k (by omega)
  have hread := (run (fun _ => timing) x k).readyAt_le_start (x k)
  have hdeadline := h.deadline_le
  have hlost' : ¬ timing.deadline < (x k).stop - (run (fun _ => timing) x k).readyAt (x k) := hlost
  have hstep := step_ready_of_not_lost h.period_pos hlt (by omega) hlost
  have hperiod := h.period_le k hk
  have hexcess := h.le_period k hk
  have hpos := h.pos k (by omega)
  unfold latencyAt
  rw [run_succ]
  generalize run (fun _ => timing) x k = est at *
  generalize est.step timing (x k) = est' at *
  -- The next start is not before the estimate, so nothing is pulled back.
  have hat : est'.readyAt (x (k + 1)) = est'.ready := if_neg (by omega)
  rw [hat, hstep]
  omega

/-- **A lost job** is pushed at least to where the next one may start, so the next latency is
    the excess of its period alone. -/
theorem Drifts.latency_after_loss (h : Drifts timing x rho e n) {k : ℕ} (hk : k + 1 < n)
    (hlost : LostAt timing x k) : latencyAt timing x (k + 1) ≤ e := by
  have hlt := h.lt k (by omega)
  have hread := (run (fun _ => timing) x k).readyAt_le_start (x k)
  have hover : ¬ (x k).Overrun timing := by
    have := h.response k (by omega)
    have := h.response_le
    unfold Execution.Overrun
    omega
  have hpush : (run (fun _ => timing) x k).pushed timing (x k)
      = (x k).start - (run (fun _ => timing) x k).readyAt (x k) := if_pos ⟨hlost, hover⟩
  have hstride := Loop.add_le_strideTo h.period_pos (lt_of_le_of_lt hread hlt)
  have hready := step_ready (run (fun _ => timing) x k) timing (x k)
  rw [hpush] at hready
  have hperiod := h.period_le k hk
  have hexcess := h.le_period k hk
  unfold latencyAt
  rw [run_succ]
  generalize run (fun _ => timing) x k = est at *
  generalize est.step timing (x k) = est' at *
  have hat : (x k).start + timing.period ≤ est'.readyAt (x (k + 1)) := by
    unfold readyAt
    split <;> omega
  omega

/-- Two jobs in a row are not both lost. -/
theorem Drifts.not_lost_succ (h : Drifts timing x rho e n) {k : ℕ} (hk : k + 1 < n)
    (hlost : LostAt timing x k) : ¬ LostAt timing x (k + 1) := by
  intro hlost'
  have := h.latency_after_loss hk hlost
  have := h.lt_latency hk hlost'
  have := h.slack
  omega

/-! ### The count -/

/-- Before job `k`, the `losses` so far have each taken as many jobs as it takes to drift to the
    next one, and `since` jobs have come since the last; the latency has grown in these alone. -/
structure Budget (timing : Timing) (x : ℕ → Execution) (rho e k losses since : ℕ) : Prop where
  paid : losses * ((timing.deadline - rho) / e + 1) + since ≤ k
  latency : latencyAt timing x k ≤ since * e
  begun : 0 < k → 0 < since

/-- A latency that is lost has taken long to grow. -/
theorem Drifts.lt_since (h : Drifts timing x rho e n) {k since : ℕ} (hk : k < n)
    (hlatency : latencyAt timing x k ≤ since * e) (hlost : LostAt timing x k) :
    (timing.deadline - rho) / e + 1 ≤ since := by
  have hlt := h.lt_latency hk hlost
  have hslack := h.slack
  have hdiv : timing.deadline - rho < since * e := by omega
  exact (Nat.div_lt_iff_lt_mul h.excess_pos).mpr hdiv

/-- **The losses before a job are paid for.** -/
theorem drift_budget (h : Drifts timing x rho e n) {k : ℕ} (hk : k < n) :
    ∃ since, Budget timing x rho e k (run (fun _ => timing) x k).losses since := by
  induction k with
  | zero =>
    refine ⟨0, ?_, ?_, fun hpos => absurd hpos (Nat.lt_irrefl 0)⟩
    · rw [run_zero]
      exact Nat.le_of_eq (Nat.zero_mul _)
    · rw [latencyAt_zero]
      exact Nat.zero_le _
  | succ k ih =>
    obtain ⟨since, hbudget⟩ := ih (by omega)
    have hpaid := hbudget.paid
    by_cases hlost : LostAt timing x k
    · -- A loss uses up what has been saved, and the count starts over.
      have hsince := h.lt_since (by omega) hbudget.latency hlost
      have hnext := h.latency_after_loss hk hlost
      refine ⟨1, ?_, ?_, fun _ => Nat.one_pos⟩
      · rw [losses_of_lost hlost, Nat.succ_mul]
        omega
      · rw [Nat.one_mul]
        exact hnext
    · have hnext := h.latency_succ hk hlost
      have hlatency := hbudget.latency
      refine ⟨since + 1, ?_, ?_, fun _ => Nat.succ_pos since⟩
      · rw [losses_of_not_lost hlost]
        omega
      · rw [Nat.succ_mul]
        omega

/-- **The losses of a drifting task.** -/
theorem drift_run_losses_le (h : Drifts timing x rho e n) (hn : 0 < n) :
    (run (fun _ => timing) x n).losses ≤ (n - 1) / ((timing.deadline - rho) / e + 1) := by
  obtain ⟨k, rfl⟩ := Nat.exists_eq_succ_of_ne_zero hn.ne'
  obtain ⟨since, hbudget⟩ := drift_budget h (Nat.lt_succ_self k)
  have hpaid := hbudget.paid
  rw [Nat.le_div_iff_mul_le (Nat.succ_pos _)]
  show (run (fun _ => timing) x (k + 1)).losses * ((timing.deadline - rho) / e + 1) ≤ k
  -- The last job may be lost itself, and then it has been saved for as well.
  by_cases hlost : LostAt timing x k
  · have hsince := h.lt_since (Nat.lt_succ_self k) hbudget.latency hlost
    rw [losses_of_lost hlost, Nat.succ_mul]
    omega
  · rw [losses_of_not_lost hlost]
    omega

end Drift

end Estimate

/-! ### The monitor -/

/-- The jobs of a stream drift: their starts are a period and at most `e` apart and their response
    times at most `rho`, which is within the runtime and leaves `e` before the deadline; the
    deadline is not longer than the period. -/
structure Drifting (props : DeadlineProps) (input : ℕ → MonitorInput) (rho e n : ℕ) : Prop where
  deadline_le : props.deadline.toNat ≤ props.period.toNat
  excess_pos : 0 < e
  response_le : rho ≤ props.runtime.toNat
  slack : rho + e ≤ props.deadline.toNat
  response : ∀ k < n, (input k).telegram.t2.toNat - (input k).telegram.t1.toNat ≤ rho
  period_le : ∀ k, k + 1 < n →
    (input k).telegram.t1.toNat + props.period.toNat ≤ (input (k + 1)).telegram.t1.toNat
  le_period : ∀ k, k + 1 < n →
    (input (k + 1)).telegram.t1.toNat ≤ (input k).telegram.t1.toNat + props.period.toNat + e

theorem Drifting.drifts {props : DeadlineProps} {pid : PidT} {task : MonitorTask}
    {input : ℕ → MonitorInput} {rho e n : ℕ} (hdrift : Drifting props input rho e n)
    (h : JobStream props pid task input n) :
    Estimate.Drifts props.timing (fun j => (input j).execution) rho e n where
  deadline_le := hdrift.deadline_le
  excess_pos := hdrift.excess_pos
  response_le := hdrift.response_le
  slack := hdrift.slack
  pos := h.start_pos
  lt := h.start_lt_stop
  response := hdrift.response
  period_le := hdrift.period_le
  le_period := hdrift.le_period

/-- **The adjustment bounds the losses of a drifting task.**  After `n` telegrams at most one in
    `(D - rho) / e + 1` of those after the first has been counted as lost, and no two in a row. -/
theorem drift_losses_le {props : DeadlineProps} {pid : PidT} {task : MonitorTask}
    {input : ℕ → MonitorInput} {rho e n : ℕ} (h : JobStream props pid task input n)
    (hdrift : Drifting props input rho e n) (hn : 0 < n) :
    (∃ c, lossesBefore task input n = some c ∧
      c.toNat ≤ (n - 1) / ((props.deadline.toNat - rho) / e + 1)) ∧
    ∀ k, k + 1 < n → ∃ c c' c'', lossesBefore task input k = some c ∧
      lossesBefore task input (k + 1) = some c' ∧ lossesBefore task input (k + 2) = some c'' ∧
      (c' = c ∨ c'' = c') := by
  have hdrifts := hdrift.drifts h
  constructor
  · refine ⟨_, h.lossesBefore_eq le_rfl, ?_⟩
    -- The count is that of the estimator, up to the width of the field.
    rw [UInt32.toNat_ofNat']
    exact (Nat.mod_le _ _).trans (Estimate.drift_run_losses_le hdrifts hn)
  · intro k hk
    obtain ⟨c, hc, hc'⟩ := h.round (show k < n by omega)
    obtain ⟨c', hnext, hc''⟩ := h.round hk
    refine ⟨c, c', _, hc, hnext, hc'', ?_⟩
    by_cases hlost : (JobStream.estimates props input k).Lost props.timing (input k).execution
    · -- After a loss the next job is not lost.
      exact .inr (if_neg (hdrifts.not_lost_succ hk hlost))
    · rw [if_neg hlost] at hc'
      exact .inl (Option.some.inj (hnext.symm.trans hc'))

/-- Jobs of a task with a period of 20 that start 23 apart, 3 more than declared. -/
def driftingJobs (k : ℕ) : MonitorInput :=
  jobInput sampleProps 1 (UInt64.ofNat (100 + 23 * k)) (UInt64.ofNat (104 + 23 * k))

theorem driftingStream : JobStream sampleProps 1 (MonitorTask.startOn 1) driftingJobs 5 where
  watching := watching_startOn 1
  fresh := rfl
  period_pos := by decide
  period_bounded := by decide
  job := fun _ _ => isJob_jobInput _ _ _ _
  start_pos := by decide
  start_lt_stop := by decide
  stop_bounded := by decide

theorem driftingJobs_drift : Drifting sampleProps driftingJobs 4 3 5 where
  deadline_le := by decide
  excess_pos := by decide
  response_le := by decide
  slack := by decide
  response := by decide
  period_le := by
    intro k hk
    have hlt : k < 4 := by omega
    interval_cases k <;> decide
  le_period := by
    intro k hk
    have hlt : k < 4 := by omega
    interval_cases k <;> decide

/-- With response times of 4 and a deadline of 10, a loss takes three jobs to drift to. -/
theorem drift_losses_le_sample :
    ∃ c, lossesBefore (MonitorTask.startOn 1) driftingJobs 5 = some c ∧ c.toNat ≤ 1 :=
  (drift_losses_le driftingStream driftingJobs_drift (by decide)).1

end RtTaskTrace
