import RtTaskTrace.Supervisor.DeadlineLoss
import RtTaskTrace.Supervisor.KeptExtremes

namespace RtTaskTrace

open Extremes

/-!
# What the estimator computes for a task on time

Job `k` of a task is released at `r + k * P` and starts with some delay.  As long as every job
ends within its deadline, the estimate is pulled back by each start that is earlier than all
before it and walked by one period for each job, and nothing else happens to it: it is the next
release plus the least delay so far.

* `Estimate.leastDelay` — the least start delay up to a job;
* `Estimate.Tracks` — the estimate after a job; `step_tracks` is one job, `run_tracks` all;
* `estimator_tracks` — the monitor's metrics after each job.
-/

namespace Estimate

/-- How long after its release job `k` starts. -/
def delay (timing : Timing) (r : ℤ) (x : ℕ → Execution) (k : ℕ) : ℤ :=
  (x k).start - (r + k * timing.period)

/-- The least start delay of the jobs up to `k`. -/
def leastDelay (timing : Timing) (r : ℤ) (x : ℕ → Execution) (k : ℕ) : ℤ :=
  leastUpTo (delay timing r x) k

section OnTime

variable {timing : Timing} {r : ℤ} {x : ℕ → Execution} {n : ℕ}

/-- The estimate after job `k`: the next release plus the least delay, with one cycle for each
    job and the pull-backs booked. -/
structure Tracks (timing : Timing) (r : ℤ) (x : ℕ → Execution) (k : ℕ) (e : Estimate) : Prop where
  ready : (e.ready : ℤ) = r + k * timing.period + timing.period + leastDelay timing r x k
  latency : (e.latency : ℤ) = delay timing r x k - leastDelay timing r x k
  cycles : e.cycles = k + 1
  adjust : e.adjust = leastDelay timing r x k - delay timing r x 0
  losses : e.losses = 0

/-- **One job on time.**  It is judged against its release plus the least delay. -/
theorem step_tracks {e : Estimate} {k : ℕ} (hp : 0 < timing.period)
    (hdeadline : timing.deadline ≤ timing.period) (hlt : (x k).start < (x k).stop)
    (hdone : (x k).stop ≤ r + k * timing.period + timing.deadline)
    (hat : (e.readyAt (x k) : ℤ) = r + k * timing.period + leastDelay timing r x k)
    (hnonneg : 0 ≤ leastDelay timing r x k) (hcycles : e.cycles = k)
    (hadjust : (e.pull (x k)).adjust = leastDelay timing r x k - delay timing r x 0)
    (hlosses : e.losses = 0) : Tracks timing r x k (e.step timing (x k)) := by
  have hstart := e.readyAt_le_start (x k)
  have hstop : (x k).stop ≤ e.readyAt (x k) + timing.deadline := by omega
  have hlost : ¬ e.Lost timing (x k) := by
    unfold Lost
    omega
  have hpush : e.pushed timing (x k) = 0 := if_neg fun h => hlost h.1
  constructor
  · rw [step_ready_of_not_lost hp hlt (by omega) hlost]
    push_cast
    rw [hat]
    ring
  · rw [step_latency, Nat.cast_sub hstart, hat]
    unfold delay
    ring
  · rw [step_cycles, hcycles, Loop.strides_eq_one hp (by omega) (by omega)]
  · rw [step_adjust, hpush, hadjust]
    exact Int.add_zero _
  · rw [step_losses, if_neg hlost, hlosses]

/-- **Every job on time.** -/
theorem run_tracks (hp : 0 < timing.period) (hdeadline : timing.deadline ≤ timing.period)
    (hpos : ∀ k < n, 0 < (x k).start) (hlt : ∀ k < n, (x k).start < (x k).stop)
    (hrelease : ∀ k < n, r + k * timing.period ≤ (x k).start)
    (hdone : ∀ k < n, (x k).stop ≤ r + k * timing.period + timing.deadline) {k : ℕ}
    (hk : k < n) : Tracks timing r x k (run (fun _ => timing) x (k + 1)) := by
  have hdelay : ∀ j < n, 0 ≤ delay timing r x j := fun j hj => by
    have := hrelease j hj
    unfold delay
    omega
  have hnonneg : 0 ≤ leastDelay timing r x k :=
    le_leastUpTo fun j hj => hdelay j (by omega)
  induction k with
  | zero =>
    -- The first job is judged against its own start.
    have hat : initial.readyAt (x 0) = (x 0).start := if_pos (.inl rfl)
    refine step_tracks hp hdeadline (hlt 0 hk) (hdone 0 hk) ?_ hnonneg rfl ?_ rfl
    · rw [run_zero, hat, leastDelay, leastUpTo_zero, delay]
      ring
    · rw [run_zero, leastDelay, leastUpTo_zero, Int.sub_self]
      rfl
  | succ k ih =>
    have ih := ih (by omega) (le_leastUpTo fun j hj => hdelay j (by omega))
    have hready := ih.ready
    have hadjust := ih.adjust
    have hmin : leastDelay timing r x (k + 1)
        = min (leastDelay timing r x k) (delay timing r x (k + 1)) := leastUpTo_succ _ k
    have hdelay' : ((x (k + 1)).start : ℤ)
        = r + k * timing.period + timing.period + delay timing r x (k + 1) := by
      unfold delay
      push_cast
      ring
    have hnext : r + ((k + 1 : ℕ) : ℤ) * timing.period
        = r + k * timing.period + timing.period := by
      push_cast
      ring
    rw [run_succ]
    generalize run (fun _ => timing) x (k + 1) = e at ih hready hadjust ⊢
    -- There is an estimate: it is not before the stop of the last job.
    have hne : e.ready ≠ 0 := by
      have := hpos k (by omega)
      have := hlt k (by omega)
      have := hdone k (by omega)
      have hleast : 0 ≤ leastDelay timing r x k :=
        le_leastUpTo fun j hj => hdelay j (by omega)
      omega
    have hat : (e.readyAt (x (k + 1)) : ℤ)
        = r + k * timing.period + timing.period + leastDelay timing r x (k + 1) := by
      unfold readyAt
      split <;> omega
    refine step_tracks hp hdeadline (hlt _ hk) (hdone _ hk) ?_ hnonneg ih.cycles ?_ ih.losses
    · rw [hat, hnext]
    · -- The pull-back books what the least delay has fallen by.
      have hle := readyAt_le_ready (x := x (k + 1)) (Nat.pos_of_ne_zero hne)
      have hpull : (e.pull (x (k + 1))).adjust
          = e.adjust - (e.ready - e.readyAt (x (k + 1)) : ℕ) := if_neg hne
      rw [hpull, hadjust]
      omega

end OnTime

end Estimate

/-! ### The monitor -/

/-- The round of a job is supervised. -/
theorem IsJob.supervisedWith {props : DeadlineProps} {pid : PidT} {task : MonitorTask}
    {input : MonitorInput} (hjob : IsJob props pid input) (hw : Watching pid task) :
    task.supervisedWith input = some props := by
  have hreport : OwnReport task.me.pid input := by
    rw [hw.pid]
    exact hjob.toOwnReport
  rw [MonitorTask.supervisedWith, if_pos ⟨hreport, hw.policy⟩, hjob.props]
  rfl

/-- The round of a job adds its latency to the extremes. -/
theorem iterate_job_latencies {props : DeadlineProps} {pid : PidT} {task task' : MonitorTask}
    {input : MonitorInput} (hjob : IsJob props pid input) (hw : Watching pid task)
    (h : task.iterate input = some task') :
    task'.me.metrics.maxLatency.toInt
      = max task.me.metrics.maxLatency.toInt task'.me.metrics.lastLatency.toInt := by
  have hupdate := MonitorTask.iterate_supervised h (hjob.supervisedWith hw)
  have hlatencies := congrArg Extremes.greatest (MonitorMetrics.update_latencies hupdate)
  rw [Extremes.add_greatest] at hlatencies
  obtain ⟨minRT, WCRT, heq⟩ := task.recordedMetrics_eq input
  rw [heq] at hlatencies
  exact hlatencies

/-- The jobs of a stream are on time: they start after their releases, the first of which is at
    `r0`, and end within the deadline, which is not longer than the period. -/
structure OnTime (props : DeadlineProps) (r0 : ℤ) (input : ℕ → MonitorInput) (n : ℕ) : Prop where
  deadline_le : props.deadline.toNat ≤ props.period.toNat
  release : ∀ k < n, r0 + k * props.period.toNat ≤ (input k).telegram.t1.toNat
  done : ∀ k < n, (input k).telegram.t2.toNat
    ≤ r0 + k * props.period.toNat + props.deadline.toNat

/-- How long after its release job `k` starts. -/
def startDelay (props : DeadlineProps) (r0 : ℤ) (input : ℕ → MonitorInput) (k : ℕ) : ℤ :=
  (input k).telegram.t1.toNat - (r0 + k * props.period.toNat)

/-- The least start delay of the jobs up to `k`. -/
def leastStartDelay (props : DeadlineProps) (r0 : ℤ) (input : ℕ → MonitorInput) (k : ℕ) : ℤ :=
  leastUpTo (startDelay props r0 input) k

section Stream

variable {props : DeadlineProps} {pid : PidT} {task : MonitorTask} {input : ℕ → MonitorInput}
  {n : ℕ} {r0 : ℤ}

/-- The estimator tracks the jobs of a stream that are on time. -/
theorem JobStream.tracks (h : JobStream props pid task input n)
    (hontime : OnTime props r0 input n) {k : ℕ} (hk : k < n) :
    Estimate.Tracks props.timing r0 (fun j => (input j).execution) k
      (JobStream.estimates props input (k + 1)) :=
  Estimate.run_tracks h.timing_pos hontime.deadline_le h.start_pos h.start_lt_stop hontime.release
    hontime.done hk

theorem OnTime.startDelay_nonneg (hontime : OnTime props r0 input n) {k : ℕ} (hk : k < n) :
    0 ≤ startDelay props r0 input k := by
  have := hontime.release k hk
  unfold startDelay
  omega

/-- The latency measured at job `k`. -/
theorem JobStream.latency_toInt (h : JobStream props pid task input n)
    (hontime : OnTime props r0 input n) {k : ℕ} (hk : k < n) {m : MonitorMetrics}
    (href : Refines m (JobStream.estimates props input (k + 1))) :
    m.lastLatency.toInt = startDelay props r0 input k - leastStartDelay props r0 input k := by
  have hlatency : ((JobStream.estimates props input (k + 1)).latency : ℤ)
      = startDelay props r0 input k - leastStartDelay props r0 input k :=
    (h.tracks hontime hk).latency
  have hle : (JobStream.estimates props input (k + 1)).latency
      ≤ (input k).telegram.t1.toNat := by
    have hstep := Estimate.step_latency (JobStream.estimates props input k) props.timing
      (input k).execution
    rw [JobStream.estimates, Estimate.run_succ]
    exact hstep.le.trans (Nat.sub_le _ _)
  have := h.start_lt_stop k hk
  have := h.stop_bounded k hk
  rw [href.latency, Int64.toInt_ofNat_of_lt (by omega), hlatency]

/-- After `k` jobs the maximum of the latency is the greatest measured. -/
theorem JobStream.maxLatency_peak (h : JobStream props pid task input n)
    (hontime : OnTime props r0 input n) :
    ∀ k ≤ n, ∃ t, Runs.after MonitorTask.iterate task input k = some t ∧
      (Watching pid t ∧ Refines t.me.metrics (JobStream.estimates props input k) ∧
        Peak (fun j => startDelay props r0 input j - leastStartDelay props r0 input j) 0 k
          t.me.metrics.maxLatency.toInt) := by
  have hinit : Refines task.me.metrics (JobStream.estimates props input 0) ∧
      task.me.metrics.maxLatency.toInt = 0 := by
    rw [h.fresh]
    exact ⟨refines_init, by decide⟩
  refine Runs.after_induction ⟨h.watching, hinit.1, ?_⟩ fun k hk t ht => ?_
  · rw [hinit.2]
    exact Peak.zero _ 0
  · obtain ⟨hw, href, hpeak⟩ := ht
    obtain ⟨t', hiter, hw', href'⟩ := iterate_job_refines hw href (h.job k hk) (h.inRange hk)
      ⟨h.period_pos, h.period_bounded⟩
    have hlatency := h.latency_toInt hontime hk href'
    have hmax := iterate_job_latencies (h.job k hk) hw hiter
    rw [hlatency] at hmax
    refine ⟨t', hiter, hw', href', ?_⟩
    rw [hmax]
    exact hpeak.succ

/-- **What the estimator computes for a task on time.**  After job `k`, the ready time is the next
    release plus the least start delay so far, the latency what the job's own delay is above that,
    the cycles are the jobs, and the adjustments what the least delay has fallen by. -/
theorem estimator_tracks (h : JobStream props pid task input n)
    (hontime : OnTime props r0 input n) {k : ℕ} (hk : k < n) :
    ∃ t, Runs.after MonitorTask.iterate task input (k + 1) = some t ∧
      (t.me.metrics.lastCyclicTaskReadyTime.toNat : ℤ)
        = r0 + k * props.period.toNat + props.period.toNat
          + leastStartDelay props r0 input k ∧
      t.me.metrics.lastLatency.toInt
        = startDelay props r0 input k - leastStartDelay props r0 input k ∧
      t.me.metrics.cycleCount.toNat = k + 1 ∧
      t.me.metrics.totalAltoAdjust.toInt
        = leastStartDelay props r0 input k - startDelay props r0 input 0 ∧
      t.me.metrics.deadlineLostCount = 0 ∧
      t.me.metrics.maxLatency.toInt
        = (Finset.range (k + 1)).sup' Finset.nonempty_range_add_one fun j =>
            startDelay props r0 input j - leastStartDelay props r0 input j := by
  obtain ⟨t, hafter, -, href, hpeak⟩ := h.maxLatency_peak hontime (k + 1) hk
  have htracks := h.tracks hontime hk
  have hfirst : leastStartDelay props r0 input k ≤ startDelay props r0 input 0 :=
    leastUpTo_le _ (Nat.zero_le k)
  have hnonneg : 0 ≤ leastStartDelay props r0 input k :=
    le_leastUpTo fun j hj => hontime.startDelay_nonneg (by omega)
  have hperiod := h.period_bounded
  have hdeadline := hontime.deadline_le
  have hdone := hontime.done 0 (by omega)
  have hstart := h.start_lt_stop 0 (by omega)
  have hzero : startDelay props r0 input 0 = (input 0).telegram.t1.toNat - r0 := by
    rw [startDelay, Nat.cast_zero, zero_mul, add_zero]
  rw [Nat.cast_zero, zero_mul, add_zero] at hdone
  refine ⟨t, hafter, ?_, h.latency_toInt hontime hk href, ?_, ?_, ?_, ?_⟩
  · rw [href.ready]
    exact htracks.ready
  · -- The jobs are fewer than the times there are.
    have hrelease := hontime.release k hk
    have hlast := h.start_lt_stop k hk
    have hbounded := h.stop_bounded k hk
    have hmul := Nat.le_mul_of_pos_right k h.period_pos
    have hcount : k + 1 < 2 ^ 64 := by
      rw [← Nat.cast_mul] at hrelease
      omega
    rw [href.cycles, htracks.cycles, UInt64.toNat_ofNat', Nat.mod_eq_of_lt hcount]
  · have hadjust : (JobStream.estimates props input (k + 1)).adjust
        = leastStartDelay props r0 input k - startDelay props r0 input 0 := htracks.adjust
    rw [href.adjust, hadjust, Int64.toInt_ofInt_of_le (by omega) (by omega)]
  · rw [href.losses, htracks.losses]
    rfl
  · apply hpeak.eq_sup'
    intro j hj
    have hle : leastStartDelay props r0 input j ≤ startDelay props r0 input j :=
      leastUpTo_le _ le_rfl
    omega

end Stream

/-- Jobs released at 100, 120 and 140 that start 3, 1 and 6 late. -/
def onTimeJobs : ℕ → MonitorInput
  | 0 => jobInput sampleProps 1 103 107
  | 1 => jobInput sampleProps 1 121 126
  | _ => jobInput sampleProps 1 146 150

theorem onTimeStream : JobStream sampleProps 1 (MonitorTask.startOn 1) onTimeJobs 3 where
  watching := watching_startOn 1
  fresh := rfl
  period_pos := by decide
  period_bounded := by decide
  job := by
    intro k _
    match k with
    | 0 => exact isJob_jobInput _ _ _ _
    | 1 => exact isJob_jobInput _ _ _ _
    | _ + 2 => exact isJob_jobInput _ _ _ _
  start_pos := by decide
  start_lt_stop := by decide
  stop_bounded := by decide

/-- The estimate has settled at 1 after each release. -/
theorem estimator_tracks_sample :
    ∃ t, Runs.after MonitorTask.iterate (MonitorTask.startOn 1) onTimeJobs 3 = some t ∧
      (t.me.metrics.lastCyclicTaskReadyTime.toNat : ℤ) = 161 ∧
      t.me.metrics.lastLatency.toInt = 5 := by
  obtain ⟨t, hafter, hready, hlatency, -⟩ := estimator_tracks onTimeStream
    (show OnTime sampleProps 100 onTimeJobs 3 from ⟨by decide, by decide, by decide⟩)
    (show 2 < 3 by decide)
  exact ⟨t, hafter, hready.trans (by decide), hlatency.trans (by decide)⟩

end RtTaskTrace
