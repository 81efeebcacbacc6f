import RtTaskTrace.Supervisor.Refinement

namespace RtTaskTrace

/-!
# What a counted deadline loss means

The monitor of a deadline task with constant parameters, from its start, over the telegrams
of consecutive jobs (`JobStream`).  Job `k` is released at `r + k * P`, a time the monitor
never sees.

* `deadlineLoss_sound` — a job counted as lost did end after its deadline;
* `deadlineLoss_complete` — a late job is counted, as long as no earlier job has pushed the
  estimate past the release since the last one that started on time;
* `deadlineLoss_missed` — and without that condition it is not: the adjustment after a loss
  hides the next one.

Both directions are read off the estimator's runs (`Estimate.late_of_lost`,
`Estimate.readyAt_le_release_add_delay`) through `JobStream.round`.
-/

open Estimate

/-- A monitor that has just been started on a deadline task, and the telegrams of its first
    `n` jobs, read with the same parameters each time. -/
structure JobStream (props : DeadlineProps) (pid : PidT) (task : MonitorTask)
    (input : ℕ → MonitorInput) (n : ℕ) : Prop where
  watching : Watching pid task
  fresh : task.me.metrics = MonitorMetrics.init
  period_pos : 0 < props.period.toNat
  period_bounded : props.period.toNat < 2 ^ 62
  job : ∀ k < n, IsJob props pid (input k)
  start_pos : ∀ k < n, 0 < (input k).telegram.t1.toNat
  start_lt_stop : ∀ k < n, (input k).telegram.t1.toNat < (input k).telegram.t2.toNat
  stop_bounded : ∀ k < n, (input k).telegram.t2.toNat < 2 ^ 62

/-- The losses the monitor has counted before job `k`. -/
def lossesBefore (task : MonitorTask) (input : ℕ → MonitorInput) (k : ℕ) : Option UInt32 :=
  (Runs.after MonitorTask.iterate task input k).map fun t => t.me.metrics.deadlineLostCount

namespace JobStream

variable {props : DeadlineProps} {pid : PidT} {task : MonitorTask} {input : ℕ → MonitorInput}
  {n : ℕ}

/-- The estimator's run over the executions of the stream. -/
def estimates (props : DeadlineProps) (input : ℕ → MonitorInput) (k : ℕ) : Estimate :=
  Estimate.run (fun _ => props.timing) (fun j => (input j).execution) k

theorem timing_pos (h : JobStream props pid task input n) : 0 < props.timing.period :=
  h.period_pos

theorem inRange (h : JobStream props pid task input n) {k : ℕ} (hk : k < n) :
    (input k).execution.InRange :=
  ⟨h.start_pos k hk, (h.start_lt_stop k hk).le, h.stop_bounded k hk⟩

/-- The count is the estimator's, in the width of the field. -/
theorem lossesBefore_eq (h : JobStream props pid task input n) {k : ℕ} (hk : k ≤ n) :
    lossesBefore task input k = some (UInt32.ofNat (estimates props input k).losses) := by
  have hinit : Refines task.me.metrics Estimate.initial := by
    rw [h.fresh]
    exact refines_init
  obtain ⟨t, ht, -, href⟩ := jobs_refine (fun _ => props) h.watching hinit
    (fun j hj => h.job j hj) (fun j hj => h.inRange hj)
    (fun j _ => ⟨h.period_pos, h.period_bounded⟩) k hk
  rw [lossesBefore, ht, Option.map_some, href.losses]
  rfl

/-- **One job adds one to the count exactly when it is lost to the estimator.** -/
theorem round (h : JobStream props pid task input n) {k : ℕ} (hk : k < n) :
    ∃ c, lossesBefore task input k = some c ∧
      lossesBefore task input (k + 1) =
        some (if (estimates props input k).Lost props.timing (input k).execution then c + 1
              else c) := by
  refine ⟨_, h.lossesBefore_eq hk.le, ?_⟩
  rw [h.lossesBefore_eq hk]
  have hsucc : (estimates props input (k + 1)).losses = _ :=
    step_losses (estimates props input k) props.timing (input k).execution
  rw [hsucc]
  split
  · rw [UInt32.ofNat_add]
    rfl
  · rfl

end JobStream

/-- **No false deadline loss.**  A job the monitor counts did end more than a deadline after
    its release, and so the count never exceeds the number of late jobs. -/
theorem deadlineLoss_sound {props : DeadlineProps} {pid : PidT} {task : MonitorTask}
    {input : ℕ → MonitorInput} {n : ℕ} (r0 : ℤ) (h : JobStream props pid task input n)
    (hrelease : ∀ k < n, r0 + k * props.period.toNat ≤ (input k).telegram.t1.toNat) :
    (∀ k < n, ∃ c c', lossesBefore task input k = some c ∧
      lossesBefore task input (k + 1) = some c' ∧
      (c' ≠ c → r0 + k * props.period.toNat + props.deadline.toNat
        < (input k).telegram.t2.toNat)) ∧
    ∃ c, lossesBefore task input n = some c ∧
      c.toNat ≤ (List.range n).countP fun k =>
        r0 + k * props.period.toNat + props.deadline.toNat < (input k).telegram.t2.toNat := by
  have hlate : ∀ k < n, (JobStream.estimates props input k).Lost props.timing
      (input k).execution → r0 + k * props.period.toNat + props.deadline.toNat
        < (input k).telegram.t2.toNat := fun k hk hlost =>
    late_of_lost (x := fun j => (input j).execution) h.timing_pos h.start_lt_stop hrelease hk hlost
  refine ⟨fun k hk => ?_, ?_⟩
  · obtain ⟨c, hc, hc'⟩ := h.round hk
    refine ⟨c, _, hc, hc', fun hne => ?_⟩
    by_cases hlost : (JobStream.estimates props input k).Lost props.timing (input k).execution
    · exact hlate k hk hlost
    · rw [if_neg hlost] at hne
      exact absurd rfl hne
  · refine ⟨_, h.lossesBefore_eq le_rfl, ?_⟩
    -- the count is the number of lost jobs, up to the width of the field
    have hmod : (UInt32.ofNat (JobStream.estimates props input n).losses).toNat
        ≤ (JobStream.estimates props input n).losses := by
      rw [UInt32.toNat_ofNat']
      exact Nat.mod_le _ _
    apply hmod.trans
    rw [JobStream.estimates, run_losses]
    apply List.countP_mono_left
    intro k hk hlost
    exact decide_eq_true (hlate k (List.mem_range.mp hk) (of_decide_eq_true hlost))

/-! ### A stream that shows the adjustment at work

A task with runtime 5, deadline 10 and period 20, released at 100, 120 and 140.  Job 1 starts
8 late and ends 3 after its deadline, without an overrun: the loss is counted and the estimate
pushed 8 past the next release.  Job 2 ends one after its deadline and is judged in time. -/

/-- The parameters of the task. -/
def sampleProps : DeadlineProps := ⟨5, 10, 20⟩

/-- Its jobs. -/
def sampleJobs : ℕ → MonitorInput
  | 0 => jobInput sampleProps 1 100 105
  | 1 => jobInput sampleProps 1 128 133
  | _ => jobInput sampleProps 1 146 151

theorem sampleStream : JobStream sampleProps 1 (MonitorTask.startOn 1) sampleJobs 3 where
  watching := watching_startOn 1
  fresh := rfl
  period_pos := by decide
  period_bounded := by decide
  job := by
    intro k _
    match k with
    | 0 => exact isJob_jobInput _ _ _ _
    | 1 => exact isJob_jobInput _ _ _ _
    | _ + 2 => exact isJob_jobInput _ _ _ _
  start_pos := by decide
  start_lt_stop := by decide
  stop_bounded := by decide

/-- The stream has two late jobs. -/
theorem deadlineLoss_sound_sample :
    ∃ c, lossesBefore (MonitorTask.startOn 1) sampleJobs 3 = some c ∧ c.toNat ≤ 2 :=
  (deadlineLoss_sound 100 sampleStream (by decide)).2

/-- **The adjustment hides a loss.**  Job 2 ends after its deadline and is not counted. -/
theorem deadlineLoss_missed :
    JobStream sampleProps 1 (MonitorTask.startOn 1) sampleJobs 3 ∧
      (0 < sampleProps.runtime ∧ sampleProps.runtime ≤ sampleProps.deadline ∧
        sampleProps.deadline ≤ sampleProps.period) ∧
      (sampleJobs 0).telegram.t1.toNat = 100 ∧
      (∀ k < 3, 100 + k * sampleProps.period.toNat ≤ (sampleJobs k).telegram.t1.toNat) ∧
      (∀ k < 2, (sampleJobs k).telegram.t2 ≤ (sampleJobs (k + 1)).telegram.t1) ∧
      100 + 2 * sampleProps.period.toNat + sampleProps.deadline.toNat
        < (sampleJobs 2).telegram.t2.toNat ∧
      lossesBefore (MonitorTask.startOn 1) sampleJobs 2 = some 1 ∧
      lossesBefore (MonitorTask.startOn 1) sampleJobs 3 = some 1 :=
  ⟨sampleStream, by decide, by decide, by decide, by decide, by decide, by decide, by decide⟩

/-! ### When a late job is counted -/

/-- Job `k`, released at `r + k * P`, does not disturb the estimate: it ends by the next
    release and, if it is late, it overran its runtime or started at its release. -/
def LeavesEstimate (props : DeadlineProps) (r : ℤ) (input : ℕ → MonitorInput) (k : ℕ) : Prop :=
  (input k).telegram.t2.toNat ≤ r + k * props.period.toNat + props.period.toNat ∧
    ((input k).telegram.t2.toNat ≤ r + k * props.period.toNat + props.deadline.toNat ∨
      props.runtime.toNat < (input k).telegram.t2.toNat - (input k).telegram.t1.toNat ∨
      (input k).telegram.t1.toNat = r + k * props.period.toNat)

/-- **No missed deadline loss** after jobs that leave the estimate alone.  Let `i` be any job
    since which none has disturbed the estimate: a job that ends more than a deadline, and the
    delay `i` started with, after its release is counted. -/
theorem deadlineLoss_complete {props : DeadlineProps} {pid : PidT} {task : MonitorTask}
    {input : ℕ → MonitorInput} {n : ℕ} (r0 : ℤ) (h : JobStream props pid task input n)
    (hrelease : ∀ k < n, r0 + k * props.period.toNat ≤ (input k).telegram.t1.toNat)
    {i k : ℕ} (hik : i ≤ k) (hk : k < n)
    (hleaves : ∀ j, i ≤ j → j < k → LeavesEstimate props r0 input j)
    (hlate : r0 + k * props.period.toNat + props.deadline.toNat
        + ((input i).telegram.t1.toNat - (r0 + i * props.period.toNat))
      < (input k).telegram.t2.toNat) :
    ∃ c, lossesBefore task input k = some c ∧
      lossesBefore task input (k + 1) = some (c + 1) := by
  obtain ⟨c, hc, hc'⟩ := h.round hk
  have hle := readyAt_le_release_add_delay (x := fun j => (input j).execution) (r := r0) h.timing_pos
    h.start_pos h.start_lt_stop hrelease hik hk hleaves
  have hlost : (JobStream.estimates props input k).Lost props.timing
      (input k).execution := by
    have hstart := h.start_lt_stop k hk
    have hread := (JobStream.estimates props input k).readyAt_le_start (input k).execution
    show props.deadline.toNat < (input k).telegram.t2.toNat
      - (JobStream.estimates props input k).readyAt (input k).execution
    change ((JobStream.estimates props input k).readyAt (input k).execution : ℤ)
      ≤ r0 + k * props.period.toNat
        + ((input i).telegram.t1.toNat - (r0 + i * props.period.toNat)) at hle
    omega
  rw [if_pos hlost] at hc'
  exact ⟨c, hc, hc'⟩

/-- Job 1 of the stream: job 0 met its deadline, so the loss is counted. -/
theorem deadlineLoss_complete_sample :
    ∃ c, lossesBefore (MonitorTask.startOn 1) sampleJobs 1 = some c ∧
      lossesBefore (MonitorTask.startOn 1) sampleJobs 2 = some (c + 1) :=
  deadlineLoss_complete 100 sampleStream (by decide) (i := 0) (k := 1) (by decide) (by decide)
    (by
      intro j _ hj
      obtain rfl : j = 0 := by omega
      exact ⟨by decide, Or.inl (by decide)⟩)
    (by decide)

end RtTaskTrace
