import RtTaskTrace.Supervisor.Exactness
import Mathlib.Data.List.Chain
import Mathlib.Data.List.Induction

namespace RtTaskTrace

open Runs

/-!
# How the counters of a monitor bound each other

A depletion is an overrun by more than the period, so it is a loss as well; a loss or an overrun
means that the execution ended after the time it was judged against, so the loop makes a stride
for it.  The loop's count is the only one that can wrap: executions that start over and over
before the last one stopped make it count the same time again.

* `Estimate.Consistent` — the four bounds, on the estimator's whole numbers; `Consistent.step`;
* `follow_consistent`, `follow_cycles_le` — over every list of executions, and the bound on the
  cycles for one in order;
* `countedCycles` — the strides of the loops of a run;
* `counters_consistent` — the bounds on the counters of a run;
* `counters_wrap` — a run that counts `2^64` cycles.
-/

/-! ### The estimator -/

namespace Estimate

/-- The counts bound each other. -/
structure Consistent (e : Estimate) : Prop where
  depletions_le_overruns : e.depletions ≤ e.overruns
  depletions_le_losses : e.depletions ≤ e.losses
  losses_le_cycles : e.losses ≤ e.cycles
  overruns_le_cycles : e.overruns ≤ e.cycles

theorem consistent_initial : Consistent initial := ⟨le_rfl, le_rfl, le_rfl, le_rfl⟩

variable {e : Estimate} {timing : Timing} {x : Execution}

/-- A depletion is a loss. -/
theorem lost_of_depleted (hdeadline : timing.deadline ≤ timing.period)
    (h : x.Depleted timing) : e.Lost timing x := by
  have hlong := h.2
  have hread := e.readyAt_le_start x
  unfold Lost
  omega

/-- A loss or an overrun is an execution that ends after the time it is judged against. -/
theorem readyAt_lt_stop (h : e.Lost timing x ∨ x.Overrun timing) : e.readyAt x < x.stop := by
  rcases h with hlost | hover
  · unfold Lost at hlost
    omega
  · have hread := e.readyAt_le_start x
    unfold Execution.Overrun at hover
    omega

/-- **One execution** keeps the bounds. -/
theorem Consistent.step (h : e.Consistent) (hp : 0 < timing.period)
    (hdeadline : timing.deadline ≤ timing.period) : (e.step timing x).Consistent := by
  have hcycles : e.Lost timing x ∨ x.Overrun timing →
      1 ≤ (x.stop - e.readyAt x) ⌈/⌉ timing.period :=
    fun hcounted => Loop.one_le_strides hp (readyAt_lt_stop hcounted)
  have hdepleted := h.depletions_le_overruns
  have hdepletedLost := h.depletions_le_losses
  have hlosses := h.losses_le_cycles
  have hoverruns := h.overruns_le_cycles
  refine ⟨?_, ?_, ?_, ?_⟩
  · rw [step_depletions, step_overruns]
    by_cases hd : x.Depleted timing
    · rw [if_pos hd, if_pos hd.1]
      omega
    · rw [if_neg hd]
      split <;> omega
  · rw [step_depletions, step_losses]
    by_cases hd : x.Depleted timing
    · rw [if_pos hd, if_pos (lost_of_depleted hdeadline hd)]
      omega
    · rw [if_neg hd]
      split <;> omega
  · rw [step_losses, step_cycles]
    split
    · rename_i hlost
      have := hcycles (.inl hlost)
      omega
    · omega
  · rw [step_overruns, step_cycles]
    split
    · rename_i hover
      have := hcycles (.inr hover)
      omega
    · omega

/-- **Over every list of executions** the bounds hold, and nothing is counted twice. -/
theorem follow_consistent {xs : List (Timing × Execution)}
    (h : ∀ x ∈ xs, 0 < x.1.period ∧ x.1.deadline ≤ x.1.period) :
    (follow xs).Consistent ∧ (follow xs).losses ≤ xs.length ∧ (follow xs).overruns ≤ xs.length := by
  induction xs using List.reverseRecOn with
  | nil => exact ⟨consistent_initial, le_rfl, le_rfl⟩
  | append_singleton xs x ih =>
    obtain ⟨hc, hlosses, hoverruns⟩ := ih fun y hy => h y (List.mem_append_left _ hy)
    obtain ⟨hp, hdeadline⟩ := h x (List.mem_append_right _ (List.mem_singleton_self x))
    rw [follow_append, List.foldl_cons, List.foldl_nil, List.length_append, List.length_singleton]
    refine ⟨hc.step hp hdeadline, ?_, ?_⟩
    · rw [step_losses]
      split <;> omega
    · rw [step_overruns]
      split <;> omega

/-- No execution starts before the one before it stopped. -/
def InOrder (xs : List (Timing × Execution)) : Prop :=
  xs.IsChain fun x y => x.2.stop ≤ y.2.start

instance (xs : List (Timing × Execution)) : Decidable (InOrder xs) :=
  inferInstanceAs (Decidable (xs.IsChain fun x y => x.2.stop ≤ y.2.start))

/-- **Executions in order** are walked over once, so there are no more cycles than there is time
    from the first start to the last stop; and the estimate is not before that. -/
theorem follow_cycles_le {xs : List (Timing × Execution)}
    (h : ∀ x ∈ xs, 0 < x.1.period ∧ x.2.InRange) (hordered : InOrder xs) :
    ∀ first ∈ xs.head?, ∀ last ∈ xs.getLast?,
      (follow xs).cycles + first.2.start ≤ last.2.stop ∧ last.2.stop ≤ (follow xs).ready := by
  induction xs using List.reverseRecOn with
  | nil =>
    intro first hfirst
    exact absurd hfirst (by simp)
  | append_singleton xs x ih =>
    obtain ⟨hp, hx⟩ := h x (List.mem_append_right _ (List.mem_singleton_self x))
    obtain ⟨hxs, -, hnext⟩ := List.isChain_append.mp hordered
    have hstrides := Loop.strides_le hp ((follow xs).readyAt x.2) x.2.stop
    have hread := (follow xs).readyAt_le_start x.2
    have hbounds := hx.ordered
    intro first hfirst last hlast
    rw [List.getLast?_concat] at hlast
    obtain rfl := Option.some.inj hlast
    rw [follow_append, List.foldl_cons, List.foldl_nil, step_cycles]
    refine ⟨?_, stop_le_step_ready hp⟩
    cases hend : xs.getLast? with
    | none =>
      -- the first execution
      obtain rfl := List.getLast?_eq_none_iff.mp hend
      obtain rfl := Option.some.inj hfirst
      have hat : (follow []).readyAt x.2 = x.2.start := if_pos (.inl rfl)
      have hzero : (follow []).cycles = 0 := rfl
      rw [hat] at hstrides ⊢
      omega
    | some last =>
      have hne : xs ≠ [] := by
        rintro rfl
        exact absurd hend (by simp)
      rw [List.head?_append_of_ne_nil xs hne] at hfirst
      obtain ⟨hcycles, hready⟩ := ih (fun y hy => h y (List.mem_append_left _ hy)) hxs first hfirst
        last hend
      have hstart := hnext last hend x rfl
      -- The time the execution is judged against is not before the last stop.
      have hat : last.2.stop ≤ (follow xs).readyAt x.2 := by
        unfold readyAt
        split <;> omega
      omega

/-- So a count of them has not wrapped. -/
theorem follow_cycles_lt {xs : List (Timing × Execution)}
    (h : ∀ x ∈ xs, 0 < x.1.period ∧ x.2.InRange) (hordered : InOrder xs) :
    (follow xs).cycles < 2 ^ 64 := by
  rcases List.eq_nil_or_concat' xs with rfl | ⟨ys, last, rfl⟩
  · exact Nat.two_pow_pos 64
  · obtain ⟨first, hfirst⟩ : ∃ first, (ys ++ [last]).head? = some first :=
      ⟨_, List.head?_eq_some_head (List.concat_ne_nil _ _)⟩
    have hbound := (follow_cycles_le h hordered first hfirst last List.getLast?_concat).1
    have hstop := (h last (List.mem_append_right _ (List.mem_singleton_self last))).2.bounded
    omega

end Estimate

/-! ### The monitor -/

namespace MonitorTask

variable {task : MonitorTask} {me : MonitorThread} {scheduler : ℤ} {fopen : Bool}
  {es : List MonitorInput}

/-- The executions supervised along a run in range are in range, and so are their periods. -/
theorem supervisions_inRange (h : Run iterate (start me scheduler fopen) es task)
    (hrange : Along iterate InRange (start me scheduler fopen) es) :
    ∀ x ∈ supervisions (start me scheduler fopen) es, x.1.InRange ∧ x.2.InRange := by
  refine h.history_along (P := fun es _ =>
    ∀ x ∈ supervisions (start me scheduler fopen) es, x.1.InRange ∧ x.2.InRange) hrange
    (fun x hx => absurd hx List.not_mem_nil) ?_
  intro es task input task' hes ih hin hstep
  cases hsome : task.supervisedWith input with
  | none =>
    rw [supervisions_concat_none hes hstep hsome]
    exact ih
  | some props =>
    rw [supervisions_concat_some hes hstep hsome]
    intro x hx
    rcases List.mem_append.mp hx with hold | hnew
    · exact ih x hold
    · rw [List.mem_singleton.mp hnew]
      exact (hin props hsome).symm

/-- The strides that the loop of a round makes. -/
def strides (task : MonitorTask) (input : MonitorInput) (_ : MonitorTask) : List ℕ :=
  match task.supervisedWith input with
  | none => []
  | some props => [(task.recordedMetrics input).steps props]

/-- The strides that the loops of a run make. -/
def countedCycles (task : MonitorTask) (es : List MonitorInput) : ℕ :=
  (records iterate strides task es).sum

/-- They are the cycles of the estimator. -/
theorem countedCycles_eq (h : Run iterate (start me scheduler fopen) es task)
    (hrange : Along iterate InRange (start me scheduler fopen) es) :
    countedCycles (start me scheduler fopen) es
      = (Estimate.follow (supervisions (start me scheduler fopen) es)).cycles := by
  refine inRange_induction (P := fun es _ => countedCycles (start me scheduler fopen) es
    = (Estimate.follow (supervisions (start me scheduler fopen) es)).cycles) h hrange rfl ?_
  intro es task input task' hes href ih hin hstep
  rw [countedCycles, records_concat hes hstep, List.sum_append, strides]
  change countedCycles (start me scheduler fopen) es + _ = _
  rw [ih]
  cases hsome : task.supervisedWith input with
  | none =>
    rw [supervisions_concat_none hes hstep hsome]
    rfl
  | some props =>
    obtain ⟨hx, -⟩ := hin props hsome
    obtain ⟨hr, ho⟩ := recordResponseTime_refines href hx
    have hsteps : (task.recordedMetrics input).steps props = _ := steps_eq hr ho props
    rw [supervisions_concat_some hes hstep hsome, Estimate.follow_append, List.foldl_cons,
      List.foldl_nil, Estimate.step_cycles]
    simp only [List.sum_singleton, hsteps]
    rfl

/-- **The counters of a monitor.**  In a run in range that supervises fewer than `2^32`
    executions, with deadlines not longer than the periods, there are at most as many depletions
    as overruns and as losses; and there are at most as many losses and overruns as cycles, as
    long as the loops of the run make fewer than `2^64` strides, which is so when no execution
    starts before the one before it stopped. -/
theorem counters_consistent (h : Run iterate (start me scheduler fopen) es task)
    (hrange : Along iterate InRange (start me scheduler fopen) es)
    (hdeadline : ∀ x ∈ supervisions (start me scheduler fopen) es, x.1.deadline ≤ x.1.period)
    (hlength : (supervisions (start me scheduler fopen) es).length < 2 ^ 32) :
    (task.me.metrics.taskDepletedCount ≤ task.me.metrics.runtimeOverrunCount ∧
      task.me.metrics.taskDepletedCount ≤ task.me.metrics.deadlineLostCount) ∧
    (countedCycles (start me scheduler fopen) es < 2 ^ 64 →
      task.me.metrics.runtimeOverrunCount.toNat ≤ task.me.metrics.cycleCount.toNat ∧
        task.me.metrics.deadlineLostCount.toNat ≤ task.me.metrics.cycleCount.toNat) ∧
    (Estimate.InOrder (supervisions (start me scheduler fopen) es) →
      countedCycles (start me scheduler fopen) es < 2 ^ 64) := by
  have href := follow_run h hrange
  have hall := supervisions_inRange h hrange
  rw [countedCycles_eq h hrange]
  generalize supervisions (start me scheduler fopen) es = xs at hdeadline hlength href hall ⊢
  obtain ⟨hc, hlosses, hoverruns⟩ :=
    Estimate.follow_consistent fun x hx => ⟨(hall x hx).1.1, hdeadline x hx⟩
  have hdepletions := hc.depletions_le_overruns
  -- The three small counts have not wrapped.
  have hlost : task.me.metrics.deadlineLostCount.toNat = (Estimate.follow xs).losses := by
    rw [href.losses, UInt32.toNat_ofNat', Nat.mod_eq_of_lt (by omega)]
  have hover : task.me.metrics.runtimeOverrunCount.toNat = (Estimate.follow xs).overruns := by
    rw [href.overruns, UInt32.toNat_ofNat', Nat.mod_eq_of_lt (by omega)]
  have hdepleted : task.me.metrics.taskDepletedCount.toNat = (Estimate.follow xs).depletions := by
    rw [href.depletions, UInt32.toNat_ofNat', Nat.mod_eq_of_lt (by omega)]
  refine ⟨⟨?_, ?_⟩, fun hcount => ?_, fun hordered => ?_⟩
  · rw [UInt32.le_iff_toNat_le, hdepleted, hover]
    exact hdepletions
  · rw [UInt32.le_iff_toNat_le, hdepleted, hlost]
    exact hc.depletions_le_losses
  · rw [hover, hlost, href.cycles, UInt64.toNat_ofNat', Nat.mod_eq_of_lt hcount]
    exact ⟨hc.overruns_le_cycles, hc.losses_le_cycles⟩
  · exact Estimate.follow_cycles_lt (fun x hx => ⟨(hall x hx).1.1, (hall x hx).2⟩) hordered

theorem counters_consistent_sample :
    ∃ task, Run iterate (startOn 1) sampleRounds task ∧
      task.me.metrics.taskDepletedCount ≤ task.me.metrics.deadlineLostCount ∧
      task.me.metrics.deadlineLostCount.toNat ≤ task.me.metrics.cycleCount.toNat := by
  obtain ⟨task, hrun⟩ : ∃ task, Run iterate (startOn 1) sampleRounds task :=
    ⟨_, run_get _ _ (by decide)⟩
  obtain ⟨⟨-, hlost⟩, hcycles, hordered⟩ :=
    counters_consistent hrun (by decide) (by decide) (by decide)
  exact ⟨task, hrun, hlost, (hcycles (hordered (by decide))).2⟩

/-- A list of executions of a deadline task leads a monitor that watches it along the estimator. -/
theorem run_of_jobs {props : DeadlineProps} {pid : PidT} (hprops : props.timing.InRange)
    (hjobs : ∀ input ∈ es, IsJob props pid input ∧ input.execution.InRange) {e : Estimate}
    (hw : Watching pid task) (href : Refines task.me.metrics e) :
    ∃ task', Run iterate task es task' ∧ Refines task'.me.metrics
      (es.foldl (fun e input => e.step props.timing input.execution) e) := by
  induction es generalizing task e with
  | nil => exact ⟨task, (run_nil task task).mpr rfl, href⟩
  | cons input es ih =>
    obtain ⟨⟨hjob, hx⟩, hrest⟩ := List.forall_mem_cons.mp hjobs
    obtain ⟨u, hu, hwu, hrefu⟩ := iterate_job_refines hw href hjob hx hprops
    obtain ⟨task', hrun, href'⟩ := ih hrest hwu hrefu
    exact ⟨task', (run_cons task task' input es).mpr ⟨u, hu, hrun⟩, href'⟩

/-- Four executions from 1 to `2^62 - 1`, and one from 1 to 9, of a task whose runtime, deadline
    and period are 1. -/
def wrappingRounds : List MonitorInput :=
  List.replicate 4 (jobInput ⟨1, 1, 1⟩ 1 1 4611686018427387903) ++ [jobInput ⟨1, 1, 1⟩ 1 1 9]

/-- **The cycles wrap.**  After five executions, each of them a loss, an overrun and a depletion,
    no cycle is counted. -/
theorem counters_wrap :
    (∀ input ∈ wrappingRounds, IsJob ⟨1, 1, 1⟩ 1 input ∧ input.execution.InRange) ∧
    ∃ task, Run iterate (startOn 1) wrappingRounds task ∧
      task.me.metrics.cycleCount = 0 ∧ task.me.metrics.deadlineLostCount = 5 ∧
      task.me.metrics.runtimeOverrunCount = 5 := by
  have hjobs : ∀ input ∈ wrappingRounds, IsJob ⟨1, 1, 1⟩ 1 input ∧ input.execution.InRange := by
    intro input hinput
    rcases List.mem_append.mp hinput with hlong | hshort
    · rw [List.eq_of_mem_replicate hlong]
      exact ⟨isJob_jobInput _ _ _ _, by decide⟩
    · rw [List.mem_singleton.mp hshort]
      exact ⟨isJob_jobInput _ _ _ _, by decide⟩
  obtain ⟨task, hrun, href⟩ := run_of_jobs (by decide) hjobs (watching_startOn 1) refines_init
  refine ⟨hjobs, task, hrun, ?_, ?_, ?_⟩
  · rw [href.cycles]
    decide
  · rw [href.losses]
    decide
  · rw [href.overruns]
    decide

end MonitorTask

end RtTaskTrace
