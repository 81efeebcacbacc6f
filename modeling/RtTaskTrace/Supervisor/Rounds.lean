import RtTaskTrace.Supervisor.Refinement

namespace RtTaskTrace

open Runs

/-!
# Runs of a monitor over any mix of inputs

A monitor meets more than the executions of a deadline task: short reads, foreign telegrams,
performance marks, telegrams that come while the task has another policy or its parameters
cannot be read.  Only the rounds it *supervises* reach the deadline branch.

* `MonitorTask.supervisedWith` — the parameters with which a round does, if it does;
* `iterate_metrics` — all that a round can do to the metrics;
* `supervisions` — the executions supervised along a run, with the timing read for each;
* `follow_run` — over them the monitor makes a run of the estimator, whatever came between;
  `inRange_induction` is the induction rule that has it at hand.
-/

/-! ### One round -/

namespace MonitorTask

variable {task task' : MonitorTask} {input : MonitorInput}

/-- The parameters with which a round runs the deadline branch: those it reads, when it is on a
    start/stop telegram of its task and takes that for a deadline task. -/
def supervisedWith (task : MonitorTask) (input : MonitorInput) : Option DeadlineProps :=
  if OwnReport task.me.pid input ∧ task.me.policy = schedDeadline then
    (PID.getDeadlinePropeties input.reads.scheduler input.reads.attr).toOption
  else none

/-- The metrics with the times of the round's telegram. -/
def recordedMetrics (task : MonitorTask) (input : MonitorInput) : MonitorMetrics :=
  task.me.metrics.recordResponseTime input.telegram.t1 input.telegram.t2

theorem recordedMetrics_eq (task : MonitorTask) (input : MonitorInput) :
    ∃ minRT WCRT, task.recordedMetrics input =
      { task.me.metrics with
        lastStartRunTime := input.telegram.t1, lastStopRunTime := input.telegram.t2
        lastRT := input.telegram.t2 - input.telegram.t1, minRT := minRT, WCRT := WCRT } :=
  recordResponseTime_eq _ _ _

theorem supervisedWith_eq_some {props : DeadlineProps}
    (h : task.supervisedWith input = some props) :
    OwnReport task.me.pid input ∧ task.me.policy = schedDeadline ∧
      PID.getDeadlinePropeties input.reads.scheduler input.reads.attr = .ok props := by
  unfold supervisedWith at h
  by_cases hcond : OwnReport task.me.pid input ∧ task.me.policy = schedDeadline
  · rw [if_pos hcond] at h
    refine ⟨hcond.1, hcond.2, ?_⟩
    cases hread : PID.getDeadlinePropeties input.reads.scheduler input.reads.attr with
    | error error =>
      rw [hread] at h
      exact absurd h (by simp [Except.toOption])
    | ok props' =>
      rw [hread] at h
      exact congrArg Except.ok (Option.some.inj h)
  · rw [if_neg hcond] at h
    exact absurd h (by simp)

/-- **A round on a start/stop telegram that is not supervised** only records the times. -/
theorem iterate_unsupervised (h : task.iterate input = some task')
    (hreport : OwnReport task.me.pid input) (hnone : task.supervisedWith input = none) :
    task'.me.metrics = task.recordedMetrics input := by
  rw [iterate_report (running_of_iterate h) hreport] at h
  obtain ⟨handled, hhandle, rfl⟩ := Option.map_eq_some_iff.mp h
  by_cases hpolicy : ({ task.me with telegram := input.telegram } : MonitorThread).policy
      = schedDeadline
  · cases hread : PID.getDeadlinePropeties input.reads.scheduler input.reads.attr with
    | error error =>
      rw [MonitorThread.handleStartAndStop_failed hpolicy hread] at hhandle
      cases hhandle
      rfl
    | ok props =>
      -- Parameters that were read are used.
      rw [supervisedWith, if_pos ⟨hreport, hpolicy⟩, hread] at hnone
      exact absurd hnone (by simp [Except.toOption])
  · rw [MonitorThread.handleStartAndStop_other hpolicy] at hhandle
    cases hhandle
    rfl

/-- **A supervised round** is the deadline branch. -/
theorem iterate_update (hrunning : task.exited = false) {props : DeadlineProps}
    (hsome : task.supervisedWith input = some props) :
    (task.iterate input).map (fun task' => task'.me.metrics)
      = (task.recordedMetrics input).update props := by
  obtain ⟨hreport, hpolicy, hread⟩ := supervisedWith_eq_some hsome
  have hpolicy' : ({ task.me with telegram := input.telegram } : MonitorThread).policy
      = schedDeadline := hpolicy
  have hmetrics : (MonitorThread.recorded { task.me with telegram := input.telegram }).metrics
      = task.recordedMetrics input := rfl
  rw [iterate_report hrunning hreport, MonitorThread.handleStartAndStop_deadline hpolicy' hread,
    ← hmetrics, ← MonitorThread.deadlineUpdate_metrics _ props input.fopen, Option.map_map,
    Option.map_map]
  rfl

/-- It leaves what the branch computes. -/
theorem iterate_supervised (h : task.iterate input = some task') {props : DeadlineProps}
    (hsome : task.supervisedWith input = some props) :
    (task.recordedMetrics input).update props = some task'.me.metrics := by
  rw [← iterate_update (running_of_iterate h) hsome, h]
  rfl

/-- And it returns when the branch does. -/
theorem iterate_of_update (hrunning : task.exited = false) {props : DeadlineProps}
    (hsome : task.supervisedWith input = some props) {m : MonitorMetrics}
    (hupdate : (task.recordedMetrics input).update props = some m) :
    ∃ task', task.iterate input = some task' ∧ task'.me.metrics = m :=
  Option.map_eq_some_iff.mp ((iterate_update hrunning hsome).trans hupdate)

/-- **All that a round can do to the metrics.** -/
theorem iterate_metrics (h : task.iterate input = some task') :
    (¬ OwnReport task.me.pid input ∧ task.supervisedWith input = none ∧
      ∃ perfMarks, task'.me.metrics = { task.me.metrics with perfMarks := perfMarks }) ∨
    (OwnReport task.me.pid input ∧ task.supervisedWith input = none ∧
      task'.me.metrics = task.recordedMetrics input) ∨
    (OwnReport task.me.pid input ∧ ∃ props, task.supervisedWith input = some props ∧
      (task.recordedMetrics input).update props = some task'.me.metrics) := by
  by_cases hreport : OwnReport task.me.pid input
  · cases hsome : task.supervisedWith input with
    | none => exact .inr (.inl ⟨hreport, rfl, iterate_unsupervised h hreport hsome⟩)
    | some props => exact .inr (.inr ⟨hreport, props, rfl, iterate_supervised h hsome⟩)
  · obtain ⟨perfMarks, hme⟩ := iterate_other h hreport
    refine .inl ⟨hreport, ?_, perfMarks, by rw [hme]⟩
    rw [supervisedWith, if_neg fun hcond => hreport hcond.1]

/-- A round that is not supervised changes at most the times, what is kept of the response time, and
    the marks. -/
theorem unsupervised_metrics (h : task.iterate input = some task')
    (hnone : task.supervisedWith input = none) :
    ∃ t1 t2 lastRT minRT WCRT perfMarks, task'.me.metrics =
      { task.me.metrics with
        lastStartRunTime := t1, lastStopRunTime := t2, lastRT := lastRT, minRT := minRT
        WCRT := WCRT, perfMarks := perfMarks } := by
  rcases iterate_metrics h with ⟨-, -, perfMarks, hmetrics⟩ | ⟨-, -, hmetrics⟩ |
    ⟨-, props, hsome, -⟩
  · exact ⟨_, _, _, _, _, perfMarks, hmetrics⟩
  · obtain ⟨minRT, WCRT, heq⟩ := task.recordedMetrics_eq input
    exact ⟨_, _, _, minRT, WCRT, _, hmetrics.trans heq⟩
  · exact absurd (hnone.symm.trans hsome) (by simp)

/-! ### Runs -/

/-- The telegram of a supervised round, in the terms of the estimator. -/
def supervises (task : MonitorTask) (input : MonitorInput) (_ : MonitorTask) :
    List (Timing × Execution) :=
  match task.supervisedWith input with
  | none => []
  | some props => [(props.timing, input.execution)]

/-- The executions supervised along a run, each with the timing read for it. -/
def supervisions (task : MonitorTask) (es : List MonitorInput) : List (Timing × Execution) :=
  records iterate supervises task es

/-- A supervised round adds its execution, and no other round adds any. -/
theorem supervisions_concat_some {task₀ : MonitorTask} {es : List MonitorInput}
    {props : DeadlineProps} (h : Run iterate task₀ es task) (hstep : task.iterate input = some task')
    (hsome : task.supervisedWith input = some props) :
    supervisions task₀ (es ++ [input])
      = supervisions task₀ es ++ [(props.timing, input.execution)] := by
  rw [supervisions, records_concat h hstep, supervises, hsome]
  rfl

theorem supervisions_concat_none {task₀ : MonitorTask} {es : List MonitorInput}
    (h : Run iterate task₀ es task) (hstep : task.iterate input = some task')
    (hnone : task.supervisedWith input = none) :
    supervisions task₀ (es ++ [input]) = supervisions task₀ es := by
  rw [supervisions, records_concat h hstep, supervises, hnone]
  exact List.append_nil _

/-- The executions supervised before the last round come first. -/
theorem supervisions_before {task₀ : MonitorTask} {es : List MonitorInput}
    (h : Run iterate task₀ es task) (hstep : task.iterate input = some task') :
    supervisions task₀ es <+: supervisions task₀ (es ++ [input]) := by
  unfold supervisions
  rw [records_concat h hstep]
  exact List.prefix_append _ _

/-- A round that is supervised is so with times the library can send and a period in their
    range. -/
def InRange (task : MonitorTask) (input : MonitorInput) : Prop :=
  ∀ props ∈ task.supervisedWith input, input.execution.InRange ∧ props.timing.InRange

instance (task : MonitorTask) (input : MonitorInput) : Decidable (task.InRange input) :=
  inferInstanceAs (Decidable (∀ props ∈ task.supervisedWith input, _))

end MonitorTask

/-- The estimator over a list of executions. -/
def Estimate.follow (xs : List (Timing × Execution)) : Estimate :=
  xs.foldl (fun e x => e.step x.1 x.2) .initial

@[simp] theorem Estimate.follow_append (xs ys : List (Timing × Execution)) :
    Estimate.follow (xs ++ ys) = ys.foldl (fun e x => e.step x.1 x.2) (Estimate.follow xs) :=
  List.foldl_append

namespace MonitorTask

variable {task task' : MonitorTask} {input : MonitorInput}

/-- **A round makes one step of the estimator if it is supervised, and none if not.** -/
theorem iterate_refines {e : Estimate} (href : Refines task.me.metrics e)
    (hrange : task.InRange input) (h : task.iterate input = some task') :
    Refines task'.me.metrics
      ((task.supervises input task').foldl (fun e x => e.step x.1 x.2) e) := by
  unfold supervises
  cases hsome : task.supervisedWith input with
  | none =>
    obtain ⟨t1, t2, lastRT, minRT, WCRT, perfMarks, hmetrics⟩ := unsupervised_metrics h hsome
    rw [hmetrics]
    exact ⟨href.ready, href.latency, href.adjust, href.cycles, href.losses, href.overruns,
      href.depletions⟩
  | some props =>
    obtain ⟨hx, htiming⟩ := hrange props hsome
    obtain ⟨hr, ho⟩ := recordResponseTime_refines href hx
    obtain ⟨m', hupdate, href'⟩ := update_refines hr ho hx props htiming
    obtain rfl := Option.some.inj (hupdate.symm.trans (iterate_supervised h hsome))
    exact href'

/-- After a supervised round there is a ready time. -/
theorem ready_ne_zero_of_supervised {e : Estimate} {props : DeadlineProps}
    (href : Refines task.me.metrics e) (hrange : task.InRange input)
    (h : task.iterate input = some task') (hsome : task.supervisedWith input = some props) :
    task'.me.metrics.lastCyclicTaskReadyTime ≠ 0 := by
  have href' := iterate_refines href hrange h
  unfold supervises at href'
  rw [hsome] at href'
  obtain ⟨hx, htiming⟩ := hrange props hsome
  have hready : task'.me.metrics.lastCyclicTaskReadyTime.toNat
      = (e.step props.timing input.execution).ready := href'.ready
  have hstop := Estimate.stop_le_step_ready (e := e) (x := input.execution) htiming.1
  have hpos := lt_of_lt_of_le hx.pos hx.ordered
  intro hzero
  rw [hzero, UInt64.toNat_zero] at hready
  omega

/-- **A monitor in range makes a run of the estimator** over the executions it supervises,
    whatever else it meets. -/
theorem follow_run {me : MonitorThread} {scheduler : ℤ} {fopen : Bool} {es : List MonitorInput}
    (h : Run iterate (start me scheduler fopen) es task)
    (hrange : Along iterate InRange (start me scheduler fopen) es) :
    Refines task.me.metrics (.follow (supervisions (start me scheduler fopen) es)) := by
  refine h.history_along (P := fun es task =>
    Refines task.me.metrics (.follow (supervisions (start me scheduler fopen) es))) hrange
    refines_init ?_
  intro es task input task' hes href hin hstep
  have hstep' := iterate_refines href hin hstep
  rw [supervisions, records_concat hes hstep, Estimate.follow_append]
  exact hstep'

/-- **Induction over a run in range**, with the estimator's run beside it. -/
theorem inRange_induction {me : MonitorThread} {scheduler : ℤ} {fopen : Bool}
    {es : List MonitorInput} {P : List MonitorInput → MonitorTask → Prop}
    (h : Run iterate (start me scheduler fopen) es task)
    (hrange : Along iterate InRange (start me scheduler fopen) es)
    (h0 : P [] (start me scheduler fopen))
    (hstep : ∀ es task input task', Run iterate (start me scheduler fopen) es task →
      Refines task.me.metrics (.follow (supervisions (start me scheduler fopen) es)) →
      P es task → task.InRange input → task.iterate input = some task' →
      P (es ++ [input]) task') : P es task := by
  refine h.history_induction (P := fun es task =>
    Along iterate InRange (start me scheduler fopen) es → P es task) (fun _ => h0) ?_ hrange
  intro es task input task' hes ih hiter hrange
  obtain ⟨hbefore, hin⟩ := (along_concat hes).mp hrange
  exact hstep es task input task' hes (follow_run hes hbefore) (ih hbefore) hin hiter

/-- Three executions of a task with runtime 5, deadline 10 and period 20, of which the second is
    lost, and between them a telegram of another task. -/
def sampleRounds : List MonitorInput :=
  [jobInput ⟨5, 10, 20⟩ 1 100 105, jobInput ⟨5, 10, 20⟩ 2 0 3, jobInput ⟨5, 10, 20⟩ 1 128 133,
    jobInput ⟨5, 10, 20⟩ 1 146 151]

end MonitorTask

end RtTaskTrace
