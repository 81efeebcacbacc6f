import RtTaskTrace.User.TaskTrace
import RtTaskTrace.Supervisor.Refinement

namespace RtTaskTrace

/-!
# The order of start-up

A task initialises its tracing, makes itself a deadline task, and may change its policy later;
the supervisor starts the monitor at some time after the task's pipe has appeared; telegrams
arrive.  `Startup.step` takes these in any order, and lets the policy change between any two
questions that one round of the monitor asks the kernel.

* `Supervised` — the round runs the deadline branch;
* `supervised_iff_policy` — it does so when the thread *holds* the policy `SCHED_DEADLINE`;
* `held_iff` — when it holds that, in terms of what the kernel answered it;
* `startup_supervised_iff` — so which telegrams are supervised depends on the order, and
  `startup_unsupervised` is an order in which none is.
-/

open Runs

variable {N : ℕ} [NeZero N]

/-- What the kernel answers about a task: its policy, and its attributes if they can be
    read. -/
structure Kernel where
  policy : ℤ
  attr : Option SchedAttr
  deriving DecidableEq, Repr

/-- The task, whether its pipe exists, the kernel's view of it and its monitor, once started. -/
structure Startup (N : ℕ) where
  task : TaskTrace N
  pipe : Bool
  kernel : Kernel
  monitor : Option MonitorTask

namespace Startup

/-- One step: `TaskTrace_init`, a change of policy, the start of the monitor thread, or a round
    of it, during which the policy may change before the second and before the third question
    to the kernel. -/
inductive Event
  | taskInit (outcome : SharedMem.InitOutcome)
  | setPolicy (kernel : Kernel)
  | monitorStart (enableLogging fopen : Bool)
  | round (input : MonitorInput) (second third : Kernel)

/-- Before anything: the policy is not yet that of a deadline task. -/
def start (kernel : Kernel) : Startup N := ⟨TaskTrace.zero, false, kernel, none⟩

/-- A task may make itself a deadline task only once it is initialised. -/
def allows (s : Startup N) (kernel : Kernel) : Bool :=
  kernel.policy ≠ schedDeadline || s.task.isInitiallized

/-- What a round is answered. -/
def reads (s : Startup N) (second third : Kernel) : SchedReads :=
  ⟨s.kernel.policy, second.attr, third.policy⟩

/-- The task calls `TaskTrace_init`, until it succeeds. -/
def taskInit (pid : PidT) (s : Startup N) (outcome : SharedMem.InitOutcome) :
    Option (Startup N) :=
  if s.task.isInitiallized then none
  else
    let (task, pipe, _) := TaskTrace.init pid s.pipe outcome
    some { s with task := task, pipe := pipe }

/-- The task's policy is changed. -/
def setPolicy (s : Startup N) (kernel : Kernel) : Option (Startup N) :=
  if s.allows kernel then some { s with kernel := kernel } else none

/-- The supervisor has found the pipe and the monitor thread starts. -/
def monitorStart (pid : PidT) (s : Startup N) (enableLogging fopen : Bool) :
    Option (Startup N) :=
  if s.pipe && s.monitor.isNone then
    some { s with
      monitor := some (.start
        { MonitorThread.zero with pid := pid, enableLogging := enableLogging }
        s.kernel.policy fopen) }
  else none

/-- The monitor makes a round. -/
def round (s : Startup N) (input : MonitorInput) (second third : Kernel) : Option (Startup N) :=
  if s.allows second && s.allows third then
    s.monitor.bind fun task =>
      (task.iterate { input with reads := s.reads second third }).map fun task =>
        { s with kernel := third, monitor := some task }
  else none

/-- One step. -/
def step (pid : PidT) (s : Startup N) : Event → Option (Startup N)
  | .taskInit outcome => s.taskInit pid outcome
  | .setPolicy kernel => s.setPolicy kernel
  | .monitorStart enableLogging fopen => s.monitorStart pid enableLogging fopen
  | .round input second third => s.round input second third

/-! ### What each step does -/

variable {pid : PidT} {s s' : Startup N}

theorem taskInit_eq_some {outcome : SharedMem.InitOutcome} (h : s.taskInit pid outcome = some s') :
    s.task.isInitiallized = false ∧
      s' = { s with
        task := (TaskTrace.init pid s.pipe outcome).1
        pipe := (TaskTrace.init (N := N) pid s.pipe outcome).2.1 } := by
  unfold taskInit at h
  split at h
  · cases h
  · rename_i hinit
    exact ⟨Bool.eq_false_iff.mpr hinit, (Option.some.inj h).symm⟩

omit [NeZero N] in
theorem setPolicy_eq_some {kernel : Kernel} (h : s.setPolicy kernel = some s') :
    s.allows kernel = true ∧ s' = { s with kernel := kernel } := by
  unfold setPolicy at h
  split at h
  · rename_i hallows
    exact ⟨hallows, (Option.some.inj h).symm⟩
  · cases h

omit [NeZero N] in
theorem monitorStart_eq_some {enableLogging fopen : Bool}
    (h : s.monitorStart pid enableLogging fopen = some s') :
    s.pipe = true ∧ s.monitor = none ∧
      s' = { s with
        monitor := some (.start
          { MonitorThread.zero with pid := pid, enableLogging := enableLogging }
          s.kernel.policy fopen) } := by
  unfold monitorStart at h
  split at h
  · rename_i hnew
    obtain ⟨hpipe, hnone⟩ := (Bool.and_eq_true _ _).mp hnew
    exact ⟨hpipe, Option.isNone_iff_eq_none.mp hnone, (Option.some.inj h).symm⟩
  · cases h

omit [NeZero N] in
theorem round_eq_some {input : MonitorInput} {second third : Kernel}
    (h : s.round input second third = some s') :
    (s.allows second = true ∧ s.allows third = true) ∧ ∃ task task', s.monitor = some task ∧
      task.iterate { input with reads := s.reads second third } = some task' ∧
      s' = { s with kernel := third, monitor := some task' } := by
  unfold round at h
  split at h
  · rename_i hallows
    obtain ⟨task, htask, hiter⟩ := Option.bind_eq_some_iff.mp h
    obtain ⟨task', hround, heq⟩ := Option.map_eq_some_iff.mp hiter
    exact ⟨(Bool.and_eq_true _ _).mp hallows, task, task', htask, hround, heq.symm⟩
  · cases h

end Startup

/-! ### Which rounds are supervised -/

/-- The round runs the deadline, overrun and ready-time update, with the parameters `props`. -/
def Supervised (task : MonitorTask) (input : MonitorInput) (props : DeadlineProps) : Prop :=
  let me : MonitorThread := { task.me with telegram := input.telegram }
  me.handle input.reads input.fopen
    = (me.recorded.deadlineUpdate props input.fopen).map fun (me, rows) => ⟨me, rows, some props⟩

/-- **A round whose parameters can be read is supervised** exactly when the thread takes its
    task for a deadline task. -/
theorem supervised_iff_policy {task : MonitorTask} {pid : PidT} {input : MonitorInput}
    {props : DeadlineProps} (hreport : OwnReport pid input)
    (hread : PID.getDeadlinePropeties input.reads.scheduler input.reads.attr = .ok props) :
    Supervised task input props ↔ task.me.policy = schedDeadline := by
  have hhandle : ({ task.me with telegram := input.telegram } : MonitorThread).handle input.reads
      input.fopen = ({ task.me with telegram := input.telegram } : MonitorThread).handleStartAndStop
        input.reads input.fopen := by
    rw [MonitorThread.handle, hreport.code, TelegramCode.ofValue_value]
  unfold Supervised
  simp only [hhandle]
  constructor
  · -- A thread that holds another policy only records the times.
    intro hsup
    by_contra hpolicy
    have hpolicy' : ({ task.me with telegram := input.telegram } : MonitorThread).policy
        ≠ schedDeadline := hpolicy
    rw [MonitorThread.handleStartAndStop_other hpolicy'] at hsup
    obtain ⟨⟨me', rows⟩, -, heq⟩ := Option.map_eq_some_iff.mp hsup.symm
    exact absurd (congrArg Handled.supervisedWith heq) (by simp)
  · intro hpolicy
    have hpolicy' : ({ task.me with telegram := input.telegram } : MonitorThread).policy
        = schedDeadline := hpolicy
    exact MonitorThread.handleStartAndStop_deadline hpolicy' hread

/-! ### The policy the thread holds -/

namespace Startup

variable {pid : PidT} {s s' : Startup N} {kernel : Kernel} {es : List Event}

/-- The kernel's answer is `SCHED_DEADLINE` where the thread takes it over: when it starts, and
    when it asks again because it could not read the parameters for a telegram of its task. -/
def Answered (pid : PidT) (s : Startup N) : Event → Prop
  | .monitorStart _ _ => s.kernel.policy = schedDeadline
  | .round input second third =>
    OwnReport pid input →
      (∃ error, PID.getDeadlinePropeties s.kernel.policy second.attr = .error error) →
        third.policy = schedDeadline
  | _ => True

omit [NeZero N] in
/-- A round keeps the policy held exactly when it is answered so. -/
theorem round_held {task task' : MonitorTask} {input : MonitorInput} {second third : Kernel}
    (hpid : task.me.pid = pid)
    (hiter : task.iterate { input with reads := s.reads second third } = some task') :
    task'.me.policy = schedDeadline ↔
      task.me.policy = schedDeadline ∧ Answered pid s (.round input second third) := by
  obtain ⟨-, -, hpolicy⟩ := MonitorTask.iterate_frame hiter
  rw [hpolicy]
  have hreport : OwnReport task.me.pid { input with reads := s.reads second third } ↔
      OwnReport pid input := by
    rw [hpid]
    exact ⟨fun h => ⟨h.whole, h.pid, h.code⟩, fun h => ⟨h.whole, h.pid, h.code⟩⟩
  -- Only a start/stop telegram of the task can make the thread ask again.
  by_cases hown : OwnReport pid input
  · rw [if_pos (hreport.mpr hown), MonitorThread.policyAfter]
    by_cases hheld : task.me.policy = schedDeadline
    · rw [if_pos hheld]
      cases hread : PID.getDeadlinePropeties s.kernel.policy second.attr with
      | error error =>
        simp only [reads, hread]
        -- The parameters could not be read, and the third answer is taken over.
        constructor
        · intro hthird
          exact ⟨hheld, fun _ _ => hthird⟩
        · intro h
          exact h.2 hown ⟨error, hread⟩
      | ok props =>
        simp only [reads, hread]
        -- The parameters were read, and the policy is kept.
        constructor
        · intro _
          refine ⟨hheld, fun _ herror => ?_⟩
          obtain ⟨error, herror⟩ := herror
          rw [hread] at herror
          exact absurd herror (by simp)
        · intro _
          exact hheld
    · rw [if_neg hheld]
      exact iff_of_false hheld fun h => hheld h.1
  · rw [if_neg (fun h => hown (hreport.mp h))]
    constructor
    · intro hheld
      exact ⟨hheld, fun h => absurd h hown⟩
    · intro h
      exact h.1

/-- **When the thread holds the policy `SCHED_DEADLINE`**, over every run: when the kernel
    answered so each time the thread took the answer over. -/
theorem held_iff (h : Run (step pid) (start kernel : Startup N) es s) :
    (s.monitor = none → Along (step pid) (Answered pid) (start kernel : Startup N) es) ∧
      ∀ task, s.monitor = some task → task.me.pid = pid ∧
        (task.me.policy = schedDeadline ↔
          Along (step pid) (Answered pid) (start kernel : Startup N) es) := by
  refine h.history_induction (P := fun es s =>
    (s.monitor = none → Along (step pid) (Answered pid) (start kernel : Startup N) es) ∧
      ∀ task, s.monitor = some task → task.me.pid = pid ∧
        (task.me.policy = schedDeadline ↔
          Along (step pid) (Answered pid) (start kernel : Startup N) es))
    ⟨fun _ => trivial, fun task htask => absurd htask (by simp [start])⟩ ?_
  intro es t e t' hrun ih hstep
  rw [along_concat hrun]
  cases e with
  | taskInit outcome =>
    -- Neither the task's initialisation nor a change of policy reaches the thread.
    obtain ⟨-, rfl⟩ := taskInit_eq_some hstep
    simpa [Answered] using ih
  | setPolicy kernel =>
    obtain ⟨-, rfl⟩ := setPolicy_eq_some hstep
    simpa [Answered] using ih
  | monitorStart enableLogging fopen =>
    -- the policy is read for the first time
    obtain ⟨-, hnone, rfl⟩ := monitorStart_eq_some hstep
    refine ⟨fun h => absurd h (by simp), fun task htask => ?_⟩
    cases htask
    refine ⟨rfl, ?_⟩
    show PID.getSchedulerPolicy t.kernel.policy = schedDeadline ↔ _
    rw [PID.getSchedulerPolicy_eq]
    constructor
    · intro h
      exact ⟨ih.1 hnone, h⟩
    · intro h
      exact h.2
  | round input second third =>
    -- A round may take the policy over again.
    obtain ⟨-, task, task', htask, hround, rfl⟩ := round_eq_some hstep
    obtain ⟨hpid, hheld⟩ := ih.2 task htask
    refine ⟨fun h => absurd h (by simp), fun task'' heq => ?_⟩
    cases heq
    refine ⟨(MonitorTask.iterate_frame hround).1.trans hpid, ?_⟩
    rw [round_held hpid hround, hheld]

/-- **Which telegrams are supervised.**  In any run, a start/stop telegram of the task that
    arrives while the task is a deadline task and its parameters can be read is put through the
    update exactly when the kernel has answered `SCHED_DEADLINE` each time the thread took the
    policy over: when it started, and after every failed read since. -/
theorem startup_supervised_iff (h : Run (step pid) (start kernel : Startup N) es s)
    {task : MonitorTask} (hmonitor : s.monitor = some task) {input : MonitorInput}
    {second third : Kernel} {props : DeadlineProps} (hreport : OwnReport pid input)
    (hread : PID.getDeadlinePropeties s.kernel.policy second.attr = .ok props) :
    Supervised task { input with reads := s.reads second third } props ↔
      Along (step pid) (Answered pid) (start kernel : Startup N) es := by
  have hreport' : OwnReport pid { input with reads := s.reads second third } :=
    ⟨hreport.whole, hreport.pid, hreport.code⟩
  rw [supervised_iff_policy hreport' hread]
  exact ((held_iff h).2 task hmonitor).2

/-! ### Two orders -/

/-- The deadline task the two orders are about. -/
def deadlineKernel : Kernel := ⟨schedDeadline, some ⟨5, 10, 20⟩⟩

/-- The task becomes a deadline task before its monitor starts. -/
def promptSwitch : List Event :=
  [.taskInit ⟨true, true, true⟩, .setPolicy deadlineKernel, .monitorStart false false]

/-- The monitor starts first. -/
def lateSwitch : List Event :=
  [.taskInit ⟨true, true, true⟩, .monitorStart false false, .setPolicy deadlineKernel]

/-- After a prompt switch the telegrams are supervised. -/
theorem startup_supervised_iff_sample :
    ∃ (s : Startup queueSize) (task : MonitorTask), s.monitor = some task ∧
      Supervised task
        { jobInput ⟨5, 10, 20⟩ 7 100 105 with reads := s.reads deadlineKernel deadlineKernel }
        ⟨5, 10, 20⟩ := by
  refine ⟨(promptSwitch.foldlM (step 7) (start ⟨schedOther, none⟩)).get (by decide),
    _, (Option.some_get (by decide)).symm, ?_⟩
  refine (startup_supervised_iff (run_get (start ⟨schedOther, none⟩) promptSwitch (by decide))
    (Option.some_get _).symm (isJob_jobInput _ _ _ _).toOwnReport rfl).mpr ?_
  refine ⟨trivial, fun t ht => ⟨trivial, fun u hu => ⟨?_, fun _ _ => trivial⟩⟩⟩
  cases ht
  cases hu
  rfl

/-- **After a late switch no telegram is supervised.**  The thread took the task's first policy
    over and never asks again. -/
theorem startup_unsupervised :
    ∃ (s : Startup queueSize) (task : MonitorTask),
      Run (step 7) (start ⟨schedOther, none⟩) lateSwitch s ∧ s.monitor = some task ∧
      task.exited = false ∧ OwnReport 7 (jobInput ⟨5, 10, 20⟩ 7 100 105) ∧
      PID.getDeadlinePropeties s.kernel.policy s.kernel.attr = .ok ⟨5, 10, 20⟩ ∧
      ¬ Supervised task
        { jobInput ⟨5, 10, 20⟩ 7 100 105 with reads := s.reads s.kernel s.kernel }
        ⟨5, 10, 20⟩ := by
  refine ⟨(lateSwitch.foldlM (step 7) (start ⟨schedOther, none⟩)).get (by decide),
    _, (Option.some_get _).symm, (Option.some_get (by decide)).symm, by decide,
    (isJob_jobInput _ _ _ _).toOwnReport, rfl, ?_⟩
  intro hsup
  have hreport : OwnReport 7 (jobInput ⟨5, 10, 20⟩ 7 100 105) := ⟨rfl, rfl, rfl⟩
  have hheld := (supervised_iff_policy ⟨hreport.whole, hreport.pid, hreport.code⟩ rfl).mp hsup
  exact absurd hheld (by decide)

end Startup

end RtTaskTrace
