import RtTaskTrace.Common.Process
import RtTaskTrace.Supervisor.Log

namespace RtTaskTrace

/-!
# The monitor thread (`Supervisor/Monitor`)

One thread watches one traced task: it reads telegrams from the task's pipe and keeps the
task's metrics.  `MonitorTask.iterate` is one round of its endless loop, `none` when the
round does not return; everything the round asks of the outside is in its `MonitorInput`.

* `MonitorThread.deadlineUpdate` — the part for a deadline task whose parameters were read;
* `MonitorThread.handleStartAndStop`, `handle` — the `switch` on the telegram's code;
* `MonitorTask.iterate` — the round: read, check, handle.
-/

/-- `MonitorThread`: the fields the thread works with.  (The thread id and the descriptor of
    the pipe are not numbers anything depends on.) -/
structure MonitorThread where
  pid : PidT
  policy : ℤ
  telegram : Telegram
  metrics : MonitorMetrics
  log : Log numberOfPoints
  enableLogging : Bool

/-- What the kernel answers while one telegram is handled: to `sched_getscheduler` and
    `sched_getattr` in `PID_getDeadlinePropeties`, and to the second `sched_getscheduler`
    when that failed.  The task may change its policy between any two of them. -/
structure SchedReads where
  scheduler : ℤ
  attr : Option SchedAttr
  schedulerAgain : ℤ
  deriving DecidableEq, Repr

/-- What handling a telegram leaves: the thread's state, the rows appended to its CSV file
    and the parameters its deadline part ran with, if it ran. -/
structure Handled where
  me : MonitorThread
  rows : List CsvRow
  supervisedWith : Option DeadlineProps

namespace MonitorThread

/-- What `memset(me, 0, sizeof(Supervisor))` leaves of a thread. -/
def zero : MonitorThread where
  pid := 0
  policy := 0
  telegram := ⟨0, 0, 0, 0⟩
  metrics := MonitorMetrics.zero
  log :=
    { list := PointList.init ⟨⟨0, 0, 0, 0⟩, MonitorMetrics.zero, false⟩
      enabled := false
      file := "" }
  enableLogging := false

/-- `Monitor_init`, given the answer of `sched_getscheduler`. -/
def init (me : MonitorThread) (scheduler : ℤ) : MonitorThread :=
  let log := me.log.init "/tmp/taskTrace/" (toString me.pid.toInt)
  { me with
    policy := PID.getSchedulerPolicy scheduler
    metrics := MonitorMetrics.init
    log := if me.enableLogging then log.enable else log.disable }

/-- The metrics when the deadline loss is tested: ready time and latency are set. -/
def measured (metrics : MonitorMetrics) : MonitorMetrics :=
  metrics.guessReadyTime.pullBackReadyTime.measureLatency

/-- The end of the deadline branch, after the loop: the point is logged and, after a loss
    without an overrun, the ready time adjusted. -/
def logAndAdjust (me : MonitorThread) (metrics : MonitorMetrics)
    (deadlineLostDetected runtimeOverrunDetected : Bool) (fopen : Bool) :
    MonitorThread × List CsvRow :=
  let (log, rows) :=
    if me.enableLogging then
      (me.log.addNewPoint me.telegram metrics
        (deadlineLostDetected || runtimeOverrunDetected)).generateIfNeeded fopen
    else (me.log, [])
  let metrics :=
    if deadlineLostDetected && !runtimeOverrunDetected then metrics.pushForwardReadyTime
    else metrics
  ({ me with metrics := metrics, log := log }, rows)

/-- The deadline branch, from the guess of the ready time to the adjustment after a loss:
    the thread afterwards and the rows appended to its file.  `none` when the loop that moves
    the ready time never ends. -/
def deadlineUpdate (me : MonitorThread) (props : DeadlineProps) (fopen : Bool) :
    Option (MonitorThread × List CsvRow) :=
  let metrics := measured me.metrics
  let deadlineLostDetected := metrics.deadlineLostDetected props.deadline
  let metrics := metrics.countDeadlineLost props.deadline
  let runtimeOverrunDetected := metrics.runtimeOverrunDetected props.runtime
  let metrics := metrics.countRuntimeOverrun props.runtime props.period
  (metrics.stepReadyTime props.period).map fun metrics =>
    me.logAndAdjust metrics deadlineLostDetected runtimeOverrunDetected fopen

/-- The thread with the times of its telegram in the metrics. -/
def recorded (me : MonitorThread) : MonitorThread :=
  { me with metrics := me.metrics.recordResponseTime me.telegram.t1 me.telegram.t2 }

/-- The case `TelegramCode_startAndStopTime`. -/
def handleStartAndStop (me : MonitorThread) (reads : SchedReads) (fopen : Bool) :
    Option Handled :=
  let me := me.recorded
  if me.policy ≠ schedDeadline then some ⟨me, [], none⟩
  else match PID.getDeadlinePropeties reads.scheduler reads.attr with
    | .error _ =>
      some ⟨{ me with policy := PID.getSchedulerPolicy reads.schedulerAgain }, [], none⟩
    | .ok props =>
      (me.deadlineUpdate props fopen).map fun (me, rows) => ⟨me, rows, some props⟩

/-- `TelegramCode_perfMark1Start - TELEGRAM_PERFMARK_OFFSET`. -/
def startMarkIndex : ℕ := (TelegramCode.perfMark1Start.value - telegramPerfmarkOffset).toNat

/-- `TelegramCode_perfMark1End - TELEGRAM_PERFMARK_OFFSET`. -/
def endMarkIndex : ℕ := (TelegramCode.perfMark1End.value - telegramPerfmarkOffset).toNat

/-- `TelegramCode_perfMark1End - TELEGRAM_PERFMARK_OFFSET - 1`. -/
def totalMarkIndex : ℕ := endMarkIndex - 1

/-- The `switch` on the code of the telegram received. -/
def handle (me : MonitorThread) (reads : SchedReads) (fopen : Bool) : Option Handled :=
  match TelegramCode.ofValue me.telegram.code with
  | some .startAndStopTime => me.handleStartAndStop reads fopen
  | some .perfMark1Start =>
    some ⟨{ me with metrics := me.metrics.markStart startMarkIndex me.telegram.t1 }, [], none⟩
  | some .perfMark1End =>
    some ⟨{ me with
      metrics := me.metrics.markEnd endMarkIndex totalMarkIndex me.telegram.t1 }, [], none⟩
  | none => some ⟨me, [], none⟩

/-- The check that a telegram is from the monitored task. -/
def ownTelegram (me : MonitorThread) (telegram : Telegram) : Bool :=
  me.pid = telegram.pid

end MonitorThread

/-- What one round of the loop meets: the result of `SharedMem_supervisorRead` and the
    contents of the receive buffer after it, the user and the process table seen by
    `PID_checkIfExist`, the kernel's answers and whether the log file can be opened. -/
structure MonitorInput where
  numberOfBytesReceived : ℤ
  telegram : Telegram
  euid : ℕ
  kill : PidT → Bool
  reads : SchedReads
  fopen : Bool

/-- The thread's state, what it has printed to its CSV file and whether it has ended. -/
structure MonitorTask where
  me : MonitorThread
  csv : CsvFile
  exited : Bool

namespace MonitorTask

/-- The thread when it enters its loop: the pipe is open and `Monitor_init` has run. -/
def start (me : MonitorThread) (scheduler : ℤ) (fopen : Bool) : MonitorTask :=
  ⟨me.init scheduler, Log.prepareFileForLogging fopen, false⟩

/-- One round of the loop of `Monitor_task`; a thread that has ended makes none. -/
def iterate (task : MonitorTask) (input : MonitorInput) : Option MonitorTask :=
  if task.exited then none
  else
    let me := { task.me with telegram := input.telegram }
    if input.numberOfBytesReceived ≠ Telegram.size then
      -- `PID_checkIfExist(me->pid != 1)`: the comparison is the argument
      if input.numberOfBytesReceived = 0 ∧
          PID.checkIfExist input.euid input.kill (if me.pid ≠ 1 then 1 else 0) ≠ 0 then
        some { task with me := me, exited := true }
      else some { task with me := me }
    else if me.ownTelegram me.telegram = false then some { task with me := me }
    else
      (me.handle input.reads input.fopen).map fun handled =>
        { task with
          me := handled.me
          csv := { task.csv with rows := task.csv.rows ++ handled.rows } }

end MonitorTask

/-! ### What a round does to the thread -/

/-- A round that reads a whole start/stop telegram of the task `pid`. -/
structure OwnReport (pid : PidT) (input : MonitorInput) : Prop where
  whole : input.numberOfBytesReceived = Telegram.size
  pid : input.telegram.pid = pid
  code : input.telegram.code = TelegramCode.startAndStopTime.value

instance (pid : PidT) (input : MonitorInput) : Decidable (OwnReport pid input) :=
  decidable_of_iff (input.numberOfBytesReceived = Telegram.size ∧ input.telegram.pid = pid ∧
      input.telegram.code = TelegramCode.startAndStopTime.value)
    ⟨fun ⟨hwhole, hpid, hcode⟩ => ⟨hwhole, hpid, hcode⟩, fun h => ⟨h.whole, h.pid, h.code⟩⟩

/-- The fields of the thread that the deadline branch leaves alone. -/
structure SameThread (me me' : MonitorThread) : Prop where
  pid : me'.pid = me.pid
  policy : me'.policy = me.policy
  enableLogging : me'.enableLogging = me.enableLogging

namespace MonitorThread

theorem logAndAdjust_same (me : MonitorThread) (m : MonitorMetrics) (lost overrun fopen : Bool) :
    SameThread me (me.logAndAdjust m lost overrun fopen).1 := ⟨rfl, rfl, rfl⟩

theorem deadlineUpdate_same {me me' : MonitorThread} {props : DeadlineProps} {fopen : Bool}
    {rows : List CsvRow} (h : me.deadlineUpdate props fopen = some (me', rows)) :
    SameThread me me' := by
  unfold deadlineUpdate at h
  obtain ⟨m, -, heq⟩ := Option.map_eq_some_iff.mp h
  obtain ⟨rfl, -⟩ := Prod.mk.inj heq
  exact logAndAdjust_same me m _ _ fopen

variable {me : MonitorThread} {reads : SchedReads} {fopen : Bool}

/-- A thread that takes its task for another policy only records the response time. -/
theorem handleStartAndStop_other (h : me.policy ≠ schedDeadline) :
    me.handleStartAndStop reads fopen = some ⟨me.recorded, [], none⟩ := if_pos h

/-- A thread that cannot read the parameters asks for the policy again. -/
theorem handleStartAndStop_failed {error : ℤ} (h : me.policy = schedDeadline)
    (hread : PID.getDeadlinePropeties reads.scheduler reads.attr = .error error) :
    me.handleStartAndStop reads fopen
      = some ⟨{ me.recorded with policy := reads.schedulerAgain }, [], none⟩ := by
  have hpolicy : ¬ me.recorded.policy ≠ schedDeadline := not_not.mpr h
  simp only [handleStartAndStop, if_neg hpolicy, hread, PID.getSchedulerPolicy_eq]

/-- **A thread that reads the parameters runs its deadline branch.** -/
theorem handleStartAndStop_deadline {props : DeadlineProps} (h : me.policy = schedDeadline)
    (hread : PID.getDeadlinePropeties reads.scheduler reads.attr = .ok props) :
    me.handleStartAndStop reads fopen
      = (me.recorded.deadlineUpdate props fopen).map fun (me, rows) =>
          ⟨me, rows, some props⟩ := by
  have hpolicy : ¬ me.recorded.policy ≠ schedDeadline := not_not.mpr h
  simp only [handleStartAndStop, if_neg hpolicy, hread]

/-- The policy a thread holds after a start/stop telegram: the one it held, unless it could not
    read the parameters. -/
def policyAfter (me : MonitorThread) (reads : SchedReads) : ℤ :=
  if me.policy = schedDeadline then
    match PID.getDeadlinePropeties reads.scheduler reads.attr with
    | .ok _ => me.policy
    | .error _ => reads.schedulerAgain
  else me.policy

theorem handleStartAndStop_frame {handled : Handled}
    (h : me.handleStartAndStop reads fopen = some handled) :
    handled.me.pid = me.pid ∧ handled.me.enableLogging = me.enableLogging ∧
      handled.me.policy = me.policyAfter reads := by
  unfold policyAfter
  by_cases hpolicy : me.policy = schedDeadline
  · rw [if_pos hpolicy]
    cases hread : PID.getDeadlinePropeties reads.scheduler reads.attr with
    | error error =>
      rw [handleStartAndStop_failed hpolicy hread] at h
      cases h
      exact ⟨rfl, rfl, rfl⟩
    | ok props =>
      rw [handleStartAndStop_deadline hpolicy hread] at h
      obtain ⟨⟨me', rows⟩, hupd, rfl⟩ := Option.map_eq_some_iff.mp h
      -- The deadline branch keeps all three.
      have hsame := deadlineUpdate_same hupd
      exact ⟨hsame.pid, hsame.enableLogging, hsame.policy⟩
  · rw [if_neg hpolicy]
    rw [handleStartAndStop_other hpolicy] at h
    cases h
    exact ⟨rfl, rfl, rfl⟩

end MonitorThread

namespace MonitorTask

variable {task task' : MonitorTask} {input : MonitorInput}

/-- A round that reads something else than a telegram may end the thread. -/
theorem iterate_not_whole (hrunning : task.exited = false)
    (h : input.numberOfBytesReceived ≠ Telegram.size) :
    task.iterate input = some { task with
      me := { task.me with telegram := input.telegram }
      exited := decide (input.numberOfBytesReceived = 0 ∧
        PID.checkIfExist input.euid input.kill (if task.me.pid ≠ 1 then 1 else 0) ≠ 0) } := by
  rw [iterate, if_neg (by simp [hrunning])]
  simp only [if_pos h]
  by_cases hended : input.numberOfBytesReceived = 0 ∧
      PID.checkIfExist input.euid input.kill (if task.me.pid ≠ 1 then 1 else 0) ≠ 0
  · rw [if_pos hended, decide_eq_true hended]
  · rw [if_neg hended, decide_eq_false hended, hrunning]

/-- A round that reads a telegram of another task leaves it at that. -/
theorem iterate_foreign (hrunning : task.exited = false)
    (hwhole : input.numberOfBytesReceived = Telegram.size)
    (hpid : task.me.pid ≠ input.telegram.pid) :
    task.iterate input = some { task with me := { task.me with telegram := input.telegram } } := by
  have hown : ({ task.me with telegram := input.telegram } : MonitorThread).ownTelegram
      input.telegram = false := decide_eq_false hpid
  rw [iterate, if_neg (by simp [hrunning])]
  simp only [hwhole, ne_eq, not_true_eq_false, if_false, hown, if_true]

/-- A round that reads a telegram of its task handles it. -/
theorem iterate_own (hrunning : task.exited = false)
    (hwhole : input.numberOfBytesReceived = Telegram.size)
    (hpid : task.me.pid = input.telegram.pid) :
    task.iterate input
      = (({ task.me with telegram := input.telegram } : MonitorThread).handle input.reads
          input.fopen).map fun handled =>
          { task with
            me := handled.me
            csv := { task.csv with rows := task.csv.rows ++ handled.rows } } := by
  have hown : ({ task.me with telegram := input.telegram } : MonitorThread).ownTelegram
      input.telegram = true := decide_eq_true hpid
  rw [iterate, if_neg (by simp [hrunning])]
  simp only [hwhole, ne_eq, not_true_eq_false, if_false, hown, Bool.true_eq_false]

/-- **A round on a start/stop telegram of the task** is the handling of it. -/
theorem iterate_report (hrunning : task.exited = false) (h : OwnReport task.me.pid input) :
    task.iterate input
      = (({ task.me with telegram := input.telegram } : MonitorThread).handleStartAndStop
          input.reads input.fopen).map fun handled =>
          { task with
            me := handled.me
            csv := { task.csv with rows := task.csv.rows ++ handled.rows } } := by
  rw [iterate_own hrunning h.whole h.pid.symm, MonitorThread.handle, h.code,
    TelegramCode.ofValue_value]

/-- A thread that makes a round has not ended. -/
theorem running_of_iterate (h : task.iterate input = some task') : task.exited = false := by
  cases hexit : task.exited
  · rfl
  · rw [iterate, if_pos hexit] at h
    exact absurd h (by simp)

/-- **All that a round can be**: a read of something else than a telegram, which may end the
    thread; a telegram of another task; or one that is handled. -/
theorem iterate_cases (h : task.iterate input = some task') :
    (input.numberOfBytesReceived ≠ Telegram.size ∧
      task' = { task with
        me := { task.me with telegram := input.telegram }
        exited := decide (input.numberOfBytesReceived = 0 ∧
          PID.checkIfExist input.euid input.kill (if task.me.pid ≠ 1 then 1 else 0) ≠ 0) }) ∨
    (input.numberOfBytesReceived = Telegram.size ∧ task.me.pid ≠ input.telegram.pid ∧
      task' = { task with me := { task.me with telegram := input.telegram } }) ∨
    (input.numberOfBytesReceived = Telegram.size ∧ task.me.pid = input.telegram.pid ∧
      ∃ handled, ({ task.me with telegram := input.telegram } : MonitorThread).handle input.reads
          input.fopen = some handled ∧
        task' = { task with
          me := handled.me
          csv := { task.csv with rows := task.csv.rows ++ handled.rows } }) := by
  have hrunning := running_of_iterate h
  by_cases hwhole : input.numberOfBytesReceived = Telegram.size
  · refine .inr ?_
    by_cases hpid : task.me.pid = input.telegram.pid
    · rw [iterate_own hrunning hwhole hpid] at h
      obtain ⟨handled, hhandle, heq⟩ := Option.map_eq_some_iff.mp h
      exact .inr ⟨hwhole, hpid, handled, hhandle, heq.symm⟩
    · rw [iterate_foreign hrunning hwhole hpid] at h
      exact .inl ⟨hwhole, hpid, (Option.some.inj h).symm⟩
  · rw [iterate_not_whole hrunning hwhole] at h
    exact .inl ⟨hwhole, (Option.some.inj h).symm⟩

/-- **A round that is no start/stop telegram of the task** changes nothing of the thread but
    its receive buffer and, at most, the performance marks. -/
theorem iterate_other (h : task.iterate input = some task')
    (hreport : ¬ OwnReport task.me.pid input) :
    ∃ perfMarks, task'.me = { task.me with
      telegram := input.telegram
      metrics := { task.me.metrics with perfMarks := perfMarks } } := by
  rcases iterate_cases h with ⟨-, rfl⟩ | ⟨-, -, rfl⟩ | ⟨hwhole, hpid, handled, hhandle, rfl⟩
  · exact ⟨_, rfl⟩
  · exact ⟨_, rfl⟩
  · unfold MonitorThread.handle at hhandle
    split at hhandle
    · -- a start/stop telegram after all
      rename_i hcode
      exact absurd ⟨hwhole, hpid.symm, TelegramCode.eq_value_of_ofValue hcode⟩ hreport
    all_goals
      cases hhandle
      exact ⟨_, rfl⟩

/-- **Only a start/stop telegram changes the policy a thread holds**, and nothing changes whose
    thread it is or whether it logs. -/
theorem iterate_frame (h : task.iterate input = some task') :
    task'.me.pid = task.me.pid ∧ task'.me.enableLogging = task.me.enableLogging ∧
      task'.me.policy = if OwnReport task.me.pid input then task.me.policyAfter input.reads
        else task.me.policy := by
  by_cases hreport : OwnReport task.me.pid input
  · rw [if_pos hreport]
    rw [iterate_report (running_of_iterate h) hreport] at h
    obtain ⟨handled, hhandle, rfl⟩ := Option.map_eq_some_iff.mp h
    have hframe := MonitorThread.handleStartAndStop_frame hhandle
    exact hframe
  · rw [if_neg hreport]
    obtain ⟨perfMarks, hme⟩ := iterate_other h hreport
    rw [hme]
    exact ⟨rfl, rfl, rfl⟩

end MonitorTask

end RtTaskTrace
