import RtTaskTrace.Supervisor.LogShown
import RtTaskTrace.Supervisor.Rounds

namespace RtTaskTrace

open Runs

/-!
# Whether a monitor starts fresh in any slot

Two slots differ in what an earlier task left in them.  `Monitor_init` sets everything but the
receive buffer, which every read fills anew, and the list of the log, which nothing empties:
`Log_init` does not call `List_init`.

* `MonitorTask.swap` — the thread with another receive buffer, log and file; `iterate_swap`: a round
  reads none of them, and hands the log the points `logged`, whatever log it is;
* `outcome` — what can be seen of a run;
* `outcome_of_alike`, `alike_of_outcome` — logs that show the same, and only they, give the same;
* `fresh_start_iff` — which slots a monitor starts alike in.
-/

namespace MonitorThread

/-- The points that a pass through the deadline branch hands to the log. -/
def branchPoints (me : MonitorThread) (props : DeadlineProps) : List LogPoint :=
  match (me.metrics.judged props).stepReadyTime props.period with
  | none => []
  | some m =>
    if me.enableLogging then
      [⟨me.telegram, m, (measured me.metrics).deadlineLostDetected props.deadline ||
        ((measured me.metrics).countDeadlineLost props.deadline).runtimeOverrunDetected
          props.runtime⟩]
    else []

/-- **The branch does not read the log.** -/
theorem deadlineUpdate_log (me : MonitorThread) (log : Log numberOfPoints) (props : DeadlineProps)
    (fopen : Bool) :
    ({ me with log := log } : MonitorThread).deadlineUpdate props fopen
      = (me.deadlineUpdate props fopen).map fun out =>
          ({ out.1 with log := (log.handlePoints fopen (me.branchPoints props)).1 },
            (log.handlePoints fopen (me.branchPoints props)).2) := by
  have hbranch : ∀ me : MonitorThread, me.deadlineUpdate props fopen
      = ((me.metrics.judged props).stepReadyTime props.period).map fun m =>
          me.logAndAdjust m ((measured me.metrics).deadlineLostDetected props.deadline)
            (((measured me.metrics).countDeadlineLost props.deadline).runtimeOverrunDetected
              props.runtime) fopen := fun _ => rfl
  rw [hbranch, hbranch]
  unfold branchPoints
  simp only
  cases (me.metrics.judged props).stepReadyTime props.period with
  | none => rfl
  | some m =>
    cases henable : me.enableLogging with
    | false => simp [logAndAdjust, henable, Log.handlePoints]
    | true => simp [logAndAdjust, henable, Log.handlePoints, Log.handlePoint]

theorem branchPoints_cases (me : MonitorThread) (props : DeadlineProps) :
    me.branchPoints props = [] ∨
      me.enableLogging = true ∧ ∃ point, me.branchPoints props = [point] := by
  unfold branchPoints
  cases (me.metrics.judged props).stepReadyTime props.period with
  | none => exact .inl rfl
  | some m =>
    cases me.enableLogging with
    | false => exact .inl rfl
    | true => exact .inr ⟨rfl, _, rfl⟩

/-- One point for an execution, and an exception when the estimator counts it. -/
theorem branchPoints_refines {e : Estimate} {x : Execution} {props : DeadlineProps}
    (me : MonitorThread) (hlogging : me.enableLogging = true) (h : Refines me.metrics e)
    (ho : Observed me.metrics x) (hx : x.InRange) (hprops : props.timing.InRange) :
    ∃ point, me.branchPoints props = [point] ∧
      (point.isException = true ↔ e.Lost props.timing x ∨ x.Overrun props.timing) := by
  obtain ⟨m, hupdate, -⟩ := update_refines h ho hx props hprops
  obtain ⟨looped, hloop, -⟩ := Option.map_eq_some_iff.mp hupdate
  unfold branchPoints
  rw [hloop]
  refine ⟨_, if_pos hlogging, ?_⟩
  rw [Bool.or_eq_true, lostDetected_iff h ho hx, overrunDetected_iff h ho hx]

/-- The points that handling a start/stop telegram hands to the log. -/
def reportPoints (me : MonitorThread) (reads : SchedReads) : List LogPoint :=
  if me.policy = schedDeadline then
    match PID.getDeadlinePropeties reads.scheduler reads.attr with
    | .error _ => []
    | .ok props => me.recorded.branchPoints props
  else []

theorem handleStartAndStop_log (me : MonitorThread) (log : Log numberOfPoints) (reads : SchedReads)
    (fopen : Bool) :
    ({ me with log := log } : MonitorThread).handleStartAndStop reads fopen
      = (me.handleStartAndStop reads fopen).map fun handled =>
          { handled with
            me := { handled.me with log := (log.handlePoints fopen (me.reportPoints reads)).1 }
            rows := (log.handlePoints fopen (me.reportPoints reads)).2 } := by
  unfold reportPoints
  by_cases hpolicy : me.policy = schedDeadline
  · have hpolicy' : ({ me with log := log } : MonitorThread).policy = schedDeadline := hpolicy
    rw [if_pos hpolicy]
    cases hread : PID.getDeadlinePropeties reads.scheduler reads.attr with
    | error error =>
      rw [handleStartAndStop_failed hpolicy hread, handleStartAndStop_failed hpolicy' hread]
      rfl
    | ok props =>
      rw [handleStartAndStop_deadline hpolicy hread, handleStartAndStop_deadline hpolicy' hread]
      have hbranch : ({ me with log := log } : MonitorThread).recorded.deadlineUpdate props fopen = _ :=
        me.recorded.deadlineUpdate_log log props fopen
      rw [hbranch, Option.map_map, Option.map_map]
      rfl
  · have hpolicy' : ({ me with log := log } : MonitorThread).policy ≠ schedDeadline := hpolicy
    rw [if_neg hpolicy, handleStartAndStop_other hpolicy, handleStartAndStop_other hpolicy']
    rfl

/-- The points that handling a telegram hands to the log. -/
def logged (me : MonitorThread) (reads : SchedReads) : List LogPoint :=
  match TelegramCode.ofValue me.telegram.code with
  | some .startAndStopTime => me.reportPoints reads
  | _ => []

theorem logged_cases (me : MonitorThread) (reads : SchedReads) :
    me.logged reads = [] ∨
      (me.enableLogging = true ∧ me.policy = schedDeadline) ∧
        ∃ point, me.logged reads = [point] := by
  unfold logged
  cases TelegramCode.ofValue me.telegram.code with
  | none => exact .inl rfl
  | some code =>
    cases code with
    | startAndStopTime =>
      show me.reportPoints reads = [] ∨ _ ∧ ∃ point, me.reportPoints reads = [point]
      unfold reportPoints
      by_cases hpolicy : me.policy = schedDeadline
      · rw [if_pos hpolicy]
        cases PID.getDeadlinePropeties reads.scheduler reads.attr with
        | error error => exact .inl rfl
        | ok props =>
          rcases me.recorded.branchPoints_cases props with hnil | ⟨hlogging, hpoint⟩
          · exact .inl hnil
          · exact .inr ⟨⟨hlogging, hpolicy⟩, hpoint⟩
      · exact .inl (if_neg hpolicy)
    | perfMark1Start => exact .inl rfl
    | perfMark1End => exact .inl rfl

/-- **Handling a telegram does not read the log.** -/
theorem handle_log (me : MonitorThread) (log : Log numberOfPoints) (reads : SchedReads)
    (fopen : Bool) :
    ({ me with log := log } : MonitorThread).handle reads fopen
      = (me.handle reads fopen).map fun handled =>
          { handled with
            me := { handled.me with log := (log.handlePoints fopen (me.logged reads)).1 }
            rows := (log.handlePoints fopen (me.logged reads)).2 } := by
  unfold handle logged
  cases hcode : TelegramCode.ofValue me.telegram.code with
  | none => rfl
  | some code =>
    cases code with
    | startAndStopTime => exact me.handleStartAndStop_log log reads fopen
    | perfMark1Start => rfl
    | perfMark1End => rfl

end MonitorThread

namespace MonitorTask

variable {task task' : MonitorTask} {input : MonitorInput}

/-- The same thread with another receive buffer, log and file. -/
def swap (task : MonitorTask) (telegram : Telegram) (log : Log numberOfPoints) (csv : CsvFile) :
    MonitorTask where
  me := { task.me with telegram := telegram, log := log }
  csv := csv
  exited := task.exited

/-- The points that a round hands to the log. -/
def logged (task : MonitorTask) (input : MonitorInput) : List LogPoint :=
  if input.numberOfBytesReceived = Telegram.size ∧ task.me.pid = input.telegram.pid then
    ({ task.me with telegram := input.telegram } : MonitorThread).logged input.reads
  else []

/-- **A round does not read the log.** -/
theorem iterate_swap (task : MonitorTask) (telegram : Telegram) (log : Log numberOfPoints)
    (csv : CsvFile) (input : MonitorInput) :
    (task.swap telegram log csv).iterate input = (task.iterate input).map fun task' =>
      task'.swap task'.me.telegram (log.handlePoints input.fopen (task.logged input)).1
        { csv with rows := csv.rows ++ (log.handlePoints input.fopen (task.logged input)).2 } := by
  by_cases hexited : task.exited = true
  · have hexited' : (task.swap telegram log csv).exited = true := hexited
    rw [iterate, if_pos hexited', iterate, if_pos hexited]
    rfl
  rw [Bool.not_eq_true] at hexited
  have hexited' : (task.swap telegram log csv).exited = false := hexited
  have hrows : csv.rows ++ (log.handlePoints input.fopen []).2 = csv.rows := List.append_nil _
  by_cases hwhole : input.numberOfBytesReceived = Telegram.size
  · by_cases hpid : task.me.pid = input.telegram.pid
    · have hpid' : (task.swap telegram log csv).me.pid = input.telegram.pid := hpid
      have hhandle : ({ (task.swap telegram log csv).me with telegram := input.telegram }
          : MonitorThread).handle input.reads input.fopen = _ :=
        MonitorThread.handle_log { task.me with telegram := input.telegram } log input.reads
          input.fopen
      rw [logged, if_pos ⟨hwhole, hpid⟩, iterate_own hexited hwhole hpid,
        iterate_own hexited' hwhole hpid', hhandle, Option.map_map, Option.map_map]
      rfl
    · have hpid' : (task.swap telegram log csv).me.pid ≠ input.telegram.pid := hpid
      rw [logged, if_neg fun hcond => hpid hcond.2, hrows, iterate_foreign hexited hwhole hpid,
        iterate_foreign hexited' hwhole hpid']
      rfl
  · rw [logged, if_neg fun hcond => hwhole hcond.1, hrows, iterate_not_whole hexited hwhole,
      iterate_not_whole hexited' hwhole]
    rfl

/-- What a round does to the log and the file. -/
theorem iterate_log (h : task.iterate input = some task') :
    task'.me.log = (task.me.log.handlePoints input.fopen (task.logged input)).1 ∧
      task'.csv = { task.csv with
        rows := task.csv.rows
          ++ (task.me.log.handlePoints input.fopen (task.logged input)).2 } := by
  have hswap := task.iterate_swap task.me.telegram task.me.log task.csv input
  have hself : task.swap task.me.telegram task.me.log task.csv = task := rfl
  rw [hself, h] at hswap
  have heq := Option.some.inj hswap
  exact ⟨congrArg (fun task => task.me.log) heq, congrArg MonitorTask.csv heq⟩

/-- A round logs at most one point, and none unless the thread logs and takes its task for a
    deadline task. -/
theorem logged_cases (task : MonitorTask) (input : MonitorInput) :
    task.logged input = [] ∨
      (task.me.enableLogging = true ∧ task.me.policy = schedDeadline) ∧
        ∃ point, task.logged input = [point] := by
  unfold logged
  by_cases hown : input.numberOfBytesReceived = Telegram.size ∧ task.me.pid = input.telegram.pid
  · rw [if_pos hown]
    exact MonitorThread.logged_cases { task.me with telegram := input.telegram } input.reads
  · exact .inl (if_neg hown)

/-- The logs show the same, if they are ever given a point. -/
def LogsAlike (task : MonitorTask) (log : Log numberOfPoints) : Prop :=
  task.me.enableLogging = true → task.me.policy = schedDeadline →
    task.me.log.enabled = true ∧ log.enabled = true ∧ task.me.log.Alike log

/-- **One round** on two logs that show the same. -/
theorem LogsAlike.iterate {log : Log numberOfPoints} (hlogs : task.LogsAlike log)
    (h : task.iterate input = some task') :
    (task.me.log.handlePoints input.fopen (task.logged input)).2
        = (log.handlePoints input.fopen (task.logged input)).2 ∧
      task'.LogsAlike (log.handlePoints input.fopen (task.logged input)).1 := by
  obtain ⟨-, henable, hpolicy⟩ := iterate_frame h
  obtain ⟨hlog, -⟩ := iterate_log h
  -- A thread that takes its task for a deadline task has always done so.
  have hbefore : task'.me.policy = schedDeadline → task.me.policy = schedDeadline := by
    intro hdeadline
    by_contra hne
    rw [hpolicy] at hdeadline
    unfold MonitorThread.policyAfter at hdeadline
    rw [if_neg hne, ite_self] at hdeadline
    exact hne hdeadline
  unfold LogsAlike at hlogs ⊢
  rw [henable, hlog]
  rcases task.logged_cases input with hnil | ⟨⟨hlogging, hdeadline⟩, point, hpoint⟩
  · rw [hnil]
    exact ⟨rfl, fun hlogging hdeadline => hlogs hlogging (hbefore hdeadline)⟩
  · obtain ⟨henabled₁, henabled₂, halike⟩ := hlogs hlogging hdeadline
    obtain ⟨hrows, halike'⟩ := halike.handlePoint henabled₁ henabled₂ input.fopen point
    rw [hpoint]
    refine ⟨congrArg ([] ++ ·) hrows, fun _ _ => ⟨?_, ?_, halike'⟩⟩
    · exact (Log.handlePoint_enabled _ _ _).trans henabled₁
    · exact (Log.handlePoint_enabled _ _ _).trans henabled₂

/-! ### What can be seen of a run -/

/-- The metrics and the file, after a run of the given rounds. -/
def outcome (task : MonitorTask) (es : List MonitorInput) : Option (MonitorMetrics × CsvFile) :=
  (es.foldlM iterate task).map fun task => (task.me.metrics, task.csv)

theorem outcome_cons (task : MonitorTask) (input : MonitorInput) (es : List MonitorInput) :
    task.outcome (input :: es) = (task.iterate input).bind fun task => task.outcome es := by
  unfold outcome
  rw [List.foldlM_cons]
  cases task.iterate input with
  | none => rfl
  | some task' => rfl

/-- **Logs that show the same** give the same, whatever comes. -/
theorem outcome_of_alike (es : List MonitorInput) {telegram : Telegram} {log : Log numberOfPoints}
    (hlogs : task.LogsAlike log) :
    (task.swap telegram log task.csv).outcome es = task.outcome es := by
  induction es generalizing task telegram log with
  | nil => rfl
  | cons input es ih =>
    rw [outcome_cons, outcome_cons, iterate_swap]
    cases hstep : task.iterate input with
    | none => rfl
    | some task' =>
      obtain ⟨hrows, hlogs'⟩ := hlogs.iterate hstep
      have hcsv := (iterate_log hstep).2
      rw [hrows] at hcsv
      rw [Option.map_some, Option.bind_some, Option.bind_some, ← hcsv]
      exact ih hlogs'

/-- **The metrics** are the same on any logs. -/
theorem metrics_swap (es : List MonitorInput) (telegram : Telegram) (log : Log numberOfPoints)
    (csv : CsvFile) :
    ((task.swap telegram log csv).outcome es).map Prod.fst = (task.outcome es).map Prod.fst := by
  induction es generalizing task telegram log csv with
  | nil => rfl
  | cons input es ih =>
    rw [outcome_cons, outcome_cons, iterate_swap]
    cases task.iterate input with
    | none => rfl
    | some task' => exact ih _ _ _

/-! ### Telling logs apart -/

/-- **A round on an execution** logs one point, an exception when the estimator counts it. -/
theorem logged_job {pid : PidT} {props : DeadlineProps} {e : Estimate} (hw : Watching pid task)
    (hlogging : task.me.enableLogging = true) (href : Refines task.me.metrics e)
    (hjob : IsJob props pid input) (hx : input.execution.InRange) (hprops : props.timing.InRange) :
    ∃ point, task.logged input = [point] ∧
      (point.isException = true ↔
        e.Lost props.timing input.execution ∨ input.execution.Overrun props.timing) := by
  obtain ⟨hr, ho⟩ := recordResponseTime_refines href hx
  have hpoints : task.logged input = (MonitorThread.recorded
      { task.me with telegram := input.telegram }).branchPoints props := by
    unfold logged MonitorThread.logged MonitorThread.reportPoints
    rw [if_pos ⟨hjob.whole, hw.pid.trans hjob.pid.symm⟩]
    simp only [hjob.code, TelegramCode.ofValue_value, hw.policy, if_true, hjob.props]
  rw [hpoints]
  exact MonitorThread.branchPoints_refines _ hlogging hr ho hx hprops

/-- An execution from 1 to 1, or from 1 to 3, of a task whose runtime, deadline and period are 1. -/
def probeInput (pid : PidT) (isException : Bool) : MonitorInput :=
  { jobInput ⟨1, 1, 1⟩ pid 1 (if isException then 3 else 1) with fopen := true }

theorem probeInput_execution (pid : PidT) (isException : Bool) :
    (probeInput pid isException).execution = ⟨1, if isException then 3 else 1⟩ := by
  cases isException <;> rfl

/-- The estimator counts the second kind, and the first kind not as long as its estimate is where
    they start, which it leaves it at. -/
theorem probe_step {e : Estimate} {isException : Bool} (h : isException = false → e.ready ≤ 1) :
    (isException = true ↔ e.Lost ⟨1, 1, 1⟩ ⟨1, if isException then 3 else 1⟩ ∨
        (⟨1, if isException then 3 else 1⟩ : Execution).Overrun ⟨1, 1, 1⟩) ∧
      (isException = false →
        (e.step ⟨1, 1, 1⟩ ⟨1, if isException then 3 else 1⟩).ready ≤ 1) := by
  cases isException with
  | true => exact ⟨iff_of_true rfl (.inr (by decide)), fun hnot => absurd hnot (by decide)⟩
  | false =>
    have hready := h rfl
    have hread : e.readyAt ⟨1, 1⟩ = 1 := by
      unfold Estimate.readyAt
      split
      · rfl
      · omega
    have hlost : ¬ e.Lost ⟨1, 1, 1⟩ ⟨1, 1⟩ := by
      unfold Estimate.Lost
      rw [hread]
      decide
    refine ⟨iff_of_false Bool.false_ne_true ?_, fun _ => ?_⟩
    · rintro (h | h)
      · exact hlost h
      · exact absurd h (by decide)
    · have hpush : e.pushed ⟨1, 1, 1⟩ ⟨1, 1⟩ = 0 := if_neg fun h => hlost h.1
      simp only [Bool.false_eq_true, if_false]
      rw [Estimate.step_ready, hpush, hread, Loop.strideTo_of_le 1 le_rfl]

/-- The thread logs such executions; as long as it is given those of the first kind only, its
    estimate stays where they start. -/
structure Probed (pid : PidT) (isException : Bool) (task : MonitorTask) : Prop where
  watching : Watching pid task
  logging : task.me.enableLogging = true
  estimate : ∃ e, Refines task.me.metrics e ∧ (isException = false → e.ready ≤ 1)

/-- **One of them** is an exception or not, as it should be. -/
theorem Probed.iterate {pid : PidT} {isException : Bool} (h : Probed pid isException task) :
    ∃ task' point, task.iterate (probeInput pid isException) = some task' ∧
      task.logged (probeInput pid isException) = [point] ∧ point.isException = isException ∧
      Probed pid isException task' := by
  obtain ⟨hw, hlogging, e, href, hready⟩ := h
  have hjob : IsJob ⟨1, 1, 1⟩ pid (probeInput pid isException) := ⟨⟨rfl, rfl, rfl⟩, rfl⟩
  have hx : (probeInput pid isException).execution.InRange := by
    rw [probeInput_execution]
    cases isException <;> decide
  have hprops : (⟨1, 1, 1⟩ : DeadlineProps).timing.InRange := by decide
  obtain ⟨task', hstep, hw', href'⟩ := iterate_job_refines hw href hjob hx hprops
  obtain ⟨point, hpoint, hexc⟩ := logged_job hw hlogging href hjob hx hprops
  obtain ⟨hcounted, hready'⟩ := probe_step hready
  rw [probeInput_execution] at href' hexc
  refine ⟨task', point, hstep, hpoint, ?_, hw', (iterate_frame hstep).2.1.trans hlogging, _, href',
    hready'⟩
  rw [Bool.eq_iff_iff]
  exact hexc.trans hcounted.symm

/-- **The same outcomes** on two logs mean the same rows for such executions. -/
theorem sameRows_of_outcome {pid : PidT} {isException : Bool} (n : ℕ) {telegram : Telegram}
    {log : Log numberOfPoints} (h : Probed pid isException task)
    (hsame : ∀ es, (task.swap telegram log task.csv).outcome es = task.outcome es) :
    ∃ points, points.length = n ∧ (∀ point ∈ points, point.isException = isException) ∧
      Log.SameRows task.me.log log points := by
  induction n generalizing task telegram log with
  | zero => exact ⟨[], rfl, by simp, trivial⟩
  | succ n ih =>
    obtain ⟨task', point, hstep, hpoint, hexc, h'⟩ := h.iterate
    obtain ⟨hlog, hcsv⟩ := iterate_log hstep
    have hswap := task.iterate_swap telegram log task.csv (probeInput pid isException)
    rw [hpoint] at hlog hcsv hswap
    rw [hstep, Option.map_some] at hswap
    have hsame' := fun es => hsame (probeInput pid isException :: es)
    simp only [outcome_cons, hswap, hstep, Option.bind_some] at hsame'
    -- What is seen right after the round are the rows.
    have hfile : { task.csv with rows := task.csv.rows ++ (log.handlePoints true [point]).2 }
        = task'.csv := congrArg Prod.snd (Option.some.inj (hsame' []))
    have hrows : (task.me.log.handlePoint true point).2 = (log.handlePoint true point).2 := by
      rw [hcsv] at hfile
      exact List.append_cancel_left (congrArg CsvFile.rows hfile).symm
    obtain ⟨points, hlength, hpoints, hsameRows⟩ := ih h' fun es => by
      rw [← hfile]
      exact hsame' es
    rw [hlog] at hsameRows
    exact ⟨point :: points, congrArg (· + 1) hlength, List.forall_mem_cons.mpr ⟨hexc, hpoints⟩,
      hrows, hsameRows⟩

/-- **Only logs that show the same** give the same. -/
theorem alike_of_outcome {pid : PidT} {telegram : Telegram} {log : Log numberOfPoints}
    (h : ∀ isException, Probed pid isException task) (henabled₁ : task.me.log.enabled = true)
    (henabled₂ : log.enabled = true)
    (hsame : ∀ es, (task.swap telegram log task.csv).outcome es = task.outcome es) :
    task.me.log.Alike log := by
  obtain ⟨exceptions, hlength, hexceptions, hrows⟩ :=
    sameRows_of_outcome numberOfPoints (h true) hsame
  obtain ⟨others, hlength', hothers, hrows'⟩ :=
    sameRows_of_outcome numberOfPoints (h false) hsame
  refine ⟨Log.kept_of_sameRows henabled₁ henabled₂ hexceptions (by omega) hrows, ?_⟩
  rw [Bool.eq_iff_iff]
  constructor
  · exact Log.flag_of_sameRows henabled₁ hothers (by omega) hrows'
  · exact Log.flag_of_sameRows henabled₂ hothers (by omega) hrows'.symm

/-! ### Slots -/

/-- A slot with the same task and the same choice to log starts as another one, but for what it
    holds of the log. -/
theorem start_eq_swap {me₁ me₂ : MonitorThread} (hpid : me₁.pid = me₂.pid)
    (hlogging : me₁.enableLogging = me₂.enableLogging) (scheduler : ℤ) (fopen : Bool) :
    start me₂ scheduler fopen = (start me₁ scheduler fopen).swap me₂.telegram
      (start me₂ scheduler fopen).me.log (start me₁ scheduler fopen).csv := by
  obtain ⟨pid₁, policy₁, telegram₁, metrics₁, log₁, enableLogging₁⟩ := me₁
  obtain ⟨pid₂, policy₂, telegram₂, metrics₂, log₂, enableLogging₂⟩ := me₂
  obtain rfl : pid₁ = pid₂ := hpid
  obtain rfl : enableLogging₁ = enableLogging₂ := hlogging
  rfl

/-- The list is as it was left, and logging is on if it was chosen. -/
theorem start_log (me : MonitorThread) (scheduler : ℤ) (fopen : Bool) :
    (start me scheduler fopen).me.log.list = me.log.list ∧
      (start me scheduler fopen).me.log.enabled = me.enableLogging := by
  cases hlogging : me.enableLogging <;> simp [start, MonitorThread.init, hlogging, Log.init,
    Log.enable, Log.disable]

/-- **Which slots a monitor starts alike in.**  The metrics are the same in any.  The rows are the
    same for all that may come exactly when nothing is logged, or the task is not a deadline task,
    or the lists left in the slots show the same: their flags, and the rows of their unread points
    but for the oldest of a full list. -/
theorem fresh_start_iff (me₁ me₂ : MonitorThread) (hpid : me₁.pid = me₂.pid)
    (hlogging : me₁.enableLogging = me₂.enableLogging) (scheduler : ℤ) (fopen : Bool) :
    (∀ es, ((start me₁ scheduler fopen).outcome es).map Prod.fst
        = ((start me₂ scheduler fopen).outcome es).map Prod.fst) ∧
    ((∀ es, (start me₁ scheduler fopen).outcome es = (start me₂ scheduler fopen).outcome es) ↔
      (me₁.enableLogging = true → PID.getSchedulerPolicy scheduler = schedDeadline →
        me₁.log.Alike me₂.log)) := by
  obtain ⟨hlist₁, henabled₁⟩ := start_log me₁ scheduler fopen
  obtain ⟨hlist₂, henabled₂⟩ := start_log me₂ scheduler fopen
  have hstart := start_eq_swap hpid hlogging scheduler fopen
  have halike := Log.alike_congr hlist₁ hlist₂
  generalize (start me₂ scheduler fopen).me.log = log at *
  rw [hstart]
  refine ⟨fun es => (metrics_swap es _ _ _).symm, ?_, ?_⟩
  · intro hsame hlog hpolicy
    have hprobed : ∀ isException, Probed me₁.pid isException (start me₁ scheduler fopen) :=
      fun _ => ⟨⟨rfl, rfl, hpolicy⟩, hlog, .initial, refines_init, fun _ => Nat.zero_le 1⟩
    apply halike.mp
    exact alike_of_outcome hprobed (henabled₁.trans hlog) (henabled₂.trans (hlogging ▸ hlog))
      fun es => (hsame es).symm
  · intro hcond es
    apply Eq.symm
    apply outcome_of_alike
    intro hlog hpolicy
    exact ⟨henabled₁.trans hlog, henabled₂.trans (hlogging ▸ hlog), halike.mpr (hcond hlog hpolicy)⟩

/-- A slot of the task 5, with the given log. -/
def slotOf (log : Log numberOfPoints) : MonitorThread :=
  { MonitorThread.zero with pid := 5, log := log, enableLogging := true }

/-- The log of a slot whose list was written out by the task before: the write index is not where
    it was at the start. -/
def writtenLog : Log numberOfPoints :=
  { MonitorThread.zero.log with list := { MonitorThread.zero.log.list with listIndex := 3 } }

theorem fresh_start_written :
    (start (slotOf MonitorThread.zero.log) schedDeadline true).outcome [jobInput ⟨5, 10, 20⟩ 5 300 305]
      = (start (slotOf writtenLog) schedDeadline true).outcome [jobInput ⟨5, 10, 20⟩ 5 300 305] :=
  (fresh_start_iff (slotOf MonitorThread.zero.log) (slotOf writtenLog) rfl rfl schedDeadline
    true).2.mpr (fun _ _ => ⟨rfl, rfl⟩) _

/-- **The points of the task before.**  The task 4 makes four executions, of which the last one
    overruns, and its slot is taken for the task 5.  The first execution of that, which is no
    exception, has five rows written, where a slot never used writes none. -/
theorem fresh_start_not :
    ∃ before new fresh : MonitorTask,
      Run iterate
        (start { MonitorThread.zero with pid := 4, enableLogging := true } schedDeadline true)
        [jobInput ⟨5, 10, 20⟩ 4 100 105, jobInput ⟨5, 10, 20⟩ 4 120 125,
          jobInput ⟨5, 10, 20⟩ 4 140 145, jobInput ⟨5, 10, 20⟩ 4 160 169] before ∧
      Run iterate (start (slotOf before.me.log) schedDeadline true)
        [{ jobInput ⟨5, 10, 20⟩ 5 300 305 with fopen := true }] new ∧
      Run iterate (start (slotOf MonitorThread.zero.log) schedDeadline true)
        [{ jobInput ⟨5, 10, 20⟩ 5 300 305 with fopen := true }] fresh ∧
      new.me.metrics = fresh.me.metrics ∧ new.csv.rows.length = 5 ∧ fresh.csv.rows = [] := by
  refine ⟨_, _, _, run_get _ _ (by decide), run_get _ _ (by decide), run_get _ _ (by decide), ?_,
    ?_, ?_⟩
  · decide
  · decide
  · decide

end MonitorTask

end RtTaskTrace
