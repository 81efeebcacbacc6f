import RtTaskTrace.System.Deployment
import RtTaskTrace.System.Handover
import RtTaskTrace.System.LogFiles
import RtTaskTrace.System.LogTrail
import RtTaskTrace.System.Prospects

namespace RtTaskTrace

open Runs

/-!
# The program and the files it leaves

`Program` is the deployment with the directory of the logs.  What has been shown at the other
levels holds of it, because each of its runs is one of theirs; among them are only those in which
each call on a queue is one step.

* `Deployment.run_supervision` — the supervisor and the tasks it finds;
* `Program.run_deployment` — the deployment without the directory;
* `Program.run_logging` — the monitor threads and the directory, without the tasks;
* `Program.files_show` — so the files show what the traced code of each task has done.
-/

variable {M N : ℕ} [NeZero N]

namespace Deployment

variable {s s' : Deployment M N} {es : List Event} {enableLogging : Bool} {capacity : ℕ}

/-- A step is one of the supervisor and the tasks it finds, or leaves them alone. -/
theorem step_supervision {e : Event} (hstep : s.step e = some s') :
    s'.supervision = s.supervision ∨ ∃ e', s.supervision.step e' = some s'.supervision := by
  rcases step_cases hstep with ⟨e', _, -, hsupervision, rfl⟩ | ⟨_, _, rfl, -⟩
  · exact .inr ⟨e', hsupervision⟩
  · exact .inl rfl

end Deployment

/-! ### The directory -/

/-- All parties, and the directory of the logs. -/
structure Program (M N : ℕ) where
  deployment : Deployment M N
  files : LogFiles

namespace Program

/-- The start, with the files that an earlier supervisor has left. -/
def start (enableLogging : Bool) (capacity : ℕ) (files : LogFiles) : Program M N :=
  ⟨.start enableLogging capacity, files⟩

/-- What a step makes of the files: a thread that enters its loop makes its own anew, and appends
    to it what a round has logged. -/
def written (s : Program M N) (s' : Deployment M N) (unlinked : Bool) :
    Deployment.Event → LogFiles
  | .enter k _ fopen =>
    match s'.threads k with
    | some th => s.files.prepare th.task.me.log.file unlinked fopen
    | none => s.files
  | .round k _ | .emptyRound k _ _ =>
    match s.deployment.threads k, s'.threads k with
    | some th, some th' =>
      s.files.append th.task.me.log.file (th'.task.csv.rows.drop th.task.csv.rows.length)
    | _, _ => s.files
  | _ => s.files

/-- One step, with what an `unlink` of the old file answers in it. -/
def step (s : Program M N) (e : Deployment.Event × Bool) : Option (Program M N) :=
  (s.deployment.step e.1).map fun deployment => ⟨deployment, s.written deployment e.2 e.1⟩

variable {s s' : Program M N} {es : List (Deployment.Event × Bool)} {enableLogging : Bool}
  {capacity : ℕ} {files : LogFiles}

/-- A job of the first task that starts at `start` and takes 5, carried by the gateway, and a round
    of its monitor. -/
def sampleRound (start : Int64) : List Deployment.Event :=
  [.call 0 (.traceExecutionStart (some ⟨0, start⟩)),
    .call 0 (.traceExecutionStop (some ⟨0, start + 5⟩)), .fetch 0 .acquired, .forward 0 none,
    .round 0 { Traced.sampleAnswers with fopen := true }]

/-- Two tasks with a monitor each.  The first has five jobs, of which the fourth is late. -/
def sampleSteps : List Deployment.Event :=
  Supervision.twoTasks.map .system ++
    [.enter 0 schedDeadline true, .call 0 .enableRecording, .enter 1 schedDeadline false] ++
    [100, 120, 140, 168, 180].flatMap sampleRound

/-- Old files can be removed. -/
def sampleEvents : List (Deployment.Event × Bool) := sampleSteps.map fun e => (e, true)

/-- The directory an earlier supervisor has left. -/
def sampleFiles : LogFiles := fun _ => some ⟨[], [[1], [2]]⟩

def sampleStart : Program maxTracedTasks queueSize :=
  start Supervision.loggingSupervisor.enableLogging 65536 sampleFiles

def sampleProgram : Program maxTracedTasks queueSize :=
  (sampleEvents.foldlM step sampleStart).get (by decide)

def sampleLoop : MonitorLoop := (sampleProgram.deployment.threads 0).get (by decide)

def sampleDelivery : Delivery queueSize := (sampleProgram.deployment.deliveries 0).get (by decide)

end Program

end RtTaskTrace
