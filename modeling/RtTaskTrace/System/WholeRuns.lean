import RtTaskTrace.System.Deployment

namespace RtTaskTrace

open Runs

/-!
# What the whole program does

The runs of the deployment, from its start.  A call on a queue is one step of them, which leaves
out the runs in which the updates of `count` by a task and its gateway interleave.

* `projects` — a run of the deployment is, for each monitor, a run of one task and one monitor;
* `own_telegrams` — each monitor's metrics are the estimate over telegrams of its own task;
* `ended_account` — and a monitor that has ended has left nothing behind in the pipe.
-/

variable {M N : ℕ} [NeZero N]

namespace Deployment

variable {s : Deployment M N} {es : List Event} {enableLogging : Bool} {capacity : ℕ}

/-- **A whole run is a run of each task with its monitor.**  However many tasks and monitors there
    are and in whatever order all threads take their steps: a monitor thread whose `open` succeeded
    reads the pipe of a process of the pid it was handed, no other thread reads that pipe, and the
    steps of that process, its gateway and this thread among all others are, in their order, a run
    of one task beside one monitor from their own starts to where they are now. -/
theorem projects (h : Run step (start enableLogging capacity : Deployment M N) es s) {k c : ℕ}
    {task : MonitorTask} (hthread : s.threads k = some ⟨some c, task⟩) :
    ∃ m t d scheduler fopen, s.supervision.tracing.monitors[k]? = some m ∧
      s.supervision.world.tasks[c]? = some t ∧ t.pid = s.supervision.tracing.pidOf m ∧
      s.deliveries c = some d ∧ Event.enter k scheduler fopen ∈ es ∧
      Run Traced.step (Traced.start t.pid capacity
        (MonitorTask.start (s.supervision.tracing.supervisor.monitor m.slot) scheduler fopen))
        (trace k c es) ⟨d, task⟩ ∧
      ∀ l task', s.threads l = some ⟨some c, task'⟩ → l = k := by
  have hjoined := run_joined h
  obtain ⟨m, t, d, scheduler, fopen, hs⟩ := hjoined.serves k c task hthread
  have hrun := hs.run
  rw [run_capacity h, ← hs.pid] at hrun
  exact ⟨m, t, d, scheduler, fopen, hs.monitor, hs.process, hs.pid, hs.delivery, hs.entered, hrun,
    fun l task' hl => hjoined.one_reader hs.monitor hs.process hs.pid hl⟩

/-- **Each monitor shows its own task.**  If the `k`-th monitor found a deadline task when its thread
    entered its loop and read the same parameters in each of its rounds on a telegram, and if these
    and the times of the telegrams handed over are in range: the thread's metrics are the estimate
    over the telegrams it has read, which are in order among those its task has handed over, all of
    the task's own pid, whatever the other tasks and monitors did. -/
theorem own_telegrams (h : Run step (start enableLogging capacity : Deployment M N) es s)
    {k c : ℕ} {task : MonitorTask} (hthread : s.threads k = some ⟨some c, task⟩)
    {props : DeadlineProps} (hprops : props.timing.InRange)
    (hpolicy : ∀ scheduler fopen, .enter k scheduler fopen ∈ es → scheduler = schedDeadline)
    (hsup : ∀ answers, .round k answers ∈ es → (Traced.Event.round answers).Supervised props)
    {d : Delivery N} (hd : s.deliveries c = some d)
    (hx : ∀ t ∈ d.accepted, t.execution.InRange) :
    ∃ (m : MonitorRun M) (read : List Telegram), s.supervision.tracing.monitors[k]? = some m ∧
      d.reads = read.map Telegram.encode ∧ read.Sublist d.accepted ∧
      (∀ t ∈ d.accepted, t.pid = s.supervision.tracing.pidOf m) ∧
      Refines task.me.metrics (.follow (Traced.timed props read)) := by
  obtain ⟨m, t, d', scheduler, fopen, hs⟩ := (run_joined h).serves k c task hthread
  obtain rfl := Option.some.inj (hs.delivery.symm.trans hd)
  obtain rfl := hpolicy scheduler fopen hs.entered
  have hw : Watching (s.supervision.tracing.pidOf m) (MonitorTask.start
      (s.supervision.tracing.supervisor.monitor m.slot) schedDeadline fopen) := ⟨rfl, rfl, rfl⟩
  have hsup' : ∀ e ∈ trace k c es, e.Supervised props :=
    forall_trace hsup fun _ => Traced.Event.supervised_of_ne
  obtain ⟨read, piped, queued, done, hf⟩ := Traced.run_follows hs.run hw rfl hprops hsup'
  have ht := hf.tracks
  exact ⟨m, read, hs.monitor, ht.reads, ht.read_sublist, ht.own, hf.refines hx⟩

/-- **What a monitor that has ended has seen.**  Its task is dead and the pipe is empty: of all that
    the task has handed over, it has read, in order, each telegram but those the gateway dropped,
    the one in the gateway's hand and those in the queue when the task died.  Each call on the queue
    was one step. -/
theorem ended_account (h : Run step (start enableLogging capacity : Deployment M N) es s)
    {k : ℕ} {m : MonitorRun M} (hm : s.supervision.tracing.monitors[k]? = some m)
    (hended : m.phase = .ended) :
    ∃ c t d task, s.threads k = some ⟨some c, task⟩ ∧
      s.supervision.world.tasks[c]? = some t ∧ t.pid = s.supervision.tracing.pidOf m ∧
      t.alive = false ∧ s.deliveries c = some d ∧
      ∃ read queued : List Telegram, d.reads = read.map Telegram.encode ∧
        d.pipe.bytes = [] ∧ d.task.gateway.queue.Holds queued ∧ read.Sublist d.accepted ∧
        d.accepted.Perm (read ++ d.inHand ++ queued ++ d.dropped) := by
  have hjoined := run_joined h
  obtain ⟨c, task, hthread, hexited⟩ := hjoined.ended k m hm hended
  obtain ⟨n, t, d, scheduler, fopen, hs⟩ := hjoined.serves k c task hthread
  obtain rfl := Option.some.inj (hs.monitor.symm.trans hm)
  obtain ⟨hdead, hempty⟩ := hs.ended hexited
  obtain ⟨read, piped, queued, done, ht⟩ := Traced.run_tracks hs.run
  refine ⟨c, t, d, task, hthread, hs.process, hs.pid, hdead, hs.delivery, read, queued, ht.reads,
    hempty, ht.queue, ht.read_sublist, ?_⟩
  -- an empty pipe holds no telegram
  have hpiped : piped = [] := by
    cases piped with
    | nil => rfl
    | cons t' piped =>
      have hbytes := ht.pipe
      rw [hempty, List.flatMap_cons] at hbytes
      have hlength := congrArg List.length (List.append_eq_nil_iff.mp hbytes.symm).1
      rw [t'.encode_length] at hlength
      exact absurd hlength (by decide)
  have hall := ht.accounted
  rw [hpiped, List.append_nil] at hall
  exact hall

/-! ### Two tasks -/

/-- A job of the process `id` that starts at `start` and takes 5, and the gateway's update. -/
def sampleJob (id : ℕ) (start : Int64) : List Event :=
  [.call id (.traceExecutionStart (some ⟨0, start⟩)),
    .call id (.traceExecutionStop (some ⟨0, start + 5⟩)), .fetch id .acquired, .forward id none]

/-- Two monitored tasks with a job each; the first one has another and dies before its monitor has
    read of it. -/
def sampleEvents : List Event :=
  Supervision.twoTasks.map .system ++
    [.enter 0 schedDeadline false, .call 0 .enableRecording, .call 1 .enableRecording] ++
    sampleJob 0 100 ++ sampleJob 1 107 ++
    [.round 0 Traced.sampleAnswers, .enter 1 schedDeadline false, .round 1 Traced.sampleAnswers] ++
    sampleJob 0 120 ++ [.system (.task (.die 0)), .round 0 Traced.sampleAnswers]

/-- The monitor finds the end of the pipe and ends. -/
def sampleEnd : List Event :=
  [.emptyRound 0 0 Traced.sampleAnswers, .system (.monitor (.exit 0))]

def sampleState : Deployment maxTracedTasks queueSize :=
  (sampleEvents.foldlM step (start false 65536)).get (by decide)

theorem sampleState_run : Run step (start false 65536) sampleEvents sampleState :=
  run_get _ _ _

def sampleLoop : MonitorLoop := (sampleState.threads 0).get (by decide)

theorem sampleState_thread : sampleState.threads 0 = some ⟨some 0, sampleLoop.task⟩ := by
  have hsome : sampleState.threads 0 = some sampleLoop := (Option.some_get _).symm
  have hpipe : sampleLoop.pipe = some 0 := by decide
  rw [hsome, ← hpipe]

def sampleDelivery : Delivery queueSize := (sampleState.deliveries 0).get (by decide)

theorem sampleState_delivery : sampleState.deliveries 0 = some sampleDelivery :=
  (Option.some_get _).symm

theorem projects_sample :
    (trace 0 0 sampleEvents).length = 11 ∧
      ∃ m t d scheduler fopen, sampleState.supervision.tracing.monitors[0]? = some m ∧
        sampleState.supervision.world.tasks[0]? = some t ∧
        t.pid = sampleState.supervision.tracing.pidOf m ∧ sampleState.deliveries 0 = some d ∧
        Event.enter 0 scheduler fopen ∈ sampleEvents ∧
        Run Traced.step (Traced.start t.pid 65536 (MonitorTask.start
          (sampleState.supervision.tracing.supervisor.monitor m.slot) scheduler fopen))
          (trace 0 0 sampleEvents) ⟨d, sampleLoop.task⟩ ∧
        ∀ l task', sampleState.threads l = some ⟨some 0, task'⟩ → l = 0 :=
  ⟨by decide, projects sampleState_run sampleState_thread⟩

theorem sampleEvents_policy (scheduler : ℤ) (fopen : Bool)
    (h : .enter 0 scheduler fopen ∈ sampleEvents) : scheduler = schedDeadline := by
  have heq : scheduler = schedDeadline ∧ fopen = false := by
    simpa [sampleEvents, sampleJob] using h
  exact heq.1

theorem sampleEvents_supervised (answers : Answers) (h : .round 0 answers ∈ sampleEvents) :
    (Traced.Event.round answers).Supervised Traced.sampleProps := by
  have heq : answers = Traced.sampleAnswers := by
    simpa [sampleEvents, sampleJob] using h
  rw [heq]
  decide

theorem own_telegrams_sample :
    sampleDelivery.reads.length = 2 ∧
      ∃ (m : MonitorRun maxTracedTasks) (read : List Telegram),
        sampleState.supervision.tracing.monitors[0]? = some m ∧
        sampleDelivery.reads = read.map Telegram.encode ∧ read.Sublist sampleDelivery.accepted ∧
        (∀ t ∈ sampleDelivery.accepted, t.pid = sampleState.supervision.tracing.pidOf m) ∧
        Refines sampleLoop.task.me.metrics
          (.follow (Traced.timed Traced.sampleProps read)) :=
  ⟨by decide, own_telegrams sampleState_run sampleState_thread (by decide) sampleEvents_policy
    sampleEvents_supervised sampleState_delivery (by decide)⟩

def endedState : Deployment maxTracedTasks queueSize :=
  (sampleEnd.foldlM step sampleState).get (by decide)

theorem endedState_run : Run step (start false 65536) (sampleEvents ++ sampleEnd) endedState :=
  (run_append _ _ _ _).mpr ⟨sampleState, sampleState_run, run_get _ _ _⟩

theorem ended_account_sample :
    ∃ c t d task, endedState.threads 0 = some ⟨some c, task⟩ ∧
      endedState.supervision.world.tasks[c]? = some t ∧
      t.pid = endedState.supervision.tracing.pidOf ⟨0, .ended⟩ ∧
      t.alive = false ∧ endedState.deliveries c = some d ∧
      ∃ read queued : List Telegram, d.reads = read.map Telegram.encode ∧
        d.pipe.bytes = [] ∧ d.task.gateway.queue.Holds queued ∧ read.Sublist d.accepted ∧
        d.accepted.Perm (read ++ d.inHand ++ queued ++ d.dropped) :=
  ended_account endedState_run (m := ⟨0, .ended⟩) (by decide) rfl

end Deployment

end RtTaskTrace
