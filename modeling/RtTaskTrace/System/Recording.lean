import RtTaskTrace.System.Delivery
import RtTaskTrace.Supervisor.Refinement
import RtTaskTrace.Supervisor.Pauses

namespace RtTaskTrace

/-!
# Pausing the recording

The whole chain over the jobs of one task: the calls it makes, the way its telegrams go and
the monitor at the end.  Between two jobs the task may switch the recording on or off; the
gateway and the monitor keep up, so that a telegram is handled before the next job.

* `Traced.job` — one job: the switches before it, its start and stop, and, if the stop was
  accepted, the telegram's way to the monitor;
* `Idle` — the state between two jobs: nothing is under way and the monitor's metrics are an
  estimate;
* `job_idle` — a job that is recorded is one step of the estimator, and one that is not is
  refused and changes nothing;
* `pause_loss_iff` — when pauses cost no deadline loss, and `pause_loses` that they can.
-/

variable {N : ℕ} [NeZero N]

/-- The two calls a task makes between its jobs. -/
inductive Switch
  | enable
  | disable
  deriving DecidableEq, Repr

/-- The call of a switch. -/
def Switch.call : Switch → TaskTrace.Call
  | .enable => .enableRecording
  | .disable => .disableRecording

/-- One job: the switches before it, the clock at its start and stop, and what the monitor's
    round on its telegram is answered. -/
structure Job where
  switches : List Switch
  started : Timespec
  stopped : Timespec
  euid : ℕ
  kill : PidT → Bool
  reads : SchedReads
  fopen : Bool

/-- The traced task with its gateway and pipe, and its monitor. -/
structure Traced (N : ℕ) where
  delivery : Delivery N
  monitor : MonitorTask

/-- The monitor's round on the bytes a read has put over its telegram buffer. -/
def Job.input (job : Job) (buffer : Telegram) (bytes : List UInt8) : MonitorInput where
  numberOfBytesReceived := bytes.length
  telegram := .decode (bytes ++ buffer.encode.drop bytes.length)
  euid := job.euid
  kill := job.kill
  reads := job.reads
  fopen := job.fopen

namespace Traced

/-- A telegram's way from the queue to the end of the monitor's round on it. -/
def carry (s : Traced N) (job : Job) : Option (Traced N) := do
  let fetched ← s.delivery.fetch .acquired
  let written ← fetched.forward none
  let (bytes, _) ← SharedMem.supervisorRead written.pipe
  let delivery ← written.read
  let monitor ← s.monitor.iterate (job.input s.monitor.me.telegram bytes)
  some ⟨delivery, monitor⟩

/-- The task's calls around a job, up to its stop. -/
def callsBefore (s : Delivery N) (job : Job) : Delivery N :=
  (job.switches.foldl (fun s switch => s.call switch.call) s).call
    (.traceExecutionStart (some job.started))

/-- One job. -/
def job (s : Traced N) (job : Job) : Option (Traced N) :=
  let before := callsBefore s.delivery job
  let stop := TaskTrace.Call.traceExecutionStop (some job.stopped)
  let s := { s with delivery := before.call stop }
  if (before.task.call stop).2 ≠ 0 then some s else s.carry job

end Traced

/-- The execution a job is. -/
def Job.execution (job : Job) : Execution :=
  ⟨job.started.nanoseconds.toNat, job.stopped.nanoseconds.toNat⟩

/-- The recording flag after some switches. -/
def recordingAfter (recording : Bool) (switches : List Switch) : Bool :=
  switches.foldl (fun _ switch => switch = .enable) recording

/-! ### The task between its jobs -/

/-- Nothing is under way between the task and its monitor. -/
structure Ready (pid : PidT) (recording : Bool) (d : Delivery N) : Prop where
  tracks : ∃ read done, d.Tracks pid read [] [] done
  fetched : d.fetched = false
  capacity : Telegram.size ≤ d.pipe.capacity
  initiallized : d.task.isInitiallized = true
  recording : d.task.isRecording = recording

variable {pid : PidT} {recording : Bool} {d : Delivery N}

theorem ready_start (pid : PidT) {capacity : ℕ} (hcapacity : Telegram.size ≤ capacity) :
    Ready pid false (Delivery.start pid capacity : Delivery N) where
  tracks := ⟨[], [], Delivery.start_tracks pid capacity⟩
  fetched := rfl
  capacity := hcapacity
  initiallized := rfl
  recording := rfl

/-- A call that reports nothing leaves nothing under way. -/
theorem Ready.of_call (h : Ready pid recording d) {c : TaskTrace.Call}
    (hc : Delivery.reports c = false) (hstop : ∀ clock, c ≠ .traceExecutionStop clock) :
    Ready pid (d.task.call c).1.isRecording (d.call c) := by
  obtain ⟨read, done, ht⟩ := h.tracks
  have hframe := d.task.call_frame c
  refine ⟨⟨read, done, ht.of_refused (hframe.2.2 hstop) ?_⟩, h.fetched, h.capacity,
    hframe.2.1.trans h.initiallized, rfl⟩
  rw [hc, Bool.false_and]

theorem Ready.switch (h : Ready pid recording d) (switch : Switch) :
    Ready pid (switch = .enable) (d.call switch.call) := by
  have hinit := h.initiallized
  cases switch with
  | enable =>
    have hready := h.of_call (c := .enableRecording) rfl (by simp)
    have hflag : (d.task.call .enableRecording).1.isRecording = true := by
      show d.task.enableRecording.1.isRecording = true
      rw [TaskTrace.enableRecording, if_neg (by simp [hinit])]
      -- Enabling twice fails, but the flag is set all the same.
      by_cases hon : d.task.isRecording = true
      · rw [if_pos hon]
        exact hon
      · rw [if_neg hon]
    rw [hflag] at hready
    exact hready
  | disable =>
    have hready := h.of_call (c := .disableRecording) rfl (by simp)
    have hflag : (d.task.call .disableRecording).1.isRecording = false := by
      show d.task.disableRecording.1.isRecording = false
      rw [TaskTrace.disableRecording, if_neg (by simp [hinit])]
      -- And so for disabling twice.
      by_cases hoff : d.task.isRecording = false
      · rw [if_pos hoff]
        exact hoff
      · rw [if_neg hoff]
    rw [hflag] at hready
    exact hready

theorem Ready.switches (h : Ready pid recording d) (switches : List Switch) :
    Ready pid (recordingAfter recording switches)
      (switches.foldl (fun d switch => d.call switch.call) d) := by
  induction switches generalizing recording d with
  | nil => exact h
  | cons switch switches ih => exact ih (h.switch switch)

/-! ### A job that is not recorded -/

theorem Ready.unrecorded (h : Ready pid false d) (clock : Option Timespec) :
    d.call (.traceExecutionStart clock) = d ∧ d.call (.traceExecutionStop clock) = d ∧
      (d.task.call (.traceExecutionStop clock)).2 = -1 := by
  -- A task that is not recording refuses both calls.
  have hoff : (!d.task.isInitiallized || !d.task.isRecording) = true := by
    rw [h.recording, Bool.not_false, Bool.or_true]
  have hstart := TaskTrace.traceExecutionStart_refused hoff clock
  have hstop := TaskTrace.traceExecutionStop_refused hoff clock
  refine ⟨?_, ?_, ?_⟩
  · simp only [Delivery.call, TaskTrace.call, hstart, Delivery.reports, Bool.false_and]
    rfl
  · simp only [Delivery.call, TaskTrace.call, hstop, Delivery.reports, Bool.true_and]
    rfl
  · show (d.task.traceExecutionStop clock).2 = -1
    rw [hstop]

/-! ### A job that is recorded -/

theorem Ready.on (h : Ready pid true d) :
    (!d.task.isInitiallized || !d.task.isRecording) = false := by
  rw [h.initiallized, h.recording]
  rfl

/-- The start of a recorded job is stored in the task's telegram. -/
theorem Ready.started (h : Ready pid true d) (time : Timespec) :
    Ready pid true (d.call (.traceExecutionStart (some time))) ∧
      (d.call (.traceExecutionStart (some time))).task.telegram.t1 = time.nanoseconds := by
  have hstart := TaskTrace.traceExecutionStart_recorded h.on time
  have hready := h.of_call (c := .traceExecutionStart (some time)) rfl (by simp)
  constructor
  · have hflag : (d.task.call (.traceExecutionStart (some time))).1.isRecording = true := by
      show (d.task.traceExecutionStart (some time)).1.isRecording = true
      rw [hstart]
      exact h.recording
    rw [hflag] at hready
    exact hready
  · show (d.task.traceExecutionStart (some time)).1.telegram.t1 = time.nanoseconds
    rw [hstart]

/-- The stop of a recorded job is accepted: its telegram is the only one in the queue, and the
    gateway is woken. -/
theorem Ready.stopped (h : Ready pid true d) (time : Timespec) :
    (d.task.call (.traceExecutionStop (some time))).2 = 0 ∧
      (∃ read done, (d.call (.traceExecutionStop (some time))).Tracks pid read []
        [d.task.stopTelegram time] done) ∧
      (d.call (.traceExecutionStop (some time))).task.gateway.queue.sem ≠ 0 ∧
      (d.call (.traceExecutionStop (some time))).task.isInitiallized = true ∧
      (d.call (.traceExecutionStop (some time))).task.isRecording = true := by
  obtain ⟨read, done, ht⟩ := h.tracks
  -- The queue is empty between two jobs, so it has room.
  have hempty : ¬ ([] : List Telegram).length = N := (NeZero.ne N).symm
  have hroom : ([] : List Telegram).length < N := Nat.pos_of_ne_zero (NeZero.ne N)
  obtain ⟨hzero, -, hsem⟩ := Queue.add_of_room ht.queue hroom (d.task.stopTelegram time)
  have hstop := TaskTrace.traceExecutionStop_recorded h.on time
  rw [Gateway.write_eq] at hstop
  have hret : (d.task.traceExecutionStop (some time)).2 = 0 := by
    rw [hstop]
    exact if_neg (not_not.mpr hzero)
  refine ⟨hret, ⟨read, done, ?_⟩, ?_, ?_, ?_⟩
  · have hway := ht.of_stop (some time) time
      (by rw [hstop, Gateway.write_eq]) (by rw [hstop])
      (by rw [Gateway.write_eq]; exact iff_of_true hret hzero)
    rw [if_neg hempty] at hway
    exact hway
  · show (d.task.traceExecutionStop (some time)).1.gateway.queue.sem ≠ 0
    rw [hstop]
    show (d.task.gateway.queue.add _).1.sem ≠ 0
    rw [hsem]
    exact Nat.succ_ne_zero _
  · show (d.task.traceExecutionStop (some time)).1.isInitiallized = true
    rw [hstop]
    exact h.initiallized
  · show (d.task.traceExecutionStop (some time)).1.isRecording = true
    rw [hstop]
    exact h.recording

/-! ### The telegram's way -/

/-- The state between two jobs: nothing is under way, and the monitor of the task has made the
    steps of the estimate `e`. -/
structure Idle (pid : PidT) (recording : Bool) (e : Estimate) (s : Traced N) : Prop where
  ready : Ready pid recording s.delivery
  watching : Watching pid s.monitor
  refines : Refines s.monitor.me.metrics e

variable {e : Estimate} {s : Traced N} {props : DeadlineProps}

/-- **A telegram on its way reaches the monitor unaltered**, and nothing is left behind. -/
theorem carry_eq {read done : List Telegram} {t : Telegram}
    (ht : s.delivery.Tracks pid read [] [t] done) (hf : s.delivery.fetched = false)
    (hsem : s.delivery.task.gateway.queue.sem ≠ 0)
    (hcapacity : Telegram.size ≤ s.delivery.pipe.capacity)
    (hinit : s.delivery.task.isInitiallized = true)
    (hrecording : s.delivery.task.isRecording = true) (job : Job) :
    ∃ d, Ready pid true d ∧
      s.carry job = (s.monitor.iterate (job.input s.monitor.me.telegram t.encode)).map
        fun monitor => ⟨d, monitor⟩ := by
  obtain ⟨gateway, ret, hfetch⟩ := Gateway.fetch_acquired hsem
  obtain ⟨rfl, rfl, ht1⟩ := ht.fetch_cons hf hfetch
  -- the pipe is empty, so the write has room
  have hempty : s.delivery.pipe.bytes = [] := ht.pipe
  have hroom : s.delivery.pipe.bytes.length + Telegram.size ≤ s.delivery.pipe.capacity := by
    rw [hempty, List.length_nil, Nat.zero_add]
    exact hcapacity
  have hwrite : (gateway.forward s.delivery.pipe none s.delivery.errno).1
      = ⟨{ s.delivery.pipe with bytes := s.delivery.pipe.bytes ++ gateway.telegram.encode },
          Telegram.size, s.delivery.errno⟩ := by
    rw [gateway.forward_fst, SharedMem.userWrite, if_pos hroom]
  have ht2 := ht1.written rfl
    { s.delivery.pipe with bytes := s.delivery.pipe.bytes ++ gateway.telegram.encode }
    s.delivery.errno rfl
  rw [List.nil_append] at ht2
  obtain ⟨hread, ht3⟩ := ht2.read_cons
  refine ⟨_, ⟨⟨_, _, ht3⟩, rfl, hcapacity, hinit, hrecording⟩, ?_⟩
  have hfetched : s.delivery.fetch .acquired
      = some { s.delivery with
          task := { s.delivery.task with gateway := gateway }, fetched := true } := by
    rw [Delivery.fetch, if_neg (by simp [hf]), hfetch]
    rfl
  rw [Traced.carry, hfetched]
  simp only [Option.bind_eq_bind, Option.bind_some, Delivery.forward, if_true, hwrite,
    Delivery.read, hread, Option.map_some]
  cases s.monitor.iterate (job.input s.monitor.me.telegram gateway.telegram.encode) <;> rfl

/-- What the monitor is handed when a whole telegram was read. -/
theorem input_telegram (job : Job) (buffer t : Telegram) :
    (job.input buffer t.encode).telegram = t := by
  -- A whole telegram leaves nothing of the buffer before.
  have hrest : buffer.encode.drop t.encode.length = [] := by
    rw [t.encode_length, ← buffer.encode_length, List.drop_length]
  show Telegram.decode (t.encode ++ buffer.encode.drop t.encode.length) = t
  rw [hrest, List.append_nil, Telegram.decode_encode]

/-- The deadline parameters `props` are read on the job's telegram. -/
def Job.Supervised (props : DeadlineProps) (job : Job) : Prop :=
  PID.getDeadlinePropeties job.reads.scheduler job.reads.attr = .ok props

/-- The round that reads the telegram of a supervised job is a job of the monitor. -/
theorem Job.Supervised.isJob {job : Job} (h : job.Supervised props) {t : Telegram}
    (hpid : t.pid = pid) (hcode : t.code = TelegramCode.startAndStopTime.value)
    (buffer : Telegram) : IsJob props pid (job.input buffer t.encode) := by
  refine ⟨⟨?_, ?_, ?_⟩, h⟩
  · show (t.encode.length : ℤ) = Telegram.size
    rw [Telegram.encode_length]
  · rw [input_telegram]
    exact hpid
  · rw [input_telegram, hcode]

omit [NeZero N] in
/-- The telegram carries the times of the job. -/
theorem execution_stopTelegram {task : TaskTrace N} {job : Job}
    (ht1 : task.telegram.t1 = job.started.nanoseconds) (buffer : Telegram) :
    (job.input buffer (task.stopTelegram job.stopped).encode).execution = job.execution := by
  rw [MonitorInput.execution, input_telegram, Telegram.execution, Job.execution, ← ht1]
  rfl

/-! ### One job -/

/-- **One job.**  If it is recorded, it is a step of the estimator; if not, it is none. -/
theorem job_idle {recording : Bool} (h : Idle pid recording e s) {job : Job}
    (hsup : job.Supervised props) (hx : job.execution.InRange)
    (hprops : props.timing.InRange) :
    ∃ s', s.job job = some s' ∧
      Idle pid (recordingAfter recording job.switches)
        (if recordingAfter recording job.switches then e.step props.timing job.execution
          else e) s' := by
  have hswitched := h.ready.switches job.switches
  generalize hflag : recordingAfter recording job.switches = flag at hswitched ⊢
  generalize hd : job.switches.foldl (fun d switch => d.call switch.call) s.delivery = d
    at hswitched
  have hbefore : Traced.callsBefore s.delivery job
      = d.call (.traceExecutionStart (some job.started)) := by
    rw [Traced.callsBefore, hd]
  cases flag with
  | false =>
    -- Neither call does anything, and no telegram is sent.
    obtain ⟨hstart, -, -⟩ := hswitched.unrecorded (some job.started)
    obtain ⟨-, hstop, hret⟩ := hswitched.unrecorded (some job.stopped)
    refine ⟨⟨d, s.monitor⟩, ?_, ⟨hswitched, h.watching, h.refines⟩⟩
    rw [Traced.job, hbefore, hstart]
    simp only [hret, hstop]
    rfl
  | true =>
    obtain ⟨hstarted, ht1⟩ := hswitched.started job.started
    generalize hd1 : d.call (.traceExecutionStart (some job.started)) = d1 at hbefore hstarted ht1
    obtain ⟨hret, ⟨read, done, ht⟩, hsem, hinit, hrec⟩ := hstarted.stopped job.stopped
    -- the telegram arrives, and the monitor's round on it is a step of the estimator
    obtain ⟨d', hready, hcarry⟩ := carry_eq
      (s := ⟨d1.call (.traceExecutionStop (some job.stopped)), s.monitor⟩) ht hstarted.fetched
      hsem hstarted.capacity hinit hrec job
    have hpid : d1.task.pid = pid := by
      obtain ⟨_, _, ht'⟩ := hstarted.tracks
      exact ht'.pid
    have hjob : IsJob props pid
        (job.input s.monitor.me.telegram (d1.task.stopTelegram job.stopped).encode) :=
      hsup.isJob hpid rfl _
    have hexec := execution_stopTelegram ht1 s.monitor.me.telegram
    obtain ⟨monitor, hiter, hw, href⟩ := iterate_job_refines h.watching h.refines hjob
      (by rw [hexec]; exact hx) hprops
    refine ⟨⟨d', monitor⟩, ?_, hready, hw, ?_⟩
    · rw [Traced.job, hbefore]
      simp only [hret, ne_eq, not_true_eq_false, if_false]
      rw [hcarry]
      show (s.monitor.iterate _).map _ = _
      rw [hiter]
      rfl
    · rw [hexec] at href
      exact href

/-! ### Runs of jobs -/

/-- The recording flag before job `k`, off at first. -/
def recordingBefore (jobs : ℕ → Job) : ℕ → Bool
  | 0 => false
  | k + 1 => recordingAfter (recordingBefore jobs k) (jobs k).switches

/-- Whether job `k` is recorded. -/
def recorded (jobs : ℕ → Job) (k : ℕ) : Bool :=
  recordingAfter (recordingBefore jobs k) (jobs k).switches

/-- `n` jobs of a periodic deadline task that meets every deadline, job `k` released at
    `r + k * P`, for each of which the monitor would read the parameters `props`. -/
structure OnTimeJobs (props : DeadlineProps) (r : ℤ) (jobs : ℕ → Job) (n : ℕ) : Prop where
  period_pos : 0 < props.period.toNat
  period_bounded : props.period.toNat < 2 ^ 62
  deadline_le : props.deadline.toNat ≤ props.period.toNat
  supervised : ∀ k < n, (jobs k).Supervised props
  start_pos : ∀ k < n, 0 < (jobs k).started.nanoseconds.toNat
  release_le : ∀ k < n, r + k * props.period.toNat ≤ (jobs k).started.nanoseconds.toNat
  start_lt_stop : ∀ k < n,
    (jobs k).started.nanoseconds.toNat < (jobs k).stopped.nanoseconds.toNat
  stop_le : ∀ k < n, (jobs k).stopped.nanoseconds.toNat
    ≤ r + k * props.period.toNat + props.deadline.toNat
  stop_bounded : ∀ k < n, (jobs k).stopped.nanoseconds.toNat < 2 ^ 62

/-- The start: the task initialised and not yet recording, the pipe empty. -/
def Traced.start (pid : PidT) (capacity : ℕ) (monitor : MonitorTask) : Traced N :=
  ⟨Delivery.start pid capacity, monitor⟩

/-- The losses counted before job `k`. -/
def Traced.lossesBefore (s : Traced N) (jobs : ℕ → Job) (k : ℕ) : Option UInt32 :=
  (Runs.after Traced.job s jobs k).map fun s => s.monitor.me.metrics.deadlineLostCount

/-- The estimator's run over the recorded jobs. -/
def recordedEstimates (props : DeadlineProps) (jobs : ℕ → Job) (k : ℕ) : Estimate :=
  Estimate.runReported props.timing (recorded jobs) (fun j => (jobs j).execution) k

variable {r : ℤ} {jobs : ℕ → Job} {n : ℕ} {monitor : MonitorTask} {capacity : ℕ}

/-- **A run over jobs is a run of the estimator over the recorded ones.** -/
theorem lossesBefore_recorded (h : OnTimeJobs props r jobs n)
    (hcapacity : Telegram.size ≤ capacity) (hw : Watching pid monitor)
    (hfresh : monitor.me.metrics = MonitorMetrics.init) {k : ℕ} (hk : k ≤ n) :
    (Traced.start pid capacity monitor : Traced N).lossesBefore jobs k
      = some (UInt32.ofNat (recordedEstimates props jobs k).losses) := by
  have hidle : ∀ k ≤ n, ∃ s, Runs.after Traced.job (Traced.start pid capacity monitor : Traced N)
      jobs k = some s ∧ Idle pid (recordingBefore jobs k) (recordedEstimates props jobs k) s := by
    refine Runs.after_induction ⟨ready_start pid hcapacity, hw, ?_⟩ fun k hk s hs => ?_
    · show Refines monitor.me.metrics Estimate.initial
      rw [hfresh]
      exact refines_init
    · exact job_idle hs (h.supervised k hk)
        ⟨h.start_pos k hk, (h.start_lt_stop k hk).le, h.stop_bounded k hk⟩
        ⟨h.period_pos, h.period_bounded⟩
  obtain ⟨s, hs, hidle⟩ := hidle k hk
  rw [Traced.lossesBefore, hs, Option.map_some, hidle.refines.losses]

/-- The jobs are on time for the estimator. -/
theorem OnTimeJobs.onTime (h : OnTimeJobs props r jobs n) :
    Estimate.OnTime props.timing r (fun j => (jobs j).execution) n where
  period_pos := h.period_pos
  deadline_le := h.deadline_le
  start_pos := h.start_pos
  release_le := h.release_le
  start_lt_stop := h.start_lt_stop
  stop_le := h.stop_le

/-- A count that grows by at most one cannot come round to zero without having been one. -/
theorem count_zero_iff (props : DeadlineProps) (jobs : ℕ → Job) (n : ℕ) :
    (∀ k ≤ n, UInt32.ofNat (recordedEstimates props jobs k).losses = 0) ↔
      (recordedEstimates props jobs n).losses = 0 := by
  have hmono : ∀ k, (recordedEstimates props jobs k).losses
      ≤ (recordedEstimates props jobs (k + 1)).losses ∧
      (recordedEstimates props jobs (k + 1)).losses
        ≤ (recordedEstimates props jobs k).losses + 1 := by
    intro k
    simp only [recordedEstimates, Estimate.runReported]
    cases recorded jobs k
    · exact ⟨le_rfl, Nat.le_succ _⟩
    · rw [if_pos rfl, Estimate.step_losses]
      split <;> omega
  induction n with
  | zero =>
    refine iff_of_true (fun k hk => ?_) rfl
    obtain rfl : k = 0 := by omega
    rfl
  | succ n ih =>
    constructor
    · intro hall
      have hn := ih.mp fun k hk => hall k (by omega)
      have hlast := hall (n + 1) le_rfl
      have hle := (hmono n).2
      rw [hn] at hle
      -- From zero the count goes to zero or one, and one is not zero in the type.
      rcases Nat.le_one_iff_eq_zero_or_eq_one.mp hle with h0 | h1
      · exact h0
      · rw [h1] at hlast
        exact absurd hlast (by decide)
    · intro hn k hk
      rcases Nat.lt_or_eq_of_le hk with hlt | rfl
      · exact ih.mpr (Nat.le_zero.mp (hn ▸ (hmono n).1)) k (by omega)
      · rw [hn]
        rfl

/-- **When pausing the recording costs no deadline loss.**  The count stays at zero exactly
    when any two recorded jobs `j ≤ k` are close enough: what job `k` needs after its release,
    with the periods left out between them, is at most the start delay of `j` and the
    deadline. -/
theorem pause_loss_iff (h : OnTimeJobs props r jobs n) (hcapacity : Telegram.size ≤ capacity)
    (hw : Watching pid monitor) (hfresh : monitor.me.metrics = MonitorMetrics.init) :
    (∀ k ≤ n, (Traced.start pid capacity monitor : Traced N).lossesBefore jobs k = some 0) ↔
      ∀ k < n, recorded jobs k = true → ∀ j ≤ k, recorded jobs j = true →
        ((jobs k).stopped.nanoseconds.toNat - (r + k * props.period.toNat))
            + Estimate.unreported (recorded jobs) j k * props.period.toNat
          ≤ ((jobs j).started.nanoseconds.toNat - (r + j * props.period.toNat))
            + props.deadline.toNat := by
  -- the estimator's run is known, and the count is the estimator's
  refine Iff.trans ?_ (Estimate.losses_eq_zero_iff (recorded jobs) h.onTime)
  refine Iff.trans ?_ (count_zero_iff props jobs n)
  apply forall₂_congr
  intro k hk
  rw [lossesBefore_recorded h hcapacity hw hfresh hk, Option.some_inj]

/-! ### A pause that costs a loss

A task with runtime 5 and deadline and period 10, released at 10, 20, 30 and 40.  Jobs 1 and 2
are not recorded.  Job 3 starts at its release and ends 2 later. -/

/-- The task's parameters. -/
def pausedProps : DeadlineProps := ⟨5, 10, 10⟩

/-- A job that takes 2, with the switches before it. -/
def pausedJob (switches : List Switch) (start : Int64) : Job where
  switches := switches
  started := ⟨0, start⟩
  stopped := ⟨0, start + 2⟩
  euid := 0
  kill := fun _ => true
  reads := ⟨schedDeadline, some ⟨5, 10, 10⟩, schedDeadline⟩
  fopen := false

/-- Its jobs. -/
def pausedJobs : ℕ → Job
  | 0 => pausedJob [.enable] 10
  | 1 => pausedJob [.disable] 20
  | 2 => pausedJob [] 30
  | _ => pausedJob [.enable] 40

theorem pausedJobs_onTime : OnTimeJobs pausedProps 10 pausedJobs 4 where
  period_pos := by decide
  period_bounded := by decide
  deadline_le := by decide
  supervised := by
    intro k _
    match k with
    | 0 => rfl
    | 1 => rfl
    | 2 => rfl
    | _ + 3 => rfl
  start_pos := by decide
  release_le := by decide
  start_lt_stop := by decide
  stop_le := by decide
  stop_bounded := by decide

/-- **A pause makes a deadline loss.**  Every job meets its deadline, and one is counted. -/
theorem pause_loses :
    OnTimeJobs pausedProps 10 pausedJobs 4 ∧ Watching 1 (MonitorTask.startOn 1) ∧
      (MonitorTask.startOn 1).me.metrics = MonitorMetrics.init ∧
      (Traced.start 1 4096 (MonitorTask.startOn 1) : Traced queueSize).lossesBefore
        pausedJobs 4 = some 1 :=
  ⟨pausedJobs_onTime, watching_startOn 1, rfl, by decide⟩

/-- The same task starts its first job 5 after the release, and only job 1 is not recorded. -/
def sparedJobs : ℕ → Job
  | 0 => pausedJob [.enable] 15
  | 1 => pausedJob [.disable] 22
  | _ => pausedJob [.enable] 30

/-- The slack of the first job covers the period left out: no loss is counted, before the pause or
    after it. -/
theorem pause_loss_iff_sample :
    (recorded sparedJobs 0 = true ∧ recorded sparedJobs 1 = false ∧
      recorded sparedJobs 2 = true) ∧
      ∀ k ≤ 3, (Traced.start 1 4096 (MonitorTask.startOn 1) : Traced queueSize).lossesBefore
        sparedJobs k = some 0 := by
  have hjobs : OnTimeJobs pausedProps 10 sparedJobs 3 :=
    { period_pos := by decide
      period_bounded := by decide
      deadline_le := by decide
      supervised := by
        intro k _
        match k with
        | 0 => rfl
        | 1 => rfl
        | _ + 2 => rfl
      start_pos := by decide
      release_le := by decide
      start_lt_stop := by decide
      stop_le := by decide
      stop_bounded := by decide }
  exact ⟨by decide, (pause_loss_iff hjobs (by decide) (watching_startOn 1) rfl).mpr (by decide)⟩

end RtTaskTrace
