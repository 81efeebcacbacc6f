import RtTaskTrace.User.Gateway

namespace RtTaskTrace

/-!
# The traced task's library (`TaskTrace/TaskTrace`)

The calls a user program makes around each execution of its task.  The clock is an argument
of the calls that read it: `some` reading, or `none` when `clock_gettime` fails.

The calls return C status codes, so every one of them is a function to the new state and a
code; `TaskTrace.call` is the sum of those a running task can make.
-/

/-- `struct timespec`. -/
structure Timespec where
  tv_sec : Int64
  tv_nsec : Int64
  deriving DecidableEq, Repr, Inhabited

/-- The nanoseconds the library computes from a clock reading. -/
def Timespec.nanoseconds (time : Timespec) : UInt64 :=
  (time.tv_sec * 1000 * 1000 * 1000 + time.tv_nsec).toUInt64

/-- `TaskTrace`. -/
structure TaskTrace (N : ℕ) where
  isInitiallized : Bool
  isRecording : Bool
  pid : PidT
  telegram : Telegram
  gateway : Gateway N
  tmpTime : Timespec

variable {N : ℕ} [NeZero N]

namespace TaskTrace

/-- The telegram `memset` leaves. -/
def zeroTelegram : Telegram := ⟨0, 0, 0, 0⟩

/-- What `memset(me, 0, sizeof(TaskTrace))` leaves. -/
def zero : TaskTrace N where
  isInitiallized := false
  isRecording := false
  pid := 0
  telegram := zeroTelegram
  gateway :=
    { queue := { telegram := fun _ => zeroTelegram, head := 0, tail := 0, count := 0, sem := 0 }
      telegram := zeroTelegram }
  tmpTime := ⟨0, 0⟩

/-- `TaskTrace_init` in a thread of id `pid`: the state, whether the task's pipe exists
    afterwards, and the code returned. -/
def init (pid : PidT) (pipeExists : Bool) (outcome : SharedMem.InitOutcome) :
    TaskTrace N × Bool × ℤ :=
  let me : TaskTrace N := { zero with pid := pid }
  let (gateway, pipeExists, ret) := me.gateway.init pipeExists outcome
  if ret ≠ 0 then ({ me with gateway := gateway }, pipeExists, -1)
  else ({ me with gateway := gateway, isInitiallized := true }, pipeExists, 0)

/-- `TaskTrace_enableRecording`. -/
def enableRecording (me : TaskTrace N) : TaskTrace N × ℤ :=
  if me.isInitiallized = false then (me, -1)
  else if me.isRecording then (me, -2)
  else ({ me with isRecording := true }, 0)

/-- `TaskTrace_disableRecording`. -/
def disableRecording (me : TaskTrace N) : TaskTrace N × ℤ :=
  if me.isInitiallized = false then (me, -1)
  else if me.isRecording = false then (me, -2)
  else ({ me with isRecording := false }, 0)

/-- `TaskTrace_readTimestamp`: the state with the reading in `tmpTime`, or `none` when the
    clock cannot be read. -/
def readTimestamp (me : TaskTrace N) (clock : Option Timespec) : Option (TaskTrace N) :=
  clock.map fun time => { me with tmpTime := time }

/-- `TaskTrace_traceExecutionStart`. -/
def traceExecutionStart (me : TaskTrace N) (clock : Option Timespec) : TaskTrace N × ℤ :=
  if !me.isInitiallized || !me.isRecording then (me, -1)
  else match me.readTimestamp clock with
    | none => (me, -2)
    | some me => ({ me with telegram := { me.telegram with t1 := me.tmpTime.nanoseconds } }, 0)

/-- `TaskTrace_traceExecutionStop`. -/
def traceExecutionStop (me : TaskTrace N) (clock : Option Timespec) : TaskTrace N × ℤ :=
  if !me.isInitiallized || !me.isRecording then (me, -1)
  else
    let me := { me with
      telegram := { me.telegram with
        pid := me.pid, code := TelegramCode.startAndStopTime.value } }
    match me.readTimestamp clock with
    | none => (me, -2)
    | some me =>
      let me := { me with telegram := { me.telegram with t2 := me.tmpTime.nanoseconds } }
      let (gateway, ret) := me.gateway.write me.telegram
      if ret ≠ 0 then ({ me with gateway := gateway }, -3)
      else ({ me with gateway := gateway }, 0)

/-- The calls a task makes between its `TaskTrace_init` and its end. -/
inductive Call
  | enableRecording
  | disableRecording
  | traceExecutionStart (clock : Option Timespec)
  | traceExecutionStop (clock : Option Timespec)
  deriving DecidableEq, Repr

/-- One call. -/
def call (me : TaskTrace N) : Call → TaskTrace N × ℤ
  | .enableRecording => me.enableRecording
  | .disableRecording => me.disableRecording
  | .traceExecutionStart clock => me.traceExecutionStart clock
  | .traceExecutionStop clock => me.traceExecutionStop clock

/-- The telegram a stop call hands to the gateway. -/
def stopTelegram (me : TaskTrace N) (time : Timespec) : Telegram :=
  ⟨me.pid, TelegramCode.startAndStopTime.value, me.telegram.t1, time.nanoseconds⟩

/-- The state of a task whose `TaskTrace_init` succeeded. -/
def ready (pid : PidT) : TaskTrace N :=
  { (zero : TaskTrace N) with
    pid := pid, isInitiallized := true
    gateway := { (zero : TaskTrace N).gateway with queue := (zero : TaskTrace N).gateway.queue.init } }

/-- `TaskTrace_init` succeeds when the pipe does not exist yet and every system call does. -/
theorem init_ready (pid : PidT) :
    (init pid false ⟨true, true, true⟩ : TaskTrace N × Bool × ℤ) = (ready pid, true, 0) := rfl

/-! ### What each call does -/

theorem ready_holds (pid : PidT) : (ready pid : TaskTrace N).gateway.queue.Holds [] :=
  Queue.holds_init _

omit [NeZero N] in
/-- **A task that is not recording refuses** a start, and is not changed by it. -/
theorem traceExecutionStart_refused {me : TaskTrace N}
    (h : (!me.isInitiallized || !me.isRecording) = true) (clock : Option Timespec) :
    me.traceExecutionStart clock = (me, -1) := by
  rw [traceExecutionStart, if_pos h]

/-- **A task that is not recording refuses** a stop, and is not changed by it. -/
theorem traceExecutionStop_refused {me : TaskTrace N}
    (h : (!me.isInitiallized || !me.isRecording) = true) (clock : Option Timespec) :
    me.traceExecutionStop clock = (me, -1) := by
  rw [traceExecutionStop, if_pos h]

omit [NeZero N] in
/-- The start of a recording task is stored in its telegram. -/
theorem traceExecutionStart_recorded {me : TaskTrace N}
    (h : (!me.isInitiallized || !me.isRecording) = false) (time : Timespec) :
    me.traceExecutionStart (some time)
      = ({ me with tmpTime := time, telegram := { me.telegram with t1 := time.nanoseconds } },
          0) := by
  rw [traceExecutionStart, if_neg (by simp [h])]
  rfl

/-- **The stop of a recording task** offers the gateway the telegram made of the task's id, the
    start time in the buffer and the reading, and reports what the gateway answers. -/
theorem traceExecutionStop_recorded {me : TaskTrace N}
    (h : (!me.isInitiallized || !me.isRecording) = false) (time : Timespec) :
    me.traceExecutionStop (some time)
      = ({ me with
            tmpTime := time
            telegram := me.stopTelegram time
            gateway := (me.gateway.write (me.stopTelegram time)).1 },
          if (me.gateway.write (me.stopTelegram time)).2 ≠ 0 then -3 else 0) := by
  rw [traceExecutionStop, if_neg (by simp [h])]
  by_cases hret : (me.gateway.write (me.stopTelegram time)).2 ≠ 0
  · rw [if_pos hret]
    exact if_pos hret
  · rw [if_neg hret]
    exact if_neg hret

/-- A stop whose clock cannot be read is refused before the gateway. -/
theorem traceExecutionStop_unclocked {me : TaskTrace N}
    (h : (!me.isInitiallized || !me.isRecording) = false) :
    (me.traceExecutionStop none).2 = -2 ∧
      (me.traceExecutionStop none).1.gateway = me.gateway ∧
      (me.traceExecutionStop none).1.pid = me.pid ∧
      (me.traceExecutionStop none).1.isInitiallized = me.isInitiallized := by
  rw [traceExecutionStop, if_neg (by simp [h])]
  exact ⟨rfl, rfl, rfl, rfl⟩

/-- **No call but a stop reaches the gateway**, and none changes whose task it is. -/
theorem call_frame (me : TaskTrace N) (c : Call) :
    (me.call c).1.pid = me.pid ∧ (me.call c).1.isInitiallized = me.isInitiallized ∧
      ((∀ clock, c ≠ .traceExecutionStop clock) → (me.call c).1.gateway = me.gateway) := by
  cases c with
  | enableRecording =>
    simp only [call, enableRecording]
    split
    · exact ⟨rfl, rfl, fun _ => rfl⟩
    · split <;> exact ⟨rfl, rfl, fun _ => rfl⟩
  | disableRecording =>
    simp only [call, disableRecording]
    split
    · exact ⟨rfl, rfl, fun _ => rfl⟩
    · split <;> exact ⟨rfl, rfl, fun _ => rfl⟩
  | traceExecutionStart clock =>
    simp only [call, traceExecutionStart]
    split
    · exact ⟨rfl, rfl, fun _ => rfl⟩
    · cases clock <;> exact ⟨rfl, rfl, fun _ => rfl⟩
  | traceExecutionStop clock =>
    -- A stop changes the gateway, and the rest as a start does.
    have hframe : (me.traceExecutionStop clock).1.pid = me.pid ∧
        (me.traceExecutionStop clock).1.isInitiallized = me.isInitiallized := by
      cases hoff : !me.isInitiallized || !me.isRecording
      · cases clock with
        | none => exact (traceExecutionStop_unclocked hoff).2.2
        | some time =>
          rw [traceExecutionStop_recorded hoff]
          exact ⟨rfl, rfl⟩
      · rw [traceExecutionStop_refused hoff]
        exact ⟨rfl, rfl⟩
    exact ⟨hframe.1, hframe.2, fun h => absurd rfl (h clock)⟩

omit [NeZero N] in
/-- Recording is turned on and off without a look at the buffer. -/
theorem enableRecording_telegram (me : TaskTrace N) :
    me.enableRecording.1.telegram = me.telegram := by
  unfold enableRecording
  split
  · rfl
  · split <;> rfl

omit [NeZero N] in
theorem disableRecording_telegram (me : TaskTrace N) :
    me.disableRecording.1.telegram = me.telegram := by
  unfold disableRecording
  split
  · rfl
  · split <;> rfl

omit [NeZero N] in
/-- **What a start call does.**  Either it succeeds and stores the time it has read, or it fails
    and the buffer is left as it was. -/
theorem traceExecutionStart_cases (me : TaskTrace N) (clock : Option Timespec) :
    (∃ time, clock = some time ∧ (me.traceExecutionStart clock).2 = 0 ∧
      (me.traceExecutionStart clock).1.telegram.t1 = time.nanoseconds) ∨
    ((me.traceExecutionStart clock).2 ≠ 0 ∧
      (me.traceExecutionStart clock).1.telegram = me.telegram) := by
  cases hoff : !me.isInitiallized || !me.isRecording
  · cases clock with
    | none =>
      rw [traceExecutionStart, if_neg (by simp [hoff])]
      exact .inr ⟨show (-2 : ℤ) ≠ 0 by decide, rfl⟩
    | some time =>
      rw [traceExecutionStart_recorded hoff]
      exact .inl ⟨time, rfl, rfl, rfl⟩
  · rw [traceExecutionStart_refused hoff]
    exact .inr ⟨show (-1 : ℤ) ≠ 0 by decide, rfl⟩

/-- **What a stop call does.**  Either it offers the gateway its telegram, and is accepted when
    the gateway accepts that; or it is refused before, and the gateway is left as it was. -/
theorem traceExecutionStop_cases (me : TaskTrace N) (clock : Option Timespec) :
    (∃ time,
      (me.traceExecutionStop clock).1.gateway = (me.gateway.write (me.stopTelegram time)).1 ∧
      (me.traceExecutionStop clock).1.telegram = me.stopTelegram time ∧
      ((me.traceExecutionStop clock).2 = 0 ↔
        (me.gateway.write (me.stopTelegram time)).2 = 0)) ∨
    ((me.traceExecutionStop clock).2 ≠ 0 ∧
      (me.traceExecutionStop clock).1.gateway = me.gateway) := by
  cases hoff : !me.isInitiallized || !me.isRecording
  · cases clock with
    | none =>
      obtain ⟨hret, hgateway, -⟩ := traceExecutionStop_unclocked hoff
      -- The clock cannot be read: the call ends before the gateway.
      refine Or.inr ⟨?_, hgateway⟩
      rw [hret]
      decide
    | some time =>
      refine Or.inl ⟨time, ?_⟩
      rw [traceExecutionStop_recorded hoff]
      refine ⟨rfl, rfl, ?_⟩
      split
      · rename_i hret
        exact iff_of_false (show (-3 : ℤ) ≠ 0 by decide) hret
      · rename_i hret
        exact iff_of_true rfl (not_not.mp hret)
  · rw [traceExecutionStop_refused hoff]
    exact Or.inr ⟨show (-1 : ℤ) ≠ 0 by decide, rfl⟩

end TaskTrace

end RtTaskTrace
