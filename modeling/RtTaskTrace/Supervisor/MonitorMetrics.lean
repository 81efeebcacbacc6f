import RtTaskTrace.Lib.Loop
import Mathlib.Tactic.Common

namespace RtTaskTrace

/-!
# The monitor's metrics (`Supervisor/Monitor/MonitorMetrics` and the deadline branch)

`MonitorMetrics` and the assignments that `Monitor_task` makes to it, one definition for each
paragraph of the source, in the order of the source.  Arithmetic is that of the machine:
`uint64_t` and `int64_t` wrap, and an operation on one of each is done on `uint64_t` and
converted back.

The loop that moves the ready time need not end (a period of zero never does), so
`stepReadyTime` is partial.
-/

/-- `MAX_NUMBER_OF_PERFORMANCE_MARKERS`. -/
abbrev maxNumberOfPerformanceMarkers : ℕ := 1

/-- `MonitorMetrics`.  The arrays `perfMarkStart`, `perfMarkStop` and `perfMartTotalTime` lie
    one after the other in the struct and are kept as the one block they form, so that an
    index past the end of one of them falls into the next. -/
structure MonitorMetrics where
  lastCyclicTaskReadyTime : UInt64
  totalAltoAdjust : Int64
  maxLatency : Int64
  minLatency : Int64
  lastLatency : Int64
  deadlineLostCount : UInt32
  runtimeOverrunCount : UInt32
  taskDepletedCount : UInt32
  cycleCount : UInt64
  lastStartRunTime : UInt64
  lastStopRunTime : UInt64
  lastRT : UInt64
  minRT : UInt64
  WCRT : UInt64
  perfMarks : Vector UInt64 (3 * maxNumberOfPerformanceMarkers)
  deriving DecidableEq, Repr, Inhabited

namespace MonitorMetrics

/-- What `memset(me, 0, sizeof(MonitorMetrics))` leaves. -/
def zero : MonitorMetrics where
  lastCyclicTaskReadyTime := 0
  totalAltoAdjust := 0
  maxLatency := 0
  minLatency := 0
  lastLatency := 0
  deadlineLostCount := 0
  runtimeOverrunCount := 0
  taskDepletedCount := 0
  cycleCount := 0
  lastStartRunTime := 0
  lastStopRunTime := 0
  lastRT := 0
  minRT := 0
  WCRT := 0
  perfMarks := Vector.replicate _ 0

/-- `MonitorMetrics_init`: the two minima start from `(uint64_t) -1`, which is `-1` in the
    signed field. -/
def init : MonitorMetrics :=
  { zero with minLatency := ((-1 : UInt64)).toInt64, minRT := -1 }

/-! ### The start and stop times of an execution -/

/-- The times of the telegram, the response time and its extremes. -/
def recordResponseTime (me : MonitorMetrics) (t1 t2 : UInt64) : MonitorMetrics :=
  let me := { me with lastStartRunTime := t1, lastStopRunTime := t2 }
  let me := { me with lastRT := me.lastStopRunTime - me.lastStartRunTime }
  if me.lastRT > me.WCRT then { me with WCRT := me.lastRT }
  else if me.lastRT < me.minRT then { me with minRT := me.lastRT }
  else me

/-- The first ready time is guessed to be the first start. -/
def guessReadyTime (me : MonitorMetrics) : MonitorMetrics :=
  if me.lastCyclicTaskReadyTime = 0 then
    { me with lastCyclicTaskReadyTime := me.lastStartRunTime }
  else me

/-- A start before the estimated ready time pulls the estimate back. -/
def pullBackReadyTime (me : MonitorMetrics) : MonitorMetrics :=
  if me.lastStartRunTime < me.lastCyclicTaskReadyTime then
    { me with
      totalAltoAdjust := (me.totalAltoAdjust.toUInt64
        - (me.lastCyclicTaskReadyTime - me.lastStartRunTime)).toInt64
      lastCyclicTaskReadyTime := me.lastStartRunTime }
  else me

/-- The latency and its extremes. -/
def measureLatency (me : MonitorMetrics) : MonitorMetrics :=
  let me := { me with
    lastLatency :=
      (me.lastStartRunTime.toInt64.toUInt64 - me.lastCyclicTaskReadyTime).toInt64 }
  if me.lastLatency > me.maxLatency then { me with maxLatency := me.lastLatency }
  else if me.lastLatency < me.minLatency then { me with minLatency := me.lastLatency }
  else me

/-- The test for a deadline loss. -/
def deadlineLostDetected (me : MonitorMetrics) (deadline : UInt64) : Bool :=
  me.lastStopRunTime - me.lastCyclicTaskReadyTime > deadline

/-- The test for a runtime overrun. -/
def runtimeOverrunDetected (me : MonitorMetrics) (runtime : UInt64) : Bool :=
  me.lastRT > runtime

/-- A deadline loss is counted. -/
def countDeadlineLost (me : MonitorMetrics) (deadline : UInt64) : MonitorMetrics :=
  if me.deadlineLostDetected deadline then
    { me with deadlineLostCount := me.deadlineLostCount + 1 }
  else me

/-- A runtime overrun is counted, and a depletion when it is longer than the period. -/
def countRuntimeOverrun (me : MonitorMetrics) (runtime period : UInt64) : MonitorMetrics :=
  if me.runtimeOverrunDetected runtime then
    let me := { me with runtimeOverrunCount := me.runtimeOverrunCount + 1 }
    if me.lastRT > period then { me with taskDepletedCount := me.taskDepletedCount + 1 }
    else me
  else me

/-- The body of the loop that moves the ready time. -/
def addPeriod (period : UInt64) (me : MonitorMetrics) : MonitorMetrics :=
  { me with
    lastCyclicTaskReadyTime := me.lastCyclicTaskReadyTime + period
    cycleCount := me.cycleCount + 1 }

/-- The condition of the loop that moves the ready time. -/
def readyBeforeStop (me : MonitorMetrics) : Bool :=
  me.lastCyclicTaskReadyTime < me.lastStopRunTime

/-- The ready time repeats after so many rounds, whatever the period: a loop still going
    then never ends. -/
def readyLoopRounds : ℕ := 2 ^ 64

/-- The loop that moves the ready time past the stop; `none` when it never ends. -/
def stepReadyTime (me : MonitorMetrics) (period : UInt64) : Option MonitorMetrics :=
  Loop.whileFuel readyBeforeStop (addPeriod period) readyLoopRounds me

/-- The adjustment after a deadline loss without an overrun. -/
def pushForwardReadyTime (me : MonitorMetrics) : MonitorMetrics :=
  { me with
    lastCyclicTaskReadyTime := me.lastCyclicTaskReadyTime + me.lastLatency.toUInt64
    totalAltoAdjust := me.totalAltoAdjust + me.lastLatency }

/-! ### The performance marks -/

/-- `me->perfMarkStart[index]`, `me->perfMarkStop[index]` and `me->perfMartTotalTime[index]`
    as places of the block: the arrays are numbered `0`, `1` and `2`. -/
def perfMarkPlace (array index : ℕ) : ℕ := array * maxNumberOfPerformanceMarkers + index

/-- The number at a place of the block. -/
def perfMark (me : MonitorMetrics) (array index : ℕ) : UInt64 :=
  me.perfMarks.getD (perfMarkPlace array index) 0

/-- Writing a place of the block. -/
def setPerfMark (me : MonitorMetrics) (array index : ℕ) (value : UInt64) : MonitorMetrics :=
  { me with perfMarks := me.perfMarks.setIfInBounds (perfMarkPlace array index) value }

/-- The case `TelegramCode_perfMark1Start`, with the index it uses. -/
def markStart (me : MonitorMetrics) (index : ℕ) (t1 : UInt64) : MonitorMetrics :=
  me.setPerfMark 0 index t1

/-- The case `TelegramCode_perfMark1End`, with the index of the stop and that of the total time. -/
def markEnd (me : MonitorMetrics) (index total : ℕ) (t1 : UInt64) : MonitorMetrics :=
  let me := me.setPerfMark 1 index t1
  me.setPerfMark 2 total (me.perfMark 1 total - me.perfMark 0 total)

/-! ### The loop ends or repeats -/

/-- After `k` rounds the ready time has moved by `k` periods and the count by `k`. -/
theorem iterate_addPeriod (period : UInt64) (k : ℕ) (me : MonitorMetrics) :
    (addPeriod period)^[k] me =
      { me with
        lastCyclicTaskReadyTime := me.lastCyclicTaskReadyTime + UInt64.ofNat k * period
        cycleCount := me.cycleCount + UInt64.ofNat k } := by
  induction k with
  | zero => simp
  | succ k ih =>
    -- One more round adds the period and one to what `k` rounds give.
    rw [Function.iterate_succ_apply', ih, addPeriod]
    simp only [MonitorMetrics.mk.injEq, true_and, and_true]
    constructor
    · rw [UInt64.ofNat_add, UInt64.add_mul, UInt64.add_assoc]
      simp
    · rw [UInt64.ofNat_add, UInt64.add_assoc]
      rfl

/-- All the rounds together leave the ready time and the count where they were. -/
theorem iterate_addPeriod_all (period : UInt64) (me : MonitorMetrics) :
    (addPeriod period)^[readyLoopRounds] me = me := by
  have hzero : UInt64.ofNat readyLoopRounds = 0 := by
    -- As a number of the type, the number of rounds is zero.
    apply UInt64.toNat_inj.mp
    rw [UInt64.toNat_ofNat']
    rfl
  rw [iterate_addPeriod, hzero]
  simp

/-- What the loop leaves: some rounds of its body. -/
theorem stepReadyTime_eq_some {me me' : MonitorMetrics} {period : UInt64}
    (h : me.stepReadyTime period = some me') :
    ∃ k, me' = { me with
      lastCyclicTaskReadyTime := me.lastCyclicTaskReadyTime + UInt64.ofNat k * period
      cycleCount := me.cycleCount + UInt64.ofNat k } := by
  obtain ⟨k, -, rfl, -, -⟩ := (Loop.whileFuel_eq_some_iff _ _ _).mp h
  exact ⟨k, iterate_addPeriod period k me⟩

/-- **The bound on the rounds decides termination**: the loop ends, after however many
    rounds, exactly when `stepReadyTime` gives a result. -/
theorem stepReadyTime_isSome_iff (me : MonitorMetrics) (period : UInt64) :
    (∃ me', me.stepReadyTime period = some me') ↔
      Loop.Ends readyBeforeStop (addPeriod period) me :=
  (Loop.ends_iff_whileFuel (by decide) (iterate_addPeriod_all period) me).symm

end MonitorMetrics

end RtTaskTrace
