import RtTaskTrace.Common.Telegram
import RtTaskTrace.Supervisor.MonitorMetrics
import Mathlib.Data.Fin.Basic
import Mathlib.Logic.Function.Basic

namespace RtTaskTrace

/-!
# The exception log (`Supervisor/Log`)

A monitor keeps its last points in a ring and, once the ring is full and one of the points
was an exception, dumps it into a CSV file.  `fopen` is the only call that can fail; its
outcome is an argument, and the rows a call appends to the file are part of its result.

The capacity of the ring is a parameter; the program's own is `numberOfPoints`.
-/

/-! ### Points and columns (`Log/List/Data`) -/

/-- `Data`: one point of the log. -/
structure Data where
  telegramSent : Telegram
  monitorMetrics : MonitorMetrics
  isException : Bool
  deriving DecidableEq, Repr, Inhabited

/-- `DataColumnsName`. -/
inductive DataColumn
  | pid | t1 | t2
  | lastCyclicTaskReadyTime | maxLatency | minLatency | lastLatency
  | deadlineLostCount | runtimeOverrunCount | taskDepletedCount | cycleCount
  | lastStartExecutionTime | lastStopExecutionTime | lastET | minET | WCET
  | isException
  deriving DecidableEq, Repr

/-- The columns in the order of their numbers. -/
def DataColumn.all : List DataColumn :=
  [.pid, .t1, .t2, .lastCyclicTaskReadyTime, .maxLatency, .minLatency, .lastLatency,
    .deadlineLostCount, .runtimeOverrunCount, .taskDepletedCount, .cycleCount,
    .lastStartExecutionTime, .lastStopExecutionTime, .lastET, .minET, .WCET, .isException]

/-- A row of the CSV file. -/
abbrev CsvRow := List Int64

namespace Data

/-- An unsigned number of nanoseconds divided by `1000.0` and stored back. -/
def microseconds (value : UInt64) : UInt64 := (value.toFloat / 1000.0).toUInt64

/-- A signed number of nanoseconds divided by `1000.0` and stored back. -/
def signedMicroseconds (value : Int64) : Int64 := (value.toFloat / 1000.0).toInt64

/-- `Data_fillMonitorMetricsData`: the metrics, with the times in microseconds. -/
def fillMonitorMetricsData (metrics : MonitorMetrics) : MonitorMetrics :=
  { metrics with
    lastCyclicTaskReadyTime := microseconds metrics.lastCyclicTaskReadyTime
    maxLatency := signedMicroseconds metrics.maxLatency
    minLatency := signedMicroseconds metrics.minLatency
    lastLatency := signedMicroseconds metrics.lastLatency
    lastStartRunTime := microseconds metrics.lastStartRunTime
    lastStopRunTime := microseconds metrics.lastStopRunTime
    lastRT := microseconds metrics.lastRT
    minRT := microseconds metrics.minRT
    WCRT := microseconds metrics.WCRT }

/-- The point `Log_addNewPoint` builds with `Data_fillTelegramData`,
    `Data_fillMonitorMetricsData` and `Data_setExceptionFlag`. -/
def fill (telegram : Telegram) (metrics : MonitorMetrics) (isException : Bool) : Data :=
  ⟨telegram, fillMonitorMetricsData metrics, isException⟩

/-- `Data_getColumnName`. -/
def getColumnName : DataColumn → String
  | .pid => "pid"
  | .t1 => "t1 (ns)"
  | .t2 => "t2 (ns)"
  | .lastCyclicTaskReadyTime => "lastCyclicTaskReadyTime (us)"
  | .maxLatency => "maxLatency (us)"
  | .minLatency => "minLatency (us)"
  | .lastLatency => "lastLatency (us)"
  | .deadlineLostCount => "deadlineLostCount"
  | .runtimeOverrunCount => "runtimeOverrunCount"
  | .taskDepletedCount => "taskDepletedCount"
  | .cycleCount => "cycleCount"
  | .lastStartExecutionTime => "lastStartRunTime (us)"
  | .lastStopExecutionTime => "lastStopRunTime (us)"
  | .lastET => "lastRT (us)"
  | .minET => "minRT (us)"
  | .WCET => "WCRT (us)"
  | .isException => "isException"

/-- `Data_getColumnValue`. -/
def getColumnValue (me : Data) : DataColumn → Int64
  | .pid => me.telegramSent.pid.toInt64
  | .t1 => me.telegramSent.t1.toInt64
  | .t2 => me.telegramSent.t2.toInt64
  | .lastCyclicTaskReadyTime => me.monitorMetrics.lastCyclicTaskReadyTime.toInt64
  | .maxLatency => me.monitorMetrics.maxLatency
  | .minLatency => me.monitorMetrics.minLatency
  | .lastLatency => me.monitorMetrics.lastLatency
  | .deadlineLostCount => me.monitorMetrics.deadlineLostCount.toUInt64.toInt64
  | .runtimeOverrunCount => me.monitorMetrics.runtimeOverrunCount.toUInt64.toInt64
  | .taskDepletedCount => me.monitorMetrics.taskDepletedCount.toUInt64.toInt64
  | .cycleCount => me.monitorMetrics.cycleCount.toInt64
  | .lastStartExecutionTime => me.monitorMetrics.lastStartRunTime.toInt64
  | .lastStopExecutionTime => me.monitorMetrics.lastStopRunTime.toInt64
  | .lastET => me.monitorMetrics.lastRT.toInt64
  | .minET => me.monitorMetrics.minRT.toInt64
  | .WCET => me.monitorMetrics.WCRT.toInt64
  | .isException => if me.isException then 1 else 0

/-- The row `Log_generateIfNeeded` prints for a point. -/
def row (me : Data) : CsvRow := DataColumn.all.map me.getColumnValue

end Data

/-! ### The ring of points (`Log/List`) -/

/-- `NUMBER_OF_POINTS`. -/
abbrev numberOfPoints : ℕ := 5

instance : NeZero numberOfPoints := ⟨Nat.succ_ne_zero 4⟩

/-- `List`.  The write index is a slot and the fill level at most the capacity, so a list
    whose indices are out of range cannot be built. -/
structure PointList (N : ℕ) where
  dataList : Fin N → Data
  numberOfDataOnBuffer : ℕ
  listIndex : Fin N
  exceptionHappend : Bool
  bounded : numberOfDataOnBuffer ≤ N

variable {N : ℕ} [NeZero N]

namespace PointList

/-- `List_init` and `List_clean`. -/
def init (data : Data) : PointList N where
  dataList := fun _ => data
  numberOfDataOnBuffer := 0
  listIndex := 0
  exceptionHappend := false
  bounded := Nat.zero_le N

/-- The write index after a write. -/
def nextIndex (listIndex : Fin N) : Fin N :=
  if h : listIndex.val + 1 ≥ N then 0 else ⟨listIndex.val + 1, not_le.mp h⟩

/-- `List_add`. -/
def add (me : PointList N) (data : Data) : PointList N where
  dataList := Function.update me.dataList me.listIndex data
  listIndex := nextIndex me.listIndex
  numberOfDataOnBuffer :=
    if me.numberOfDataOnBuffer < N then me.numberOfDataOnBuffer + 1
    else me.numberOfDataOnBuffer
  exceptionHappend := if data.isException then true else me.exceptionHappend
  bounded := by
    have := me.bounded
    split <;> omega

/-- The index `List_read` computes for the oldest point. -/
def readPosition (me : PointList N) : ℤ :=
  let readIndex : ℤ := me.listIndex.val - me.numberOfDataOnBuffer
  if readIndex < 0 then readIndex + N else readIndex

omit [NeZero N] in
/-- The one correction is enough: the computed index is a slot. -/
theorem readPosition_bounds (me : PointList N) : 0 ≤ me.readPosition ∧ me.readPosition < N := by
  have hindex := me.listIndex.isLt
  have hlevel := me.bounded
  simp only [readPosition]
  split <;> omega

/-- The slot `List_read` reads. -/
def readIndex (me : PointList N) : Fin N :=
  ⟨me.readPosition.toNat, by
    have := me.readPosition_bounds
    omega⟩

/-- `List_read`: the oldest point and the list without it, or `none` for its error code. -/
def read (me : PointList N) : Option (Data × PointList N) :=
  if me.numberOfDataOnBuffer = 0 then none
  else some (me.dataList me.readIndex,
    { me with
      numberOfDataOnBuffer := me.numberOfDataOnBuffer - 1
      bounded := le_trans (Nat.sub_le _ _) me.bounded })

/-- `List_checkIfReadyToLog`: the list and whether it is ready. -/
def checkIfReadyToLog (me : PointList N) : PointList N × Bool :=
  if me.numberOfDataOnBuffer ≥ N ∧ me.exceptionHappend then
    ({ me with exceptionHappend := false }, true)
  else (me, false)

/-- The loop `while (List_read(..) == 0)`: the points read and the list left, for a loop of
    at most `n` rounds. -/
def readAll : ℕ → PointList N → List Data × PointList N
  | 0, me => ([], me)
  | n + 1, me =>
    match me.read with
    | none => ([], me)
    | some (data, me) =>
      let (rest, me) := readAll n me
      (data :: rest, me)

omit [NeZero N] in
/-- As many rounds as there are points leave nothing to read: the loop is not cut short. -/
theorem readAll_empties (me : PointList N) :
    (readAll me.numberOfDataOnBuffer me).2.numberOfDataOnBuffer = 0 := by
  have key : ∀ n (me : PointList N), me.numberOfDataOnBuffer = n →
      (readAll n me).2.numberOfDataOnBuffer = 0 := by
    intro n
    -- By induction on the fill level, which every read lowers by one.
    induction n with
    | zero =>
      intro me hn
      exact hn
    | succ n ih =>
      intro me hn
      have hread : me.numberOfDataOnBuffer ≠ 0 := by omega
      simp only [readAll, read, if_neg hread]
      exact ih _ (by simp only; omega)
  exact key _ me rfl

end PointList

/-! ### The log of one monitor (`Log`) -/

/-- The CSV file of a log. -/
structure CsvFile where
  header : List String
  rows : List CsvRow
  deriving DecidableEq, Repr

/-- `Log`. -/
structure Log (N : ℕ) where
  list : PointList N
  enabled : Bool
  file : String

namespace Log

/-- `Log_init`: logging is off and the file named.  The list is left as it is. -/
def init (me : Log N) (path fileName : String) : Log N :=
  { me with enabled := false, file := path ++ fileName ++ ".csv" }

/-- `Log_prepareFileForLogging`: the file is made anew, with the names of the columns.  After a failed
    `fopen` nothing is printed; an older file that could not be unlinked either is still there then,
    and no part of this. -/
def prepareFileForLogging (fopen : Bool) : CsvFile where
  header := if fopen then DataColumn.all.map Data.getColumnName else []
  rows := []

/-- `Log_enable`. -/
def enable (me : Log N) : Log N := { me with enabled := true }

/-- `Log_disable`. -/
def disable (me : Log N) : Log N := { me with enabled := false }

/-- `Log_addNewPoint`. -/
def addNewPoint (me : Log N) (telegram : Telegram) (metrics : MonitorMetrics)
    (isException : Bool) : Log N :=
  { me with list := me.list.add (Data.fill telegram metrics isException) }

/-- `Log_generateIfNeeded`: the log and the rows appended to its file. -/
def generateIfNeeded (me : Log N) (fopen : Bool) : Log N × List CsvRow :=
  if me.enabled = false then (me, [])
  else
    let (list, ready) := me.list.checkIfReadyToLog
    let me := { me with list := list }
    if ready = false then (me, [])
    else if fopen = false then (me, [])
    else
      let (points, list) := me.list.readAll me.list.numberOfDataOnBuffer
      ({ me with list := list }, points.map Data.row)

end Log

end RtTaskTrace
