import Mathlib.Data.UInt
import RtTaskTrace.Supervisor.Rounds

namespace RtTaskTrace

open Runs

/-!
# The ready time is accounted for

Four paragraphs of the deadline branch move the ready time, and each books what it moves it by:
the loop in the cycles, the pull-back and the push in the sum of the adjustments; the guess is
the one that books nothing.  All of this is arithmetic modulo `2^64`, where it is exact whatever
the numbers are.  That the guess is made only once needs the numbers to be those the library can
send: then the ready time is never zero again.

* `MonitorMetrics.balance` — the ready time without the adjustments, and what each paragraph
  does to it; `update_balance` for the branch;
* `Booking`, `bookings` — what the supervised rounds of a run book;
* `ready_conserved` — the ready time after every run.
-/

namespace MonitorMetrics

/-! ### The balance -/

/-- The ready time without the adjustments booked. -/
def balance (m : MonitorMetrics) : UInt64 :=
  m.lastCyclicTaskReadyTime - m.totalAltoAdjust.toUInt64

theorem ready_eq_balance_add (m : MonitorMetrics) :
    m.lastCyclicTaskReadyTime = m.balance + m.totalAltoAdjust.toUInt64 := by
  unfold balance
  grind

/-- What is pulled back is booked. -/
theorem pullBackReadyTime_balance (m : MonitorMetrics) :
    m.pullBackReadyTime.balance = m.balance := by
  unfold pullBackReadyTime balance
  split
  · simp only [UInt64.toUInt64_toInt64]
    grind
  · rfl

theorem measureLatency_balance (m : MonitorMetrics) : m.measureLatency.balance = m.balance := by
  obtain ⟨maxLatency, minLatency, heq⟩ := measureLatency_eq m
  rw [heq]
  rfl

/-- What is pushed forward is booked. -/
theorem pushForwardReadyTime_balance (m : MonitorMetrics) :
    m.pushForwardReadyTime.balance = m.balance := by
  unfold pushForwardReadyTime balance
  simp only [Int64.toUInt64_add]
  grind

/-- A guess is made only while there is no ready time. -/
theorem guessReadyTime_of_ne_zero {m : MonitorMetrics} (h : m.lastCyclicTaskReadyTime ≠ 0) :
    m.guessReadyTime = m := if_neg h

/-- **The branch moves the balance by the cycles it counts**, each a period long. -/
theorem update_balance {m m' : MonitorMetrics} {props : DeadlineProps}
    (h : m.update props = some m') :
    m'.balance = m.guessReadyTime.balance + (m'.cycleCount - m.cycleCount) * props.period := by
  obtain ⟨looped, hloop, rfl⟩ := Option.map_eq_some_iff.mp h
  obtain ⟨k, rfl⟩ := stepReadyTime_eq_some hloop
  obtain ⟨losses, overruns, depletions, hjudged⟩ := m.judged_eq props
  have hmeasured : (MonitorThread.measured m).balance = m.guessReadyTime.balance := by
    rw [MonitorThread.measured, measureLatency_balance, pullBackReadyTime_balance]
  have hcycles : (MonitorThread.measured m).cycleCount = m.cycleCount := by
    obtain ⟨ready, adjust, latency, maxLatency, minLatency, heq⟩ := m.measured_eq
    rw [heq]
  rw [hjudged, ← hmeasured, ← hcycles]
  generalize MonitorThread.measured m = measured
  have hk : measured.cycleCount + UInt64.ofNat k - measured.cycleCount = UInt64.ofNat k := by
    grind
  -- The push changes neither the balance nor the cycles.
  split
  · rw [pushForwardReadyTime_balance]
    show _ - _ = _ - _ + (measured.cycleCount + UInt64.ofNat k - measured.cycleCount) * _
    rw [hk]
    grind
  · show _ - _ = _ - _ + (measured.cycleCount + UInt64.ofNat k - measured.cycleCount) * _
    rw [hk]
    grind

end MonitorMetrics

/-! ### What a run books -/

/-- What a supervised round books: its start, the cycles it counts and the period it read. -/
structure Booking where
  start : UInt64
  cycles : UInt64
  period : UInt64
  deriving DecidableEq, Repr

/-- The time the cycles of a booking stand for. -/
def Booking.amount (booking : Booking) : UInt64 := booking.cycles * booking.period

/-- With one period, the cycles of all bookings stand for so many periods. -/
theorem sum_amount {bookings : List Booking} {period : UInt64}
    (h : ∀ booking ∈ bookings, booking.period = period) :
    (bookings.map Booking.amount).sum = (bookings.map Booking.cycles).sum * period := by
  induction bookings with
  | nil => simp
  | cons booking bookings ih =>
    rw [List.map_cons, List.map_cons, List.sum_cons, List.sum_cons,
      ih fun other hmem => h other (List.mem_cons_of_mem _ hmem), UInt64.add_mul, Booking.amount,
      h booking List.mem_cons_self]

namespace MonitorTask

/-- What a round books. -/
def books (task : MonitorTask) (input : MonitorInput) (task' : MonitorTask) : List Booking :=
  match task.supervisedWith input with
  | none => []
  | some props =>
    [⟨input.telegram.t1, task'.me.metrics.cycleCount - task.me.metrics.cycleCount, props.period⟩]

/-- What the rounds of a run book. -/
def bookings (task : MonitorTask) (es : List MonitorInput) : List Booking :=
  records iterate books task es

end MonitorTask

/-- The metrics account for the bookings made so far. -/
structure Booked (bookings : List Booking) (m : MonitorMetrics) : Prop where
  cycles : m.cycleCount = (bookings.map Booking.cycles).sum
  fresh : bookings = [] → m.lastCyclicTaskReadyTime = 0 ∧ m.totalAltoAdjust = 0
  balance : ∀ first ∈ bookings.head?, m.lastCyclicTaskReadyTime ≠ 0 ∧
    m.balance = first.start + (bookings.map Booking.amount).sum

namespace Booked

variable {bookings : List Booking} {m m' : MonitorMetrics}

theorem init : Booked [] MonitorMetrics.init where
  cycles := rfl
  fresh := fun _ => ⟨rfl, rfl⟩
  balance := by simp

/-- Metrics with the same ready time, adjustments and cycles account for the same bookings. -/
theorem of_same (h : Booked bookings m)
    (hready : m'.lastCyclicTaskReadyTime = m.lastCyclicTaskReadyTime)
    (hadjust : m'.totalAltoAdjust = m.totalAltoAdjust) (hcycles : m'.cycleCount = m.cycleCount) :
    Booked bookings m' where
  cycles := hcycles.trans h.cycles
  fresh := by
    rw [hready, hadjust]
    exact h.fresh
  balance := by
    rw [MonitorMetrics.balance, hready, hadjust]
    exact h.balance

/-- **A supervised round** makes one booking more. -/
theorem update (h : Booked bookings m) {props : DeadlineProps} (hupdate : m.update props = some m')
    (hready : m'.lastCyclicTaskReadyTime ≠ 0) :
    Booked (bookings ++ [⟨m.lastStartRunTime, m'.cycleCount - m.cycleCount, props.period⟩]) m' := by
  have hbalance := MonitorMetrics.update_balance hupdate
  refine ⟨?_, fun hnil => ?_, fun first hfirst => ⟨hready, ?_⟩⟩
  · rw [List.map_append, List.sum_append, ← h.cycles]
    simp only [List.map_cons, List.map_nil, List.sum_singleton]
    grind
  · exact absurd hnil (List.append_ne_nil_of_right_ne_nil _ (List.cons_ne_nil _ _))
  · cases bookings with
    | nil =>
      -- The first booking starts from the guess.
      obtain ⟨hzero, hadjust⟩ := h.fresh rfl
      obtain rfl : _ = first := Option.some.inj hfirst
      have hguess : m.guessReadyTime.balance = m.lastStartRunTime := by
        rw [MonitorMetrics.guessReadyTime, if_pos hzero]
        show m.lastStartRunTime - m.totalAltoAdjust.toUInt64 = m.lastStartRunTime
        rw [hadjust]
        exact UInt64.sub_zero _
      rw [hbalance, hguess]
      simp [Booking.amount]
    | cons booking bookings =>
      -- A later one starts from what has been accounted for.
      obtain rfl : booking = first := Option.some.inj hfirst
      obtain ⟨hne, hsum⟩ := h.balance booking rfl
      rw [hbalance, MonitorMetrics.guessReadyTime_of_ne_zero hne, hsum, List.map_append,
        List.sum_append, UInt64.add_assoc]
      simp [Booking.amount]

end Booked

/-! ### Every run -/

namespace MonitorTask

variable {task : MonitorTask} {me : MonitorThread} {scheduler : ℤ} {fopen : Bool}
  {es : List MonitorInput}

/-- After every run in range the metrics account for its bookings. -/
theorem booked_run (h : Run iterate (start me scheduler fopen) es task)
    (hrange : Along iterate InRange (start me scheduler fopen) es) :
    Booked (bookings (start me scheduler fopen) es) task.me.metrics := by
  refine inRange_induction (P := fun es task =>
    Booked (bookings (start me scheduler fopen) es) task.me.metrics) h hrange Booked.init ?_
  intro es task input task' hes href hbooked hin hstep
  -- Recording the times leaves what the bookings account for.
  obtain ⟨minRT, WCRT, heq⟩ := task.recordedMetrics_eq input
  have hrecorded : Booked (bookings (start me scheduler fopen) es)
      (task.recordedMetrics input) := by
    rw [heq]
    exact hbooked.of_same rfl rfl rfl
  rw [bookings, records_concat hes hstep, books]
  cases hsome : task.supervisedWith input with
  | none =>
    obtain ⟨t1, t2, lastRT, minRT, WCRT, perfMarks, hmetrics⟩ := unsupervised_metrics hstep hsome
    rw [List.append_nil, hmetrics]
    exact hbooked.of_same rfl rfl rfl
  | some props =>
    have hbooking := hrecorded.update (iterate_supervised hstep hsome)
      (ready_ne_zero_of_supervised href hin hstep hsome)
    rw [heq] at hbooking
    exact hbooking

/-- **Conservation of the ready time.**  Once a round has been supervised, the ready time is the
    start of the first such round, the time of all cycles counted since and the adjustments,
    modulo `2^64`. -/
theorem ready_conserved (h : Run iterate (start me scheduler fopen) es task)
    (hrange : Along iterate InRange (start me scheduler fopen) es) {first : Booking}
    (hfirst : first ∈ (bookings (start me scheduler fopen) es).head?) :
    task.me.metrics.lastCyclicTaskReadyTime
        = first.start + ((bookings (start me scheduler fopen) es).map Booking.amount).sum
          + task.me.metrics.totalAltoAdjust.toUInt64 ∧
    ∀ period, (∀ booking ∈ bookings (start me scheduler fopen) es, booking.period = period) →
      task.me.metrics.lastCyclicTaskReadyTime
        = first.start + task.me.metrics.cycleCount * period
          + task.me.metrics.totalAltoAdjust.toUInt64 := by
  have hbooked := booked_run h hrange
  obtain ⟨-, hbalance⟩ := hbooked.balance first hfirst
  have hready := task.me.metrics.ready_eq_balance_add
  rw [hbalance] at hready
  refine ⟨hready, fun period hperiod => ?_⟩
  rw [hready, hbooked.cycles, sum_amount hperiod]

/-- The loss of the second execution is pushed by 8, and pulled back by 2 at the third. -/
theorem ready_conserved_sample :
    ∃ task, Run iterate (startOn 1) sampleRounds task ∧
      task.me.metrics.lastCyclicTaskReadyTime
        = 100 + task.me.metrics.cycleCount * 20 + task.me.metrics.totalAltoAdjust.toUInt64 :=
  ⟨_, run_get _ _ (by decide),
    (ready_conserved (run_get (startOn 1) sampleRounds (by decide)) (by decide)
      (show _ ∈ some (⟨100, 1, 20⟩ : Booking) from rfl)).2 20 (by decide)⟩

end MonitorTask

end RtTaskTrace
