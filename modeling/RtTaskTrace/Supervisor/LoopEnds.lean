import RtTaskTrace.Supervisor.Rounds

namespace RtTaskTrace

open Runs

/-!
# Whether the loop that moves the ready time ends

The loop adds the period until the ready time is not before the stop, modulo `2^64` and without
a look at the period.  Ready times it can reach differ from where it starts by multiples of the
greatest common divisor of the period and `2^64`, so it ends exactly when the last of these below
`2^64` is not before the stop (`Loop.exists_wrapped_stride_iff`).  A period of zero reaches
nothing; the kernel hands it out for a task that has just left `SCHED_DEADLINE`.

* `MonitorMetrics.loopStart` — where the loop starts, from the metrics before the branch;
* `loopEnds_iff` — one round;
* `loops_end_iff` — every run, and `loops_end_not` — the period of zero.
-/

namespace MonitorMetrics

variable {m : MonitorMetrics} {props : DeadlineProps}

/-- The ready time the loop starts from: the estimate, unless there is none or it is after the
    start. -/
def loopStart (m : MonitorMetrics) : UInt64 :=
  if m.lastCyclicTaskReadyTime = 0 ∨ m.lastStartRunTime < m.lastCyclicTaskReadyTime then
    m.lastStartRunTime
  else m.lastCyclicTaskReadyTime

theorem measured_ready (m : MonitorMetrics) :
    (MonitorThread.measured m).lastCyclicTaskReadyTime = m.loopStart := by
  obtain ⟨maxLatency, minLatency, heq⟩ := measureLatency_eq m.guessReadyTime.pullBackReadyTime
  rw [MonitorThread.measured, heq]
  show m.guessReadyTime.pullBackReadyTime.lastCyclicTaskReadyTime = m.loopStart
  unfold loopStart guessReadyTime
  by_cases hzero : m.lastCyclicTaskReadyTime = 0
  · -- The guess is the start itself, so nothing is pulled back.
    rw [if_pos hzero, if_pos (.inl hzero), pullBackReadyTime, if_neg (UInt64.lt_irrefl _)]
  · rw [if_neg hzero, pullBackReadyTime]
    by_cases hlt : m.lastStartRunTime < m.lastCyclicTaskReadyTime
    · rw [if_pos hlt, if_pos (.inr hlt)]
    · rw [if_neg hlt, if_neg (not_or.mpr ⟨hzero, hlt⟩)]

theorem judged_ready (m : MonitorMetrics) (props : DeadlineProps) :
    (m.judged props).lastCyclicTaskReadyTime = m.loopStart := by
  obtain ⟨losses, overruns, depletions, heq⟩ := m.judged_eq props
  rw [heq, ← measured_ready]

theorem judged_stop (m : MonitorMetrics) (props : DeadlineProps) :
    (m.judged props).lastStopRunTime = m.lastStopRunTime := by
  obtain ⟨losses, overruns, depletions, heq⟩ := m.judged_eq props
  obtain ⟨ready, adjust, latency, maxLatency, minLatency, hmeasured⟩ := m.measured_eq
  rw [heq, hmeasured]

/-- The ready time after `k` rounds of the loop. -/
theorem iterate_addPeriod_ready_toNat (m : MonitorMetrics) (period : UInt64) (k : ℕ) :
    ((addPeriod period)^[k] m).lastCyclicTaskReadyTime.toNat
      = (m.lastCyclicTaskReadyTime.toNat + k * period.toNat) % 2 ^ 64 := by
  rw [iterate_addPeriod]
  show (m.lastCyclicTaskReadyTime + UInt64.ofNat k * period).toNat = _
  rw [UInt64.toNat_add, UInt64.toNat_mul, UInt64.toNat_ofNat', Nat.mod_mul_mod, Nat.add_mod_mod]

/-- **When the loop ends.** -/
theorem ends_iff (m : MonitorMetrics) (period : UInt64) :
    Loop.Ends readyBeforeStop (addPeriod period) m ↔
      m.lastStopRunTime.toNat + Nat.gcd period.toNat (2 ^ 64)
        ≤ 2 ^ 64 + m.lastCyclicTaskReadyTime.toNat % Nat.gcd period.toNat (2 ^ 64) := by
  rw [← Loop.exists_wrapped_stride_iff (by decide : 0 < 2 ^ 64)]
  -- The condition fails once the ready time is not before the stop.
  have hcond : ∀ k, readyBeforeStop ((addPeriod period)^[k] m) = false ↔
      m.lastStopRunTime.toNat ≤ (m.lastCyclicTaskReadyTime.toNat + k * period.toNat) % 2 ^ 64 := by
    intro k
    have hstop : ((addPeriod period)^[k] m).lastStopRunTime = m.lastStopRunTime := by
      rw [iterate_addPeriod]
    rw [readyBeforeStop, decide_eq_false_iff_not, UInt64.lt_iff_toNat_lt, hstop,
      iterate_addPeriod_ready_toNat, not_lt]
  exact exists_congr hcond

end MonitorMetrics

namespace MonitorTask

/-- The loop of a round ends, if the round is supervised. -/
def LoopEnds (task : MonitorTask) (input : MonitorInput) : Prop :=
  ∀ props ∈ task.supervisedWith input,
    Loop.Ends MonitorMetrics.readyBeforeStop (MonitorMetrics.addPeriod props.period)
      ((task.recordedMetrics input).judged props)

/-- The stop of a supervised round is not after the last ready time that the loop can reach. -/
def StopReached (task : MonitorTask) (input : MonitorInput) : Prop :=
  ∀ props ∈ task.supervisedWith input,
    input.telegram.t2.toNat + Nat.gcd props.period.toNat (2 ^ 64)
      ≤ 2 ^ 64 + (task.recordedMetrics input).loopStart.toNat
          % Nat.gcd props.period.toNat (2 ^ 64)

instance (task : MonitorTask) (input : MonitorInput) : Decidable (task.StopReached input) :=
  inferInstanceAs (Decidable (∀ props ∈ task.supervisedWith input, _))

/-- **The loop of a round ends exactly when it can reach the stop.** -/
theorem loopEnds_iff (task : MonitorTask) (input : MonitorInput) :
    task.LoopEnds input ↔ task.StopReached input := by
  have hstop : (task.recordedMetrics input).lastStopRunTime = input.telegram.t2 := by
    obtain ⟨minRT, WCRT, heq⟩ := task.recordedMetrics_eq input
    rw [heq]
  unfold LoopEnds StopReached
  refine forall₂_congr fun props _ => ?_
  rw [MonitorMetrics.ends_iff, MonitorMetrics.judged_ready, MonitorMetrics.judged_stop, hstop]

/-- **When the loops of a run all end.** -/
theorem loops_end_iff (me : MonitorThread) (scheduler : ℤ) (fopen : Bool)
    (es : List MonitorInput) :
    Along iterate LoopEnds (start me scheduler fopen) es ↔
      Along iterate StopReached (start me scheduler fopen) es :=
  along_congr loopEnds_iff _ es

/-- **A period of zero is enough for a loop that never ends.** -/
theorem loops_end_not :
    ¬ ∀ (me : MonitorThread) (scheduler : ℤ) (fopen : Bool) (es : List MonitorInput),
      Along iterate LoopEnds (start me scheduler fopen) es := by
  intro hclaim
  have hends := hclaim { MonitorThread.zero with pid := 1 } schedDeadline false
    [jobInput ⟨0, 0, 0⟩ 1 100 105]
  exact absurd ((loopEnds_iff _ _).mp hends.1) (by decide)

end MonitorTask

end RtTaskTrace
