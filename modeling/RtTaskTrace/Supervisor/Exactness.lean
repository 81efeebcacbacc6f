import RtTaskTrace.Supervisor.LoopEnds

namespace RtTaskTrace

open Runs

/-!
# The branch computes with whole numbers

The ready time and the times of a telegram are `uint64_t`, and the deadline branch adds and
subtracts them without a look at their size.  On what the library can send no result wraps: the
difference of two times is the difference of the numbers they stand for, and so is each sum.

* `ExactSub`, `ExactAdd` — one operation;
* `MonitorMetrics.ExactBranch` — all operations of one pass through the branch, and what its loop
  leaves;
* `exactBranch` — a pass from metrics that are an estimate;
* `arithmetic_exact` — every pass of every run, which leaves what the operations have computed.
-/

/-- The difference of the words is that of the numbers. -/
def ExactSub (a b : UInt64) : Prop := ((a - b).toNat : ℤ) = a.toNat - b.toNat

/-- The sum of the words is that of the numbers. -/
def ExactAdd (a b : UInt64) : Prop := (a + b).toNat = a.toNat + b.toNat

theorem exactSub_of_le {a b : UInt64} (h : b.toNat ≤ a.toNat) : ExactSub a b := by
  unfold ExactSub
  rw [UInt64.toNat_sub_of_le _ _ (UInt64.le_iff_toNat_le.mpr h), Nat.cast_sub h]

theorem exactAdd_of_lt {a b : UInt64} (h : a.toNat + b.toNat < 2 ^ 64) : ExactAdd a b := by
  unfold ExactAdd
  rw [UInt64.toNat_add, Nat.mod_eq_of_lt h]

namespace MonitorMetrics

/-- The strides the loop is expected to make. -/
def steps (m : MonitorMetrics) (props : DeadlineProps) : ℕ :=
  ((m.judged props).lastStopRunTime.toNat - (m.judged props).lastCyclicTaskReadyTime.toNat)
    ⌈/⌉ props.period.toNat

/-- The metrics after `k` rounds of the loop. -/
def looped (m : MonitorMetrics) (props : DeadlineProps) (k : ℕ) : MonitorMetrics :=
  (addPeriod props.period)^[k] (m.judged props)

theorem looped_latency (m : MonitorMetrics) (props : DeadlineProps) (k : ℕ) :
    (m.looped props k).lastLatency = (m.judged props).lastLatency := by
  unfold looped
  generalize m.judged props = judged
  rw [iterate_addPeriod]

/-- The metrics after the loop, with the ready time pushed forward after a loss without an
    overrun. -/
def settled (m : MonitorMetrics) (props : DeadlineProps) : MonitorMetrics :=
  if m.pushes props then (m.looped props (m.steps props)).pushForwardReadyTime
  else m.looped props (m.steps props)

/-- The branch computes with whole numbers, and its loop makes the strides expected of it. -/
structure ExactBranch (m : MonitorMetrics) (props : DeadlineProps) : Prop where
  response : ExactSub m.lastStopRunTime m.lastStartRunTime
  pullBack : m.lastStartRunTime < m.guessReadyTime.lastCyclicTaskReadyTime →
    ExactSub m.guessReadyTime.lastCyclicTaskReadyTime m.lastStartRunTime
  latency : ExactSub m.lastStartRunTime
    m.guessReadyTime.pullBackReadyTime.lastCyclicTaskReadyTime
  late : ExactSub (MonitorThread.measured m).lastStopRunTime
    (MonitorThread.measured m).lastCyclicTaskReadyTime
  strides : ∀ k < m.steps props, (m.looped props k).readyBeforeStop = true ∧
    ExactAdd (m.looped props k).lastCyclicTaskReadyTime props.period
  ends : (m.looped props (m.steps props)).readyBeforeStop = false ∧
    (m.judged props).stepReadyTime props.period = some (m.looped props (m.steps props))
  passed : m.lastStopRunTime.toNat
    ≤ (m.looped props (m.steps props)).lastCyclicTaskReadyTime.toNat
  near : 0 < m.steps props →
    (m.looped props (m.steps props)).lastCyclicTaskReadyTime.toNat
      < m.lastStopRunTime.toNat + props.period.toNat
  push : m.pushes props = true →
    ExactAdd (m.looped props (m.steps props)).lastCyclicTaskReadyTime
      (m.looped props (m.steps props)).lastLatency.toUInt64

/-- Such a pass returns, with the strides that are expected of its loop. -/
theorem ExactBranch.update {m : MonitorMetrics} {props : DeadlineProps}
    (h : m.ExactBranch props) : m.update props = some (m.settled props) := by
  rw [MonitorMetrics.update, h.ends.2]
  rfl

end MonitorMetrics

section Branch

variable {m : MonitorMetrics} {e : Estimate} {x : Execution} {props : DeadlineProps}

/-- The loop starts where the estimator judges the execution. -/
theorem loopStart_toNat (h : Refines m e) (ho : Observed m x) :
    m.loopStart.toNat = e.readyAt x := by
  have hstart : (m.lastStartRunTime < m.lastCyclicTaskReadyTime) ↔ x.start < e.ready := by
    rw [UInt64.lt_iff_toNat_lt, ho.start, h.ready]
  have hzero : m.lastCyclicTaskReadyTime = 0 ↔ e.ready = 0 := by
    rw [← UInt64.toNat_inj, h.ready]
    rfl
  unfold MonitorMetrics.loopStart Estimate.readyAt
  by_cases hcond : e.ready = 0 ∨ x.start < e.ready
  · rw [if_pos (by rwa [hzero, hstart]), if_pos hcond, ho.start]
  · rw [if_neg (by rwa [hzero, hstart]), if_neg hcond, h.ready]

/-- The strides are those from there to the stop. -/
theorem steps_eq (h : Refines m e) (ho : Observed m x) (props : DeadlineProps) :
    m.steps props = (x.stop - e.readyAt x) ⌈/⌉ props.period.toNat := by
  rw [MonitorMetrics.steps, m.judged_ready, m.judged_stop, loopStart_toNat h ho, ho.stop]

theorem readyAt_add_steps (h : Refines m e) (ho : Observed m x) (props : DeadlineProps) :
    e.readyAt x + m.steps props * props.period.toNat
      = Loop.strideTo props.period.toNat (e.readyAt x) x.stop := by
  rw [steps_eq h ho]
  rfl

/-- A loop that is entered starts short of the stop. -/
theorem readyAt_lt_of_steps_pos (h : Refines m e) (ho : Observed m x)
    (hpos : 0 < m.steps props) : e.readyAt x < x.stop := by
  by_contra hge
  rw [steps_eq h ho, Nat.sub_eq_zero_of_le (not_lt.mp hge), zero_ceilDiv] at hpos
  exact lt_irrefl _ hpos

/-- The last stride ends less than a period after the stop. -/
theorem readyAt_add_steps_lt (h : Refines m e) (ho : Observed m x)
    (hprops : props.timing.InRange) (hlt : e.readyAt x < x.stop) :
    e.readyAt x + m.steps props * props.period.toNat < x.stop + props.period.toNat := by
  rw [readyAt_add_steps h ho]
  exact Loop.strideTo_lt hprops.1 hlt

/-- **A pass through the branch** from metrics that are an estimate. -/
theorem exactBranch (h : Refines m e) (ho : Observed m x) (hx : x.InRange)
    (hprops : props.timing.InRange) : m.ExactBranch props := by
  have hordered := hx.ordered
  have hbounded := hx.bounded
  have hread := e.readyAt_le_start x
  have hle : (e.pull x).ready ≤ x.stop := le_trans hread hordered
  obtain ⟨hm, hmo⟩ := measured_refines h ho hx
  have hjudged : Refines (m.judged props) ((e.pull x).judge props.timing x) ∧
      Observed (m.judged props) x := judged_refines hm hmo hle props
  obtain ⟨hj, hjo⟩ := hjudged
  obtain ⟨hbound, hstop, hgo, hready⟩ := readyLoop hj hjo hle hx props hprops (steps_eq h ho props)
  change ∀ k ≤ m.steps props, (m.looped props k).lastCyclicTaskReadyTime.toNat
    = e.readyAt x + k * props.period.toNat at hready
  have hperiod : props.period.toNat < 2 ^ 62 := hprops.2
  refine ⟨?_, fun hlt => ?_, ?_, ?_, fun k hk => ⟨hgo k hk, ?_⟩, ⟨hstop, ?_⟩, ?_, fun hpos => ?_,
    fun hpush => ?_⟩
  · apply exactSub_of_le
    rw [ho.start, ho.stop]
    exact hordered
  · apply exactSub_of_le
    exact (UInt64.lt_iff_toNat_lt.mp hlt).le
  · apply exactSub_of_le
    have hmod : e.readyAt x % 2 ^ 64 = e.readyAt x := Nat.mod_eq_of_lt (by omega)
    rw [pullBack_eq h ho]
    show (UInt64.ofNat (e.readyAt x)).toNat ≤ m.lastStartRunTime.toNat
    rw [UInt64.toNat_ofNat', hmod, ho.start]
    exact hread
  · apply exactSub_of_le
    rw [hm.ready, hmo.stop]
    exact hle
  · -- A stride ends no further than the last one.
    apply exactAdd_of_lt
    have hlast := Nat.mul_le_mul_right props.period.toNat (Nat.succ_le_of_lt hk)
    have hentered := readyAt_lt_of_steps_pos h ho (Nat.zero_lt_of_lt hk)
    have := readyAt_add_steps_lt h ho hprops hentered
    rw [Nat.succ_mul] at hlast
    rw [hready k hk.le]
    omega
  · rw [MonitorMetrics.stepReadyTime, MonitorMetrics.looped]
    exact Loop.whileFuel_eq_iterate hbound hstop hgo
  · rw [hready _ le_rfl, readyAt_add_steps h ho, ho.stop]
    exact Loop.le_strideTo hprops.1 _ _
  · rw [hready _ le_rfl, ho.stop]
    exact readyAt_add_steps_lt h ho hprops (readyAt_lt_of_steps_pos h ho hpos)
  · -- What is pushed is the latency, and a push needs a loss.
    apply exactAdd_of_lt
    have hlatency : (m.looped props (m.steps props)).lastLatency
        = Int64.ofNat (x.start - e.readyAt x) := by
      rw [MonitorMetrics.looped_latency, hj.latency]
      rfl
    have hlost := ((pushes_iff h ho hx props).mp hpush).1
    unfold Estimate.Lost at hlost
    have := readyAt_add_steps_lt h ho hprops (by omega)
    rw [hready _ le_rfl, hlatency, Int64.toUInt64_ofNat', UInt64.toNat_ofNat',
      Nat.mod_eq_of_lt (by omega : x.start - e.readyAt x < 2 ^ 64)]
    omega

end Branch

namespace MonitorTask

/-- A round that is supervised computes with whole numbers; and it returns, and leaves what the
    branch computes. -/
structure Exact (task : MonitorTask) (input : MonitorInput) : Prop where
  branch : ∀ props ∈ task.supervisedWith input, (task.recordedMetrics input).ExactBranch props
  leaves : ∀ props ∈ task.supervisedWith input, task.exited = false →
    ∃ task', task.iterate input = some task' ∧
      task'.me.metrics = (task.recordedMetrics input).settled props

/-- **The arithmetic is exact on what the library can send**, in every round of every run. -/
theorem arithmetic_exact {me : MonitorThread} {scheduler : ℤ} {fopen : Bool}
    {es : List MonitorInput} (hrange : Along iterate InRange (start me scheduler fopen) es) :
    Along iterate Exact (start me scheduler fopen) es := by
  apply hrange.of_invariant (I := fun task => ∃ e, Refines task.me.metrics e)
  · exact ⟨_, refines_init⟩
  · rintro task input task' ⟨e, href⟩ hin hstep
    exact ⟨_, iterate_refines href hin hstep⟩
  · rintro task input ⟨e, href⟩ hin
    have hbranch : ∀ props ∈ task.supervisedWith input,
        (task.recordedMetrics input).ExactBranch props := by
      intro props hsome
      obtain ⟨hx, htiming⟩ := hin props hsome
      obtain ⟨hr, ho⟩ := recordResponseTime_refines href hx
      exact exactBranch hr ho hx htiming
    exact ⟨hbranch, fun props hsome hrunning =>
      iterate_of_update hrunning hsome (hbranch props hsome).update⟩

theorem arithmetic_exact_sample : Along iterate Exact (startOn 1) sampleRounds :=
  arithmetic_exact (show Along iterate InRange (startOn 1) sampleRounds by decide)

end MonitorTask

end RtTaskTrace
