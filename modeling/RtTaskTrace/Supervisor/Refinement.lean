import RtTaskTrace.Supervisor.Estimator
import RtTaskTrace.Supervisor.Monitor
import RtTaskTrace.Lib.Runs

namespace RtTaskTrace

open Loop

/-!
# The deadline branch computes the estimator

`Refines m e` — the metrics `m` are the estimate `e` in machine words: the ready time exactly,
the signed fields and the counters modulo their widths.  Each paragraph of the deadline branch
keeps it (`measured_refines`, `judged_refines`, `stepReadyTime_refines`,
`pushForward_refines`), so `deadlineUpdate_refines` says that on telegrams with
`0 < t1 ≤ t2 < 2^62` and a period in the same range the branch returns, and has made exactly
one step of the estimator: no subtraction has wrapped and no addition has overflowed.

`jobs_refine` carries this through a run of the monitor's loop over a stream of executions.
-/

/-- The metrics are the estimate, in machine words. -/
structure Refines (m : MonitorMetrics) (e : Estimate) : Prop where
  ready : m.lastCyclicTaskReadyTime.toNat = e.ready
  latency : m.lastLatency = Int64.ofNat e.latency
  adjust : m.totalAltoAdjust = Int64.ofInt e.adjust
  cycles : m.cycleCount = UInt64.ofNat e.cycles
  losses : m.deadlineLostCount = UInt32.ofNat e.losses
  overruns : m.runtimeOverrunCount = UInt32.ofNat e.overruns
  depletions : m.taskDepletedCount = UInt32.ofNat e.depletions

/-- The metrics hold the times of the execution `x`. -/
structure Observed (m : MonitorMetrics) (x : Execution) : Prop where
  start : m.lastStartRunTime.toNat = x.start
  stop : m.lastStopRunTime.toNat = x.stop
  response : m.lastRT.toNat = x.stop - x.start

/-- The execution a telegram reports. -/
def Telegram.execution (telegram : Telegram) : Execution :=
  ⟨telegram.t1.toNat, telegram.t2.toNat⟩

/-- The timing that deadline parameters declare. -/
def DeadlineProps.timing (props : DeadlineProps) : Timing :=
  ⟨props.runtime.toNat, props.deadline.toNat, props.period.toNat⟩

/-- The times the library can send: positive, ordered and far from the end of the type. -/
structure Execution.InRange (x : Execution) : Prop where
  pos : 0 < x.start
  ordered : x.start ≤ x.stop
  bounded : x.stop < 2 ^ 62

instance (x : Execution) : Decidable x.InRange :=
  decidable_of_iff (0 < x.start ∧ x.start ≤ x.stop ∧ x.stop < 2 ^ 62)
    ⟨fun ⟨hpos, hordered, hbounded⟩ => ⟨hpos, hordered, hbounded⟩,
      fun h => ⟨h.pos, h.ordered, h.bounded⟩⟩

/-- A period far from the end of the type. -/
def Timing.InRange (timing : Timing) : Prop := 0 < timing.period ∧ timing.period < 2 ^ 62

instance (timing : Timing) : Decidable timing.InRange :=
  inferInstanceAs (Decidable (_ ∧ _))

variable {m : MonitorMetrics} {e : Estimate} {x : Execution}

theorem refines_init : Refines MonitorMetrics.init Estimate.initial where
  ready := rfl
  latency := rfl
  adjust := rfl
  cycles := rfl
  losses := rfl
  overruns := rfl
  depletions := rfl

/-! ### Recording the times -/

/-- Recording an execution sets its three times and touches, besides them, only the extremes
    of the response time. -/
theorem recordResponseTime_eq (m : MonitorMetrics) (t1 t2 : UInt64) :
    ∃ minRT WCRT, m.recordResponseTime t1 t2 =
      { m with lastStartRunTime := t1, lastStopRunTime := t2, lastRT := t2 - t1
               minRT := minRT, WCRT := WCRT } := by
  unfold MonitorMetrics.recordResponseTime
  simp only
  split
  · exact ⟨_, _, rfl⟩
  · split <;> exact ⟨_, _, rfl⟩

/-- No times of an execution have a part in the estimate. -/
theorem Refines.recordResponseTime (h : Refines m e) (t1 t2 : UInt64) :
    Refines (m.recordResponseTime t1 t2) e := by
  obtain ⟨minRT, WCRT, heq⟩ := recordResponseTime_eq m t1 t2
  rw [heq]
  exact ⟨h.ready, h.latency, h.adjust, h.cycles, h.losses, h.overruns, h.depletions⟩

theorem recordResponseTime_refines (h : Refines m e) {telegram : Telegram}
    (hx : telegram.execution.InRange) :
    Refines (m.recordResponseTime telegram.t1 telegram.t2) e ∧
      Observed (m.recordResponseTime telegram.t1 telegram.t2) telegram.execution := by
  refine ⟨h.recordResponseTime telegram.t1 telegram.t2, ?_⟩
  obtain ⟨minRT, WCRT, heq⟩ := recordResponseTime_eq m telegram.t1 telegram.t2
  rw [heq]
  refine ⟨rfl, rfl, ?_⟩
  -- The stop is not before the start, so the difference does not wrap.
  exact UInt64.toNat_sub_of_le _ _ (UInt64.le_iff_toNat_le.mpr hx.ordered)

/-! ### The ready time the execution is judged against -/

/-- Measuring the latency sets it and touches, besides it, only its extremes. -/
theorem measureLatency_eq (m : MonitorMetrics) :
    ∃ maxLatency minLatency, m.measureLatency =
      { m with
        lastLatency := (m.lastStartRunTime - m.lastCyclicTaskReadyTime).toInt64
        maxLatency := maxLatency, minLatency := minLatency } := by
  unfold MonitorMetrics.measureLatency
  simp only [UInt64.toUInt64_toInt64]
  split
  · exact ⟨_, _, rfl⟩
  · split <;> exact ⟨_, _, rfl⟩

/-- Guessing and pulling back give the ready time the execution is judged against, and book
    what they take off an earlier estimate. -/
theorem pullBack_eq (h : Refines m e) (ho : Observed m x) :
    m.guessReadyTime.pullBackReadyTime =
      { m with
        lastCyclicTaskReadyTime := UInt64.ofNat (e.readyAt x)
        totalAltoAdjust := Int64.ofInt (e.pull x).adjust } := by
  have hstart : m.lastStartRunTime = UInt64.ofNat x.start := by
    rw [← ho.start, UInt64.ofNat_toNat]
  have hready : m.lastCyclicTaskReadyTime = UInt64.ofNat e.ready := by
    rw [← h.ready, UInt64.ofNat_toNat]
  by_cases hzero : e.ready = 0
  · -- no estimate yet: the start is the guess, and there is nothing to pull back
    have hz : m.lastCyclicTaskReadyTime = 0 := by
      rw [hready, hzero]
      rfl
    have hat : e.readyAt x = x.start := if_pos (Or.inl hzero)
    have hadj : (e.pull x).adjust = e.adjust := if_pos hzero
    rw [hat, hadj, MonitorMetrics.guessReadyTime, if_pos hz, MonitorMetrics.pullBackReadyTime,
      if_neg (UInt64.lt_irrefl _), hstart, ← h.adjust]
  · have hz : ¬ m.lastCyclicTaskReadyTime = 0 := by
      intro hz
      have hr := h.ready
      rw [hz] at hr
      exact hzero hr.symm
    rw [MonitorMetrics.guessReadyTime, if_neg hz, MonitorMetrics.pullBackReadyTime]
    have hadj : (e.pull x).adjust = e.adjust - (e.ready - e.readyAt x : ℕ) := if_neg hzero
    by_cases hlt : x.start < e.ready
    · -- an early start: the difference is taken off the sum of the adjustments
      have hm : m.lastStartRunTime < m.lastCyclicTaskReadyTime := by
        rw [UInt64.lt_iff_toNat_lt, ho.start, h.ready]
        exact hlt
      have hat : e.readyAt x = x.start := if_pos (Or.inr hlt)
      have hdiff : (UInt64.ofNat e.ready - UInt64.ofNat x.start).toInt64
          = Int64.ofInt ((e.ready - x.start : ℕ) : ℤ) := by
        rw [Int64.ofInt_eq_ofNat, Int64.ofNat_sub _ _ hlt.le, UInt64.toInt64_sub,
          UInt64.toInt64_ofNat', UInt64.toInt64_ofNat']
      rw [if_pos hm, hadj, hat, Int64.ofInt_sub, ← h.adjust, ← hdiff, hstart, hready,
        UInt64.toInt64_sub, Int64.toInt64_toUInt64]
    · -- A start at or after the estimate leaves it, and books nothing.
      have hm : ¬ m.lastStartRunTime < m.lastCyclicTaskReadyTime := by
        rw [UInt64.lt_iff_toNat_lt, ho.start, h.ready]
        exact hlt
      have hat : e.readyAt x = e.ready := if_neg (by omega)
      rw [if_neg hm, hadj, hat, Nat.sub_self, ← hready]
      simp [← h.adjust]

theorem measured_refines (h : Refines m e) (ho : Observed m x) (hx : x.InRange) :
    Refines (MonitorThread.measured m) (e.pull x) ∧ Observed (MonitorThread.measured m) x := by
  obtain ⟨maxLatency, minLatency, heq⟩ := measureLatency_eq m.guessReadyTime.pullBackReadyTime
  have hle := e.readyAt_le_start x
  have hbound : e.readyAt x < 2 ^ 64 := by
    have := hx.ordered
    have := hx.bounded
    omega
  have hstart : m.lastStartRunTime = UInt64.ofNat x.start := by
    rw [← ho.start, UInt64.ofNat_toNat]
  rw [MonitorThread.measured, heq, pullBack_eq h ho]
  refine ⟨⟨?_, ?_, rfl, h.cycles, h.losses, h.overruns, h.depletions⟩, ho.start, ho.stop,
    ho.response⟩
  · -- The ready time fits the type.
    exact UInt64.toNat_ofNat_of_lt' hbound
  · show (m.lastStartRunTime - UInt64.ofNat (e.readyAt x)).toInt64
      = Int64.ofNat (x.start - e.readyAt x)
    rw [hstart, UInt64.toInt64_sub, UInt64.toInt64_ofNat', UInt64.toInt64_ofNat',
      Int64.ofNat_sub _ _ hle]

/-! ### The two tests -/

/-- The test for a loss is the estimator's, on a state whose ready time is not after the
    stop. -/
theorem deadlineLostDetected_iff (h : Refines m e) (ho : Observed m x)
    (hle : e.ready ≤ x.stop) (deadline : UInt64) :
    m.deadlineLostDetected deadline = true ↔ deadline.toNat < x.stop - e.ready := by
  -- The estimate is not after the stop, so the difference does not wrap.
  have hsub : (m.lastStopRunTime - m.lastCyclicTaskReadyTime).toNat = x.stop - e.ready := by
    rw [UInt64.toNat_sub_of_le, ho.stop, h.ready]
    rw [UInt64.le_iff_toNat_le, ho.stop, h.ready]
    exact hle
  rw [MonitorMetrics.deadlineLostDetected, decide_eq_true_iff, gt_iff_lt,
    UInt64.lt_iff_toNat_lt, hsub]

/-- The test for an overrun is the estimator's. -/
theorem runtimeOverrunDetected_iff (ho : Observed m x) (props : DeadlineProps) :
    m.runtimeOverrunDetected props.runtime = true ↔ x.Overrun props.timing := by
  rw [MonitorMetrics.runtimeOverrunDetected, decide_eq_true_iff, gt_iff_lt,
    UInt64.lt_iff_toNat_lt, ho.response]
  rfl

theorem judged_refines (h : Refines m e) (ho : Observed m x) (hle : e.ready ≤ x.stop)
    (props : DeadlineProps) :
    Refines ((m.countDeadlineLost props.deadline).countRuntimeOverrun props.runtime props.period)
        (e.judge props.timing x) ∧
      Observed ((m.countDeadlineLost props.deadline).countRuntimeOverrun props.runtime
        props.period) x := by
  have hcount : ∀ n : ℕ, UInt32.ofNat n + 1 = UInt32.ofNat (n + 1) := fun n => by
    rw [UInt32.ofNat_add]
    rfl
  -- the loss first
  have hlost : Refines (m.countDeadlineLost props.deadline)
        { e with losses := if props.deadline.toNat < x.stop - e.ready then e.losses + 1
                           else e.losses } ∧
      Observed (m.countDeadlineLost props.deadline) x := by
    have hiff := deadlineLostDetected_iff h ho hle props.deadline
    unfold MonitorMetrics.countDeadlineLost
    by_cases hl : props.deadline.toNat < x.stop - e.ready
    · rw [if_pos (hiff.mpr hl), if_pos hl]
      refine ⟨⟨h.ready, h.latency, h.adjust, h.cycles, ?_, h.overruns, h.depletions⟩,
        ho.start, ho.stop, ho.response⟩
      show m.deadlineLostCount + 1 = _
      rw [h.losses, hcount]
    · rw [if_neg (fun hd => hl (hiff.mp hd)), if_neg hl]
      exact ⟨h, ho⟩
  -- then the overrun, and the depletion within it
  obtain ⟨hr, hro⟩ := hlost
  have hiff := runtimeOverrunDetected_iff hro props
  have hperiod : (m.countDeadlineLost props.deadline).lastRT > props.period ↔
      props.timing.period < x.stop - x.start := by
    rw [gt_iff_lt, UInt64.lt_iff_toNat_lt, hro.response]
    rfl
  unfold MonitorMetrics.countRuntimeOverrun Estimate.judge
  by_cases hover : x.Overrun props.timing
  · have hcountover : (m.countDeadlineLost props.deadline).runtimeOverrunCount + 1
        = UInt32.ofNat (e.overruns + 1) := by
      rw [hr.overruns, hcount]
    rw [if_pos (hiff.mpr hover), if_pos hover]
    by_cases hdep : props.timing.period < x.stop - x.start
    · have hd : x.Depleted props.timing := ⟨hover, hdep⟩
      simp only [if_pos (hperiod.mpr hdep), if_pos hd]
      refine ⟨⟨hr.ready, hr.latency, hr.adjust, hr.cycles, hr.losses, hcountover, ?_⟩,
        hro.start, hro.stop, hro.response⟩
      show (m.countDeadlineLost props.deadline).taskDepletedCount + 1 = _
      rw [hr.depletions, hcount]
    · have hd : ¬ x.Depleted props.timing := fun hd => hdep hd.2
      simp only [if_neg (fun hp => hdep (hperiod.mp hp)), if_neg hd]
      exact ⟨⟨hr.ready, hr.latency, hr.adjust, hr.cycles, hr.losses, hcountover,
        hr.depletions⟩, hro.start, hro.stop, hro.response⟩
  · have hd : ¬ x.Depleted props.timing := fun hd => hover hd.1
    rw [if_neg (fun ho' => hover (hiff.mp ho')), if_neg hover, if_neg hd]
    exact ⟨hr, hro⟩

/-! ### The loop -/

/-- The ready time after `k` rounds, as long as it stays within the type. -/
theorem iterate_ready (h : Refines m e) (props : DeadlineProps) {k : ℕ}
    (hk : e.ready + k * props.timing.period < 2 ^ 64) (hp : 0 < props.timing.period) :
    ((MonitorMetrics.addPeriod props.period)^[k] m).lastCyclicTaskReadyTime.toNat
      = e.ready + k * props.timing.period := by
  have hmul : k ≤ k * props.timing.period := Nat.le_mul_of_pos_right k hp
  have hperiod : props.period.toNat = props.timing.period := rfl
  rw [MonitorMetrics.iterate_addPeriod]
  show (m.lastCyclicTaskReadyTime + UInt64.ofNat k * props.period).toNat = _
  rw [UInt64.toNat_add, UInt64.toNat_mul, UInt64.toNat_ofNat', h.ready, hperiod,
    Nat.mod_eq_of_lt (by omega : k < 2 ^ 64),
    Nat.mod_eq_of_lt (by omega : k * props.timing.period < 2 ^ 64), Nat.mod_eq_of_lt hk]

/-- **The rounds of the loop.**  It makes as many as there are strides to the stop, none of which
    wraps. -/
theorem readyLoop (h : Refines m e) (ho : Observed m x) (hle : e.ready ≤ x.stop)
    (hx : x.InRange) (props : DeadlineProps) (hprops : props.timing.InRange) {k : ℕ}
    (hk : k = (x.stop - e.ready) ⌈/⌉ props.timing.period) :
    k ≤ MonitorMetrics.readyLoopRounds ∧
      ((MonitorMetrics.addPeriod props.period)^[k] m).readyBeforeStop = false ∧
      (∀ j < k, ((MonitorMetrics.addPeriod props.period)^[j] m).readyBeforeStop = true) ∧
      ∀ j ≤ k, ((MonitorMetrics.addPeriod props.period)^[j] m).lastCyclicTaskReadyTime.toNat
        = e.ready + j * props.timing.period := by
  obtain ⟨hp, hpb⟩ := hprops
  have hstopb := hx.bounded
  have hstride : e.ready + k * props.timing.period
      = strideTo props.timing.period e.ready x.stop := by
    rw [hk]
    rfl
  -- the whole walk stays within the type
  have hwalk : strideTo props.timing.period e.ready x.stop < 2 ^ 64 := by
    rcases Nat.eq_or_lt_of_le hle with heq | hlt
    · rw [strideTo_of_le _ heq.ge]
      omega
    · have := strideTo_lt hp hlt
      omega
  have hready : ∀ j ≤ k,
      ((MonitorMetrics.addPeriod props.period)^[j] m).lastCyclicTaskReadyTime.toNat
        = e.ready + j * props.timing.period := by
    intro j hj
    have hmul := Nat.mul_le_mul_right props.timing.period hj
    exact iterate_ready h props (by omega) hp
  -- The condition of the loop compares what the walk compares.
  have hcond : ∀ j ≤ k, (((MonitorMetrics.addPeriod props.period)^[j] m).readyBeforeStop = true ↔
      e.ready + j * props.timing.period < x.stop) := by
    intro j hj
    have hstop : ((MonitorMetrics.addPeriod props.period)^[j] m).lastStopRunTime
        = m.lastStopRunTime := by
      rw [MonitorMetrics.iterate_addPeriod]
    rw [MonitorMetrics.readyBeforeStop, decide_eq_true_iff, UInt64.lt_iff_toNat_lt, hready j hj,
      hstop, ho.stop]
  refine ⟨?_, ?_, ?_, hready⟩
  · -- So the rounds it takes are within the bound on them.
    have hmul := Nat.le_mul_of_pos_right k hp
    unfold MonitorMetrics.readyLoopRounds
    omega
  · rw [← Bool.not_eq_true, hcond k le_rfl, hstride, not_lt]
    exact le_strideTo hp _ _
  · intro j hj
    rw [hcond j hj.le]
    exact lt_of_lt_strides hp (hk ▸ hj)

/-- **The loop ends where the walk does.** -/
theorem stepReadyTime_refines (h : Refines m e) (ho : Observed m x) (hle : e.ready ≤ x.stop)
    (hx : x.InRange) (props : DeadlineProps) (hprops : props.timing.InRange) :
    ∃ m', m.stepReadyTime props.period = some m' ∧ Refines m' (e.walk props.timing x) ∧
      Observed m' x := by
  obtain ⟨hk, hstop, hgo, hready⟩ := readyLoop h ho hle hx props hprops rfl
  have hlast := hready _ le_rfl
  refine ⟨_, whileFuel_eq_iterate hk hstop hgo, ?_, ?_⟩
  · rw [MonitorMetrics.iterate_addPeriod] at hlast ⊢
    refine ⟨hlast, h.latency, h.adjust, ?_, h.losses, h.overruns, h.depletions⟩
    show m.cycleCount + UInt64.ofNat _ = UInt64.ofNat (e.cycles + _)
    rw [h.cycles, UInt64.ofNat_add]
  · rw [MonitorMetrics.iterate_addPeriod]
    exact ⟨ho.start, ho.stop, ho.response⟩

/-! ### The adjustment after a loss -/

theorem pushForward_refines (h : Refines m e) (hb : e.ready + e.latency < 2 ^ 64) :
    Refines m.pushForwardReadyTime e.push where
  ready := by
    show (m.lastCyclicTaskReadyTime + m.lastLatency.toUInt64).toNat = e.ready + e.latency
    rw [h.latency, Int64.toUInt64_ofNat', UInt64.toNat_add, h.ready, UInt64.toNat_ofNat',
      Nat.mod_eq_of_lt (by omega : e.latency < 2 ^ 64), Nat.mod_eq_of_lt hb]
  latency := h.latency
  adjust := by
    show m.totalAltoAdjust + m.lastLatency = Int64.ofInt (e.adjust + e.latency)
    rw [h.adjust, h.latency, Int64.ofInt_add, Int64.ofInt_eq_ofNat]
  cycles := h.cycles
  losses := h.losses
  overruns := h.overruns
  depletions := h.depletions

/-! ### The branch as a whole -/

namespace MonitorMetrics

/-- The metrics when the loop starts: measured, and the execution judged. -/
def judged (m : MonitorMetrics) (props : DeadlineProps) : MonitorMetrics :=
  ((MonitorThread.measured m).countDeadlineLost props.deadline).countRuntimeOverrun
    props.runtime props.period

/-- Whether the ready time is pushed forward after the loop. -/
def pushes (m : MonitorMetrics) (props : DeadlineProps) : Bool :=
  (MonitorThread.measured m).deadlineLostDetected props.deadline &&
    !((MonitorThread.measured m).countDeadlineLost props.deadline).runtimeOverrunDetected
      props.runtime

/-- What the deadline branch leaves of the metrics; `none` when its loop never ends. -/
def update (m : MonitorMetrics) (props : DeadlineProps) : Option MonitorMetrics :=
  ((m.judged props).stepReadyTime props.period).map fun m' =>
    if m.pushes props then m'.pushForwardReadyTime else m'

/-- Measuring sets the ready time, the latency and its extremes, and books what it pulls back. -/
theorem measured_eq (m : MonitorMetrics) :
    ∃ ready adjust latency maxLatency minLatency, MonitorThread.measured m =
      { m with
        lastCyclicTaskReadyTime := ready, totalAltoAdjust := adjust, lastLatency := latency
        maxLatency := maxLatency, minLatency := minLatency } := by
  obtain ⟨maxLatency, minLatency, heq⟩ := measureLatency_eq m.guessReadyTime.pullBackReadyTime
  rw [MonitorThread.measured, heq]
  unfold pullBackReadyTime guessReadyTime
  split <;> split <;> exact ⟨_, _, _, _, _, rfl⟩

theorem countDeadlineLost_eq (m : MonitorMetrics) (deadline : UInt64) :
    ∃ losses, m.countDeadlineLost deadline = { m with deadlineLostCount := losses } := by
  unfold countDeadlineLost
  split <;> exact ⟨_, rfl⟩

theorem countRuntimeOverrun_eq (m : MonitorMetrics) (runtime period : UInt64) :
    ∃ overruns depletions, m.countRuntimeOverrun runtime period =
      { m with runtimeOverrunCount := overruns, taskDepletedCount := depletions } := by
  unfold countRuntimeOverrun
  split
  · simp only
    split <;> exact ⟨_, _, rfl⟩
  · exact ⟨_, _, rfl⟩

/-- Judging only counts. -/
theorem judged_eq (m : MonitorMetrics) (props : DeadlineProps) :
    ∃ losses overruns depletions, m.judged props =
      { MonitorThread.measured m with
        deadlineLostCount := losses, runtimeOverrunCount := overruns
        taskDepletedCount := depletions } := by
  obtain ⟨losses, hlost⟩ := (MonitorThread.measured m).countDeadlineLost_eq props.deadline
  obtain ⟨overruns, depletions, hover⟩ := ((MonitorThread.measured m).countDeadlineLost
    props.deadline).countRuntimeOverrun_eq props.runtime props.period
  exact ⟨losses, overruns, depletions, by rw [judged, hover, hlost]⟩

/-- What the branch leaves as it was when the latency had been measured: all but the ready time,
    the two sums that go with it and the counts. -/
theorem update_eq_some {m m' : MonitorMetrics} {props : DeadlineProps}
    (h : m.update props = some m') :
    ∃ ready adjust cycles losses overruns depletions, m' =
      { MonitorThread.measured m with
        lastCyclicTaskReadyTime := ready, totalAltoAdjust := adjust, cycleCount := cycles
        deadlineLostCount := losses, runtimeOverrunCount := overruns
        taskDepletedCount := depletions } := by
  obtain ⟨looped, hloop, rfl⟩ := Option.map_eq_some_iff.mp h
  obtain ⟨k, rfl⟩ := stepReadyTime_eq_some hloop
  obtain ⟨losses, overruns, depletions, hjudged⟩ := m.judged_eq props
  rw [hjudged]
  generalize MonitorThread.measured m = measured
  split <;> exact ⟨_, _, _, _, _, _, rfl⟩

end MonitorMetrics

theorem logAndAdjust_metrics (me : MonitorThread) (m : MonitorMetrics)
    (lost overrun fopen : Bool) :
    (me.logAndAdjust m lost overrun fopen).1.metrics
      = if lost && !overrun then m.pushForwardReadyTime else m := rfl

/-- The branch works on the metrics alone: the log and the thread's other fields have no part
    in what becomes of them. -/
theorem MonitorThread.deadlineUpdate_metrics (me : MonitorThread) (props : DeadlineProps)
    (fopen : Bool) :
    (me.deadlineUpdate props fopen).map (fun handled => handled.1.metrics)
      = me.metrics.update props := by
  have hbranch : me.deadlineUpdate props fopen
      = ((me.metrics.judged props).stepReadyTime props.period).map fun m =>
          me.logAndAdjust m
            ((MonitorThread.measured me.metrics).deadlineLostDetected props.deadline)
            (((MonitorThread.measured me.metrics).countDeadlineLost
              props.deadline).runtimeOverrunDetected props.runtime) fopen := rfl
  rw [hbranch, MonitorMetrics.update]
  cases (me.metrics.judged props).stepReadyTime props.period with
  | none => rfl
  | some m => exact congrArg some (logAndAdjust_metrics me m _ _ fopen)

/-- The branch detects a loss exactly when the estimator does. -/
theorem lostDetected_iff (h : Refines m e) (ho : Observed m x) (hx : x.InRange)
    (props : DeadlineProps) :
    (MonitorThread.measured m).deadlineLostDetected props.deadline = true ↔
      e.Lost props.timing x := by
  have hle : (e.pull x).ready ≤ x.stop := le_trans (e.readyAt_le_start x) hx.ordered
  obtain ⟨hm, hmo⟩ := measured_refines h ho hx
  rw [deadlineLostDetected_iff hm hmo hle props.deadline]
  rfl

/-- Counting the loss does not change the response time that is tested for an overrun. -/
theorem overrunDetected_iff (h : Refines m e) (ho : Observed m x) (hx : x.InRange)
    (props : DeadlineProps) :
    ((MonitorThread.measured m).countDeadlineLost props.deadline).runtimeOverrunDetected
      props.runtime = true ↔ x.Overrun props.timing := by
  have hmo := (measured_refines h ho hx).2
  have hcount : ((MonitorThread.measured m).countDeadlineLost props.deadline).lastRT
      = (MonitorThread.measured m).lastRT := by
    unfold MonitorMetrics.countDeadlineLost
    split <;> rfl
  rw [← runtimeOverrunDetected_iff hmo, MonitorMetrics.runtimeOverrunDetected, hcount]
  rfl

/-- The branch pushes exactly when the estimator does. -/
theorem pushes_iff (h : Refines m e) (ho : Observed m x) (hx : x.InRange)
    (props : DeadlineProps) :
    m.pushes props = true ↔ e.Lost props.timing x ∧ ¬ x.Overrun props.timing := by
  rw [MonitorMetrics.pushes, Bool.and_eq_true, lostDetected_iff h ho hx, Bool.not_eq_true',
    ← Bool.not_eq_true, overrunDetected_iff h ho hx]

/-- **The deadline branch makes one step of the estimator**, and its loop ends. -/
theorem update_refines (h : Refines m e) (ho : Observed m x) (hx : x.InRange)
    (props : DeadlineProps) (hprops : props.timing.InRange) :
    ∃ m', m.update props = some m' ∧ Refines m' (e.step props.timing x) := by
  have hle : (e.pull x).ready ≤ x.stop := le_trans (e.readyAt_le_start x) hx.ordered
  obtain ⟨hm, hmo⟩ := measured_refines h ho hx
  obtain ⟨hj, hjo⟩ := judged_refines hm hmo hle props
  obtain ⟨m', hstep, hw, -⟩ := stepReadyTime_refines hj hjo hle hx props hprops
  have hstep' : (m.judged props).stepReadyTime props.period = some m' := hstep
  have hpush := pushes_iff h ho hx props
  refine ⟨if m.pushes props then m'.pushForwardReadyTime else m', ?_, ?_⟩
  · rw [MonitorMetrics.update, hstep']
    rfl
  unfold Estimate.step
  by_cases hp : e.Lost props.timing x ∧ ¬ x.Overrun props.timing
  · rw [if_pos (hpush.mpr hp), if_pos hp]
    apply pushForward_refines hw
    have hpull : e.readyAt x < x.stop := by
      have := hp.1
      unfold Estimate.Lost at this
      omega
    -- The push does not wrap: the walk ends less than a period after the stop.
    have hstride := strideTo_lt hprops.1 hpull
    have := hx.bounded
    have := hx.ordered
    have := hprops.2
    show strideTo props.timing.period (e.readyAt x) x.stop + (x.start - e.readyAt x) < 2 ^ 64
    omega
  · rw [if_neg (fun h => hp (hpush.mp h)), if_neg hp]
    exact hw

/-- The branch of a thread makes one step of the estimator. -/
theorem deadlineUpdate_refines (me : MonitorThread) (h : Refines me.metrics e)
    (ho : Observed me.metrics x) (hx : x.InRange) (props : DeadlineProps)
    (hprops : props.timing.InRange) (fopen : Bool) :
    ∃ me' rows, me.deadlineUpdate props fopen = some (me', rows) ∧
      Refines me'.metrics (e.step props.timing x) ∧ SameThread me me' := by
  obtain ⟨m', hupdate, href⟩ := update_refines h ho hx props hprops
  rw [← me.deadlineUpdate_metrics props fopen] at hupdate
  obtain ⟨⟨me', rows⟩, hbranch, rfl⟩ := Option.map_eq_some_iff.mp hupdate
  exact ⟨me', rows, hbranch, href, MonitorThread.deadlineUpdate_same hbranch⟩

/-! ### Runs of the monitor over executions -/

/-- A round that reads the start/stop telegram of an execution, and for which the deadline
    parameters `props` are read. -/
structure IsJob (props : DeadlineProps) (pid : PidT) (input : MonitorInput) : Prop
    extends OwnReport pid input where
  props : PID.getDeadlinePropeties input.reads.scheduler input.reads.attr = .ok props

/-- The execution a round reports. -/
def MonitorInput.execution (input : MonitorInput) : Execution := input.telegram.execution

/-- The thread is in its loop and takes the task for a deadline task. -/
structure Watching (pid : PidT) (task : MonitorTask) : Prop where
  running : task.exited = false
  pid : task.me.pid = pid
  policy : task.me.policy = schedDeadline

/-- A monitor just started on the deadline task `pid`, without a log. -/
def MonitorTask.startOn (pid : PidT) : MonitorTask :=
  .start { MonitorThread.zero with pid := pid } schedDeadline false

theorem watching_startOn (pid : PidT) : Watching pid (MonitorTask.startOn pid) :=
  ⟨rfl, rfl, rfl⟩

/-- The round that reads the start/stop telegram of a job of the task `pid`. -/
def jobInput (props : DeadlineProps) (pid : PidT) (t1 t2 : UInt64) : MonitorInput where
  numberOfBytesReceived := Telegram.size
  telegram := ⟨pid, TelegramCode.startAndStopTime.value, t1, t2⟩
  euid := 0
  kill := fun _ => true
  reads := ⟨schedDeadline, some ⟨props.runtime, props.deadline, props.period⟩, schedDeadline⟩
  fopen := false

theorem isJob_jobInput (props : DeadlineProps) (pid : PidT) (t1 t2 : UInt64) :
    IsJob props pid (jobInput props pid t1 t2) := ⟨⟨rfl, rfl, rfl⟩, rfl⟩

/-- **One round on an execution makes one step of the estimator.** -/
theorem iterate_job_refines {task : MonitorTask} {pid : PidT} {props : DeadlineProps}
    {input : MonitorInput} (hw : Watching pid task) (h : Refines task.me.metrics e)
    (hjob : IsJob props pid input) (hx : input.execution.InRange)
    (hprops : props.timing.InRange) :
    ∃ task', task.iterate input = some task' ∧ Watching pid task' ∧
      Refines task'.me.metrics (e.step props.timing input.execution) := by
  obtain ⟨hr, ho⟩ := recordResponseTime_refines h hx
  obtain ⟨me', rows, hupd, href, hsame⟩ := deadlineUpdate_refines
    (MonitorThread.recorded { task.me with telegram := input.telegram }) hr ho hx props hprops
    input.fopen
  refine ⟨{ task with me := me', csv := { task.csv with rows := task.csv.rows ++ rows } }, ?_,
    ⟨hw.running, hsame.pid.trans hw.pid, hsame.policy.trans hw.policy⟩, href⟩
  have hreport : OwnReport task.me.pid input := by
    rw [hw.pid]
    exact hjob.toOwnReport
  have hpolicy : ({ task.me with telegram := input.telegram } : MonitorThread).policy
      = schedDeadline := hw.policy
  rw [MonitorTask.iterate_report hw.running hreport,
    MonitorThread.handleStartAndStop_deadline hpolicy hjob.props, hupd]
  rfl

/-- **A run of the monitor over executions is a run of the estimator.** -/
theorem jobs_refine {task : MonitorTask} {pid : PidT} (props : ℕ → DeadlineProps)
    (hw : Watching pid task) (h : Refines task.me.metrics Estimate.initial)
    {input : ℕ → MonitorInput} {n : ℕ} (hjob : ∀ k < n, IsJob (props k) pid (input k))
    (hx : ∀ k < n, (input k).execution.InRange) (hprops : ∀ k < n, (props k).timing.InRange) :
    ∀ k ≤ n, ∃ t, Runs.after MonitorTask.iterate task input k = some t ∧
      (Watching pid t ∧ Refines t.me.metrics
        (Estimate.run (fun j => (props j).timing) (fun j => (input j).execution) k)) := by
  refine Runs.after_induction ⟨hw, h⟩ fun k hk t ht => ?_
  obtain ⟨t', hiter, hw', href⟩ :=
    iterate_job_refines ht.1 ht.2 (hjob k hk) (hx k hk) (hprops k hk)
  exact ⟨t', hiter, hw', href⟩

end RtTaskTrace
