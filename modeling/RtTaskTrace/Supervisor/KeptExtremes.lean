import RtTaskTrace.Lib.Extremes
import RtTaskTrace.Supervisor.Rounds

namespace RtTaskTrace

open Runs

/-!
# The extremes a monitor keeps

Response times and latencies are kept with their extremes, both by a chain that compares a value
with the minimum only when it has not raised the maximum (`Extremes.add`).  The maxima are exact.
The minima are not: a response time that is the first value arrives before the maximum is above
it and is never compared, and the latency's minimum starts from `-1`, below every latency.

* `recordResponseTime_responses`, `measureLatency_latencies` — the two paragraphs are `Extremes.add`;
* `responseTimes_extremes_iff` — when the minimum of the response times is exact;
* `latency_extremes_not` — that of the latencies never is.
-/

namespace MonitorMetrics

/-- The extremes of the response time. -/
def responses (m : MonitorMetrics) : Extremes ℕ := ⟨m.WCRT.toNat, m.minRT.toNat⟩

/-- The extremes of the latency. -/
def latencies (m : MonitorMetrics) : Extremes ℤ := ⟨m.maxLatency.toInt, m.minLatency.toInt⟩

theorem latencies_init : init.latencies = ⟨0, -1⟩ := by decide

/-- **Recording a response time** adds it to the extremes. -/
theorem recordResponseTime_responses (m : MonitorMetrics) (t1 t2 : UInt64) :
    (m.recordResponseTime t1 t2).responses = m.responses.add (t2 - t1).toNat := by
  unfold recordResponseTime responses Extremes.add
  simp only [gt_iff_lt, UInt64.lt_iff_toNat_lt]
  split
  · rfl
  · split <;> rfl

/-- **Measuring a latency** adds it to the extremes. -/
theorem measureLatency_latencies (m : MonitorMetrics) :
    m.measureLatency.latencies = m.latencies.add m.measureLatency.lastLatency.toInt := by
  unfold measureLatency latencies Extremes.add
  simp only [gt_iff_lt, Int64.lt_iff_toInt_lt]
  split
  · rfl
  · split <;> rfl

variable {m m' : MonitorMetrics} {props : DeadlineProps}

/-- The deadline branch leaves the response times alone. -/
theorem update_responses (h : m.update props = some m') : m'.responses = m.responses := by
  obtain ⟨ready, adjust, cycles, losses, overruns, depletions, rfl⟩ := update_eq_some h
  obtain ⟨ready, adjust, latency, maxLatency, minLatency, heq⟩ := m.measured_eq
  rw [heq]
  rfl

/-- **The deadline branch** adds its latency to the extremes. -/
theorem update_latencies (h : m.update props = some m') :
    m'.latencies = m.latencies.add m'.lastLatency.toInt := by
  obtain ⟨ready, adjust, cycles, losses, overruns, depletions, rfl⟩ := update_eq_some h
  have hbefore : m.guessReadyTime.pullBackReadyTime.latencies = m.latencies := by
    unfold pullBackReadyTime guessReadyTime
    split <;> split <;> rfl
  have hmeasured := measureLatency_latencies m.guessReadyTime.pullBackReadyTime
  rw [hbefore] at hmeasured
  exact hmeasured

end MonitorMetrics

namespace MonitorTask

variable {task : MonitorTask} {me : MonitorThread} {scheduler : ℤ} {fopen : Bool}
  {es : List MonitorInput}

/-! ### Response times -/

/-- The response time a round records. -/
def responds (task : MonitorTask) (input : MonitorInput) (_ : MonitorTask) : List ℕ :=
  if OwnReport task.me.pid input then
    [input.telegram.t2.toNat - input.telegram.t1.toNat]
  else []

/-- The response times recorded along a run. -/
def responseTimes (task : MonitorTask) (es : List MonitorInput) : List ℕ :=
  records iterate responds task es

/-- A start/stop telegram of the task has its times in order. -/
def Ordered (task : MonitorTask) (input : MonitorInput) : Prop :=
  OwnReport task.me.pid input → input.telegram.t1 ≤ input.telegram.t2

instance (task : MonitorTask) (input : MonitorInput) : Decidable (task.Ordered input) :=
  inferInstanceAs (Decidable (_ → _))

/-- The extremes of the response time are those kept over all that were recorded. -/
theorem responses_run (h : Run iterate (start me scheduler fopen) es task)
    (hordered : Along iterate Ordered (start me scheduler fopen) es) :
    task.me.metrics.responses
      = (responseTimes (start me scheduler fopen) es).foldl Extremes.add ⟨0, 2 ^ 64 - 1⟩ := by
  refine h.history_along (P := fun es task => task.me.metrics.responses
    = (responseTimes (start me scheduler fopen) es).foldl Extremes.add ⟨0, 2 ^ 64 - 1⟩)
    hordered rfl ?_
  intro es task input task' hes ih hin hstep
  rw [responseTimes, records_concat hes hstep, List.foldl_append]
  change task.me.metrics.responses = (records iterate responds _ es).foldl _ _ at ih
  rw [← ih, responds]
  have hrecorded : OwnReport task.me.pid input → (task.recordedMetrics input).responses
      = task.me.metrics.responses.add
          (input.telegram.t2.toNat - input.telegram.t1.toNat) := by
    intro hreport
    rw [← UInt64.toNat_sub_of_le _ _ (hin hreport)]
    exact MonitorMetrics.recordResponseTime_responses _ _ _
  rcases iterate_metrics hstep with ⟨hreport, -, perfMarks, hmetrics⟩ | ⟨hreport, -, hmetrics⟩ |
    ⟨hreport, props, -, hupdate⟩
  · rw [if_neg hreport, hmetrics]
    rfl
  · rw [if_pos hreport, hmetrics, hrecorded hreport]
    rfl
  · rw [if_pos hreport, MonitorMetrics.update_responses hupdate, hrecorded hreport]
    rfl

/-- No response time is above the start of the minimum. -/
theorem responseTimes_le (h : Run iterate (start me scheduler fopen) es task) :
    ∀ x ∈ responseTimes (start me scheduler fopen) es, x ≤ 2 ^ 64 - 1 := by
  refine h.history_induction (P := fun es _ =>
    ∀ x ∈ responseTimes (start me scheduler fopen) es, x ≤ 2 ^ 64 - 1) ?_ ?_
  · intro x hx
    cases hx
  intro es task input task' hes ih hstep x hx
  rw [responseTimes, records_concat hes hstep, List.mem_append] at hx
  rcases hx with hx | hx
  · exact ih x hx
  · unfold responds at hx
    split at hx
    · obtain rfl := List.mem_singleton.mp hx
      have := input.telegram.t2.toNat_lt
      omega
    · cases hx

/-- **When the extremes of the response time are exact.**  The maximum always is; the minimum is
    unless the first response time is smaller than all that follow. -/
theorem responseTimes_extremes_iff (h : Run iterate (start me scheduler fopen) es task)
    (hordered : Along iterate Ordered (start me scheduler fopen) es) {first : ℕ} {rest : List ℕ}
    (htimes : responseTimes (start me scheduler fopen) es = first :: rest) :
    (responseTimes (start me scheduler fopen) es).max? = some task.me.metrics.WCRT.toNat ∧
    (task.me.metrics.responses.Of (responseTimes (start me scheduler fopen) es) ↔
      first = 0 ∨ first = 2 ^ 64 - 1 ∨ ∃ later ∈ rest, later ≤ first) := by
  have hkept := responses_run h hordered
  have hhigh := responseTimes_le h
  rw [htimes] at hkept hhigh ⊢
  have hmax := Extremes.foldl_add_greatest_eq_max? (⟨0, 2 ^ 64 - 1⟩ : Extremes ℕ)
    (fun x (_ : x ∈ first :: rest) => Nat.zero_le x)
  have hmin := Extremes.foldl_add_least_eq_min?_iff (⟨0, 2 ^ 64 - 1⟩ : Extremes ℕ)
    (fun x (_ : x ∈ first :: rest) => Nat.zero_le x) hhigh
  rw [← hkept] at hmax hmin
  refine ⟨hmax, ?_⟩
  rw [← hmin]
  constructor
  · intro hof
    exact hof.least
  · intro hleast
    exact ⟨hmax, hleast⟩

/-- Response times 5, 5 and 5: the second is not a record. -/
theorem responseTimes_extremes_iff_sample :
    ∃ task, Run iterate (startOn 1) sampleRounds task ∧
      task.me.metrics.responses.Of (responseTimes (startOn 1) sampleRounds) :=
  ⟨_, run_get _ _ (by decide),
    (responseTimes_extremes_iff (run_get (startOn 1) sampleRounds (by decide)) (by decide)
      (show responseTimes (startOn 1) sampleRounds = 5 :: [5, 5] by decide)).2.mpr (by decide)⟩

/-- **The first response time is lost to the minimum.** -/
theorem responseTimes_extremes_not :
    ¬ ∀ (me : MonitorThread) (scheduler : ℤ) (fopen : Bool) (es : List MonitorInput)
      (task : MonitorTask), Run iterate (start me scheduler fopen) es task →
      Along iterate Ordered (start me scheduler fopen) es →
      responseTimes (start me scheduler fopen) es ≠ [] →
      task.me.metrics.responses.Of (responseTimes (start me scheduler fopen) es) := by
  intro hclaim
  have hof := hclaim { MonitorThread.zero with pid := 1 } schedDeadline false
    [jobInput ⟨5, 10, 20⟩ 1 100 105] _ (run_get _ _ (by decide)) (by decide) (by decide)
  exact absurd hof.least (by decide)

/-! ### Latencies -/

/-- The latency a supervised round measures. -/
def lags (task : MonitorTask) (input : MonitorInput) (task' : MonitorTask) : List ℤ :=
  match task.supervisedWith input with
  | none => []
  | some _ => [task'.me.metrics.lastLatency.toInt]

/-- The latencies measured along a run. -/
def measuredLatencies (task : MonitorTask) (es : List MonitorInput) : List ℤ :=
  records iterate lags task es

/-- A latency in range is not negative. -/
theorem lastLatency_nonneg {task' : MonitorTask} {input : MonitorInput} {e : Estimate}
    {props : DeadlineProps} (href : Refines task.me.metrics e) (hin : task.InRange input)
    (hstep : task.iterate input = some task') (hsome : task.supervisedWith input = some props) :
    0 ≤ task'.me.metrics.lastLatency.toInt := by
  have href' := iterate_refines href hin hstep
  unfold supervises at href'
  rw [hsome] at href'
  have hlatency : task'.me.metrics.lastLatency
      = Int64.ofNat (e.step props.timing input.execution).latency := href'.latency
  have hx := (hin props hsome).1
  have := hx.bounded
  have := hx.ordered
  rw [hlatency, Estimate.step_latency, Int64.toInt_ofNat_of_lt (by omega)]
  exact Int.natCast_nonneg _

/-- The extremes of the latency are those kept over all that were measured, none of them
    negative. -/
theorem latencies_run (h : Run iterate (start me scheduler fopen) es task)
    (hrange : Along iterate InRange (start me scheduler fopen) es) :
    task.me.metrics.latencies
        = (measuredLatencies (start me scheduler fopen) es).foldl Extremes.add ⟨0, -1⟩ ∧
      ∀ x ∈ measuredLatencies (start me scheduler fopen) es, 0 ≤ x := by
  have hstart : (start me scheduler fopen).me.metrics.latencies
        = (measuredLatencies (start me scheduler fopen) []).foldl Extremes.add ⟨0, -1⟩ ∧
      ∀ x ∈ measuredLatencies (start me scheduler fopen) [], 0 ≤ x := by
    refine ⟨MonitorMetrics.latencies_init, fun x hx => ?_⟩
    cases hx
  refine inRange_induction (P := fun es task => task.me.metrics.latencies
        = (measuredLatencies (start me scheduler fopen) es).foldl Extremes.add ⟨0, -1⟩ ∧
      ∀ x ∈ measuredLatencies (start me scheduler fopen) es, 0 ≤ x) h hrange hstart ?_
  rintro es task input task' hes href ⟨hkept, hnonneg⟩ hin hstep
  have hrecord : measuredLatencies (start me scheduler fopen) (es ++ [input])
      = measuredLatencies (start me scheduler fopen) es ++ task.lags input task' :=
    records_concat hes hstep
  rw [hrecord, List.foldl_append, ← hkept, lags]
  obtain ⟨minRT, WCRT, heq⟩ := task.recordedMetrics_eq input
  have hrecorded : (task.recordedMetrics input).latencies = task.me.metrics.latencies := by
    rw [heq]
    rfl
  cases hsome : task.supervisedWith input with
  | none =>
    obtain ⟨t1, t2, lastRT, minRT, WCRT, perfMarks, hmetrics⟩ := unsupervised_metrics hstep hsome
    rw [hmetrics, List.append_nil]
    exact ⟨rfl, hnonneg⟩
  | some props =>
    refine ⟨?_, fun x hx => ?_⟩
    · rw [MonitorMetrics.update_latencies (iterate_supervised hstep hsome), hrecorded]
      rfl
    · rcases List.mem_append.mp hx with hx | hx
      · exact hnonneg x hx
      · rw [List.mem_singleton.mp hx]
        exact lastLatency_nonneg href hin hstep hsome

/-- **The extremes of the latency are never exact.**  No latency is negative and the maximum is
    exact, but the minimum stays at its start of `-1`, which is below all of them. -/
theorem latency_extremes_not (h : Run iterate (start me scheduler fopen) es task)
    (hrange : Along iterate InRange (start me scheduler fopen) es)
    (hne : measuredLatencies (start me scheduler fopen) es ≠ []) :
    (∀ x ∈ measuredLatencies (start me scheduler fopen) es, 0 ≤ x) ∧
    (measuredLatencies (start me scheduler fopen) es).max?
      = some task.me.metrics.maxLatency.toInt ∧
    task.me.metrics.minLatency = -1 ∧
    ¬ task.me.metrics.latencies.Of (measuredLatencies (start me scheduler fopen) es) := by
  obtain ⟨hkept, hnonneg⟩ := latencies_run h hrange
  generalize measuredLatencies (start me scheduler fopen) es = values at hkept hnonneg hne ⊢
  obtain ⟨first, rest, rfl⟩ := List.exists_cons_of_ne_nil hne
  have hmax := Extremes.foldl_add_greatest_eq_max? (⟨0, -1⟩ : Extremes ℤ) hnonneg
  rw [← hkept] at hmax
  -- The minimum starts below all values, so none replaces it.
  have hmin : task.me.metrics.minLatency.toInt = -1 := by
    obtain ⟨hleast, hle, -⟩ := Extremes.least_mem_and_le (⟨0, -1⟩ : Extremes ℤ) (first :: rest)
    rw [← hkept] at hleast hle
    rcases hleast with hleast | hleast
    · exact hleast
    · have hge := hnonneg _ (Extremes.nonRecords_subset _ _ hleast)
      exact absurd (hge.trans hle) (by decide)
  refine ⟨hnonneg, hmax, Int64.toInt_inj.mp hmin, fun hof => ?_⟩
  have hmem := List.min?_mem hof.least
  have hfirst : 0 ≤ task.me.metrics.minLatency.toInt := hnonneg _ hmem
  omega

/-- Latencies 0, 8 and 0, and a minimum of -1. -/
theorem latency_extremes_not_sample :
    ∃ task, Run iterate (startOn 1) sampleRounds task ∧
      measuredLatencies (startOn 1) sampleRounds = [0, 8, 0] ∧
      task.me.metrics.minLatency = -1 :=
  ⟨_, run_get _ _ (by decide), by decide,
    (latency_extremes_not (run_get (startOn 1) sampleRounds (by decide)) (by decide)
      (by decide)).2.2.1⟩

/-- **One latency is enough** to have the minimum below it. -/
theorem latency_extremes_counterexample :
    ¬ ∀ (me : MonitorThread) (scheduler : ℤ) (fopen : Bool) (es : List MonitorInput)
      (task : MonitorTask), Run iterate (start me scheduler fopen) es task →
      Along iterate InRange (start me scheduler fopen) es →
      measuredLatencies (start me scheduler fopen) es ≠ [] →
      (∀ x ∈ measuredLatencies (start me scheduler fopen) es, 0 ≤ x) ∧
        task.me.metrics.latencies.Of (measuredLatencies (start me scheduler fopen) es) := by
  intro hclaim
  have hof := (hclaim { MonitorThread.zero with pid := 1 } schedDeadline false
    [jobInput ⟨5, 10, 20⟩ 1 100 105] _ (run_get _ _ (by decide)) (by decide) (by decide)).2
  exact absurd hof.least (by decide)

end MonitorTask

end RtTaskTrace
