import RtTaskTrace.Supervisor.Rounds

namespace RtTaskTrace

open Runs

/-!
# The performance marks

A start telegram stores its time, and an end telegram should store its own and the difference.
The end's index is one too large: it writes past `perfMarkStop`, and the difference is taken from
a stop that nothing ever writes.

* `MonitorTask.accepts` — the code of the telegram a round handles;
* `iterate_accepts` — what the round makes of the marks;
* `marks_run` — what they are after a run: the latest start, and no stop;
* `measures_end_iff` — what one end telegram measures;
* `marks_right_iff` — which runs measure what lies between the marks.
-/

namespace MonitorMetrics

variable {m m' : MonitorMetrics} {props : DeadlineProps}

/-- A place that was written, and every other. -/
theorem perfMark_setPerfMark (m : MonitorMetrics) (array index array' index' : ℕ)
    (value : UInt64) :
    (m.setPerfMark array index value).perfMark array' index' =
      if perfMarkPlace array index = perfMarkPlace array' index' ∧
          perfMarkPlace array index < 3 * maxNumberOfPerformanceMarkers then value
      else m.perfMark array' index' := by
  have hget : ∀ (marks : Vector UInt64 (3 * maxNumberOfPerformanceMarkers)) (place : ℕ),
      marks.getD place 0 = marks[place]?.getD 0 := by
    intro marks place
    rw [Vector.getD, Array.getD_eq_getD_getElem?, Vector.getElem?_toArray]
  simp only [perfMark, setPerfMark, hget, Vector.getElem?_setIfInBounds]
  by_cases hplace : perfMarkPlace array index = perfMarkPlace array' index'
  · rw [hplace]
    by_cases hin : perfMarkPlace array' index' < 3 * maxNumberOfPerformanceMarkers
    · simp only [hin, if_true, and_self, Option.getD_some]
    · -- A place outside the block is not written.
      have hnone : m.perfMarks[perfMarkPlace array' index']? = none :=
        Vector.getElem?_eq_none (not_lt.mp hin)
      simp only [hin, if_false, if_true, and_false, hnone]
  · simp only [hplace, if_false, false_and]

/-- The deadline branch leaves the marks alone. -/
theorem update_perfMarks (h : m.update props = some m') : m'.perfMarks = m.perfMarks := by
  obtain ⟨ready, adjust, cycles, losses, overruns, depletions, rfl⟩ := update_eq_some h
  obtain ⟨ready, adjust, latency, maxLatency, minLatency, heq⟩ := m.measured_eq
  rw [heq]

end MonitorMetrics

namespace MonitorTask

variable {task task' : MonitorTask} {input : MonitorInput}

/-- The code of the telegram a round handles, if it handles one. -/
def accepts (task : MonitorTask) (input : MonitorInput) : Option TelegramCode :=
  if task.exited = false ∧ input.numberOfBytesReceived = Telegram.size ∧
      task.me.pid = input.telegram.pid then
    TelegramCode.ofValue input.telegram.code
  else none

/-- **A round that handles a telegram** goes through the `switch` with it. -/
theorem iterate_of_accepts {code : TelegramCode} (h : task.accepts input = some code) :
    TelegramCode.ofValue input.telegram.code = some code ∧
      task.iterate input
        = (({ task.me with telegram := input.telegram } : MonitorThread).handle input.reads
            input.fopen).map fun handled =>
            { task with
              me := handled.me
              csv := { task.csv with rows := task.csv.rows ++ handled.rows } } := by
  unfold accepts at h
  split at h
  · rename_i hcond
    obtain ⟨hrunning, hwhole, hpid⟩ := hcond
    exact ⟨h, iterate_own hrunning hwhole hpid⟩
  · cases h

/-- **A round that handles none** leaves the metrics alone. -/
theorem iterate_of_not_accepts (h : task.iterate input = some task')
    (hnone : task.accepts input = none) : task'.me.metrics = task.me.metrics := by
  have hrunning := running_of_iterate h
  rcases iterate_cases h with ⟨-, rfl⟩ | ⟨-, -, rfl⟩ | ⟨hwhole, hpid, handled, hhandle, rfl⟩
  · rfl
  · rfl
  · rw [accepts, if_pos ⟨hrunning, hwhole, hpid⟩] at hnone
    -- A code that is none of the three has no case.
    rw [MonitorThread.handle, hnone] at hhandle
    cases hhandle
    rfl

/-- **A start mark** goes where its index says, which is the start. -/
theorem iterate_perfMark1Start (h : task.accepts input = some .perfMark1Start) :
    ∃ task', task.iterate input = some task' ∧
      task'.me.metrics = task.me.metrics.setPerfMark 0 0 input.telegram.t1 := by
  obtain ⟨hcode, hiter⟩ := iterate_of_accepts h
  rw [hiter, MonitorThread.handle, hcode]
  exact ⟨_, rfl, rfl⟩

/-- What a round on an end mark leaves of the metrics: both writes go to the total time. -/
theorem iterate_perfMark1End (h : task.accepts input = some .perfMark1End) :
    ∃ task', task.iterate input = some task' ∧
      task'.me.metrics
        = (task.me.metrics.setPerfMark 1 1 input.telegram.t1).setPerfMark 2 0
            ((task.me.metrics.setPerfMark 1 1 input.telegram.t1).perfMark 1 0
              - (task.me.metrics.setPerfMark 1 1 input.telegram.t1).perfMark 0 0) := by
  obtain ⟨hcode, hiter⟩ := iterate_of_accepts h
  rw [hiter, MonitorThread.handle, hcode]
  exact ⟨_, rfl, rfl⟩

/-- A start/stop telegram leaves the marks alone. -/
theorem iterate_startAndStopTime (h : task.iterate input = some task')
    (hacc : task.accepts input = some .startAndStopTime) :
    task'.me.metrics.perfMarks = task.me.metrics.perfMarks := by
  have hrecorded : (task.recordedMetrics input).perfMarks = task.me.metrics.perfMarks := by
    obtain ⟨minRT, WCRT, heq⟩ := task.recordedMetrics_eq input
    rw [heq]
  have hreport : OwnReport task.me.pid input := by
    unfold accepts at hacc
    split at hacc
    · rename_i hcond
      exact ⟨hcond.2.1, hcond.2.2.symm, TelegramCode.eq_value_of_ofValue hacc⟩
    · cases hacc
  rcases iterate_metrics h with ⟨hnot, -⟩ | ⟨-, -, hmetrics⟩ | ⟨-, props, -, hupdate⟩
  · exact absurd hreport hnot
  · rw [hmetrics, hrecorded]
  · rw [MonitorMetrics.update_perfMarks hupdate, hrecorded]

/-! ### Runs -/

/-- The time of a start mark. -/
def marksStart (task : MonitorTask) (input : MonitorInput) (_ : MonitorTask) : List UInt64 :=
  if task.accepts input = some .perfMark1Start then [input.telegram.t1] else []

/-- The times of the start marks of a run. -/
def startMarks (task : MonitorTask) (es : List MonitorInput) : List UInt64 :=
  records iterate marksStart task es

/-- The indices a round uses on the three arrays of the marks. -/
def markAccesses (task : MonitorTask) (input : MonitorInput) : List ℕ :=
  match task.accepts input with
  | some .perfMark1Start => [MonitorThread.startMarkIndex]
  | some .perfMark1End => [MonitorThread.endMarkIndex, MonitorThread.totalMarkIndex]
  | _ => []

/-- What an end mark should leave, after start marks at the times `starts`. -/
def Measures (starts : List UInt64) (input : MonitorInput) (m : MonitorMetrics) : Prop :=
  ∀ t ∈ starts.getLast?, m.perfMark 1 0 = input.telegram.t1 ∧ m.perfMark 0 0 = t ∧
    m.perfMark 2 0 = input.telegram.t1 - t

/-- A round uses the marks as it should. -/
structure MarksRight (starts : List UInt64) (task : MonitorTask) (input : MonitorInput)
    (task' : MonitorTask) : Prop where
  bounded : ∀ i ∈ task.markAccesses input, i < maxNumberOfPerformanceMarkers
  measures : task.accepts input = some .perfMark1End → Measures starts input task'.me.metrics
  frame : task.accepts input = some .perfMark1Start ∨ task.accepts input = some .perfMark1End →
    ∃ perfMarks, task'.me.metrics = { task.me.metrics with perfMarks := perfMarks }

variable {me : MonitorThread} {scheduler : ℤ} {fopen : Bool} {es : List MonitorInput}

/-- **The marks after a run**: the latest start, and a stop that nothing has written. -/
theorem marks_run (h : Run iterate (start me scheduler fopen) es task) :
    task.me.metrics.perfMark 0 0
        = (startMarks (start me scheduler fopen) es).getLast?.getD 0 ∧
      task.me.metrics.perfMark 1 0 = 0 := by
  refine h.history_induction (P := fun es task => task.me.metrics.perfMark 0 0
    = (startMarks (start me scheduler fopen) es).getLast?.getD 0 ∧
      task.me.metrics.perfMark 1 0 = 0) ⟨rfl, rfl⟩ ?_
  intro es task input task' hes ih hstep
  rw [startMarks, records_concat hes hstep, marksStart]
  change task.me.metrics.perfMark 0 0 = (records iterate marksStart _ es).getLast?.getD 0 ∧ _ at ih
  cases hacc : task.accepts input with
  | none =>
    rw [iterate_of_not_accepts hstep hacc]
    simpa using ih
  | some code =>
    cases code with
    | startAndStopTime =>
      have hsame := iterate_startAndStopTime hstep hacc
      have hkept : ∀ array, task'.me.metrics.perfMark array 0
          = task.me.metrics.perfMark array 0 := by
        intro array
        rw [MonitorMetrics.perfMark, hsame, MonitorMetrics.perfMark]
      rw [hkept, hkept]
      simpa using ih
    | perfMark1Start =>
      obtain ⟨u, hu, hmetrics⟩ := iterate_perfMark1Start hacc
      obtain rfl := Option.some.inj (hu.symm.trans hstep)
      rw [hmetrics]
      simp only [MonitorMetrics.perfMark_setPerfMark]
      exact ⟨by simp [MonitorMetrics.perfMarkPlace], ih.2⟩
    | perfMark1End =>
      -- Neither write is to a start or a stop.
      obtain ⟨u, hu, hmetrics⟩ := iterate_perfMark1End hacc
      obtain rfl := Option.some.inj (hu.symm.trans hstep)
      rw [hmetrics]
      simp only [MonitorMetrics.perfMark_setPerfMark]
      simpa [MonitorMetrics.perfMarkPlace] using ih

/-- **An end mark measures right** only if no start came before it, or its own time is 0. -/
theorem measures_end_iff (h : Run iterate (start me scheduler fopen) es task)
    (hstep : task.iterate input = some task') (hacc : task.accepts input = some .perfMark1End) :
    Measures (startMarks (start me scheduler fopen) es) input task'.me.metrics ↔
      (startMarks (start me scheduler fopen) es ≠ [] → input.telegram.t1 = 0) := by
  obtain ⟨hstart, hstop⟩ := marks_run h
  obtain ⟨u, hu, hmetrics⟩ := iterate_perfMark1End hacc
  obtain rfl := Option.some.inj (hu.symm.trans hstep)
  generalize startMarks (start me scheduler fopen) es = starts at hstart ⊢
  -- The three numbers the mark leaves.
  have hstart' : u.me.metrics.perfMark 0 0 = starts.getLast?.getD 0 := by
    rw [hmetrics]
    simpa [MonitorMetrics.perfMark_setPerfMark, MonitorMetrics.perfMarkPlace] using hstart
  have hstop' : u.me.metrics.perfMark 1 0 = 0 := by
    rw [hmetrics]
    simpa [MonitorMetrics.perfMark_setPerfMark, MonitorMetrics.perfMarkPlace] using hstop
  have htotal : u.me.metrics.perfMark 2 0 = 0 - starts.getLast?.getD 0 := by
    rw [hmetrics, ← hstart, ← hstop]
    simp [MonitorMetrics.perfMark_setPerfMark, MonitorMetrics.perfMarkPlace]
  unfold Measures
  rw [hstart', hstop', htotal]
  cases hlast : starts.getLast? with
  | none =>
    refine iff_of_true (fun t ht => absurd ht (by simp)) fun hne => ?_
    exact absurd (List.getLast?_eq_none_iff.mp hlast) hne
  | some t =>
    have hne : starts ≠ [] := by
      rintro rfl
      exact absurd hlast (by simp)
    constructor
    · intro hmeasures _
      exact (hmeasures t rfl).1.symm
    · intro hzero t' ht'
      cases ht'
      rw [hzero hne]
      exact ⟨rfl, rfl, rfl⟩

/-- A round that handles no end mark uses the marks as it should. -/
theorem marksRight_of_ne (h : task.iterate input = some task')
    (hne : task.accepts input ≠ some .perfMark1End) (starts : List UInt64) :
    MarksRight starts task input task' := by
  refine ⟨fun i hi => ?_, fun hend => absurd hend hne, ?_⟩
  · cases hacc : task.accepts input with
    | none =>
      rw [markAccesses, hacc] at hi
      exact absurd hi List.not_mem_nil
    | some code =>
      rw [markAccesses, hacc] at hi
      cases code with
      | startAndStopTime => exact absurd hi List.not_mem_nil
      | perfMark1Start =>
        rw [List.mem_singleton.mp hi]
        decide
      | perfMark1End => exact absurd hacc hne
  · rintro (hstart | hend)
    · obtain ⟨u, hu, hmetrics⟩ := iterate_perfMark1Start hstart
      obtain rfl := Option.some.inj (hu.symm.trans h)
      exact ⟨_, hmetrics⟩
    · exact absurd hend hne

/-- **Which runs measure what lies between the marks.**  Every round of a run uses the marks as it
    should exactly when no end mark is handled, as each writes outside its array.  As far as the
    values go, every end mark leaves the right ones exactly when those that come after a start mark
    all have the time 0. -/
theorem marks_right_iff (me : MonitorThread) (scheduler : ℤ) (fopen : Bool)
    (es : List MonitorInput) :
    ((∀ before input after task task', es = before ++ input :: after →
        Run iterate (start me scheduler fopen) before task → task.iterate input = some task' →
        MarksRight (startMarks (start me scheduler fopen) before) task input task') ↔
      ∀ before input after task, es = before ++ input :: after →
        Run iterate (start me scheduler fopen) before task →
        task.accepts input ≠ some .perfMark1End) ∧
    ((∀ before input after task task', es = before ++ input :: after →
        Run iterate (start me scheduler fopen) before task → task.iterate input = some task' →
        task.accepts input = some .perfMark1End →
        Measures (startMarks (start me scheduler fopen) before) input task'.me.metrics) ↔
      ∀ before input after task, es = before ++ input :: after →
        Run iterate (start me scheduler fopen) before task →
        task.accepts input = some .perfMark1End →
        startMarks (start me scheduler fopen) before ≠ [] → input.telegram.t1 = 0) := by
  refine ⟨⟨?_, ?_⟩, ?_, ?_⟩
  · intro hright before input after task heq hrun hend
    obtain ⟨task', hstep, -⟩ := iterate_perfMark1End hend
    have hbounded := (hright before input after task task' heq hrun hstep).bounded
    rw [markAccesses, hend] at hbounded
    -- The index of the end mark is 1.
    exact absurd (hbounded _ List.mem_cons_self) (by decide)
  · intro hnone before input after task task' heq hrun hstep
    exact marksRight_of_ne hstep (hnone before input after task heq hrun) _
  · intro hmeasures before input after task heq hrun hend
    obtain ⟨task', hstep, -⟩ := iterate_perfMark1End hend
    exact (measures_end_iff hrun hstep hend).mp
      (hmeasures before input after task task' heq hrun hstep hend)
  · intro hzero before input after task task' heq hrun hstep hend
    exact (measures_end_iff hrun hstep hend).mpr (hzero before input after task heq hrun hend)

/-- A mark of the task 1 with the given code and time. -/
def markInput (code : TelegramCode) (t1 : UInt64) : MonitorInput :=
  { jobInput ⟨5, 10, 20⟩ 1 0 0 with telegram := ⟨1, code.value, t1, 0⟩ }

/-- A start mark at 100 and an end mark at 130 leave a stop of 0 and a total time of `-100`. -/
theorem marks_right_not :
    ∃ task task' : MonitorTask,
      Run iterate (startOn 1) [markInput .perfMark1Start 100] task ∧
      task.iterate (markInput .perfMark1End 130) = some task' ∧
      startMarks (startOn 1) [markInput .perfMark1Start 100] = [100] ∧
      (task'.me.metrics.perfMark 0 0, task'.me.metrics.perfMark 1 0, task'.me.metrics.perfMark 2 0)
        = (100, 0, -100) ∧
      ¬ MarksRight [100] task (markInput .perfMark1End 130) task' := by
  refine ⟨_, _, rfl, rfl, by decide, by decide, fun h => ?_⟩
  exact absurd (h.bounded 1 (by decide)) (by decide)

end MonitorTask

end RtTaskTrace
