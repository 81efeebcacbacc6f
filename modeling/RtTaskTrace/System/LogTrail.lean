import RtTaskTrace.Supervisor.CsvText
import RtTaskTrace.Supervisor.LogBlocks
import RtTaskTrace.System.Pipeline

namespace RtTaskTrace

open Runs

/-!
# From the traced code to the log file

The pipeline of `Pipeline.lean`, with a monitor that logs.  Each telegram read becomes one point
of the log, and the points are written in whole blocks around those that are exceptions.  The
hypotheses are those of `Pipeline.lean`, with calls on the queue that are one step each, and that
no `fopen` fails: neither the one that makes the file nor one that a block is written after.

* `MonitorThread.deadlineUpdate_point`, `MonitorTask.iterate_point` — the point of one job;
* `Traced.Trails` — the points so far, beside what `Traced.Follows` says;
* `pipeline_logs` — so the text of the file shows every job read that lost its deadline or
  overran, with its neighbours, and shows no job twice.
-/

/-- **An exception is in one block**, once as many points as a block has are there. -/
theorem Logged.covered_once {N : ℕ} [NeZero N] {ds : List Data} {starts : List ℕ} {me : Log N}
    {rows : List CsvRow} (h : Logged ds starts me rows) {i : ℕ} {d : Data} (hi : ds[i]? = some d)
    (hexc : d.isException = true) (hlate : i + N ≤ ds.length) :
    ∃! j, j ∈ starts ∧ j ≤ i ∧ i < j + N := by
  rcases h.written.covered i d hi hexc with ⟨j, hj, hin⟩ | hheld
  · exact ⟨j, ⟨hj, hin⟩, fun k hk => h.written.eq_of_mem_blocks hk.1 hj hk.2 hin⟩
  · -- A list that holds an exception is not full, so it holds no point so old.
    have hroom := h.level_lt (mem_drop_of_getElem? hi hheld) hexc
    omega

/-! ### The point of a job -/

/-- A thread that logs hands its log the point of the job. -/
theorem MonitorThread.logAndAdjust_log {me : MonitorThread} (hlogging : me.enableLogging = true)
    (metrics : MonitorMetrics) (lost overrun fopen : Bool) :
    (me.logAndAdjust metrics lost overrun fopen).1.log
        = (me.log.handlePoint fopen ⟨me.telegram, metrics, lost || overrun⟩).1 ∧
      (me.logAndAdjust metrics lost overrun fopen).2
        = (me.log.handlePoint fopen ⟨me.telegram, metrics, lost || overrun⟩).2 := by
  unfold logAndAdjust
  rw [if_pos hlogging]
  exact ⟨rfl, rfl⟩

/-- **The deadline branch hands the log one point**, which is an exception if a loss or an overrun
    was detected. -/
theorem MonitorThread.deadlineUpdate_point {me me' : MonitorThread} {props : DeadlineProps}
    {fopen : Bool} {rows : List CsvRow} (hlogging : me.enableLogging = true)
    (h : me.deadlineUpdate props fopen = some (me', rows)) :
    ∃ point : LogPoint, point.telegram = me.telegram ∧
      point.isException = ((measured me.metrics).deadlineLostDetected props.deadline
        || ((measured me.metrics).countDeadlineLost props.deadline).runtimeOverrunDetected
            props.runtime) ∧
      me'.log = (me.log.handlePoint fopen point).1 ∧ rows = (me.log.handlePoint fopen point).2 := by
  unfold deadlineUpdate at h
  obtain ⟨metrics, -, heq⟩ := Option.map_eq_some_iff.mp h
  -- what was detected plays no part
  generalize (measured me.metrics).deadlineLostDetected props.deadline = lost at heq ⊢
  generalize ((measured me.metrics).countDeadlineLost props.deadline).runtimeOverrunDetected
    props.runtime = overrun at heq ⊢
  obtain ⟨hlog, hrows⟩ := logAndAdjust_log hlogging metrics lost overrun fopen
  rw [heq] at hlog hrows
  exact ⟨_, rfl, rfl, hlog, hrows⟩

/-- **A round on a job** hands its log a point with the job's telegram.  It is an exception
    exactly when the estimator finds the job lost, or the job overran. -/
theorem MonitorTask.iterate_point {task task' : MonitorTask} {pid : PidT} {props : DeadlineProps}
    {input : MonitorInput} {e : Estimate} (hw : Watching pid task)
    (hlogging : task.me.enableLogging = true) (hjob : IsJob props pid input)
    (h : task.iterate input = some task') :
    ∃ point : LogPoint, point.telegram = input.telegram ∧
      (Refines task.me.metrics e → input.execution.InRange →
        (point.isException = true ↔
          e.Lost props.timing input.execution ∨ input.execution.Overrun props.timing)) ∧
      task'.me.log = (task.me.log.handlePoint input.fopen point).1 ∧
      task'.csv = { task.csv with
        rows := task.csv.rows ++ (task.me.log.handlePoint input.fopen point).2 } := by
  have hreport : OwnReport task.me.pid input := by
    rw [hw.pid]
    exact hjob.toOwnReport
  rw [MonitorTask.iterate_report hw.running hreport] at h
  obtain ⟨handled, hhandle, rfl⟩ := Option.map_eq_some_iff.mp h
  have hpolicy : ({ task.me with telegram := input.telegram } : MonitorThread).policy
      = schedDeadline := hw.policy
  rw [MonitorThread.handleStartAndStop_deadline hpolicy hjob.props] at hhandle
  obtain ⟨⟨me', rows⟩, hupdate, rfl⟩ := Option.map_eq_some_iff.mp hhandle
  have hswitch : (MonitorThread.recorded { task.me with telegram := input.telegram }).enableLogging
      = true := hlogging
  obtain ⟨point, htelegram, hexception, hlog, hrows⟩ :=
    MonitorThread.deadlineUpdate_point hswitch hupdate
  -- Recording the response time leaves the log alone.
  have hsame : (MonitorThread.recorded { task.me with telegram := input.telegram }).log
      = task.me.log := rfl
  rw [hsame] at hlog hrows
  refine ⟨point, htelegram, fun href hx => ?_, hlog, ?_⟩
  · obtain ⟨hr, ho⟩ := recordResponseTime_refines href hx
    rw [hexception, Bool.or_eq_true]
    exact or_congr (lostDetected_iff hr ho hx props) (overrunDetected_iff hr ho hx props)
  · rw [← hrows]

variable {N : ℕ} [NeZero N]

namespace Traced

variable {pid : PidT} {props : DeadlineProps} {s s' : Traced N}
  {read piped queued done : List Telegram} {points : List LogPoint}

/-- The log file can be opened in this round. -/
def Event.Opens : Event → Prop
  | .round answers => answers.fopen = true
  | _ => True

instance : (e : Event) → Decidable e.Opens
  | .round answers => inferInstanceAs (Decidable (answers.fopen = true))
  | .call _ | .fetch _ | .forward _ | .emptyRound _ _ => inferInstanceAs (Decidable True)

/-- The estimator when it comes to the telegram `i`. -/
def estimateBefore (props : DeadlineProps) (ts : List Telegram) (i : ℕ) : Estimate :=
  .follow (timed props (ts.take i))

/-- The telegram `i` is lost, or overran its runtime. -/
def Exceptional (props : DeadlineProps) (ts : List Telegram) (i : ℕ) (t : Telegram) : Prop :=
  (estimateBefore props ts i).Lost props.timing t.execution ∨ t.execution.Overrun props.timing

instance (props : DeadlineProps) (ts : List Telegram) (i : ℕ) (t : Telegram) :
    Decidable (Exceptional props ts i t) := inferInstanceAs (Decidable (_ ∨ _))

/-- There is a point for each telegram read; those of the telegrams that are exceptional are
    exceptions; and the log and the file are what the points have made of them. -/
structure Trails (pid : PidT) (props : DeadlineProps) (s : Traced N)
    (read piped queued done : List Telegram) (points : List LogPoint) : Prop where
  follows : Follows pid props s read piped queued done
  logging : s.monitor.me.enableLogging = true
  header : s.monitor.csv.header = columnNames
  telegrams : points.map LogPoint.telegram = read
  exceptions : (∀ t ∈ s.delivery.accepted, t.execution.InRange) →
    ∀ i point, points[i]? = some point →
      (point.isException = true ↔ Exceptional props read i point.telegram)
  logged : ∃ starts, Logged (points.map LogPoint.data) starts s.monitor.me.log s.monitor.csv.rows

/-- A step that leaves the monitor alone, and forgets nothing that was handed over. -/
theorem Trails.same_monitor (h : Trails pid props s read piped queued done points)
    {piped' queued' done' : List Telegram} (hmonitor : s'.monitor = s.monitor)
    (haccepted : s.delivery.accepted ⊆ s'.delivery.accepted)
    (hfollows : Follows pid props s' read piped' queued' done') :
    Trails pid props s' read piped' queued' done' points where
  follows := hfollows
  logging := by
    rw [hmonitor]
    exact h.logging
  header := by
    rw [hmonitor]
    exact h.header
  telegrams := h.telegrams
  exceptions := fun hx => h.exceptions fun t ht => hx t (haccepted ht)
  logged := by
    rw [hmonitor]
    exact h.logged

/-- **A round that reads** makes one point more. -/
theorem Trails.round_cons {t : Telegram}
    (h : Trails pid props s read (t :: piped) queued done points)
    (hprops : props.timing.InRange) {answers : Answers}
    (hsup : (Event.round answers).Supervised props) (hopens : (Event.round answers).Opens)
    (hstep : s.round answers = some s') :
    ∃ point, Trails pid props s' (read ++ [t]) piped queued done (points ++ [point]) := by
  have hfollows := h.follows.round_cons hprops hsup hstep
  have ht := h.follows.tracks
  rw [Traced.round_cons ht answers] at hstep
  obtain ⟨monitor, hiter, rfl⟩ := Option.map_eq_some_iff.mp hstep
  have hmem : t ∈ s.delivery.accepted := by
    rw [ht.order, List.append_assoc]
    exact List.mem_append_left _ (ht.sublist.subset (by simp))
  have hjob := isJob_input hsup (ht.own t hmem) (h.follows.codes t hmem) s.monitor.me.telegram
  have hw : Watching pid s.monitor :=
    ⟨MonitorTask.running_of_iterate hiter, h.follows.pid, h.follows.policy⟩
  obtain ⟨point, htelegram, hexception, hlog, hcsv⟩ :=
    MonitorTask.iterate_point (e := .follow (timed props read)) hw h.logging hjob hiter
  rw [input_decode] at htelegram
  have hexecution : (answers.input s.monitor.me.telegram t.encode).execution = t.execution := by
    rw [MonitorInput.execution, input_decode]
  rw [hexecution] at hexception
  have hfopen : (answers.input s.monitor.me.telegram t.encode).fopen = true := hopens
  rw [hfopen] at hlog hcsv
  have hlength : points.length = read.length := by
    rw [← h.telegrams, List.length_map]
  refine ⟨point, hfollows, ?_, ?_, ?_, ?_, ?_⟩
  · exact (MonitorTask.iterate_frame hiter).2.1.trans h.logging
  · show monitor.csv.header = columnNames
    rw [hcsv]
    exact h.header
  · rw [List.map_append, h.telegrams, List.map_singleton, htelegram]
  · intro hx i p hi
    rcases Nat.lt_trichotomy i points.length with hlt | rfl | hgt
    · -- an earlier point, for which fewer telegrams have been read
      rw [List.getElem?_append_left hlt] at hi
      rw [h.exceptions hx i p hi, Exceptional, Exceptional, estimateBefore, estimateBefore,
        List.take_append_of_le_length (by omega)]
    · rw [List.getElem?_concat_length] at hi
      obtain rfl := Option.some.inj hi
      rw [Exceptional, estimateBefore, hlength, List.take_left, htelegram]
      exact hexception (h.follows.refines hx) (hx t hmem)
    · rw [List.getElem?_eq_none (by rw [List.length_append, List.length_singleton]; omega)] at hi
      exact absurd hi (by simp)
  · obtain ⟨starts, hlogged⟩ := h.logged
    obtain ⟨starts', hlogged'⟩ := hlogged.handlePoint point
    refine ⟨starts', ?_⟩
    show Logged _ starts' monitor.me.log monitor.csv.rows
    rw [List.map_append, List.map_singleton, hlog, hcsv]
    exact hlogged'

/-- A round that reads nothing makes no point. -/
theorem Trails.emptyRound (h : Trails pid props s read piped queued done points) {ret : ℤ}
    {answers : Answers} (hstep : s.emptyRound ret answers = some s') :
    Trails pid props s' read piped queued done points := by
  have hfollows := h.follows.emptyRound hstep
  obtain ⟨-, _, rfl, -⟩ := emptyRound_eq_some hstep
  exact ⟨hfollows, h.logging, h.header, h.telegrams, h.exceptions, h.logged⟩

/-- **Every step keeps it.** -/
theorem Trails.step (h : Trails pid props s read piped queued done points)
    (hprops : props.timing.InRange) {e : Event} (hsup : e.Supervised props) (hopens : e.Opens)
    (hstep : s.step e = some s') :
    ∃ read' piped' queued' done' points',
      Trails pid props s' read' piped' queued' done' points' := by
  cases e with
  | call c =>
    cases hstep
    obtain ⟨queued', hfollows⟩ := h.follows.call c
    refine ⟨_, _, _, _, _, h.same_monitor rfl (fun t ht => ?_) hfollows⟩
    show t ∈ (s.delivery.call c).accepted
    rcases s.delivery.call_accepted c with heq | ⟨_, heq, -⟩
    · rw [heq]
      exact ht
    · rw [heq]
      exact List.mem_append_left _ ht
  | fetch wait =>
    obtain ⟨delivery, hfetch, rfl⟩ := Option.map_eq_some_iff.mp hstep
    obtain ⟨queued', hfollows⟩ := h.follows.fetch hfetch
    obtain ⟨-, gateway, ret, -, rfl⟩ := Delivery.fetch_eq_some hfetch
    exact ⟨_, _, _, _, _, h.same_monitor rfl (List.Subset.refl _) hfollows⟩
  | forward fault =>
    obtain ⟨delivery, hforward, rfl⟩ := Option.map_eq_some_iff.mp hstep
    obtain ⟨piped', done', hfollows⟩ := h.follows.forward hforward
    obtain ⟨-, rfl⟩ := Delivery.forward_eq_some hforward
    exact ⟨_, _, _, _, _, h.same_monitor rfl (List.Subset.refl _) hfollows⟩
  | round answers =>
    cases piped with
    | nil =>
      have hnil : SharedMem.supervisorRead s.delivery.pipe = none :=
        if_pos h.follows.tracks.pipe
      change s.round answers = some s' at hstep
      rw [Traced.round, hnil] at hstep
      exact absurd hstep (by simp)
    | cons t piped =>
      obtain ⟨point, h'⟩ := h.round_cons hprops hsup hopens hstep
      exact ⟨_, _, _, _, _, h'⟩
  | emptyRound ret answers => exact ⟨_, _, _, _, _, h.emptyRound hstep⟩

/-- What the text of the file says of the telegrams read. -/
theorem Trails.account (h : Trails pid props s read piped queued done points)
    (hx : ∀ t ∈ s.delivery.accepted, t.execution.InRange) :
    ∃ starts : List ℕ,
      (CsvFile.ofText columnNames s.monitor.csv.text).rows
        = (starts.flatMap (logBlock numberOfPoints (points.map LogPoint.data))).map Data.row ∧
      starts.Pairwise (fun i j => i + numberOfPoints ≤ j) ∧
      ∀ i t, read[i]? = some t → Exceptional props read i t → i + numberOfPoints ≤ read.length →
        ∃! j, j ∈ starts ∧ j ≤ i ∧ i < j + numberOfPoints := by
  obtain ⟨starts, hlogged⟩ := h.logged
  have hlength : points.length = read.length := by
    rw [← h.telegrams, List.length_map]
  have hrows : ∀ row ∈ s.monitor.csv.rows, row ≠ [] := by
    rw [hlogged.rows_eq]
    intro row hrow
    obtain ⟨data, -, rfl⟩ := List.mem_map.mp hrow
    exact fun hnil => absurd (congrArg List.length hnil) (by simp [Data.row, DataColumn.all])
  refine ⟨starts, ?_, hlogged.written.apart, ?_⟩
  · rw [CsvFile.ofText_text (.inr h.header) hrows]
    exact hlogged.rows_eq
  · intro i t hi hexceptional hlate
    -- The point of the telegram is an exception.
    obtain ⟨point, hpoint, htelegram⟩ : ∃ point, points[i]? = some point ∧ point.telegram = t := by
      rw [← h.telegrams, List.getElem?_map] at hi
      exact Option.map_eq_some_iff.mp hi
    rw [← htelegram] at hexceptional
    have hexc := (h.exceptions hx i point hpoint).mpr hexceptional
    have hdata : (points.map LogPoint.data)[i]? = some point.data := by
      rw [List.getElem?_map, hpoint]
      rfl
    refine hlogged.covered_once hdata hexc ?_
    rw [List.length_map, hlength]
    exact hlate

end Traced

end RtTaskTrace
