import RtTaskTrace.System.Lifetime
import RtTaskTrace.Supervisor.CsvText

namespace RtTaskTrace

open Runs

/-!
# The files of all monitors

All monitors write into one directory.  Each deletes and makes anew the file named after its pid
before it enters its loop, and appends to it later.  `Logging` is the supervisor with its monitor
threads in their loops and that directory.

* `LogFiles.prepare`, `append` — what a thread does to the directory;
* `Logging.Apart` — the invariant: the file at each thread's path is what this thread has written;
* `logs_apart` — so the logs of no two monitors ever mix, and none is deleted by another monitor.

The texts of the pids are taken to fit into their arrays (`Supervision.monitors_texts_fit`).
-/

variable {M : ℕ}

/-- `Log_init`: the file of the task `pid`. -/
def logPath (pid : PidT) : String := "/tmp/taskTrace/" ++ toString pid.toInt ++ ".csv"

theorem logPath_toList (pid : PidT) :
    (logPath pid).toList
      = "/tmp/taskTrace/".toList ++ (toString pid.toInt).toList ++ ".csv".toList := by
  show ("/tmp/taskTrace/" ++ toString pid.toInt ++ ".csv").toList = _
  rw [String.toList_append, String.toList_append]

/-- **No two pids share a file.** -/
theorem logPath_injective : Function.Injective logPath := by
  intro pid pid' h
  have htexts := congrArg String.toList h
  rw [logPath_toList, logPath_toList] at htexts
  have htexts := List.append_cancel_left (List.append_cancel_right htexts)
  -- The text of a number is read back.
  have hvalues := congrArg Decimal.intOfText htexts
  rw [Decimal.intOfText_toString, Decimal.intOfText_toString] at hvalues
  exact Int32.toInt_inj.mp hvalues

/-- A file with rows written behind what is there; the first of them make it. -/
def CsvFile.extend (file : Option CsvFile) (rows : List CsvRow) : Option CsvFile :=
  if rows = [] then file
  else some ⟨(file.getD ⟨[], []⟩).header, (file.getD ⟨[], []⟩).rows ++ rows⟩

@[simp] theorem CsvFile.extend_nil (file : Option CsvFile) : extend file [] = file := if_pos rfl

theorem CsvFile.extend_some (header : List String) (rows more : List CsvRow) :
    extend (some ⟨header, rows⟩) more = some ⟨header, rows ++ more⟩ := by
  unfold extend
  split
  · rename_i hnil
    rw [hnil, List.append_nil]
  · rfl

/-- Writing twice is writing all at once. -/
theorem CsvFile.extend_extend (file : Option CsvFile) (rows more : List CsvRow) :
    extend (extend file rows) more = extend file (rows ++ more) := by
  by_cases hrows : rows = []
  · rw [hrows, extend_nil, List.nil_append]
  · have hboth : rows ++ more ≠ [] := by simp [hrows]
    rw [extend, extend, if_neg hrows, extend, if_neg hboth]
    split
    · rename_i hmore
      rw [hmore, List.append_nil]
    · simp

/-- The directory: the file at each path, if there is one. -/
abbrev LogFiles := String → Option CsvFile

namespace LogFiles

/-- `Log_prepareFileForLogging`: a file that is there is deleted, which may fail, and a new one
    is made, which may fail too. -/
def prepare (files : LogFiles) (path : String) (unlinked fopen : Bool) : LogFiles :=
  let files := if unlinked then Function.update files path none else files
  if fopen then Function.update files path (some (Log.prepareFileForLogging true)) else files

/-- The end of `Log_generateIfNeeded`: the rows are appended. -/
def append (files : LogFiles) (path : String) (rows : List CsvRow) : LogFiles :=
  Function.update files path (CsvFile.extend (files path) rows)

variable {files : LogFiles} {path path' : String}

theorem prepare_of_ne (hne : path' ≠ path) (unlinked fopen : Bool) :
    files.prepare path unlinked fopen path' = files path' := by
  unfold prepare
  cases unlinked <;> cases fopen <;> simp [Function.update_of_ne hne]

theorem prepare_self (files : LogFiles) (path : String) (unlinked : Bool) :
    files.prepare path unlinked true path = some (Log.prepareFileForLogging true) := by
  unfold prepare
  simp

end LogFiles

/-- The supervisor, the monitor threads that are in their loops, and the directory. -/
structure Logging (M : ℕ) where
  supervision : Supervision M
  threads : ℕ → Option MonitorTask
  files : LogFiles

namespace Logging

/-- A step of the supervisor or of a task, or of the `k`-th monitor: its `Monitor_init`, with the
    answers to its system calls, or a round of its loop. -/
inductive Event
  | system (e : SupervisionEvent)
  | enter (k : ℕ) (scheduler : ℤ) (unlinked fopen : Bool)
  | round (k : ℕ) (input : MonitorInput)

/-- The monitor threads that have come back from `SharedMem_supervisorInit` and have not ended. -/
def serving (m : MonitorRun M) : Bool :=
  match m.phase with
  | .reading _ | .broken => true
  | _ => false

/-- The start, with the files that an earlier supervisor has left. -/
def start (enableLogging : Bool) (files : LogFiles) : Logging M :=
  ⟨.start enableLogging, fun _ => none, files⟩

/-- `Monitor_init` of the `k`-th monitor. -/
def enter (s : Logging M) (k : ℕ) (scheduler : ℤ) (unlinked fopen : Bool) : Option (Logging M) := do
  let m ← s.supervision.tracing.monitors[k]?.filter serving
  if (s.threads k).isSome then none
  else
    let task := MonitorTask.start (s.supervision.tracing.supervisor.monitor m.slot) scheduler fopen
    some { s with
      threads := Function.update s.threads k (some task)
      files := s.files.prepare task.me.log.file unlinked fopen }

/-- A round of the `k`-th monitor. -/
def round (s : Logging M) (k : ℕ) (input : MonitorInput) : Option (Logging M) := do
  let _ ← s.supervision.tracing.monitors[k]?.filter serving
  let task ← s.threads k
  let task' ← task.iterate input
  some { s with
    threads := Function.update s.threads k (some task')
    files := s.files.append task.me.log.file (task'.csv.rows.drop task.csv.rows.length) }

/-- One step. -/
def step (s : Logging M) : Event → Option (Logging M)
  | .system e => (s.supervision.step e).map fun supervision => { s with supervision := supervision }
  | .enter k scheduler unlinked fopen => s.enter k scheduler unlinked fopen
  | .round k input => s.round k input

/-! ### The invariant -/

/-- The thread has been started on the slot of the `k`-th monitor and has made a run of its own;
    the file at its path is what it found there or made, and what it has written since. -/
structure Writes (s : Logging M) (k : ℕ) (task : MonitorTask) (m : MonitorRun M)
    (scheduler : ℤ) (fopen : Bool) (inputs : List MonitorInput) (base : Option CsvFile) :
    Prop where
  monitor : s.supervision.tracing.monitors[k]? = some m
  run : Run MonitorTask.iterate
    (MonitorTask.start (s.supervision.tracing.supervisor.monitor m.slot) scheduler fopen) inputs task
  made : fopen = true → base = some ⟨columnNames, []⟩
  file : s.files (logPath (s.supervision.tracing.pidOf m)) = CsvFile.extend base task.csv.rows

/-- **Every file is its monitor's.** -/
structure Apart (s : Logging M) : Prop where
  supervision : s.supervision.Ok
  threads : ∀ k task, s.threads k = some task →
    ∃ m scheduler fopen inputs base, s.Writes k task m scheduler fopen inputs base

variable {s s' : Logging M}

end Logging

namespace MonitorTask

/-- A thread writes to the file of the pid it was started with. -/
theorem run_file {me : MonitorThread} {scheduler : ℤ} {fopen : Bool} {es : List MonitorInput}
    {task : MonitorTask} (h : Run iterate (start me scheduler fopen) es task) :
    task.me.log.file = logPath me.pid := by
  refine h.invariant (I := fun task => task.me.log.file = logPath me.pid) ?_ ?_
  · show (me.init scheduler).log.file = logPath me.pid
    unfold MonitorThread.init
    by_cases hlog : me.enableLogging = true
    · simp only [if_pos hlog]
      rfl
    · simp only [if_neg hlog]
      rfl
  · intro task input task' ih hstep
    exact (iterate_csv hstep).2.trans ih

end MonitorTask

namespace Logging

variable {s s' : Logging M}

theorem start_apart (enableLogging : Bool) (files : LogFiles) :
    (start enableLogging files : Logging M).Apart where
  supervision := Supervision.start_ok enableLogging
  threads := by
    intro k task h
    exact absurd h (by simp [start])

/-- The steps of the other parties leave the threads and the files alone. -/
theorem Apart.system (h : s.Apart) {e : SupervisionEvent} {supervision : Supervision M}
    (hstep : s.supervision.step e = some supervision) :
    Apart { s with supervision := supervision } where
  supervision := Supervision.step_ok h.supervision hstep
  threads := by
    intro k task htask
    obtain ⟨m, scheduler, fopen, inputs, base, hw⟩ := h.threads k task htask
    have hext := Supervision.step_extends h.supervision hstep
    -- the slot of the monitor is what it was
    obtain ⟨m', hm', hsame, -⟩ := hext.monitor h.supervision.tracing hw.monitor
    have hpid : supervision.tracing.pidOf m' = s.supervision.tracing.pidOf m :=
      congrArg MonitorThread.pid hsame
    refine ⟨m', scheduler, fopen, inputs, base, hm', ?_, hw.made, ?_⟩
    · rw [hsame]
      exact hw.run
    · show s.files (logPath (supervision.tracing.pidOf m')) = _
      rw [hpid]
      exact hw.file

/-- Another thread's file is not touched by what the `k`-th does to its own. -/
theorem Writes.of_ne (hok : s.supervision.Ok) {k l : ℕ} {task : MonitorTask} {m n : MonitorRun M}
    {scheduler : ℤ} {fopen : Bool} {inputs : List MonitorInput} {base : Option CsvFile}
    (h : s.Writes l task n scheduler fopen inputs base)
    (hk : s.supervision.tracing.monitors[k]? = some m) (hkl : l ≠ k)
    {threads : ℕ → Option MonitorTask} {files : LogFiles}
    (hfiles : ∀ path, path ≠ logPath (s.supervision.tracing.pidOf m) → files path = s.files path) :
    Writes { s with threads := threads, files := files } l task n scheduler fopen inputs base where
  monitor := h.monitor
  run := h.run
  made := h.made
  file := by
    show files (logPath (s.supervision.tracing.pidOf n)) = _
    rw [hfiles]
    · exact h.file
    · intro hpath
      exact hkl (hok.tracing.index_of_pid h.monitor hk (logPath_injective hpath))

/-- **A thread that enters its loop** makes its own file anew, and no other. -/
theorem Apart.enter (h : s.Apart) {k : ℕ} {scheduler : ℤ} {unlinked fopen : Bool}
    (hstep : s.enter k scheduler unlinked fopen = some s') : s'.Apart := by
  obtain ⟨m, hm, hrest⟩ := Option.bind_eq_some_iff.mp hstep
  obtain ⟨hget, -⟩ := Option.filter_eq_some_iff.mp hm
  simp only at hrest
  split at hrest
  · exact absurd hrest (by simp)
  · rename_i hnone
    cases hrest
    have hrun : Run MonitorTask.iterate (MonitorTask.start
        (s.supervision.tracing.supervisor.monitor m.slot) scheduler fopen) [] (MonitorTask.start
        (s.supervision.tracing.supervisor.monitor m.slot) scheduler fopen) :=
      (run_nil _ _).mpr rfl
    have hpath := MonitorTask.run_file hrun
    refine ⟨h.supervision, fun l task htask => ?_⟩
    change Function.update s.threads k (some (MonitorTask.start
      (s.supervision.tracing.supervisor.monitor m.slot) scheduler fopen)) l = some task at htask
    by_cases hl : l = k
    · subst hl
      rw [Function.update_self] at htask
      obtain rfl := Option.some.inj htask
      refine ⟨m, scheduler, fopen, [], _, hget, hrun, ?_, (CsvFile.extend_nil _).symm⟩
      rintro rfl
      show s.files.prepare _ unlinked true (logPath _) = _
      rw [hpath]
      exact LogFiles.prepare_self _ _ unlinked
    · rw [Function.update_of_ne hl] at htask
      obtain ⟨n, scheduler', fopen', inputs, base, hw⟩ := h.threads l task htask
      refine ⟨n, scheduler', fopen', inputs, base, hw.of_ne h.supervision hget hl ?_⟩
      intro path hne
      apply LogFiles.prepare_of_ne
      rw [hpath]
      exact hne

/-- **A round** appends to its thread's file, and to no other. -/
theorem Apart.round (h : s.Apart) {k : ℕ} {input : MonitorInput}
    (hstep : s.round k input = some s') : s'.Apart := by
  obtain ⟨m, hm, hrest⟩ := Option.bind_eq_some_iff.mp hstep
  obtain ⟨hget, -⟩ := Option.filter_eq_some_iff.mp hm
  obtain ⟨task, hthread, hrest⟩ := Option.bind_eq_some_iff.mp hrest
  obtain ⟨task', hiter, heq⟩ := Option.bind_eq_some_iff.mp hrest
  cases heq
  obtain ⟨m', scheduler, fopen, inputs, base, hw⟩ := h.threads k task hthread
  obtain rfl := Option.some.inj (hw.monitor.symm.trans hget)
  have hpath := MonitorTask.run_file hw.run
  refine ⟨h.supervision, fun l task₁ htask => ?_⟩
  change Function.update s.threads k (some task') l = some task₁ at htask
  by_cases hl : l = k
  · subst hl
    rw [Function.update_self] at htask
    obtain rfl := Option.some.inj htask
    obtain ⟨⟨points, hcsv⟩, -⟩ := MonitorTask.iterate_csv hiter
    refine ⟨m', scheduler, fopen, inputs ++ [input], base, hget,
      (run_concat _ _ _ _).mpr ⟨task, hw.run, hiter⟩, hw.made, ?_⟩
    -- The rows of this round come behind those written before.
    have hrows : task'.csv.rows.drop task.csv.rows.length = points.map Data.row := by
      rw [hcsv, List.drop_left]
    show s.files.append task.me.log.file _ (logPath _) = _
    rw [LogFiles.append, hpath, hrows]
    show Function.update s.files (logPath (s.supervision.tracing.pidOf m')) _ (logPath _) = _
    rw [Function.update_self]
    show CsvFile.extend (s.files (logPath (s.supervision.tracing.pidOf m'))) _ = _
    rw [hw.file, CsvFile.extend_extend, hcsv]
  · rw [Function.update_of_ne hl] at htask
    obtain ⟨n, scheduler', fopen', inputs', base', hw'⟩ := h.threads l task₁ htask
    refine ⟨n, scheduler', fopen', inputs', base', hw'.of_ne h.supervision hget hl ?_⟩
    intro path hne
    show s.files.append task.me.log.file _ path = _
    rw [LogFiles.append, hpath]
    exact Function.update_of_ne hne _ _

/-! ### Runs -/

theorem step_apart (h : s.Apart) {e : Event} (hstep : s.step e = some s') : s'.Apart := by
  cases e with
  | system e =>
    obtain ⟨supervision, hsupervision, rfl⟩ := Option.map_eq_some_iff.mp hstep
    exact h.system hsupervision
  | enter k scheduler unlinked fopen => exact h.enter hstep
  | round k input => exact h.round hstep

variable {enableLogging : Bool} {files : LogFiles} {es : List Event}

theorem run_apart (h : Run step (start enableLogging files : Logging M) es s) : s.Apart :=
  h.invariant (start_apart enableLogging files) fun _ _ _ hI hstep => step_apart hI hstep

/-- A thread that could make its file has written all of it. -/
theorem Writes.file_eq {k : ℕ} {task : MonitorTask} {m : MonitorRun M} {scheduler : ℤ}
    {fopen : Bool} {inputs : List MonitorInput} {base : Option CsvFile}
    (h : s.Writes k task m scheduler fopen inputs base) (hmade : task.csv.header ≠ []) :
    s.files (logPath (s.supervision.tracing.pidOf m)) = some task.csv := by
  obtain ⟨hheader, -⟩ := MonitorTask.run_csv_shape h.run
  cases fopen
  · exact absurd hheader hmade
  · rw [h.file, h.made rfl, CsvFile.extend_some, List.nil_append]
    rw [if_pos rfl] at hheader
    rw [← hheader]

/-- **The logs do not mix.**  However many monitors there are, in whatever order they and all
    other threads go on and whatever files were there before: each monitor thread in its loop has
    made a run of its own, and the last rows of the file at its path are those of this run.  If it
    could make its file, then that file is the one this run alone writes, and its text is read back
    as such. -/
theorem logs_apart (h : Run step (start enableLogging files : Logging M) es s) {k : ℕ}
    {task : MonitorTask} (htask : s.threads k = some task) :
    ∃ m scheduler fopen inputs base, s.supervision.tracing.monitors[k]? = some m ∧
      Run MonitorTask.iterate
        (MonitorTask.start (s.supervision.tracing.supervisor.monitor m.slot) scheduler fopen)
        inputs task ∧
      s.files (logPath (s.supervision.tracing.pidOf m)) = CsvFile.extend base task.csv.rows ∧
      (task.csv.header ≠ [] →
        s.files (logPath (s.supervision.tracing.pidOf m)) = some task.csv ∧
        CsvFile.ofText columnNames task.csv.text = task.csv) := by
  obtain ⟨m, scheduler, fopen, inputs, base, hw⟩ := (run_apart h).threads k task htask
  exact ⟨m, scheduler, fopen, inputs, base, hw.monitor, hw.run, hw.file, fun hmade =>
    ⟨hw.file_eq hmade, MonitorTask.ofText_csv hw.run⟩⟩

/-- Two monitors, of which the first logs while the second makes its file. -/
def sampleLogging : List Event :=
  Supervision.twoTasks.map .system ++ [.enter 0 schedDeadline true true] ++
    (MonitorTask.loggedRounds.take 2).map (.round 0) ++ [.enter 1 schedDeadline true true] ++
    (MonitorTask.loggedRounds.drop 2).map (.round 0)

def sampleDirectory : Logging maxTracedTasks :=
  (sampleLogging.foldlM step (start true fun _ => none)).get (by decide)

def sampleThread : MonitorTask := (sampleDirectory.threads 0).get (by decide)

theorem logs_apart_sample :
    sampleThread.csv.rows.length = 5 ∧ sampleDirectory.files (logPath 7) = some sampleThread.csv := by
  obtain ⟨m, _, _, _, _, hm, -, -, hfile⟩ := logs_apart
    (run_get (start true fun _ => none) sampleLogging (by decide))
    (show sampleDirectory.threads 0 = some sampleThread from (Option.some_get _).symm)
  have hslot : m = ⟨0, .reading 0⟩ := Option.some.inj (hm.symm.trans (by decide))
  subst hslot
  exact ⟨by decide, (hfile (by decide)).1⟩

end Logging

end RtTaskTrace
