import RtTaskTrace.Supervisor.Supervisor
import RtTaskTrace.Lib.Runs

namespace RtTaskTrace

/-!
# The supervisor and the tasks it finds

The supervisor's checker thread, its cleanup thread and the monitor threads it starts, with
any number of tasks that start, create their pipe and die.  Every critical section and every
system call is one step of its own.

* `World` — the processes and the directory of pipes; `World.step` is one system call of a
  task, and `World.step_cases` says all that one can do;
* `Tracing` — the table, the checker thread and the monitors; `Tracing.check` is one step of
  the checker, `Tracing.serve` one of a monitor, and `Tracing.Moves` is all that one can do;
* `Supervision` — both, with the cleanup thread.
-/

/-! ### Tasks and pipes -/

/-- Where a task stands in `SharedMem_userInit`. -/
inductive TaskPhase
  | started
  | accessed
  | created
  | opened
  deriving DecidableEq, Repr

/-- A process, with the number of pipes it has created. -/
structure Task where
  pid : PidT
  alive : Bool
  phase : TaskPhase
  made : ℕ
  deriving DecidableEq, Repr

/-- All processes there have ever been, and for each path the process whose pipe is there. -/
structure World where
  tasks : List Task
  pipes : PidT → Option ℕ

/-- What happens to a task: it starts, makes one of the calls of `SharedMem_userInit`, which may
    fail, or dies. -/
inductive TaskEvent
  | start (pid : PidT)
  | access (id : ℕ)
  | mkfifo (id : ℕ) (ok : Bool)
  | openPipe (id : ℕ) (ok : Bool)
  | die (id : ℕ)
  deriving DecidableEq, Repr

namespace World

/-- Nothing has happened yet. -/
def empty : World := ⟨[], fun _ => none⟩

/-- Whether a process of this pid exists: the answer of `kill(pid, 0)` to root. -/
def kill (w : World) (pid : PidT) : Bool := w.tasks.any fun t => t.alive && decide (t.pid = pid)

/-- The process `id`, if it is alive and in the given phase. -/
def at? (w : World) (id : ℕ) (phase : TaskPhase) : Option Task :=
  w.tasks[id]?.filter fun t => t.alive && decide (t.phase = phase)

/-- The process `id` goes on to a phase. -/
def move (w : World) (id : ℕ) (t : Task) (phase : TaskPhase) : World :=
  { w with tasks := w.tasks.set id { t with phase := phase } }

/-- The process `id` has opened the `n`-th pipe it has created, even if it has died since. -/
def hasOpened (w : World) (id n : ℕ) : Bool :=
  w.tasks[id]?.any fun t => decide (t.phase = .opened) && decide (t.made = n)

/-- The pipe at the path of the pid is removed. -/
def unlink (w : World) (pid : PidT) : World :=
  { w with pipes := Function.update w.pipes pid none }

/-- One step of a task.  A pid is given to one living process at a time.  A call that fails
    ends `SharedMem_userInit`, and the task may try it again. -/
def step (w : World) : TaskEvent → Option World
  | .start pid =>
    if pid ≤ 0 ∨ w.kill pid then none
    else some { w with tasks := w.tasks ++ [⟨pid, true, .started, 0⟩] }
  | .access id => (w.at? id .started).map fun t =>
    w.move id t (if (w.pipes t.pid).isSome then .started else .accessed)
  | .mkfifo id ok => (w.at? id .accessed).map fun t =>
    -- a path that exists by now makes the call fail
    if ok && (w.pipes t.pid).isNone then
      { w.move id { t with made := t.made + 1 } .created with
        pipes := Function.update w.pipes t.pid (some id) }
    else w.move id t .started
  | .openPipe id ok => (w.at? id .created).map fun t =>
    w.move id t (if ok && (w.pipes t.pid).isSome then .opened else .started)
  | .die id => (w.tasks[id]?.filter Task.alive).map fun t =>
    { w with tasks := w.tasks.set id { t with alive := false } }

variable {w w' : World} {id : ℕ} {t : Task} {pid : PidT}

theorem at?_eq_some {phase : TaskPhase} (h : w.at? id phase = some t) :
    w.tasks[id]? = some t ∧ t.alive = true := by
  obtain ⟨hget, hkeep⟩ := Option.filter_eq_some_iff.mp h
  rw [Bool.and_eq_true] at hkeep
  exact ⟨hget, hkeep.1⟩

theorem hasOpened_iff {n : ℕ} :
    w.hasOpened id n = true ↔ ∃ t, w.tasks[id]? = some t ∧ t.phase = .opened ∧ t.made = n := by
  rw [hasOpened, Option.any_eq_true]
  simp only [Bool.and_eq_true, decide_eq_true_iff]

/-- **All that a step of a task can do.**  It adds a process, or changes one that is alive, of
    which it keeps the pid; and the pipes stay as they are, except that the process may put
    its pipe where there is none. -/
theorem step_cases {e : TaskEvent} (h : w.step e = some w') :
    (∃ pid, w'.tasks = w.tasks ++ [⟨pid, true, .started, 0⟩] ∧ w'.pipes = w.pipes) ∨
    ∃ id t t', w.tasks[id]? = some t ∧ t.alive = true ∧ t'.pid = t.pid ∧
      w'.tasks = w.tasks.set id t' ∧
      (w'.pipes = w.pipes ∨
        w.pipes t.pid = none ∧ w'.pipes = Function.update w.pipes t.pid (some id)) := by
  have hmove : ∀ id t phase, (w.move id t phase).tasks
      = w.tasks.set id { t with phase := phase } := fun _ _ _ => rfl
  cases e with
  | start pid =>
    simp only [step] at h
    split at h
    · exact absurd h (by simp)
    · cases h
      exact .inl ⟨pid, rfl, rfl⟩
  | access id =>
    obtain ⟨t, ht, rfl⟩ := Option.map_eq_some_iff.mp h
    obtain ⟨hget, halive⟩ := at?_eq_some ht
    exact .inr ⟨id, t, _, hget, halive, by rfl, hmove id t _, .inl rfl⟩
  | mkfifo id ok =>
    obtain ⟨t, ht, rfl⟩ := Option.map_eq_some_iff.mp h
    obtain ⟨hget, halive⟩ := at?_eq_some ht
    -- Only the `mkfifo` that succeeds adds a pipe.
    by_cases hok : (ok && (w.pipes t.pid).isNone) = true
    · rw [if_pos hok]
      rw [Bool.and_eq_true, Option.isNone_iff_eq_none] at hok
      exact .inr ⟨id, t, _, hget, halive, by rfl, hmove id { t with made := t.made + 1 } _,
        .inr ⟨hok.2, rfl⟩⟩
    · rw [if_neg hok]
      exact .inr ⟨id, t, _, hget, halive, by rfl, hmove id t _, .inl rfl⟩
  | openPipe id ok =>
    obtain ⟨t, ht, rfl⟩ := Option.map_eq_some_iff.mp h
    obtain ⟨hget, halive⟩ := at?_eq_some ht
    exact .inr ⟨id, t, _, hget, halive, by rfl, hmove id t _, .inl rfl⟩
  | die id =>
    obtain ⟨t, ht, rfl⟩ := Option.map_eq_some_iff.mp h
    obtain ⟨hget, halive⟩ := Option.filter_eq_some_iff.mp ht
    exact .inr ⟨id, t, { t with alive := false }, hget, halive, rfl, rfl, .inl rfl⟩

/-- A step never changes the pid of a process. -/
theorem step_pid {e : TaskEvent} (h : w.step e = some w') (ht : w.tasks[id]? = some t) :
    ∃ t', w'.tasks[id]? = some t' ∧ t'.pid = t.pid := by
  rcases step_cases h with ⟨pid, htasks, -⟩ | ⟨id', u, u', hu, -, hpid, htasks, -⟩
  · refine ⟨t, ?_, rfl⟩
    rw [htasks, List.getElem?_append_left (List.getElem?_eq_some_iff.mp ht).1]
    exact ht
  · rw [htasks]
    by_cases hid : id' = id
    · subst hid
      have hut : u = t := Option.some.inj (hu.symm.trans ht)
      subst hut
      exact ⟨u', List.getElem?_set_self (List.getElem?_eq_some_iff.mp ht).1, hpid⟩
    · exact ⟨t, by rw [List.getElem?_set_ne hid]; exact ht, rfl⟩

/-- A process that is dead stays as it is. -/
theorem step_dead {e : TaskEvent} (h : w.step e = some w') (ht : w.tasks[id]? = some t)
    (hdead : t.alive = false) : w'.tasks[id]? = some t := by
  rcases step_cases h with ⟨pid, htasks, -⟩ | ⟨id', u, u', hu, halive, -, htasks, -⟩
  · rw [htasks, List.getElem?_append_left (List.getElem?_eq_some_iff.mp ht).1]
    exact ht
  · -- Only a living process makes a step.
    have hid : id' ≠ id := by
      rintro rfl
      have hut : u = t := Option.some.inj (hu.symm.trans ht)
      rw [hut, hdead] at halive
      exact absurd halive (by decide)
    rw [htasks, List.getElem?_set_ne hid]
    exact ht

/-- A pipe that is there stays: no task removes one, and none can put its own in its place. -/
theorem step_pipes {e : TaskEvent} (h : w.step e = some w') {c : ℕ}
    (hc : w.pipes pid = some c) : w'.pipes pid = some c := by
  rcases step_cases h with ⟨_, -, hpipes⟩ | ⟨id, u, -, -, -, -, -, hpipes | ⟨hnone, hpipes⟩⟩
  · rw [hpipes]
    exact hc
  · rw [hpipes]
    exact hc
  · -- A pipe is added only where there was none.
    have hne : pid ≠ u.pid := by
      rintro rfl
      rw [hnone] at hc
      exact absurd hc (by simp)
    rw [hpipes, Function.update_of_ne hne]
    exact hc

/-- A pipe that is there after a removal was there before. -/
theorem unlink_pipes {pid' : PidT} {c : ℕ} (hc : (w.unlink pid).pipes pid' = some c) :
    w.pipes pid' = some c := by
  change Function.update w.pipes pid none pid' = some c at hc
  by_cases heq : pid' = pid
  · rw [heq, Function.update_self] at hc
    exact absurd hc (by simp)
  · rw [Function.update_of_ne heq] at hc
    exact hc

end World

/-! ### The table, the checker and the monitors -/

/-- Where the checker thread stands: scanning the directory, or holding a pid it has found, and
    then the slot reserved for it, and then with the pid stored in it. -/
inductive CheckerPc (M : ℕ)
  | scanning
  | found (pid : PidT)
  | reserved (pid : PidT) (i : Fin M)
  | stored (pid : PidT) (i : Fin M)
  deriving DecidableEq, Repr

/-- The slot the checker is starting a monitor for. -/
def CheckerPc.slot {M : ℕ} : CheckerPc M → Option (Fin M)
  | .reserved _ i | .stored _ i => some i
  | _ => none

/-- Where a monitor thread stands: in `SharedMem_supervisorInit`, before its `access` finds the
    pipe or after; in an `open` that has found the `made`-th pipe of a process and waits for the
    process to open it, or that waits for ever; reading the pipe of a process; reading the
    descriptor -1 of an `open` that failed, for ever; or ended. -/
inductive MonitorPhase
  | waiting
  | accessed
  | opening (creator made : ℕ)
  | hung
  | reading (creator : ℕ)
  | broken
  | ended
  deriving DecidableEq, Repr

/-- The process whose pipe the thread has found. -/
def MonitorPhase.creator : MonitorPhase → Option ℕ
  | .opening c _ | .reading c => some c
  | _ => none

/-- A monitor thread: the slot it was handed, and where it stands. -/
structure MonitorRun (M : ℕ) where
  slot : Fin M
  phase : MonitorPhase
  deriving DecidableEq, Repr

/-- The supervisor's table, its checker thread and all monitor threads ever started. -/
structure Tracing (M : ℕ) where
  supervisor : Supervisor M
  checker : CheckerPc M
  monitors : List (MonitorRun M)

/-- A step of the checker: an entry of the directory whose name `atoi` reads as `pid`, and then
    the reservation, the writes to the slot and the `pthread_create`. -/
inductive CheckerEvent
  | entry (pid : PidT)
  | reserve
  | store
  | create (ok : Bool)
  deriving DecidableEq, Repr

/-- A step of the `k`-th monitor: the `access` of `SharedMem_supervisorInit` that finds the
    pipe; its `open`, which may have to wait and returns later; or the end of the thread when its
    pipe has no writer any more. -/
inductive MonitorEvent
  | access (k : ℕ)
  | openPipe (k : ℕ)
  | exit (k : ℕ)
  deriving DecidableEq, Repr

variable {M : ℕ}

namespace Tracing

/-- The supervisor has been initialised by root. -/
def start (enableLogging : Bool) : Tracing M :=
  ⟨(Supervisor.init .zero 0 ⟨true, true, true⟩ enableLogging).1, .scanning, []⟩

/-- One step of `Supervisor_checkForNewProcessesThread`. -/
def check (s : Tracing M) : CheckerEvent → Option (Tracing M)
  | .entry pid =>
    match s.checker with
    | .scanning =>
      if pid ≤ 0 then some s
      else if s.supervisor.checkIfTaskIsBeingTraced pid then some s
      else some { s with checker := .found pid }
    | _ => none
  | .reserve =>
    match s.checker with
    | .found pid =>
      match s.supervisor.reserveInstance with
      | (_, none) => some s
      | (supervisor, some i) => some { s with supervisor := supervisor, checker := .reserved pid i }
    | _ => none
  | .store =>
    match s.checker with
    | .reserved pid i =>
      some { s with supervisor := s.supervisor.storePid i pid, checker := .stored pid i }
    | _ => none
  | .create ok =>
    match s.checker with
    | .stored _ i =>
      some { s with
        checker := .scanning
        monitors := if ok then s.monitors ++ [⟨i, .waiting⟩] else s.monitors }
    | _ => none

/-- The pid a monitor works for. -/
def pidOf (s : Tracing M) (m : MonitorRun M) : PidT := (s.supervisor.monitor m.slot).pid

/-- An `open` for reading on the pipe that is at the path of the process `c`, `t`, which alone
    opens it for writing.  It returns at once while the process holds the pipe open, and waits
    otherwise. -/
def openRead (c : ℕ) (t : Task) : MonitorPhase :=
  if t.alive then if t.phase = .opened then .reading c else .opening c t.made
  else .hung

/-- The `open` of a monitor for its path: it fails when there is no pipe any more.  One that waits
    is bound to the pipe it has found, whatever becomes of the path, and returns when that pipe
    has been opened. -/
def openPipe (s : Tracing M) (w : World) (m : MonitorRun M) : Option MonitorPhase :=
  match m.phase with
  | .accessed =>
    match w.pipes (s.pidOf m) with
    | none => some .broken
    | some c => w.tasks[c]?.map (openRead c)
  | .opening c made => if w.hasOpened c made then some (.reading c) else none
  | _ => none

/-- The end of a monitor's pipe: `read` returns 0 when its creator, which alone writes to it, is
    no more. -/
def endOfPipe (w : World) (m : MonitorRun M) : Bool :=
  match m.phase with
  | .reading c => w.tasks[c]?.any fun t => !t.alive
  | _ => false

/-- One step of a monitor thread.  Its `access` is repeated until it finds the pipe, and what
    `SharedMem_supervisorInit` returns is not looked at. -/
def serve (s : Tracing M) (w : World) : MonitorEvent → Option (Tracing M)
  | .access k => do
    let m ← s.monitors[k]?.filter fun m =>
      decide (m.phase = .waiting) && (w.pipes (s.pidOf m)).isSome
    some { s with monitors := s.monitors.set k { m with phase := .accessed } }
  | .openPipe k => do
    let m ← s.monitors[k]?
    let phase ← s.openPipe w m
    some { s with monitors := s.monitors.set k { m with phase := phase } }
  | .exit k => do
    let m ← s.monitors[k]?.filter (endOfPipe w)
    some { s with monitors := s.monitors.set k { m with phase := .ended } }

end Tracing

namespace Tracing

variable {s s' : Tracing M} {w : World} {pid : PidT}

/-- **What reading an entry does.**  A positive pid that is not traced is found. -/
theorem check_entry (h : s.check (.entry pid) = some s') :
    s.checker = .scanning ∧
      (s' = s ∨ 0 < pid ∧ s.supervisor.checkIfTaskIsBeingTraced pid = false ∧
        s' = { s with checker := .found pid }) := by
  simp only [check] at h
  split at h
  · rename_i hpc
    refine ⟨hpc, ?_⟩
    by_cases hpos : pid ≤ 0
    · rw [if_pos hpos] at h
      exact .inl (Option.some.inj h).symm
    · rw [if_neg hpos] at h
      by_cases htraced : s.supervisor.checkIfTaskIsBeingTraced pid = true
      · rw [if_pos htraced] at h
        exact .inl (Option.some.inj h).symm
      · rw [if_neg htraced] at h
        exact .inr ⟨Int32.not_le.mp hpos, Bool.eq_false_iff.mpr htraced,
          (Option.some.inj h).symm⟩
  · exact absurd h (by simp)

/-- **What a reservation does.**  It takes a free slot, or finds that there is none. -/
theorem check_reserve (h : s.check .reserve = some s') :
    ∃ pid, s.checker = .found pid ∧
      (((∀ i, s.supervisor.isTaskBeingTraced i = true) ∧ s' = s) ∨
        ∃ i, s.supervisor.isTaskBeingTraced i = false ∧
          s' = { s with
            supervisor := { s.supervisor with
              isTaskBeingTraced := Function.update s.supervisor.isTaskBeingTraced i true }
            checker := .reserved pid i }) := by
  simp only [check] at h
  split at h
  · rename_i pid hpc
    refine ⟨pid, hpc, ?_⟩
    split at h
    · rename_i hnone
      exact .inl ⟨(Supervisor.reserveInstance_none hnone).1, (Option.some.inj h).symm⟩
    · rename_i supervisor i hsome
      obtain ⟨hfree, rfl⟩ := Supervisor.reserveInstance_some hsome
      exact .inr ⟨i, hfree, (Option.some.inj h).symm⟩
  · exact absurd h (by simp)

/-- **What storing the pid does.** -/
theorem check_store (h : s.check .store = some s') :
    ∃ pid i, s.checker = .reserved pid i ∧
      s' = { s with supervisor := s.supervisor.storePid i pid, checker := .stored pid i } := by
  simp only [check] at h
  split at h
  · rename_i pid i hpc
    exact ⟨pid, i, hpc, (Option.some.inj h).symm⟩
  · exact absurd h (by simp)

/-- **What creating the thread does.**  When it fails the slot stays as it is. -/
theorem check_create {ok : Bool} (h : s.check (.create ok) = some s') :
    ∃ pid i, s.checker = .stored pid i ∧
      s' = { s with
        checker := .scanning
        monitors := if ok then s.monitors ++ [⟨i, .waiting⟩] else s.monitors } := by
  simp only [check] at h
  split at h
  · rename_i pid i hpc
    exact ⟨pid, i, hpc, (Option.some.inj h).symm⟩
  · exact absurd h (by simp)

/-- **All that one step can do** to the phase of the `k`-th monitor, `m`. -/
inductive Moves (s : Tracing M) (w : World) (k : ℕ) (m : MonitorRun M) :
    MonitorEvent → MonitorPhase → Prop
  | access (hphase : m.phase = .waiting) (hpipe : (w.pipes (s.pidOf m)).isSome = true) :
      Moves s w k m (.access k) .accessed
  | fail (hphase : m.phase = .accessed) (hpipe : w.pipes (s.pidOf m) = none) :
      Moves s w k m (.openPipe k) .broken
  | read {c : ℕ} {t : Task} (hphase : m.phase = .accessed) (hpipe : w.pipes (s.pidOf m) = some c)
      (ht : w.tasks[c]? = some t) (halive : t.alive = true) (hopened : t.phase = .opened) :
      Moves s w k m (.openPipe k) (.reading c)
  | wait {c : ℕ} {t : Task} (hphase : m.phase = .accessed) (hpipe : w.pipes (s.pidOf m) = some c)
      (ht : w.tasks[c]? = some t) (halive : t.alive = true) (hopened : t.phase ≠ .opened) :
      Moves s w k m (.openPipe k) (.opening c t.made)
  | hang {c : ℕ} {t : Task} (hphase : m.phase = .accessed) (hpipe : w.pipes (s.pidOf m) = some c)
      (ht : w.tasks[c]? = some t) (hdead : t.alive = false) :
      Moves s w k m (.openPipe k) .hung
  | wake {c made : ℕ} (hphase : m.phase = .opening c made) (hopened : w.hasOpened c made = true) :
      Moves s w k m (.openPipe k) (.reading c)
  | exit (hend : endOfPipe w m = true) : Moves s w k m (.exit k) .ended

theorem openPipe_moves {m : MonitorRun M} {phase : MonitorPhase}
    (h : s.openPipe w m = some phase) (k : ℕ) : s.Moves w k m (.openPipe k) phase := by
  unfold openPipe at h
  split at h
  · rename_i hphase
    cases hpipe : w.pipes (s.pidOf m) with
    | none =>
      simp only [hpipe, Option.some.injEq] at h
      exact h ▸ .fail hphase hpipe
    | some c =>
      simp only [hpipe] at h
      obtain ⟨t, ht, rfl⟩ := Option.map_eq_some_iff.mp h
      unfold openRead
      cases halive : t.alive with
      | false => exact .hang hphase hpipe ht halive
      | true =>
        by_cases hopened : t.phase = .opened
        · rw [if_pos rfl, if_pos hopened]
          exact .read hphase hpipe ht halive hopened
        · rw [if_pos rfl, if_neg hopened]
          exact .wait hphase hpipe ht halive hopened
  · rename_i c made hphase
    obtain ⟨hopened, heq⟩ := Option.ite_none_right_eq_some.mp h
    exact Option.some.inj heq ▸ .wake hphase hopened
  · exact absurd h (by simp)

/-- **What a step of a monitor does.**  It moves one monitor. -/
theorem serve_moves {e : MonitorEvent} (h : s.serve w e = some s') :
    ∃ k m phase, s.monitors[k]? = some m ∧
      s' = { s with monitors := s.monitors.set k { m with phase := phase } } ∧
      s.Moves w k m e phase := by
  cases e with
  | access k =>
    obtain ⟨m, hm, h⟩ := Option.bind_eq_some_iff.mp h
    obtain ⟨hget, hguard⟩ := Option.filter_eq_some_iff.mp hm
    rw [Bool.and_eq_true, decide_eq_true_iff] at hguard
    exact ⟨k, m, .accessed, hget, (Option.some.inj h).symm, .access hguard.1 hguard.2⟩
  | openPipe k =>
    obtain ⟨m, hget, h⟩ := Option.bind_eq_some_iff.mp h
    obtain ⟨phase, hopen, h⟩ := Option.bind_eq_some_iff.mp h
    exact ⟨k, m, phase, hget, (Option.some.inj h).symm, openPipe_moves hopen k⟩
  | exit k =>
    obtain ⟨m, hm, h⟩ := Option.bind_eq_some_iff.mp h
    obtain ⟨hget, hend⟩ := Option.filter_eq_some_iff.mp hm
    exact ⟨k, m, .ended, hget, (Option.some.inj h).symm, .exit hend⟩

section Moves

variable {k : ℕ} {m : MonitorRun M} {e : MonitorEvent} {phase : MonitorPhase}

/-- The pipe of a process is ended for a monitor that reads it. -/
theorem reading_of_endOfPipe (h : endOfPipe w m = true) : ∃ c, m.phase = .reading c := by
  unfold endOfPipe at h
  split at h
  · rename_i c hphase
    exact ⟨c, hphase⟩
  · exact absurd h (by simp)

theorem Moves.running (h : s.Moves w k m e phase) : m.phase ≠ .ended := by
  cases h with
  | access hphase | fail hphase | read hphase | wait hphase | hang hphase | wake hphase =>
    simp [hphase]
  | exit hend =>
    obtain ⟨c, hphase⟩ := reading_of_endOfPipe hend
    simp [hphase]

/-- A monitor comes by a pipe only at its path. -/
theorem Moves.creator (h : s.Moves w k m e phase) {c : ℕ} (hcreator : phase.creator = some c) :
    m.phase.creator = some c ∨ w.pipes (s.pidOf m) = some c := by
  cases h with
  | access | fail | hang | exit => exact absurd hcreator (by simp [MonitorPhase.creator])
  | read _ hpipe | wait _ hpipe =>
    obtain rfl := Option.some.inj hcreator
    exact .inr hpipe
  | wake hphase =>
    rw [hphase]
    exact .inl hcreator

/-- It ends by its exit. -/
theorem Moves.ended (h : s.Moves w k m e phase) :
    phase = .ended ∧ e = .exit k ∨ phase ≠ .ended ∧ ∀ l, e ≠ .exit l := by
  cases h with
  | exit => exact .inl ⟨rfl, rfl⟩
  | access | fail | read | wait | hang | wake => exact .inr ⟨by simp, fun l => by simp⟩

/-- It looks for its pipe only if it has done so from the start. -/
theorem Moves.looking (h : s.Moves w k m e phase) (hlooks : phase = .waiting ∨ phase = .accessed) :
    m.phase = .waiting := by
  cases h with
  | access hphase => exact hphase
  | fail | read | wait | hang | wake | exit => exact absurd hlooks (by simp)

end Moves

/-- It changes the phase of one monitor that has not ended; a monitor comes by a pipe only at its
    path, and it ends by its exit. -/
theorem serve_cases {e : MonitorEvent} (h : s.serve w e = some s') :
    ∃ k m phase, s.monitors[k]? = some m ∧ m.phase ≠ .ended ∧
      s' = { s with monitors := s.monitors.set k { m with phase := phase } } ∧
      (∀ c, phase.creator = some c → m.phase.creator = some c ∨ w.pipes (s.pidOf m) = some c) ∧
      (phase = .ended ∧ e = .exit k ∨ phase ≠ .ended ∧ ∀ l, e ≠ .exit l) := by
  obtain ⟨k, m, phase, hget, hs, hmove⟩ := serve_moves h
  exact ⟨k, m, phase, hget, hmove.running, hs, fun _ => hmove.creator, hmove.ended⟩

end Tracing

/-! ### The whole system -/

/-- Where the cleanup thread stands: reading the directory, or holding the pid of an entry, and
    then having found it untraced, and then having found no process of it. -/
inductive CleanerPc
  | reading
  | entry (pid : PidT)
  | untraced (pid : PidT)
  | gone (pid : PidT)
  deriving DecidableEq, Repr

/-- A step of the cleanup thread: an entry of the directory whose name `atoi` reads as `pid`, the
    two tests, and the `remove`, which may fail. -/
inductive CleanerEvent
  | entry (pid : PidT)
  | checkTraced
  | checkExist
  | remove (ok : Bool)
  deriving DecidableEq, Repr

/-- The supervisor's threads and the tasks. -/
structure Supervision (M : ℕ) where
  tracing : Tracing M
  world : World
  cleaner : CleanerPc

/-- A step of any party. -/
inductive SupervisionEvent
  | task (e : TaskEvent)
  | checker (e : CheckerEvent)
  | monitor (e : MonitorEvent)
  | cleaner (e : CleanerEvent)
  deriving DecidableEq, Repr

namespace Supervision

/-- The start. -/
def start (enableLogging : Bool) : Supervision M := ⟨.start enableLogging, .empty, .reading⟩

/-- One step of `Supervisor_checkAndCleanUnusedSharedMemThread`. -/
def clean (s : Supervision M) : CleanerEvent → Option (Supervision M)
  | .entry pid =>
    match s.cleaner with
    | .reading => if pid ≤ 0 then some s else some { s with cleaner := .entry pid }
    | _ => none
  | .checkTraced =>
    match s.cleaner with
    | .entry pid =>
      if s.tracing.supervisor.checkIfTaskIsBeingTraced pid then some { s with cleaner := .reading }
      else some { s with cleaner := .untraced pid }
    | _ => none
  | .checkExist =>
    match s.cleaner with
    | .untraced pid =>
      if PID.checkIfExist 0 s.world.kill pid = 0 then some { s with cleaner := .gone pid }
      else some { s with cleaner := .reading }
    | _ => none
  | .remove ok =>
    match s.cleaner with
    | .gone pid =>
      some { s with
        cleaner := .reading
        world := if ok then s.world.unlink pid else s.world }
    | _ => none

/-- One step. -/
def step (s : Supervision M) : SupervisionEvent → Option (Supervision M)
  | .task e => (s.world.step e).map fun world => { s with world := world }
  | .checker e => (s.tracing.check e).map fun tracing => { s with tracing := tracing }
  | .monitor e => (s.tracing.serve s.world e).map fun tracing => { s with tracing := tracing }
  | .cleaner e => s.clean e

variable {s s' : Supervision M} {pid : PidT}

/-- **What reading an entry does.**  The cleanup thread goes on with a positive pid. -/
theorem clean_entry (h : s.clean (.entry pid) = some s') :
    s.cleaner = .reading ∧ (s' = s ∨ 0 < pid ∧ s' = { s with cleaner := .entry pid }) := by
  simp only [clean] at h
  split at h
  · rename_i hpc
    refine ⟨hpc, ?_⟩
    by_cases hpos : pid ≤ 0
    · rw [if_pos hpos] at h
      exact .inl (Option.some.inj h).symm
    · rw [if_neg hpos] at h
      exact .inr ⟨Int32.not_le.mp hpos, (Option.some.inj h).symm⟩
  · exact absurd h (by simp)

/-- **What the test of the table does.**  The cleanup thread goes on when no slot that is taken
    holds the pid. -/
theorem clean_checkTraced (h : s.clean .checkTraced = some s') :
    ∃ pid, s.cleaner = .entry pid ∧
      (s' = { s with cleaner := .reading } ∨
        s.tracing.supervisor.checkIfTaskIsBeingTraced pid = false ∧
          s' = { s with cleaner := .untraced pid }) := by
  simp only [clean] at h
  split at h
  · rename_i pid hpc
    refine ⟨pid, hpc, ?_⟩
    by_cases htraced : s.tracing.supervisor.checkIfTaskIsBeingTraced pid = true
    · rw [if_pos htraced] at h
      exact .inl (Option.some.inj h).symm
    · rw [if_neg htraced] at h
      exact .inr ⟨Bool.eq_false_iff.mpr htraced, (Option.some.inj h).symm⟩
  · exact absurd h (by simp)

/-- **What the test for the process does.**  The cleanup thread goes on when there is none. -/
theorem clean_checkExist (h : s.clean .checkExist = some s') :
    ∃ pid, s.cleaner = .untraced pid ∧
      (s.world.kill pid = true ∧ s' = { s with cleaner := .reading } ∨
        s.world.kill pid = false ∧ s' = { s with cleaner := .gone pid }) := by
  simp only [clean] at h
  split at h
  · rename_i pid hpc
    refine ⟨pid, hpc, ?_⟩
    by_cases hgone : PID.checkIfExist 0 s.world.kill pid = 0
    · rw [if_pos hgone] at h
      exact .inr ⟨(PID.checkIfExist_root _ _).mp hgone, (Option.some.inj h).symm⟩
    · rw [if_neg hgone] at h
      rw [PID.checkIfExist_root, Bool.not_eq_false] at hgone
      exact .inl ⟨hgone, (Option.some.inj h).symm⟩
  · exact absurd h (by simp)

/-- **What the removal does.** -/
theorem clean_remove {ok : Bool} (h : s.clean (.remove ok) = some s') :
    ∃ pid, s.cleaner = .gone pid ∧
      s' = { s with
        cleaner := .reading
        world := if ok then s.world.unlink pid else s.world } := by
  simp only [clean] at h
  split at h
  · rename_i pid hpc
    exact ⟨pid, hpc, (Option.some.inj h).symm⟩
  · exact absurd h (by simp)

/-- The cleanup thread leaves the table and the processes alone, and adds no pipe. -/
theorem clean_frame {e : CleanerEvent} (h : s.clean e = some s') :
    s'.tracing = s.tracing ∧ s'.world.tasks = s.world.tasks ∧
      ∀ pid c, s'.world.pipes pid = some c → s.world.pipes pid = some c := by
  cases e with
  | entry pid =>
    rcases clean_entry h with ⟨-, rfl | ⟨-, rfl⟩⟩ <;> exact ⟨rfl, rfl, fun _ _ hc => hc⟩
  | checkTraced =>
    rcases clean_checkTraced h with ⟨pid, -, rfl | ⟨-, rfl⟩⟩ <;>
      exact ⟨rfl, rfl, fun _ _ hc => hc⟩
  | checkExist =>
    rcases clean_checkExist h with ⟨pid, -, ⟨-, rfl⟩ | ⟨-, rfl⟩⟩ <;>
      exact ⟨rfl, rfl, fun _ _ hc => hc⟩
  | remove ok =>
    obtain ⟨pid, -, rfl⟩ := clean_remove h
    cases ok with
    | true => exact ⟨rfl, rfl, fun _ _ hc => World.unlink_pipes hc⟩
    | false => exact ⟨rfl, rfl, fun _ _ hc => hc⟩

end Supervision

end RtTaskTrace
