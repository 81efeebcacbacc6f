import RtTaskTrace.Supervisor.Rounds

namespace RtTaskTrace

open Runs

/-!
# When a monitor thread ends

A thread ends in the round that reads nothing from the pipe, if the process it then asks for
exists.  That is not its task: in `PID_checkIfExist(me->pid != 1)` the comparison is the argument,
so the process is number 1, or number 0 in the thread of process 1.

* `MonitorThread.probedPid` — the process asked for;
* `iterate_exited_iff` — when one round ends the thread;
* `ends_right_iff` — the runs in which it ends with its task, and only then.
-/

/-- The process whose existence decides. -/
def MonitorThread.probedPid (me : MonitorThread) : PidT := if me.pid ≠ 1 then 1 else 0

namespace MonitorTask

variable {task task' : MonitorTask} {input : MonitorInput}

/-- **What ends a thread.** -/
theorem iterate_exited_iff (h : task.iterate input = some task') :
    task'.exited = true ↔ input.numberOfBytesReceived = 0 ∧
      PID.checkIfExist input.euid input.kill task.me.probedPid ≠ 0 := by
  have hrunning := running_of_iterate h
  -- A whole telegram is not an empty read, and no thread ends over one.
  have hgoes : input.numberOfBytesReceived = Telegram.size → task'.exited = false →
      (task'.exited = true ↔ input.numberOfBytesReceived = 0 ∧
        PID.checkIfExist input.euid input.kill task.me.probedPid ≠ 0) := by
    intro hwhole hexited
    rw [hexited, hwhole]
    exact iff_of_false Bool.false_ne_true fun hread => absurd hread.1 (by decide)
  rcases iterate_cases h with ⟨-, rfl⟩ | ⟨hwhole, -, rfl⟩ | ⟨hwhole, -, handled, -, rfl⟩
  · exact decide_eq_true_iff
  · exact hgoes hwhole hrunning
  · exact hgoes hwhole hrunning

/-- A round that reads nothing always comes to its end. -/
theorem iterate_empty (hrunning : task.exited = false) (hempty : input.numberOfBytesReceived = 0) :
    ∃ task', task.iterate input = some task' := by
  have hwhole : input.numberOfBytesReceived ≠ Telegram.size := by
    rw [hempty]
    decide
  exact ⟨_, iterate_not_whole hrunning hwhole⟩

/-- The thread ends in this round exactly when it reads nothing and its task is gone. -/
def EndsRight (task : MonitorTask) (input : MonitorInput) : Prop :=
  ∀ task' ∈ task.iterate input,
    task'.exited = true ↔ input.numberOfBytesReceived = 0 ∧ input.kill task.me.pid = false

/-- Of the task and the process asked for, one exists and the other does not. -/
def ProbeTells (task : MonitorTask) (input : MonitorInput) : Prop :=
  task.exited = false → input.numberOfBytesReceived = 0 →
    input.kill task.me.probedPid = !input.kill task.me.pid

/-- **One round**, with the supervisor running as root. -/
theorem endsRight_iff (hroot : input.euid = 0) :
    task.EndsRight input ↔ task.ProbeTells input := by
  have hprobe : PID.checkIfExist input.euid input.kill task.me.probedPid ≠ 0 ↔
      input.kill task.me.probedPid = true := by
    rw [hroot, ne_eq, PID.checkIfExist_root, Bool.not_eq_false]
  constructor
  · intro hright hrunning hempty
    obtain ⟨task', h⟩ := iterate_empty hrunning hempty
    have hexited := hright task' h
    rw [iterate_exited_iff h, hprobe] at hexited
    simp only [hempty, true_and] at hexited
    rw [Bool.eq_iff_iff, hexited, Bool.not_eq_true']
  · intro htells task' h
    rw [iterate_exited_iff h, hprobe]
    refine and_congr_right fun hempty => ?_
    rw [htells (running_of_iterate h) hempty, Bool.not_eq_true']

/-- **When threads end with their tasks.**  Under a supervisor that runs as root, every round of a
    run ends the thread exactly if it reads nothing and the task is gone, exactly when at every
    read of nothing the process asked for exists and the task does not, or the other way round. -/
theorem ends_right_iff (me : MonitorThread) (scheduler : ℤ) (fopen : Bool)
    (es : List MonitorInput) (hroot : ∀ input ∈ es, input.euid = 0) :
    Along iterate EndsRight (start me scheduler fopen) es ↔
      Along iterate ProbeTells (start me scheduler fopen) es := by
  generalize start me scheduler fopen = task
  induction es generalizing task with
  | nil => exact Iff.rfl
  | cons input es ih =>
    obtain ⟨hfirst, hrest⟩ := List.forall_mem_cons.mp hroot
    refine and_congr (endsRight_iff hfirst) (forall₂_congr fun task' _ => ?_)
    exact ih hrest task'

/-- A round that reads nothing, with these processes alive. -/
def emptyRead (alive : List PidT) : MonitorInput :=
  { jobInput ⟨5, 10, 20⟩ 7 100 105 with
    numberOfBytesReceived := 0
    kill := fun pid => pid ∈ alive }

/-- The thread of task 7 reads nothing when the task is gone. -/
theorem ends_right_gone :
    Along iterate EndsRight (start { MonitorThread.zero with pid := 7 } schedDeadline false)
      [emptyRead [0, 1]] :=
  (ends_right_iff _ _ _ _ (by simp [emptyRead, jobInput])).mpr
    ⟨fun _ _ => by decide, fun _ _ => trivial⟩

/-- It ends as well when it reads nothing and the task is alive. -/
theorem ends_wrong_alive :
    (emptyRead [0, 1, 7]).euid = 0 ∧ (emptyRead [0, 1, 7]).kill 7 = true ∧
      ((start { MonitorThread.zero with pid := 7 } schedDeadline false).iterate
        (emptyRead [0, 1, 7])).map MonitorTask.exited = some true :=
  ⟨rfl, by decide, rfl⟩

end MonitorTask

end RtTaskTrace
