import RtTaskTrace.Supervisor.Monitor
import Mathlib.Data.List.FinRange

namespace RtTaskTrace

/-!
# The table of traced tasks (`Supervisor/Supervisor`)

The supervisor keeps one `MonitorThread` for each task it traces, in a table of fixed size,
and a flag for each slot that is taken.  The functions here are its critical sections; the
threads that call them are in `System/Supervision.lean`.

The size is a parameter; the program's own is `maxTracedTasks`.
-/

/-- `MAX_TRACED_TASKS`. -/
abbrev maxTracedTasks : ℕ := 100

/-- `Supervisor`.  Of the user's inputs only the logging switch is used. -/
structure Supervisor (M : ℕ) where
  enableLogging : Bool
  isTaskBeingTraced : Fin M → Bool
  monitor : Fin M → MonitorThread

namespace Supervisor

variable {M : ℕ} {me me' : Supervisor M} {i j : Fin M} {pid : PidT}

/-- What `memset(me, 0, sizeof(Supervisor))` leaves. -/
def zero : Supervisor M where
  enableLogging := false
  isTaskBeingTraced := fun _ => false
  monitor := fun _ => MonitorThread.zero

/-- What the system calls of `Supervisor_init` answer. -/
structure InitOutcome where
  mutexInit : Bool
  createCleanUp : Bool
  createCheck : Bool

/-- `Supervisor_init`, run as the effective user `euid`: the state and the code returned. -/
def init (me : Supervisor M) (euid : ℕ) (outcome : InitOutcome) (enableLogging : Bool) :
    Supervisor M × ℤ :=
  if euid ≠ 0 then (me, -1)
  else if outcome.mutexInit = false then (zero, -2)
  else
    let me := { (zero : Supervisor M) with enableLogging := enableLogging }
    if outcome.createCleanUp = false then (me, -3)
    else if outcome.createCheck = false then (me, -4)
    else (me, 0)

/-- The first slot that is not taken. -/
def firstFree (me : Supervisor M) : Option (Fin M) :=
  (List.finRange M).find? fun i => !me.isTaskBeingTraced i

/-- `Supervisor_reserveInstance`: the slot it takes, `none` for its -1. -/
def reserveInstance (me : Supervisor M) : Supervisor M × Option (Fin M) :=
  match me.firstFree with
  | none => (me, none)
  | some i =>
    ({ me with isTaskBeingTraced := Function.update me.isTaskBeingTraced i true }, some i)

/-- `Supervisor_freeInstance`. -/
def freeInstance (me : Supervisor M) (i : Fin M) : Supervisor M × ℤ :=
  if me.isTaskBeingTraced i = false then (me, -1)
  else ({ me with isTaskBeingTraced := Function.update me.isTaskBeingTraced i false }, 0)

/-- `Supervisor_checkIfTaskIsBeingTraced`. -/
def checkIfTaskIsBeingTraced (me : Supervisor M) (pid : PidT) : Bool :=
  (List.finRange M).any fun i => me.isTaskBeingTraced i && decide ((me.monitor i).pid = pid)

/-- The two writes of `Supervisor_checkForNewProcessesThread` into a slot it has reserved. -/
def storePid (me : Supervisor M) (i : Fin M) (pid : PidT) : Supervisor M :=
  { me with
    monitor := Function.update me.monitor i
      { me.monitor i with pid := pid, enableLogging := me.enableLogging } }

/-! ### The critical sections -/

/-- A task is being traced when a slot that is taken holds its pid. -/
theorem checkIfTaskIsBeingTraced_iff :
    me.checkIfTaskIsBeingTraced pid = true ↔
      ∃ i, me.isTaskBeingTraced i = true ∧ (me.monitor i).pid = pid := by
  rw [checkIfTaskIsBeingTraced, List.any_eq_true]
  constructor
  · rintro ⟨i, -, hi⟩
    rw [Bool.and_eq_true, decide_eq_true_iff] at hi
    exact ⟨i, hi⟩
  · rintro ⟨i, htaken, hpid⟩
    exact ⟨i, List.mem_finRange i, by rw [htaken, Bool.true_and, decide_eq_true_iff, hpid]⟩

/-- A task is not being traced when no slot that is taken holds its pid. -/
theorem checkIfTaskIsBeingTraced_eq_false :
    me.checkIfTaskIsBeingTraced pid = false ↔
      ∀ i, me.isTaskBeingTraced i = true → (me.monitor i).pid ≠ pid := by
  rw [← Bool.not_eq_true, checkIfTaskIsBeingTraced_iff]
  constructor
  · intro h i htaken hpid
    exact h ⟨i, htaken, hpid⟩
  · rintro h ⟨i, htaken, hpid⟩
    exact h i htaken hpid

/-- **A reservation takes a slot that was free.** -/
theorem reserveInstance_some (h : me.reserveInstance = (me', some i)) :
    me.isTaskBeingTraced i = false ∧
      me' = { me with isTaskBeingTraced := Function.update me.isTaskBeingTraced i true } := by
  unfold reserveInstance at h
  cases hfree : me.firstFree with
  | none =>
    rw [hfree] at h
    exact absurd (congrArg Prod.snd h) (by simp)
  | some k =>
    rw [hfree] at h
    obtain ⟨rfl, hk⟩ := Prod.mk.inj h
    obtain rfl := Option.some.inj hk
    have hfound := List.find?_some hfree
    exact ⟨by simpa using hfound, rfl⟩

/-- **A reservation fails** only when every slot is taken, and changes nothing then. -/
theorem reserveInstance_none (h : me.reserveInstance = (me', none)) :
    (∀ i, me.isTaskBeingTraced i = true) ∧ me' = me := by
  unfold reserveInstance at h
  cases hfree : me.firstFree with
  | none =>
    rw [hfree] at h
    refine ⟨fun i => ?_, (Prod.mk.inj h).1.symm⟩
    have htaken := List.find?_eq_none.mp hfree i (List.mem_finRange i)
    simpa using htaken
  | some k =>
    rw [hfree] at h
    exact absurd (congrArg Prod.snd h) (by simp)

/-- A slot that is freed is free again, and no other is. -/
theorem freeInstance_taken (h : me.isTaskBeingTraced i = true) :
    (me.freeInstance i).2 = 0 ∧
      (me.freeInstance i).1.isTaskBeingTraced
        = Function.update me.isTaskBeingTraced i false := by
  rw [freeInstance, if_neg (by simp [h])]
  exact ⟨rfl, rfl⟩

@[simp] theorem storePid_isTaskBeingTraced :
    (me.storePid i pid).isTaskBeingTraced = me.isTaskBeingTraced := rfl

@[simp] theorem storePid_pid_self : ((me.storePid i pid).monitor i).pid = pid := by
  simp [storePid]

theorem storePid_pid_ne (h : j ≠ i) :
    ((me.storePid i pid).monitor j).pid = (me.monitor j).pid := by
  simp [storePid, Function.update_of_ne h]

end Supervisor

end RtTaskTrace
