import RtTaskTrace.User.TaskTrace
import RtTaskTrace.Lib.Runs

namespace RtTaskTrace

open Runs

/-!
# What failed initialisations leave behind

`TaskTrace_init` undoes nothing.  The pipe that an attempt has made stays when the `open` or the
`pthread_create` after it fails, and `SharedMem_userInit` takes a pipe that is there for one in
use: it leaves the removal to the supervisor.

* `init_pipe`, `init_succeeds_iff` — one attempt;
* `failedInit` — attempts that fail, one after the other;
* `retry_iff` — when the next one can succeed.
-/

variable {N : ℕ} [NeZero N]

namespace TaskTrace

/-- **The pipe after an attempt**: it was there, or has been made. -/
theorem init_pipe (pid : PidT) (pipeExists : Bool) (outcome : SharedMem.InitOutcome) :
    (init pid pipeExists outcome : TaskTrace N × Bool × ℤ).2.1
      = (pipeExists || outcome.mkfifo) := by
  obtain ⟨mkfifo, opened, pthreadCreate⟩ := outcome
  cases pipeExists <;> cases mkfifo <;> cases opened <;> cases pthreadCreate <;> rfl

/-- **An attempt succeeds** when there was no pipe and no system call fails. -/
theorem init_succeeds_iff (pid : PidT) (pipeExists : Bool) (outcome : SharedMem.InitOutcome) :
    (init pid pipeExists outcome : TaskTrace N × Bool × ℤ).2.2 = 0 ↔
      pipeExists = false ∧ outcome.mkfifo = true ∧ outcome.opened = true ∧
        outcome.pthreadCreate = true := by
  obtain ⟨mkfifo, opened, pthreadCreate⟩ := outcome
  cases pipeExists <;> cases mkfifo <;> cases opened <;> cases pthreadCreate <;>
    simp [init, Gateway.init, SharedMem.userInit]

/-- An attempt that fails, on whether the task's pipe exists; `none` for one that succeeds. -/
def failedInit (N : ℕ) [NeZero N] (pid : PidT) (pipeExists : Bool)
    (outcome : SharedMem.InitOutcome) : Option Bool :=
  let (_, pipeExists, ret) := (init pid pipeExists outcome : TaskTrace N × Bool × ℤ)
  if ret ≠ 0 then some pipeExists else none

theorem failedInit_eq_some {pid : PidT} {pipe pipe' : Bool} {outcome : SharedMem.InitOutcome}
    (h : failedInit N pid pipe outcome = some pipe') : pipe' = (pipe || outcome.mkfifo) := by
  unfold failedInit at h
  simp only at h
  split at h
  · rw [← Option.some.inj h, init_pipe]
  · cases h

/-- **When a later initialisation can succeed.**  After any number of attempts that failed, in a
    task that had no pipe, the pipe is there exactly if one of them has made it; a call whose
    system calls all succeed returns 0 exactly if none has. -/
theorem retry_iff {pid : PidT} {attempts : List SharedMem.InitOutcome} {pipe : Bool}
    (h : Run (failedInit N pid) false attempts pipe) :
    (pipe = true ↔ ∃ outcome ∈ attempts, outcome.mkfifo = true) ∧
      ((init pid pipe ⟨true, true, true⟩ : TaskTrace N × Bool × ℤ).2.2 = 0 ↔
        ∀ outcome ∈ attempts, outcome.mkfifo = false) := by
  have hpipe : pipe = true ↔ ∃ outcome ∈ attempts, outcome.mkfifo = true := by
    -- By induction over the attempts: none takes away what another has made.
    refine h.history_induction (P := fun attempts pipe =>
      pipe = true ↔ ∃ outcome ∈ attempts, outcome.mkfifo = true) (by simp) ?_
    intro attempts pipe outcome pipe' _ ih hstep
    rw [failedInit_eq_some hstep, Bool.or_eq_true, ih]
    simp [or_and_right, exists_or]
  refine ⟨hpipe, ?_⟩
  rw [init_succeeds_iff, and_iff_left ⟨rfl, rfl, rfl⟩, ← Bool.not_eq_true, hpipe]
  simp

/-- Two attempts without `mkfifoat`, and the next one succeeds. -/
theorem retry_succeeds :
    (init 7 false ⟨true, true, true⟩ : TaskTrace queueSize × Bool × ℤ).2.2 = 0 := by
  have hrun : Run (failedInit queueSize 7) false [⟨false, true, true⟩, ⟨false, false, false⟩]
      false := rfl
  exact (retry_iff hrun).2.mpr (by decide)

/-- One attempt without `open`, or without a thread: the call returns an error, the pipe stays,
    and the next call returns an error whatever the system calls do. -/
theorem retry_refused :
    (init 7 false ⟨true, false, true⟩ : TaskTrace queueSize × Bool × ℤ).2 = (true, -1) ∧
    (init 7 false ⟨true, true, false⟩ : TaskTrace queueSize × Bool × ℤ).2 = (true, -1) ∧
    (init 7 true ⟨true, true, true⟩ : TaskTrace queueSize × Bool × ℤ).2.2 = -1 := ⟨rfl, rfl, rfl⟩

end TaskTrace

end RtTaskTrace
