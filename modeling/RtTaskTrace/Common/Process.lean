import RtTaskTrace.Common.Telegram

namespace RtTaskTrace

/-!
# The process queries (`Common/Process`)

Every function here asks the kernel something.  The kernel's answers are arguments: a caller
that asks twice passes two answers, so that whatever another process does between the two
calls is covered by quantifying over them.
-/

/-- `SCHED_OTHER`. -/
def schedOther : ℤ := 0

/-- `SCHED_FIFO`. -/
def schedFifo : ℤ := 1

/-- `SCHED_RR`. -/
def schedRr : ℤ := 2

/-- `SCHED_DEADLINE`. -/
def schedDeadline : ℤ := 6

/-- The fields of `struct sched_attr` that are read back. -/
structure SchedAttr where
  runtime : UInt64
  deadline : UInt64
  period : UInt64
  deriving DecidableEq, Repr, Inhabited

/-- The deadline parameters as `PID_getDeadlinePropeties` hands them out. -/
structure DeadlineProps where
  runtime : UInt64
  deadline : UInt64
  period : UInt64
  deriving DecidableEq, Repr, Inhabited

namespace PID

/-- `PID_getSchedulerPolicy`, given the answer of `sched_getscheduler`. -/
def getSchedulerPolicy (policy : ℤ) : ℤ :=
  if policy = -1 then -1 else policy

/-- The text `PID_getSchedulerPolicy` writes for a caller that passes a buffer. -/
def policyAsString (policy : ℤ) : String :=
  if policy = schedOther then "SCHED_OTHER"
  else if policy = schedFifo then "SCHED_FIFO"
  else if policy = schedDeadline then "SCHED_DEADLINE"
  else if policy = schedRr then "SCHED_RR"
  else "UNKNOWN"

@[simp] theorem getSchedulerPolicy_eq (policy : ℤ) : getSchedulerPolicy policy = policy := by
  unfold getSchedulerPolicy
  split <;> simp_all

/-- `PID_getDeadlinePropeties`, given the answer of `sched_getscheduler` and then that of
    `sched_getattr` (`none` when the call fails). -/
def getDeadlinePropeties (policy : ℤ) (attr : Option SchedAttr) : Except ℤ DeadlineProps :=
  if getSchedulerPolicy policy ≠ schedDeadline then .error (-1)
  else match attr with
    | none => .error (-2)
    | some attr => .ok ⟨attr.runtime, attr.deadline, attr.period⟩

/-- The parameters are read exactly when the task is a deadline task and its attributes can
    be read. -/
theorem getDeadlinePropeties_eq_ok_iff (policy : ℤ) (attr : Option SchedAttr)
    (props : DeadlineProps) :
    getDeadlinePropeties policy attr = .ok props ↔
      policy = schedDeadline ∧ attr = some ⟨props.runtime, props.deadline, props.period⟩ := by
  unfold getDeadlinePropeties
  by_cases hpol : policy = schedDeadline
  · cases attr with
    | none => simp [hpol]
    | some attr =>
      obtain ⟨runtime, deadline, period⟩ := attr
      obtain ⟨runtime', deadline', period'⟩ := props
      simp [hpol]
  · simp [hpol]

/-- `PID_getSchedulerPolicy` with a buffer: the answer, and what the buffer then holds.  A call
    that fails leaves the buffer as it was. -/
def getSchedulerPolicyInto (policyAsString : String) (policy : ℤ) : ℤ × String :=
  if policy = -1 then (-1, policyAsString) else (policy, PID.policyAsString policy)

/-- `PID_getPriority`, given the priority `sched_getparam` reads (`none` when it fails). -/
def getPriority (param : Option ℤ) : ℤ := param.getD (-1)

/-- `PID_checkIfExist`, given the caller's effective user and whether `kill(pid, 0)`
    succeeds for each process id. -/
def checkIfExist (euid : ℕ) (kill : PidT → Bool) (pid : PidT) : ℤ :=
  if euid ≠ 0 then -1
  else if kill pid then 1
  else 0

/-- Asked by root, the answer is the truth. -/
theorem checkIfExist_root (kill : PidT → Bool) (pid : PidT) :
    checkIfExist 0 kill pid = 0 ↔ kill pid = false := by
  cases h : kill pid <;> simp [checkIfExist, h]

end PID

end RtTaskTrace
