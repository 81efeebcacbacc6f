import RtTaskTrace.Supervisor.Supervisor

namespace RtTaskTrace

/-!
# The terminal interface (`Supervisor/TerminalInterface`)

One thread redraws the screen once a second.  A frame has three blocks, for the deadline tasks,
the FIFO tasks and all others; each is drawn by one pass over the table with its mutex held, and
each pass asks the kernel again for the policy of every slot that is taken.  A frame is here the
list of its `mvprintw` calls; the height of the screen, beyond which a line is not shown, is left out.

* `Block` — the three blocks, and which policies each `shows`;
* `ScreenLine` — what one `mvprintw` prints; the line number is its place in the frame;
* `TerminalInterface.draw` — one step of the thread; `draw_clear` to `draw_unlock` say all
  that one can do.

The pid of a slot is read once for the question and once for the line, since the checker writes
it without the mutex.  The metrics printed belong to a monitor that may be writing them.
-/

/-! ### Blocks -/

/-- The blocks of a frame, in the order they are drawn. -/
inductive Block
  | deadline
  | fifo
  | other
  deriving DecidableEq, Repr

namespace Block

/-- The policies whose tasks a block shows. -/
def shows : Block → ℤ → Bool
  | .deadline, policy => policy = schedDeadline
  | .fifo, policy => policy = schedFifo
  | .other, policy => !(decide (policy = schedFifo) || decide (policy = schedDeadline))

/-- The place of a block in the frame. -/
def place : Block → ℕ
  | .deadline => 0
  | .fifo => 1
  | .other => 2

/-- The block drawn after this one. -/
def next : Block → Option Block
  | .deadline => some .fifo
  | .fifo => some .other
  | .other => none

theorem place_lt_next {b b' c : Block} (h : b.next = some b') :
    c.place < b'.place ↔ c.place < b.place ∨ c = b := by
  cases b <;> cases h <;> cases c <;> decide

theorem place_lt_of_next {b b' : Block} (h : b.next = some b') : b.place < b'.place :=
  (place_lt_next h).mpr (Or.inr rfl)

theorem place_le_last {b c : Block} (h : b.next = none) : c.place < b.place ∨ c = b := by
  cases b <;> cases h
  cases c <;> decide

/-- **Each policy is shown by one block.** -/
theorem shows_once (policy : ℤ) :
    (deadline.shows policy).toNat + (fifo.shows policy).toNat + (other.shows policy).toNat = 1 := by
  by_cases hdeadline : policy = schedDeadline
  · subst hdeadline
    decide
  · by_cases hfifo : policy = schedFifo
    · subst hfifo
      decide
    · simp [shows, hdeadline, hfifo]

end Block

/-! ### Lines -/

/-- The values a line about a deadline task is printed from. -/
structure DeadlineLine where
  pid : PidT
  lastRT : UInt64
  WCRT : UInt64
  lastLatency : Int64
  maxLatency : Int64
  totalAltoAdjust : Int64
  cycleCount : UInt32
  deadlineLostCount : UInt32
  runtimeOverrunCount : UInt32
  taskDepletedCount : UInt32
  props : DeadlineProps
  deriving DecidableEq, Repr

/-- The response times printed for a task of another policy. -/
structure ResponseTimes where
  lastRT : UInt64
  minRT : UInt64
  WCRT : UInt64
  deriving DecidableEq, Repr

/-- What one `mvprintw` shows.  (The divisions that turn nanoseconds into the milliseconds of the
    columns are left out.) -/
inductive ScreenLine
  | userInputs (enableLogging : Bool)
  | text (text : String)
  | deadline (line : DeadlineLine)
  | fifo (pid : PidT) (priority : ℤ) (times : ResponseTimes)
  | other (pid : PidT) (schedulerPolicy : String) (priority : ℤ) (times : ResponseTimes)
  deriving DecidableEq, Repr

/-- The block a line is in and the pid it is about. -/
def ScreenLine.about : ScreenLine → Option (Block × PidT)
  | .userInputs _ | .text _ => none
  | .deadline line => some (.deadline, line.pid)
  | .fifo pid _ _ => some (.fifo, pid)
  | .other pid _ _ _ => some (.other, pid)

/-- The number of lines about a pid in a block. -/
def linesAbout (b : Block) (pid : PidT) (lines : List ScreenLine) : ℕ :=
  lines.countP fun line => line.about = some (b, pid)

@[simp] theorem linesAbout_append (b : Block) (pid : PidT) (lines lines' : List ScreenLine) :
    linesAbout b pid (lines ++ lines') = linesAbout b pid lines + linesAbout b pid lines' :=
  List.countP_append

@[simp] theorem linesAbout_singleton (b : Block) (pid : PidT) (line : ScreenLine) :
    linesAbout b pid [line] = if line.about = some (b, pid) then 1 else 0 := by
  simp [linesAbout, List.countP_cons]

/-- The number of lines about a pid in a frame. -/
def allLinesAbout (pid : PidT) (lines : List ScreenLine) : ℕ :=
  lines.countP fun line => line.about.any fun x => x.2 = pid

/-- Each line about a pid is in one of the blocks. -/
theorem allLinesAbout_eq (pid : PidT) (lines : List ScreenLine) :
    allLinesAbout pid lines
      = linesAbout .deadline pid lines + linesAbout .fifo pid lines
        + linesAbout .other pid lines := by
  induction lines with
  | nil => rfl
  | cons line lines ih =>
    simp only [allLinesAbout, linesAbout] at ih
    simp only [allLinesAbout, linesAbout, List.countP_cons, ih]
    cases habout : line.about with
    | none => simp
    | some x =>
      obtain ⟨b, pid'⟩ := x
      cases b <;> simp <;> split <;> omega

/-- What is printed above a block. -/
def Block.headings : Block → List ScreenLine
  | .deadline =>
    [.text "SCHED_DEADLINE TASKS:",
     .text "PID      PRI    RESPONSE_TIME(ms)    WCRT(ms)    Latency(us)   maxLat(us)  adjusted(us)  cycles     dlLosts  rtOverrun  depleted   RUNTIME(ms)    DEADLINE(ms)    PERIOD(ms)    RUN%    PROC%"]
  | .fifo =>
    [.text "SCHED_FIFO TASKS:", .text "PID      PRI    RESPONSE_TIME(ms)    MIN_RT(ms)  WCRT(ms)"]
  | .other =>
    [.text "Other policys:",
     .text "PID      SCHEDTYPE       PRI    RESPONSE_TIME(ms)    MIN_RT(ms)  WCRT(ms)"]

/-- What is printed between two blocks is about no task. -/
theorem linesAbout_headings (b c : Block) (pid : PidT) (lines : List ScreenLine) :
    linesAbout b pid (lines ++ [.text "\n"] ++ c.headings) = linesAbout b pid lines := by
  rw [linesAbout_append, linesAbout_append]
  cases c <;> rfl

/-! ### The thread -/

/-- Where the thread stands: asleep; about to lock the mutex for a block; before a slot of it;
    or with the answer for the policy of a slot that the block shows. -/
inductive DrawPc (M : ℕ)
  | asleep
  | locking (b : Block)
  | slot (b : Block) (i : ℕ)
  | answered (b : Block) (i : Fin M) (policy : ℤ)
  deriving DecidableEq, Repr

/-- The thread holds the mutex of the table. -/
def DrawPc.locked {M : ℕ} : DrawPc M → Bool
  | .slot _ _ | .answered _ _ _ => true
  | _ => false

/-- `TerminalInterface`: where its thread stands, its buffer for the name of a policy, the lines
    of the frame it draws, and those of the frame last put on the screen. -/
structure TerminalInterface (M : ℕ) where
  pc : DrawPc M
  schedulerPolicy : String
  lines : List ScreenLine
  shown : List ScreenLine
  deriving DecidableEq

/-- What is read for a line besides the pid: the metrics of the slot, and the kernel's answers
    to `PID_getDeadlinePropeties` and `PID_getPriority`. -/
structure LineReads where
  metrics : MonitorMetrics
  scheduler : ℤ
  attr : Option SchedAttr
  param : Option ℤ
  deriving DecidableEq, Repr

/-- A step of the thread.  `slot` is one turn of the loop up to the policy, with the kernel's
    answer for it; `print` is the rest of a turn that gets further. -/
inductive DrawEvent
  | clear
  | lock
  | slot (scheduler : ℤ)
  | print (reads : LineReads)
  | unlock
  deriving DecidableEq, Repr

namespace TerminalInterface

variable {M : ℕ} {me me' : TerminalInterface M} {supervisor : Supervisor M}

/-- The thread has been started; what is in the buffer is not known. -/
def start (schedulerPolicy : String) : TerminalInterface M := ⟨.asleep, schedulerPolicy, [], []⟩

/-- The response times of a slot. -/
def responseTimes (metrics : MonitorMetrics) : ResponseTimes :=
  ⟨metrics.lastRT, metrics.minRT, metrics.WCRT⟩

/-- The line about a deadline task.  Parameters that cannot be read are shown as zeros. -/
def deadlineLine (pid : PidT) (reads : LineReads) : DeadlineLine where
  pid := pid
  lastRT := reads.metrics.lastRT
  WCRT := reads.metrics.WCRT
  lastLatency := reads.metrics.lastLatency
  maxLatency := reads.metrics.maxLatency
  totalAltoAdjust := reads.metrics.totalAltoAdjust
  cycleCount := reads.metrics.cycleCount.toUInt32
  deadlineLostCount := reads.metrics.deadlineLostCount
  runtimeOverrunCount := reads.metrics.runtimeOverrunCount
  taskDepletedCount := reads.metrics.taskDepletedCount
  props :=
    match PID.getDeadlinePropeties reads.scheduler reads.attr with
    | .ok props => props
    | .error _ => ⟨0, 0, 0⟩

/-- The line a block has for a task; `schedulerPolicy` is what the buffer holds. -/
def line (b : Block) (pid : PidT) (schedulerPolicy : String) (reads : LineReads) : ScreenLine :=
  match b with
  | .deadline => .deadline (deadlineLine pid reads)
  | .fifo => .fifo pid (-1 - PID.getPriority reads.param) (responseTimes reads.metrics)
  | .other =>
    .other pid schedulerPolicy (PID.getPriority reads.param) (responseTimes reads.metrics)

/-- The question for the policy of a slot, and the buffer afterwards: only the last block passes
    its buffer. -/
def askPolicy (b : Block) (schedulerPolicy : String) (scheduler : ℤ) : ℤ × String :=
  match b with
  | .deadline | .fifo => (PID.getSchedulerPolicy scheduler, schedulerPolicy)
  | .other => PID.getSchedulerPolicyInto schedulerPolicy scheduler

/-- The buffer when the line is printed: `UNKNOWN` after a question that failed. -/
def policyText (b : Block) (policy : ℤ) (schedulerPolicy : String) : String :=
  match b with
  | .deadline | .fifo => schedulerPolicy
  | .other => if policy < 0 then "UNKNOWN" else schedulerPolicy

/-- One step of `TerminalInterface_interfaceUpdateTask`. -/
def draw (me : TerminalInterface M) (supervisor : Supervisor M) :
    DrawEvent → Option (TerminalInterface M)
  | .clear =>
    match me.pc with
    | .asleep =>
      some { me with
        pc := .locking .deadline
        lines := .userInputs supervisor.enableLogging :: Block.deadline.headings }
    | _ => none
  | .lock =>
    match me.pc with
    | .locking b => some { me with pc := .slot b 0 }
    | _ => none
  | .slot scheduler =>
    match me.pc with
    | .slot b i =>
      if h : i < M then
        if supervisor.isTaskBeingTraced ⟨i, h⟩ then
          let (policy, schedulerPolicy) := askPolicy b me.schedulerPolicy scheduler
          if b.shows policy then
            some { me with pc := .answered b ⟨i, h⟩ policy, schedulerPolicy := schedulerPolicy }
          else some { me with pc := .slot b (i + 1), schedulerPolicy := schedulerPolicy }
        else some { me with pc := .slot b (i + 1) }
      else none
    | _ => none
  | .print reads =>
    match me.pc with
    | .answered b i policy =>
      let schedulerPolicy := policyText b policy me.schedulerPolicy
      some { me with
        pc := .slot b (i + 1)
        schedulerPolicy := schedulerPolicy
        lines := me.lines ++ [line b (supervisor.monitor i).pid schedulerPolicy reads] }
    | _ => none
  | .unlock =>
    match me.pc with
    | .slot b i =>
      if i < M then none
      else match b.next with
        | some b' =>
          some { me with pc := .locking b', lines := me.lines ++ [.text "\n"] ++ b'.headings }
        | none => some { me with pc := .asleep, shown := me.lines }
    | _ => none

/-- The line of a block is in that block, and about the pid it was given. -/
@[simp] theorem line_about (b : Block) (pid : PidT) (schedulerPolicy : String)
    (reads : LineReads) : (line b pid schedulerPolicy reads).about = some (b, pid) := by
  cases b <;> rfl

/-- A line printed counts in its block for its pid. -/
theorem linesAbout_line_self (b : Block) (pid : PidT) (schedulerPolicy : String)
    (reads : LineReads) (lines : List ScreenLine) :
    linesAbout b pid (lines ++ [line b pid schedulerPolicy reads]) = linesAbout b pid lines + 1 := by
  simp

/-- And in no other, or for no other. -/
theorem linesAbout_line_of_ne {b b' : Block} {pid pid' : PidT} (hne : b ≠ b' ∨ pid ≠ pid')
    (schedulerPolicy : String) (reads : LineReads) (lines : List ScreenLine) :
    linesAbout b' pid' (lines ++ [line b pid schedulerPolicy reads])
      = linesAbout b' pid' lines := by
  have hother : some (b, pid) ≠ some (b', pid') := by
    intro heq
    obtain ⟨hb, hpid⟩ := Prod.mk.inj (Option.some.inj heq)
    exact hne.elim (fun h => h hb) (fun h => h hpid)
  rw [linesAbout_append, linesAbout_singleton, line_about, if_neg hother, Nat.add_zero]

/-- The policy asked for is the kernel's answer. -/
@[simp] theorem askPolicy_fst (b : Block) (schedulerPolicy : String) (scheduler : ℤ) :
    (askPolicy b schedulerPolicy scheduler).1 = scheduler := by
  cases b
  · exact PID.getSchedulerPolicy_eq scheduler
  · exact PID.getSchedulerPolicy_eq scheduler
  · simp only [askPolicy, PID.getSchedulerPolicyInto]
    split
    · exact Eq.symm ‹_›
    · rfl

/-- **The name printed is that of the policy answered**, and nothing left in the buffer. -/
theorem policyText_askPolicy (schedulerPolicy : String) {scheduler : ℤ} (h : -1 ≤ scheduler) :
    policyText .other scheduler (askPolicy .other schedulerPolicy scheduler).2
      = PID.policyAsString scheduler := by
  by_cases hfailed : scheduler = -1
  · subst hfailed
    rfl
  · simp only [policyText, askPolicy, PID.getSchedulerPolicyInto, if_neg hfailed]
    exact if_neg (by omega)

/-! ### What a step does -/

theorem draw_clear (h : me.draw supervisor .clear = some me') :
    me.pc = .asleep ∧
      me' = { me with
        pc := .locking .deadline
        lines := .userInputs supervisor.enableLogging :: Block.deadline.headings } := by
  simp only [draw] at h
  split at h
  · exact ⟨‹_›, (Option.some.inj h).symm⟩
  · exact absurd h (by simp)

theorem draw_lock (h : me.draw supervisor .lock = some me') :
    ∃ b, me.pc = .locking b ∧ me' = { me with pc := .slot b 0 } := by
  simp only [draw] at h
  split at h
  · exact ⟨_, ‹_›, (Option.some.inj h).symm⟩
  · exact absurd h (by simp)

/-- **What a turn of the loop does.**  It goes on with a slot that is taken, if the block shows
    the policy answered. -/
theorem draw_slot {scheduler : ℤ} (h : me.draw supervisor (.slot scheduler) = some me') :
    ∃ (b : Block) (i : Fin M), me.pc = .slot b i ∧
      (supervisor.isTaskBeingTraced i = false ∧ me' = { me with pc := .slot b (i + 1) } ∨
       supervisor.isTaskBeingTraced i = true ∧ b.shows scheduler = true ∧
        me' = { me with
          pc := .answered b i scheduler
          schedulerPolicy := (askPolicy b me.schedulerPolicy scheduler).2 } ∨
       supervisor.isTaskBeingTraced i = true ∧ b.shows scheduler = false ∧
        me' = { me with
          pc := .slot b (i + 1)
          schedulerPolicy := (askPolicy b me.schedulerPolicy scheduler).2 }) := by
  simp only [draw, askPolicy_fst] at h
  split at h
  · rename_i b i hpc
    by_cases hi : i < M
    · rw [dif_pos hi] at h
      refine ⟨b, ⟨i, hi⟩, hpc, ?_⟩
      by_cases htaken : supervisor.isTaskBeingTraced ⟨i, hi⟩ = true
      · rw [if_pos htaken] at h
        by_cases hshows : b.shows scheduler = true
        · rw [if_pos hshows] at h
          exact .inr (.inl ⟨htaken, hshows, (Option.some.inj h).symm⟩)
        · rw [if_neg hshows] at h
          exact .inr (.inr ⟨htaken, Bool.eq_false_iff.mpr hshows, (Option.some.inj h).symm⟩)
      · rw [if_neg htaken] at h
        exact .inl ⟨Bool.eq_false_iff.mpr htaken, (Option.some.inj h).symm⟩
    · rw [dif_neg hi] at h
      exact absurd h (by simp)
  · exact absurd h (by simp)

theorem draw_print {reads : LineReads} (h : me.draw supervisor (.print reads) = some me') :
    ∃ (b : Block) (i : Fin M) (policy : ℤ), me.pc = .answered b i policy ∧
      me' = { me with
        pc := .slot b (i + 1)
        schedulerPolicy := policyText b policy me.schedulerPolicy
        lines := me.lines ++ [line b (supervisor.monitor i).pid
          (policyText b policy me.schedulerPolicy) reads] } := by
  simp only [draw] at h
  split at h
  · exact ⟨_, _, _, ‹_›, (Option.some.inj h).symm⟩
  · exact absurd h (by simp)

/-- **What the end of a pass does.**  It goes on to the next block, or to the screen. -/
theorem draw_unlock (h : me.draw supervisor .unlock = some me') :
    ∃ (b : Block) (i : ℕ), me.pc = .slot b i ∧ M ≤ i ∧
      ((∃ b', b.next = some b' ∧
          me' = { me with
            pc := .locking b', lines := me.lines ++ [.text "\n"] ++ b'.headings }) ∨
        b.next = none ∧ me' = { me with pc := .asleep, shown := me.lines }) := by
  simp only [draw] at h
  split at h
  · rename_i b i hpc
    by_cases hi : i < M
    · rw [if_pos hi] at h
      exact absurd h (by simp)
    · rw [if_neg hi] at h
      refine ⟨b, i, hpc, Nat.not_lt.mp hi, ?_⟩
      split at h
      · exact .inl ⟨_, ‹_›, (Option.some.inj h).symm⟩
      · exact .inr ⟨‹_›, (Option.some.inj h).symm⟩
  · exact absurd h (by simp)

end TerminalInterface

end RtTaskTrace
