import RtTaskTrace.Supervisor.LogRing

namespace RtTaskTrace

/-!
# A log file that cannot be opened

`Log_generateIfNeeded` asks `List_checkIfReadyToLog` before it opens the file, and the answer
takes the pending exception with it.  When `fopen` fails then, the points are still there and
the flag is not: the block they make is never written.

* `PointList.Ready` — the answer;
* `Log.failing` — the log after some calls whose `fopen` fails; `failing_ready` for a list that is
  due, `failing_waiting` for one that is not;
* `log_failures_iff` — a failure is harmless only where it does not happen.
-/

variable {N : ℕ} [NeZero N]

/-- The list is full and one of its points was an exception. -/
def PointList.Ready (me : PointList N) : Prop :=
  me.numberOfDataOnBuffer ≥ N ∧ me.exceptionHappend = true

instance (me : PointList N) : Decidable me.Ready := inferInstanceAs (Decidable (_ ∧ _))

namespace Log

variable {me : Log N}

/-- The log after `failures` calls of `Log_generateIfNeeded` whose `fopen` fails. -/
def failing (me : Log N) (failures : ℕ) : Log N :=
  (fun me => (me.generateIfNeeded false).1)^[failures] me

omit [NeZero N] in
/-- **A failure on a list that is due** takes its flag down. -/
theorem generateIfNeeded_failed (henabled : me.enabled = true) (h : me.list.Ready) :
    me.generateIfNeeded false
      = ({ me with list := { me.list with exceptionHappend := false } }, []) := by
  have hready : me.list.checkIfReadyToLog = ({ me.list with exceptionHappend := false }, true) :=
    if_pos h
  simp only [generateIfNeeded, henabled, hready, Bool.true_eq_false, if_false, if_true]

omit [NeZero N] in
/-- A list that is not due is not written, and nothing is opened for it. -/
theorem generateIfNeeded_notReady (h : ¬ me.list.Ready) (fopen : Bool) :
    me.generateIfNeeded fopen = (me, []) := by
  have hready : me.list.checkIfReadyToLog = (me.list, false) := if_neg h
  simp only [generateIfNeeded, hready, if_true]
  split <;> rfl

omit [NeZero N] in
theorem failing_waiting (h : ¬ me.list.Ready) (failures : ℕ) : me.failing failures = me := by
  unfold failing
  apply Function.iterate_fixed
  rw [generateIfNeeded_notReady h]

omit [NeZero N] in
/-- **However often it fails**, the flag is down after the first time. -/
theorem failing_ready (henabled : me.enabled = true) (h : me.list.Ready) (failures : ℕ) :
    me.failing (failures + 1)
      = { me with list := { me.list with exceptionHappend := false } } := by
  have hdown : ¬ ({ me.list with exceptionHappend := false } : PointList N).Ready :=
    fun hready => Bool.false_ne_true hready.2
  have hfirst : me.failing (failures + 1)
      = ({ me with list := { me.list with exceptionHappend := false } } : Log N).failing failures := by
    rw [failing, Function.iterate_succ_apply, generateIfNeeded_failed henabled h]
    rfl
  rw [hfirst]
  exact failing_waiting hdown failures

/-- **When failures lose nothing.**  The list is as it was, and a list that is due is written in
    full by the call that succeeds, exactly when the list is not due, so that no `fopen` is tried,
    or no `fopen` fails. -/
theorem log_failures_iff (me : Log N) (henabled : me.enabled = true) (failures : ℕ) :
    ((me.failing failures).list = me.list ∧
      (me.list.Ready →
        ((me.failing failures).generateIfNeeded true).2 = me.list.unread.map Data.row)) ↔
      ¬ me.list.Ready ∨ failures = 0 := by
  constructor
  · rintro ⟨hsame, -⟩
    by_contra hnot
    obtain ⟨hready, hne⟩ := not_or.mp hnot
    rw [not_not] at hready
    obtain ⟨n, rfl⟩ := Nat.exists_eq_succ_of_ne_zero hne
    -- The flag was up and has been taken down.
    rw [Nat.succ_eq_add_one, failing_ready henabled hready] at hsame
    have hflag := congrArg PointList.exceptionHappend hsame
    rw [hready.2] at hflag
    exact Bool.false_ne_true hflag
  · rintro (hwait | rfl)
    · rw [failing_waiting hwait]
      exact ⟨rfl, fun hready => absurd hready hwait⟩
    · refine ⟨rfl, fun hready => ?_⟩
      have hlevel : me.list.unread.length = N := by
        rw [← me.list.holds_unread.level]
        exact le_antisymm me.list.bounded hready.1
      obtain ⟨list, hdump, -⟩ :=
        generateIfNeeded_ready me henabled me.list.holds_unread hlevel hready.2
      show (me.generateIfNeeded true).2 = _
      rw [hdump]

/-- Five points, the last of them an exception: a log that is due. -/
def dueLog : Log numberOfPoints where
  list := [false, false, false, false, true].foldl
    (fun list isException => list.add { (default : Data) with isException := isException })
    (PointList.init default)
  enabled := true
  file := "5.csv"

/-- The same log one point earlier. -/
def fillingLog : Log numberOfPoints where
  list := [false, false, false, true].foldl
    (fun list isException => list.add { (default : Data) with isException := isException })
    (PointList.init default)
  enabled := true
  file := "5.csv"

/-- A log that is not due loses nothing to three calls that could not have opened the file, and one
    that is due is written in full by the first call when no `fopen` fails. -/
theorem log_failures_filling :
    ((fillingLog.failing 3).list = fillingLog.list ∧
      (fillingLog.list.Ready →
        ((fillingLog.failing 3).generateIfNeeded true).2 = fillingLog.list.unread.map Data.row)) ∧
    dueLog.list.unread.length = numberOfPoints ∧
      ((dueLog.failing 0).generateIfNeeded true).2 = dueLog.list.unread.map Data.row :=
  ⟨(log_failures_iff fillingLog rfl 3).mpr (Or.inl (by decide)), by decide,
    ((log_failures_iff dueLog rfl 0).mpr (Or.inr rfl)).2 (by decide)⟩

/-- One failure on a log that is due: the flag is down, and the next call writes nothing. -/
theorem log_failure_drops_block :
    dueLog.enabled = true ∧ dueLog.list.Ready ∧ dueLog.list.unread.length = numberOfPoints ∧
      (dueLog.generateIfNeeded false).1.list.exceptionHappend ≠ dueLog.list.exceptionHappend ∧
      ((dueLog.failing 1).generateIfNeeded true).2 = [] :=
  ⟨rfl, by decide, by decide, by decide, rfl⟩

end Log

end RtTaskTrace
