import RtTaskTrace.System.Slots

namespace RtTaskTrace

open Runs

/-!
# What the cleanup thread removes

The cleanup thread tests that a pid is not traced, then that no process of it exists, and then
removes its pipe; the other threads and the tasks go on between these.

* `Supervision.Overtaken` — the checker has stored a pid since the cleanup thread last tested the
  table.  `removals_spare_traced_iff`: a removal hits a traced task exactly then, and
  `removal_of_traced` is a run in which it does;
* `World.Orphaned` — the pipe's creator is dead.  That no process of the pid exists stays
  untrue once a new one starts, but the new one finds the pipe and does not replace it:
  `removals_spare_live`.
-/

variable {M : ℕ}

/-- The pid that the cleanup thread holds. -/
def CleanerPc.pid : CleanerPc → Option PidT
  | .reading => none
  | .entry pid | .untraced pid | .gone pid => some pid

/-- The pid that the cleanup thread holds, once it has found it untraced. -/
def CleanerPc.tested : CleanerPc → Option PidT
  | .reading | .entry _ => none
  | .untraced pid | .gone pid => some pid

theorem CleanerPc.pid_of_tested {pc : CleanerPc} {pid : PidT} (h : pc.tested = some pid) :
    pc.pid = some pid := by
  cases pc with
  | reading => exact absurd h (by simp [tested])
  | entry pid' => exact absurd h (by simp [tested])
  | untraced pid' => exact h
  | gone pid' => exact h

namespace Tracing

variable {s s' : Tracing M} {w : World} {pid : PidT}

/-- No slot that is taken holds the pid. -/
def Clear (s : Tracing M) (pid : PidT) : Prop := s.supervisor.checkIfTaskIsBeingTraced pid = false

theorem clear_iff : s.Clear pid ↔ ∀ i, s.Taken i → s.pidAt i ≠ pid :=
  Supervisor.checkIfTaskIsBeingTraced_eq_false

/-- The checker is about to store the pid. -/
def storing (s : Tracing M) (pid : PidT) : Bool :=
  match s.checker with
  | .reserved pid' _ => decide (pid' = pid)
  | _ => false

/-- **What the checker does to a positive pid.**  No slot holds it afterwards when none held it
    before, and the checker has not stored just that. -/
theorem check_clear (h : s.Ok) (hpos : 0 < pid) {e : CheckerEvent}
    (hstep : s.check e = some s') :
    s'.Clear pid ↔ s.Clear pid ∧ ¬ (e = .store ∧ s.storing pid = true) := by
  cases e with
  | entry pid' =>
    rw [and_iff_left (by simp)]
    rcases check_entry hstep with ⟨-, rfl | ⟨-, -, rfl⟩⟩ <;> exact Iff.rfl
  | reserve =>
    rw [and_iff_left (by simp)]
    rcases check_reserve hstep with ⟨pid', -, ⟨-, rfl⟩ | ⟨i, hfree, rfl⟩⟩
    · exact Iff.rfl
    · -- a slot never used holds no pid yet
      have hblank : s.pidAt i = 0 := h.blank i (Bool.eq_false_iff.mp hfree)
      rw [clear_iff, clear_iff]
      constructor
      · intro hnone j hj
        exact hnone j (taken_update.mpr (Or.inr hj))
      · intro hnone j hj
        rcases taken_update.mp hj with rfl | hold
        · intro heq
          rw [← show s.pidAt j = pid from heq, hblank] at hpos
          exact absurd hpos (by decide)
        · exact hnone j hold
  | store =>
    obtain ⟨pid', i, hpc, rfl⟩ := check_store hstep
    obtain ⟨htaken, hblank, -, -⟩ := h.reserved pid' i hpc
    have hstoring : s.storing pid = true ↔ pid' = pid := by
      rw [storing, hpc]
      exact decide_eq_true_iff
    rw [clear_iff, clear_iff, and_iff_right rfl, hstoring]
    constructor
    · intro hnone
      refine ⟨fun j hj heq => ?_, fun heq => ?_⟩
      · -- The slot stored to held no positive pid.
        by_cases hji : j = i
        · rw [← heq, hji, hblank] at hpos
          exact absurd hpos (by decide)
        · exact hnone j hj ((Supervisor.storePid_pid_ne hji).trans heq)
      · exact hnone i htaken (Supervisor.storePid_pid_self.trans heq)
    · rintro ⟨hnone, hne⟩ j hj heq
      by_cases hji : j = i
      · apply hne
        rw [← heq, hji]
        exact Supervisor.storePid_pid_self.symm
      · exact hnone j hj ((Supervisor.storePid_pid_ne hji).symm.trans heq)
  | create ok =>
    rw [and_iff_left (by simp)]
    obtain ⟨pid', i, -, rfl⟩ := check_create hstep
    exact Iff.rfl

end Tracing

namespace Supervision

variable {s s' : Supervision M}

/-- The cleanup thread holds only positive pids. -/
def HoldsPositive (s : Supervision M) : Prop := ∀ pid, s.cleaner.pid = some pid → 0 < pid

theorem step_holdsPositive (h : s.HoldsPositive) {e : SupervisionEvent}
    (hstep : s.step e = some s') : s'.HoldsPositive := by
  cases e with
  | task e =>
    obtain ⟨w, -, rfl⟩ := Option.map_eq_some_iff.mp hstep
    exact h
  | checker e =>
    obtain ⟨tracing, -, rfl⟩ := Option.map_eq_some_iff.mp hstep
    exact h
  | monitor e =>
    obtain ⟨tracing, -, rfl⟩ := Option.map_eq_some_iff.mp hstep
    exact h
  | cleaner e =>
    have hreading : ∀ t : Supervision M, t.cleaner = .reading → t.HoldsPositive := by
      intro t hpc pid hpid
      rw [hpc] at hpid
      exact absurd hpid (by simp [CleanerPc.pid])
    intro pid hpid
    cases e with
    | entry pid' =>
      rcases clean_entry hstep with ⟨-, rfl | ⟨hpos, rfl⟩⟩
      · exact h pid hpid
      · exact Option.some.inj hpid ▸ hpos
    | checkTraced =>
      rcases clean_checkTraced hstep with ⟨pid', hpc, rfl | ⟨-, rfl⟩⟩
      · exact hreading _ rfl pid hpid
      · exact h pid (by rw [hpc]; exact hpid)
    | checkExist =>
      rcases clean_checkExist hstep with ⟨pid', hpc, ⟨-, rfl⟩ | ⟨-, rfl⟩⟩
      · exact hreading _ rfl pid hpid
      · exact h pid (by rw [hpc]; exact hpid)
    | remove ok =>
      obtain ⟨pid', -, rfl⟩ := clean_remove hstep
      exact hreading _ rfl pid hpid

/-! ### Pipes of traced tasks -/

/-- The checker stores the pid in a slot. -/
def Stores (pid : PidT) (s : Supervision M) (e : SupervisionEvent) : Prop :=
  e = .checker .store ∧ s.tracing.storing pid = true

instance (pid : PidT) (s : Supervision M) (e : SupervisionEvent) : Decidable (Stores pid s e) :=
  inferInstanceAs (Decidable (_ ∧ _))

/-- Since the cleanup thread last tested the table, the checker has stored the pid. -/
def Overtaken (pid : PidT) : Supervision M → List SupervisionEvent → Prop :=
  Since step (Stores pid) (.cleaner .checkTraced)

instance (pid : PidT) (s : Supervision M) (es : List SupervisionEvent) :
    Decidable (Overtaken pid s es) :=
  inferInstanceAs (Decidable (Since _ _ _ _ _))

/-- **A step changes whether a slot holds a positive pid** only when the checker stores it. -/
theorem step_clear (h : s.Ok) {pid : PidT} (hpos : 0 < pid) {e : SupervisionEvent}
    (hstep : s.step e = some s') :
    s'.tracing.Clear pid ↔ s.tracing.Clear pid ∧ ¬ Stores pid s e := by
  cases e with
  | task e =>
    obtain ⟨w, -, rfl⟩ := Option.map_eq_some_iff.mp hstep
    exact (and_iff_left (by simp [Stores])).symm
  | checker e =>
    obtain ⟨tracing, htracing, rfl⟩ := Option.map_eq_some_iff.mp hstep
    simp only [Stores, SupervisionEvent.checker.injEq]
    exact Tracing.check_clear h.tracing hpos htracing
  | monitor e =>
    obtain ⟨tracing, htracing, rfl⟩ := Option.map_eq_some_iff.mp hstep
    obtain ⟨k, m, phase, -, -, rfl, -⟩ := Tracing.serve_cases htracing
    exact (and_iff_left (by simp [Stores])).symm
  | cleaner e =>
    rw [(clean_frame hstep).1]
    exact (and_iff_left (by simp [Stores])).symm

/-- The cleanup thread comes to hold a pid it has tested by testing it. -/
theorem step_tested {pid : PidT} {e : SupervisionEvent} (hstep : s.step e = some s')
    (hpid : s'.cleaner.tested = some pid) :
    e = .cleaner .checkTraced ∧ s'.tracing.Clear pid ∨
      e ≠ .cleaner .checkTraced ∧ s.cleaner.tested = some pid := by
  cases e with
  | task e =>
    obtain ⟨w, -, rfl⟩ := Option.map_eq_some_iff.mp hstep
    exact .inr ⟨by simp, hpid⟩
  | checker e =>
    obtain ⟨tracing, -, rfl⟩ := Option.map_eq_some_iff.mp hstep
    exact .inr ⟨by simp, hpid⟩
  | monitor e =>
    obtain ⟨tracing, -, rfl⟩ := Option.map_eq_some_iff.mp hstep
    exact .inr ⟨by simp, hpid⟩
  | cleaner e =>
    cases e with
    | entry pid' =>
      refine .inr ⟨by simp, ?_⟩
      rcases clean_entry hstep with ⟨-, rfl | ⟨-, rfl⟩⟩
      · exact hpid
      · exact absurd hpid (by simp [CleanerPc.tested])
    | checkTraced =>
      refine .inl ⟨rfl, ?_⟩
      rcases clean_checkTraced hstep with ⟨pid', -, rfl | ⟨hclear, rfl⟩⟩
      · exact absurd hpid (by simp [CleanerPc.tested])
      · obtain rfl := Option.some.inj hpid
        exact hclear
    | checkExist =>
      refine .inr ⟨by simp, ?_⟩
      rcases clean_checkExist hstep with ⟨pid', hpc, ⟨-, rfl⟩ | ⟨-, rfl⟩⟩
      · exact absurd hpid (by simp [CleanerPc.tested])
      · rw [hpc]
        exact hpid
    | remove ok =>
      refine .inr ⟨by simp, ?_⟩
      obtain ⟨pid', -, rfl⟩ := clean_remove hstep
      exact absurd hpid (by simp [CleanerPc.tested])

/-- **Over every run**, no slot holds the pid that the cleanup thread has tested, unless the
    checker has stored it since. -/
theorem clear_iff_not_overtaken {enableLogging : Bool} {es : List SupervisionEvent}
    (h : Run step (start enableLogging) es s) :
    s.HoldsPositive ∧ ∀ pid, s.cleaner.tested = some pid →
      (s.tracing.Clear pid ↔ ¬ Overtaken pid (start enableLogging : Supervision M) es) := by
  refine h.history_induction (P := fun es s => s.HoldsPositive ∧
    ∀ pid, s.cleaner.tested = some pid →
      (s.tracing.Clear pid ↔ ¬ Overtaken pid (start enableLogging : Supervision M) es)) ?_ ?_
  · constructor
    · intro pid hpid
      exact absurd hpid (by simp [start, CleanerPc.pid])
    · intro pid hpid
      exact absurd hpid (by simp [start, CleanerPc.tested])
  · rintro es t e t' hrun ⟨hpos, ih⟩ hstep
    refine ⟨step_holdsPositive hpos hstep, fun pid hpid => ?_⟩
    rw [Overtaken, since_concat hrun]
    rcases step_tested hstep hpid with ⟨rfl, hclear⟩ | ⟨hne, hpid'⟩
    · -- the test itself starts the count anew
      refine iff_of_true hclear ?_
      rintro (⟨heq, -⟩ | ⟨-, heq⟩)
      · exact absurd heq (by simp)
      · exact heq rfl
    · rw [step_clear (ok_run hrun) (hpos pid (CleanerPc.pid_of_tested hpid')) hstep, ih pid hpid',
        and_iff_left hne, not_or, and_comm]
      exact Iff.rfl

/-- **Which removals hit a traced task.**  When the cleanup thread is about to remove the pipe of
    a pid, no slot that is taken holds the pid, unless the checker has stored it since the
    cleanup thread tested the table. -/
theorem removals_spare_traced_iff {enableLogging : Bool} {es : List SupervisionEvent} {pid : PidT}
    (h : Run step (start enableLogging) es s) (hpc : s.cleaner = .gone pid) :
    (∀ i, s.tracing.Taken i → s.tracing.pidAt i ≠ pid) ↔
      ¬ Overtaken pid (start enableLogging : Supervision M) es := by
  rw [← Tracing.clear_iff]
  exact (clear_iff_not_overtaken h).2 pid (by rw [hpc]; rfl)

/-- The cleanup thread goes from an entry of the directory to its removal. -/
def cleanEvents (pid : PidT) : List SupervisionEvent :=
  [.cleaner (.entry pid), .cleaner .checkTraced, .cleaner .checkExist]

/-- A task dies before it is found.  The cleanup thread comes to remove its pipe, while the
    checker starts a monitor for another task. -/
def removesUntraced : List SupervisionEvent :=
  taskEvents 0 7 ++ taskEvents 1 9 ++ [.task (.die 0), .checker (.entry 9), .checker .reserve] ++
    cleanEvents 7 ++ [.checker .store, .checker (.create true)]

theorem removals_spare_traced_iff_sample :
    ∃ s : Supervision maxTracedTasks, Run step (start false) removesUntraced s ∧
      (s.tracing.Taken 0 ∧ s.tracing.pidAt 0 = 9) ∧
      s.cleaner = .gone 7 ∧ ∀ i, s.tracing.Taken i → s.tracing.pidAt i ≠ 7 :=
  ⟨(removesUntraced.foldlM step (start false)).get (by decide), run_get _ _ _, by decide, by decide,
    (removals_spare_traced_iff (run_get (start false) removesUntraced (by decide))
      (by decide)).mpr (by decide)⟩

/-- The cleanup thread finds a task untraced; the checker finds it, reserves a slot and stores
    its pid; the task dies; and the cleanup thread finds no process of it. -/
def removesTraced : List SupervisionEvent :=
  taskEvents 0 7 ++ [.cleaner (.entry 7), .cleaner .checkTraced] ++
    [.checker (.entry 7), .checker .reserve, .checker .store, .task (.die 0),
      .cleaner .checkExist]

/-- **A removal that hits a traced task.**  The cleanup thread removes the pipe of a pid that a
    slot holds. -/
theorem removal_of_traced :
    ∃ s : Supervision maxTracedTasks, Run step (start false) removesTraced s ∧
      s.cleaner = .gone 7 ∧ (s.step (.cleaner (.remove true))).isSome ∧
      s.tracing.Taken 0 ∧ s.tracing.pidAt 0 = 7 :=
  ⟨(removesTraced.foldlM step (start false)).get (by decide), (Option.some_get _).symm,
    by decide, by decide, by decide, by decide⟩

end Supervision

/-! ### Pipes of live tasks -/

namespace World

/-- There is a pipe at the path of the pid, and its creator, a process of that pid, is dead. -/
def Orphaned (w : World) (pid : PidT) : Prop :=
  ∃ c t, w.pipes pid = some c ∧ w.tasks[c]? = some t ∧ t.pid = pid ∧ t.alive = false

variable {w w' : World} {pid : PidT}

/-- When no process of the pid exists, the pipe at its path is orphaned. -/
theorem Owned.orphaned (h : w.Owned) {c : ℕ} (hc : w.pipes pid = some c)
    (hkill : w.kill pid = false) : w.Orphaned pid := by
  obtain ⟨t, ht, hpid⟩ := h pid c hc
  refine ⟨c, t, hc, ht, hpid, ?_⟩
  have hdead := List.any_eq_false.mp hkill t (List.mem_of_getElem? ht)
  rw [Bool.and_eq_true, decide_eq_true_iff] at hdead
  exact Bool.eq_false_iff.mpr fun halive => hdead ⟨halive, hpid⟩

/-- **An orphaned pipe stays one.**  A new process of the pid does not replace it. -/
theorem Orphaned.step (h : w.Orphaned pid) {e : TaskEvent} (hstep : w.step e = some w') :
    w'.Orphaned pid := by
  obtain ⟨c, t, hc, ht, hpid, hdead⟩ := h
  exact ⟨c, t, step_pipes hstep hc, step_dead hstep ht hdead, hpid, hdead⟩

end World

namespace Supervision

variable {s s' : Supervision M}

/-- A directory read yields a pid only where there is a pipe. -/
def Listed (s : Supervision M) : SupervisionEvent → Prop
  | .cleaner (.entry pid) => 0 < pid → (s.world.pipes pid).isSome
  | _ => True

instance (s : Supervision M) : (e : SupervisionEvent) → Decidable (Listed s e)
  | .cleaner (.entry _) => inferInstanceAs (Decidable (_ → _))
  | .cleaner .checkTraced | .cleaner .checkExist | .cleaner (.remove _) => isTrue trivial
  | .task _ | .checker _ | .monitor _ => isTrue trivial

/-- There is a pipe of the pid that the cleanup thread holds, and once it has found no process
    of that pid, the creator of the pipe is dead. -/
structure Holds (s : Supervision M) : Prop where
  piped : ∀ pid, s.cleaner.pid = some pid → ∃ c, s.world.pipes pid = some c
  orphaned : ∀ pid, s.cleaner = .gone pid → s.world.Orphaned pid

/-- Back at the directory, the cleanup thread holds nothing. -/
theorem holds_of_reading (h : s.cleaner = .reading) : s.Holds where
  piped := by
    intro pid hpid
    rw [h] at hpid
    exact absurd hpid (by simp [CleanerPc.pid])
  orphaned := by
    intro pid hpc
    exact absurd (h.symm.trans hpc) (by simp)

/-- **The cleanup thread keeps it**, when the directory lists only pipes that are there. -/
theorem clean_holds (hok : s.Ok) (h : s.Holds) {e : CleanerEvent} (hlisted : Listed s (.cleaner e))
    (hstep : s.clean e = some s') : s'.Holds := by
  cases e with
  | entry pid =>
    rcases clean_entry hstep with ⟨-, rfl | ⟨hpos, rfl⟩⟩
    · exact h
    · refine ⟨fun pid' hpid => ?_, fun pid' hpc => absurd hpc (by simp)⟩
      obtain rfl := Option.some.inj hpid
      exact Option.isSome_iff_exists.mp (hlisted hpos)
  | checkTraced =>
    rcases clean_checkTraced hstep with ⟨pid, hpc, rfl | ⟨-, rfl⟩⟩
    · exact holds_of_reading rfl
    · refine ⟨fun pid' hpid => ?_, fun pid' hpc => absurd hpc (by simp)⟩
      exact h.piped pid' (by rw [hpc]; exact hpid)
  | checkExist =>
    rcases clean_checkExist hstep with ⟨pid, hpc, ⟨-, rfl⟩ | ⟨hkill, rfl⟩⟩
    · exact holds_of_reading rfl
    · refine ⟨fun pid' hpid => h.piped pid' (by rw [hpc]; exact hpid), fun pid' hpc' => ?_⟩
      obtain rfl := CleanerPc.gone.inj hpc'
      obtain ⟨c, hc⟩ := h.piped pid (by rw [hpc]; rfl)
      exact hok.owned.orphaned hc hkill
  | remove ok =>
    obtain ⟨pid, -, rfl⟩ := clean_remove hstep
    exact holds_of_reading rfl

theorem step_holds (hok : s.Ok) (h : s.Holds) {e : SupervisionEvent} (hlisted : Listed s e)
    (hstep : s.step e = some s') : s'.Holds := by
  cases e with
  | task e =>
    obtain ⟨w, hw, rfl⟩ := Option.map_eq_some_iff.mp hstep
    refine ⟨fun pid hpid => ?_, fun pid hpc => (h.orphaned pid hpc).step hw⟩
    obtain ⟨c, hc⟩ := h.piped pid hpid
    exact ⟨c, World.step_pipes hw hc⟩
  | checker e =>
    obtain ⟨tracing, -, rfl⟩ := Option.map_eq_some_iff.mp hstep
    exact ⟨h.piped, h.orphaned⟩
  | monitor e =>
    obtain ⟨tracing, -, rfl⟩ := Option.map_eq_some_iff.mp hstep
    exact ⟨h.piped, h.orphaned⟩
  | cleaner e => exact clean_holds hok h hlisted hstep

/-- **No removal hits a live task.**  In every run in which the directory lists only pipes that
    are there, when the cleanup thread is about to remove the pipe of a pid, there is one, and
    the process that created it is dead. -/
theorem removals_spare_live {enableLogging : Bool} {es : List SupervisionEvent} {pid : PidT}
    (h : Run step (start enableLogging) es s)
    (hlisted : Along step Listed (start enableLogging : Supervision M) es)
    (hpc : s.cleaner = .gone pid) :
    ∃ c t, s.world.pipes pid = some c ∧ s.world.tasks[c]? = some t ∧ t.pid = pid ∧
      t.alive = false := by
  have hholds : s.Ok ∧ s.Holds := by
    refine h.invariant_along (I := fun t => t.Ok ∧ t.Holds) hlisted
      ⟨start_ok enableLogging, holds_of_reading rfl⟩ ?_
    rintro t e t' ⟨hok, hholds⟩ hlisted hstep
    exact ⟨step_ok hok hstep, step_holds hok hholds hlisted hstep⟩
  exact hholds.2.orphaned pid hpc

/-- A task dies; the cleanup thread finds no process of its pid; and a new process that is given
    the pid finds the old pipe, so that its `access` fails. -/
def recycledPid : List SupervisionEvent :=
  taskEvents 0 7 ++ [.task (.die 0)] ++ cleanEvents 7 ++ [.task (.start 7), .task (.access 1)]

theorem removals_spare_live_sample :
    ∃ s : Supervision maxTracedTasks, Run step (start false) recycledPid s ∧
      s.world.kill 7 = true ∧
      ∃ c t, s.world.pipes 7 = some c ∧ s.world.tasks[c]? = some t ∧ t.pid = 7 ∧
        t.alive = false :=
  ⟨(recycledPid.foldlM step (start false)).get (by decide), run_get _ _ _, by decide,
    removals_spare_live (run_get (start false) recycledPid (by decide)) (by decide) (by decide)⟩

end Supervision

end RtTaskTrace
