import RtTaskTrace.System.Phases
import RtTaskTrace.System.Prospects

namespace RtTaskTrace

open Runs

/-!
# Which pids can be used again

A process whose pid was that of another finds that one's pipe, if it is still there.  Only the
cleanup thread removes it, and it spares the pids in the table, which none ever leaves.

* `World.exists_kill` — the processes of a pid may all die;
* `Supervision.exists_rest`, `exists_unlink` — what the cleanup thread does alone;
* `exists_create` — a process that finds no pipe creates its own;
* `reusable_iff` — so a new process of a pid can come to have a pipe exactly when there is none
  now, or the table does not hold the pid, or the cleanup thread has already found that.
-/

variable {M : ℕ}

namespace World

variable {w : World} {pid : PidT}

/-- How many living processes have the pid. -/
def living (w : World) (pid : PidT) : ℕ :=
  w.tasks.countP fun t => t.alive && decide (t.pid = pid)

/-- **The processes of a pid may all die**, which leaves the pipes alone. -/
theorem exists_kill (w : World) (pid : PidT) :
    ∃ es w', Run World.step w es w' ∧ w'.kill pid = false ∧ w'.pipes = w.pipes ∧
      w'.tasks.length = w.tasks.length := by
  -- By induction on their number.
  induction hn : w.living pid using Nat.strong_induction_on generalizing w with
  | _ n ih =>
    cases hkill : w.kill pid with
    | false => exact ⟨[], w, (run_nil w w).mpr rfl, hkill, rfl, rfl⟩
    | true =>
      obtain ⟨t, ht, hliving⟩ := List.any_eq_true.mp hkill
      obtain ⟨id, hid⟩ := List.mem_iff_getElem?.mp ht
      obtain ⟨hlt, hget⟩ := List.getElem?_eq_some_iff.mp hid
      have halive : t.alive = true := (Bool.and_eq_true_iff.mp hliving).1
      let w₁ : World := { w with tasks := w.tasks.set id { t with alive := false } }
      have hstep : w.step (.die id) = some w₁ := by
        simp only [step, hid, Option.filter_some, halive, if_true, Option.map_some, w₁]
      have hfewer : w₁.living pid < n := by
        have hpos : 0 < w.living pid := List.countP_pos_iff.mpr ⟨t, ht, hliving⟩
        have hcount : w₁.living pid = w.living pid - 1 := by
          simp only [living, w₁, List.countP_set hlt, hget, hliving]
          simp
        omega
      obtain ⟨es, w', hrun, hgone, hpipes, hlength⟩ := ih _ hfewer w₁ rfl
      refine ⟨.die id :: es, w', (run_cons _ _ _ _).mpr ⟨w₁, hstep, hrun⟩, hgone, hpipes, ?_⟩
      rw [hlength]
      exact List.length_set

/-- **A process that finds no pipe** creates its own. -/
theorem exists_create (hpos : 0 < pid) (hgone : w.kill pid = false) (hnone : w.pipes pid = none) :
    ∃ es w', Run World.step w es w' ∧ w'.tasks[w.tasks.length]? = some ⟨pid, true, .created, 1⟩ := by
  let id := w.tasks.length
  let w₁ : World := { w with tasks := w.tasks ++ [⟨pid, true, .started, 0⟩] }
  let w₂ := w₁.move id ⟨pid, true, .started, 0⟩ .accessed
  let w₃ : World := { w₂.move id ⟨pid, true, .accessed, 1⟩ .created with
    pipes := Function.update w₂.pipes pid (some id) }
  have hlt : id < w₁.tasks.length := by simp [w₁, id]
  have hlt₂ : id < w₂.tasks.length := by
    simp only [w₂, move, List.length_set]
    exact hlt
  have hget₁ : w₁.tasks[id]? = some ⟨pid, true, .started, 0⟩ := by simp [w₁, id]
  have hget₂ : w₂.tasks[id]? = some ⟨pid, true, .accessed, 0⟩ := List.getElem?_set_self hlt
  have hstart : w.step (.start pid) = some w₁ := by
    simp only [step]
    rw [if_neg (by simp [hgone, Int32.not_le.mpr hpos])]
  have haccess : w₁.step (.access id) = some w₂ := by
    simp only [step, at?_of hget₁ rfl rfl, Option.map_some]
    rw [show w₁.pipes pid = none from hnone]
    rfl
  have hmkfifo : w₂.step (.mkfifo id true) = some w₃ := by
    simp only [step, at?_of hget₂ rfl rfl, Option.map_some]
    rw [show w₂.pipes pid = none from hnone]
    rfl
  refine ⟨[.start pid, .access id, .mkfifo id true], w₃, ?_, List.getElem?_set_self hlt₂⟩
  simp only [run_cons, run_nil]
  exact ⟨w₁, hstart, w₂, haccess, w₃, hmkfifo, rfl⟩

end World

namespace Supervision

variable {s s' : Supervision M} {pid : PidT} {enableLogging : Bool}
  {es fs : List SupervisionEvent}

/-- What the tasks do they do beside the supervisor. -/
theorem run_world {es : List TaskEvent} {w : World} (h : Run World.step s.world es w) :
    Run step s (es.map .task) { s with world := w } :=
  h.map (f := fun w => { s with world := w }) fun _ _ _ hstep =>
    Option.map_eq_some_iff.mpr ⟨_, hstep, rfl⟩

/-- The cleanup thread has found no process: its `remove` may fail. -/
theorem gone_rest (hpc : s.cleaner = .gone pid) :
    Run step s [.cleaner (.remove false)] { s with cleaner := .reading } := by
  simp [step, clean, hpc]

/-- **The cleanup thread can go back to the directory**, with nothing removed. -/
theorem exists_rest (s : Supervision M) : ∃ es, Run step s es { s with cleaner := .reading } := by
  have huntraced : ∀ (t : Supervision M) (pid : PidT), t.cleaner = .untraced pid →
      ∃ es, Run step t es { t with cleaner := .reading } := by
    intro t pid hpc
    by_cases hgone : PID.checkIfExist 0 t.world.kill pid = 0
    · have hstep : t.step (.cleaner .checkExist) = some { t with cleaner := .gone pid } := by
        simp only [step, clean, hpc, if_pos hgone]
      exact ⟨_ :: _, (run_cons _ _ _ _).mpr ⟨_, hstep, gone_rest rfl⟩⟩
    · exact ⟨[.cleaner .checkExist], by simp [step, clean, hpc, hgone]⟩
  cases hpc : s.cleaner with
  | reading => exact ⟨[], (run_nil _ _).mpr (by rw [← hpc])⟩
  | gone pid => exact ⟨_, gone_rest hpc⟩
  | untraced pid => exact huntraced s pid hpc
  | entry pid =>
    by_cases htraced : s.tracing.supervisor.checkIfTaskIsBeingTraced pid = true
    · exact ⟨[.cleaner .checkTraced], by simp [step, clean, hpc, htraced]⟩
    · have hstep : s.step (.cleaner .checkTraced) = some { s with cleaner := .untraced pid } := by
        simp only [step, clean, hpc, if_neg htraced]
      obtain ⟨es, hrun⟩ := huntraced { s with cleaner := .untraced pid } pid rfl
      exact ⟨_ :: es, (run_cons _ _ _ _).mpr ⟨_, hstep, hrun⟩⟩

/-- The cleanup thread removes the pipe of a pid that it has found untraced, once no process has
    it. -/
theorem tested_unlinks (htested : s.cleaner.tested = some pid)
    (hgone : s.world.kill pid = false) :
    ∃ es, Run step s es { s with cleaner := .reading, world := s.world.unlink pid } := by
  have hremove : ∀ t : Supervision M, t.cleaner = .gone pid →
      Run step t [.cleaner (.remove true)]
        { t with cleaner := .reading, world := t.world.unlink pid } := by
    intro t hpc
    simp [step, clean, hpc]
  cases hpc : s.cleaner with
  | reading => exact absurd htested (by simp [hpc, CleanerPc.tested])
  | entry pid' => exact absurd htested (by simp [hpc, CleanerPc.tested])
  | gone pid' =>
    rw [hpc] at htested
    cases htested
    exact ⟨_, hremove s hpc⟩
  | untraced pid' =>
    rw [hpc] at htested
    cases htested
    have hstep : s.step (.cleaner .checkExist) = some { s with cleaner := .gone pid } := by
      simp only [step, clean, hpc, if_pos ((PID.checkIfExist_root _ _).mpr hgone)]
    exact ⟨_ :: _, (run_cons _ _ _ _).mpr ⟨_, hstep, hremove _ rfl⟩⟩

/-- It finds a pid untraced that the table does not hold. -/
theorem clear_unlinks (hpos : 0 < pid) (hclear : s.tracing.Clear pid)
    (hgone : s.world.kill pid = false) :
    ∃ es, Run step s es { s with cleaner := .reading, world := s.world.unlink pid } := by
  obtain ⟨es, hrest⟩ := exists_rest s
  have hentry : ({ s with cleaner := .reading } : Supervision M).step (.cleaner (.entry pid))
      = some { s with cleaner := .entry pid } := by
    simp only [step, clean, if_neg (Int32.not_le.mpr hpos)]
  have htest : ({ s with cleaner := .entry pid } : Supervision M).step (.cleaner .checkTraced)
      = some { s with cleaner := .untraced pid } := by
    simp only [step, clean, if_neg (Bool.eq_false_iff.mp hclear)]
  obtain ⟨fs, hunlink⟩ := tested_unlinks (s := { s with cleaner := .untraced pid }) rfl hgone
  refine ⟨es ++ .cleaner (.entry pid) :: .cleaner .checkTraced :: fs, ?_⟩
  rw [run_append]
  refine ⟨_, hrest, ?_⟩
  rw [run_cons]
  refine ⟨_, hentry, ?_⟩
  rw [run_cons]
  exact ⟨_, htest, hunlink⟩

/-- A process of the pid that was not there in `s` has created its pipe in `s'`. -/
def Renewed (s s' : Supervision M) (pid : PidT) : Prop :=
  ∃ (id : ℕ) (t : Task), s.world.tasks.length ≤ id ∧ s'.world.tasks[id]? = some t ∧
    t.pid = pid ∧ t.PastCreation

/-- Where there is no pipe and no process, the next one has its own. -/
theorem exists_renewed {t : Supervision M} (hpos : 0 < pid) (hrun : Run step s es t)
    (hlength : t.world.tasks.length = s.world.tasks.length) (hgone : t.world.kill pid = false)
    (hnone : t.world.pipes pid = none) : ∃ fs s', Run step s fs s' ∧ s.Renewed s' pid := by
  obtain ⟨fs, w, hcreate, hget⟩ := World.exists_create hpos hgone hnone
  refine ⟨es ++ fs.map .task, _, (run_append _ _ _ _).mpr ⟨t, hrun, run_world hcreate⟩,
    t.world.tasks.length, ⟨pid, true, .created, 1⟩, ?_, hget, rfl, .inl rfl⟩
  rw [hlength]

/-- **Which pids can be used again.**  In every reachable state: some run leads to a new process
    of the pid that has created its pipe exactly when there is no pipe at its path, or no slot
    taken holds the pid, or the cleanup thread has found it untraced before the table got it. -/
theorem reusable_iff (h : Run step (start enableLogging) es s) (hpos : 0 < pid) :
    (∃ fs s', Run step s fs s' ∧ s.Renewed s' pid) ↔
      s.world.pipes pid = none ∨ s.tracing.Clear pid ∨ s.cleaner.tested = some pid := by
  constructor
  · rintro ⟨fs, s', hrun, id, t', hid, ht', hpid, hpast⟩
    by_contra hnot
    rw [not_or, not_or] at hnot
    obtain ⟨hpipe, htraced, htested⟩ := hnot
    obtain ⟨c, hc⟩ := Option.ne_none_iff_exists'.mp hpipe
    obtain ⟨-, hold⟩ := sealed_run (ok_run h) hpos ⟨htraced, htested, hc⟩ hrun
    -- The process would have been there before.
    obtain ⟨t, ht, -, -⟩ := hold id t' ht' hpid hpast
    exact absurd (List.getElem?_eq_some_iff.mp ht).1 (Nat.not_lt.mpr hid)
  · intro hfree
    obtain ⟨es, w, hkill, hgone, hpipes, hlength⟩ := World.exists_kill s.world pid
    have hkilled := run_world hkill
    rcases hfree with hnone | hclear | htested
    · exact exists_renewed hpos hkilled hlength hgone (hpipes ▸ hnone)
    · obtain ⟨fs, hunlink⟩ := clear_unlinks (s := { s with world := w }) hpos hclear hgone
      exact exists_renewed hpos ((run_append _ _ _ _).mpr ⟨_, hkilled, hunlink⟩) hlength hgone
        (Function.update_self _ _ _)
    · obtain ⟨fs, hunlink⟩ := tested_unlinks (s := { s with world := w }) htested hgone
      exact exists_renewed hpos ((run_append _ _ _ _).mpr ⟨_, hkilled, hunlink⟩) hlength hgone
        (Function.update_self _ _ _)

/-- The pid of the task that was monitored is lost, and another is not. -/
theorem reusable_iff_sample :
    (¬ ∃ fs s', Run step goneState fs s' ∧ goneState.Renewed s' 7) ∧
      ∃ fs s', Run step goneState fs s' ∧ goneState.Renewed s' 9 := by
  constructor
  · intro hrenewed
    exact absurd ((reusable_iff goneState_run (by decide)).mp hrenewed) (by decide)
  · exact (reusable_iff goneState_run (by decide)).mpr (.inl (by decide))

end Supervision

end RtTaskTrace
