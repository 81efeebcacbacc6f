import RtTaskTrace.System.Cleanup
import Mathlib.Data.Fintype.Card

namespace RtTaskTrace

open Runs

/-!
# What one life of the supervisor can do

A slot is never given back, so all that the table gains it keeps: a pid once stored stays where it
is, and the monitor threads ever started have a slot each.

* `Tracing.Extends` — what later states of the table keep of earlier ones; `step_extends`,
  `run_extends`;
* `Supervision.monitored_once` — a pid is monitored once, and no more pids than there are slots;
* `never_monitored_again` — so a process that gets the pid of one that was monitored is not;
* `pid_locked_out` — nor can it even initialise, since nobody removes the pipe of the first;
* `stuck_for_ever` — and the checker that finds no slot for a pid goes no further, ever.
-/

variable {M : ℕ}

namespace Tracing

variable {s s' s'' : Tracing M} {w : World}

/-- The slots taken stay taken, those with a pid keep what is in them, the monitors keep their
    places and their slots, and those that have ended stay so. -/
structure Extends (s s' : Tracing M) : Prop where
  taken : ∀ i, s.Taken i → s'.Taken i
  stored : ∀ i, 0 < s.pidAt i → s'.supervisor.monitor i = s.supervisor.monitor i
  monitors : ∀ (k : ℕ) (m : MonitorRun M), s.monitors[k]? = some m →
    ∃ m', s'.monitors[k]? = some m' ∧ m'.slot = m.slot ∧ (m.phase = .ended → m'.phase = .ended)

theorem Extends.pids (h : Extends s s') {i : Fin M} (hi : 0 < s.pidAt i) :
    s'.pidAt i = s.pidAt i :=
  congrArg MonitorThread.pid (h.stored i hi)

theorem Extends.refl : Extends s s where
  taken := fun _ hi => hi
  stored := fun _ _ => rfl
  monitors := fun _ m hm => ⟨m, hm, rfl, id⟩

theorem Extends.trans (h : Extends s s') (h' : Extends s' s'') : Extends s s'' where
  taken := fun i hi => h'.taken i (h.taken i hi)
  stored := by
    intro i hi
    have hpos : 0 < s'.pidAt i := by
      rw [h.pids hi]
      exact hi
    exact (h'.stored i hpos).trans (h.stored i hi)
  monitors := by
    intro k m hm
    obtain ⟨m', hm', hslot, hended⟩ := h.monitors k m hm
    obtain ⟨m'', hm'', hslot', hended'⟩ := h'.monitors k m' hm'
    exact ⟨m'', hm'', hslot'.trans hslot, fun hm => hended' (hended hm)⟩

/-- The checker leaves the monitors alone that are there. -/
theorem check_get {e : CheckerEvent} (hstep : s.check e = some s') {k : ℕ} {m : MonitorRun M}
    (hm : s.monitors[k]? = some m) : s'.monitors[k]? = some m := by
  cases e with
  | entry pid =>
    rcases check_entry hstep with ⟨-, rfl | ⟨-, -, rfl⟩⟩ <;> exact hm
  | reserve =>
    rcases check_reserve hstep with ⟨pid, -, ⟨-, rfl⟩ | ⟨i, -, rfl⟩⟩ <;> exact hm
  | store =>
    obtain ⟨pid, i, -, rfl⟩ := check_store hstep
    exact hm
  | create ok =>
    obtain ⟨pid, i, -, rfl⟩ := check_create hstep
    cases ok
    · exact hm
    · show (s.monitors ++ [⟨i, .waiting⟩])[k]? = some m
      rw [List.getElem?_append_left (List.getElem?_eq_some_iff.mp hm).1]
      exact hm

/-- **The checker only adds**: it writes to the slot it has reserved, which holds no pid. -/
theorem check_extends (h : s.Ok) {e : CheckerEvent} (hstep : s.check e = some s') :
    Extends s s' := by
  have hmonitors : ∀ (k : ℕ) (m : MonitorRun M), s.monitors[k]? = some m →
      ∃ m', s'.monitors[k]? = some m' ∧ m'.slot = m.slot ∧
        (m.phase = .ended → m'.phase = .ended) :=
    fun k m hm => ⟨m, check_get hstep hm, rfl, id⟩
  cases e with
  | entry pid =>
    rcases check_entry hstep with ⟨-, rfl | ⟨-, -, rfl⟩⟩ <;>
      exact ⟨fun _ hi => hi, fun _ _ => rfl, hmonitors⟩
  | reserve =>
    rcases check_reserve hstep with ⟨pid, -, ⟨-, rfl⟩ | ⟨i, -, rfl⟩⟩
    · exact .refl
    · exact ⟨fun j hj => taken_update.mpr (Or.inr hj), fun _ _ => rfl, hmonitors⟩
  | store =>
    obtain ⟨pid, i, hpc, rfl⟩ := check_store hstep
    obtain ⟨-, hblank, -⟩ := h.reserved pid i hpc
    refine ⟨fun _ hj => hj, fun j hj => ?_, hmonitors⟩
    have hne : j ≠ i := by
      rintro rfl
      rw [hblank] at hj
      exact absurd hj (by decide)
    exact Function.update_of_ne hne _ _
  | create ok =>
    obtain ⟨pid, i, -, rfl⟩ := check_create hstep
    exact ⟨fun _ hj => hj, fun _ _ => rfl, hmonitors⟩

/-- A monitor moves from phase to phase, and not from its end. -/
theorem serve_extends {e : MonitorEvent} (hstep : s.serve w e = some s') : Extends s s' := by
  obtain ⟨k, m, phase, hget, hnot, rfl, -, -⟩ := serve_cases hstep
  refine ⟨fun _ hi => hi, fun _ _ => rfl, fun l n hn => ?_⟩
  by_cases hkl : k = l
  · subst hkl
    obtain rfl := Option.some.inj (hget.symm.trans hn)
    exact ⟨_, List.getElem?_set_self (List.getElem?_eq_some_iff.mp hget).1, rfl,
      fun hended => absurd hended hnot⟩
  · exact ⟨n, by rw [← hn]; exact List.getElem?_set_ne hkl, rfl, id⟩

/-- **A monitor keeps its place and what its slot holds.** -/
theorem Extends.monitor (hext : Extends s s') (h : s.Ok) {k : ℕ} {m : MonitorRun M}
    (hm : s.monitors[k]? = some m) :
    ∃ m', s'.monitors[k]? = some m' ∧
      s'.supervisor.monitor m'.slot = s.supervisor.monitor m.slot ∧
      (m.phase = .ended → m'.phase = .ended) := by
  obtain ⟨m', hm', hslot, hended⟩ := hext.monitors k m hm
  obtain ⟨-, hpos, -⟩ := h.handed m (List.mem_of_getElem? hm)
  refine ⟨m', hm', ?_, hended⟩
  rw [hslot]
  exact hext.stored m.slot hpos

/-- **A pid has one monitor.** -/
theorem Ok.index_of_pid (h : s.Ok) {k l : ℕ} {m n : MonitorRun M} (hk : s.monitors[k]? = some m)
    (hl : s.monitors[l]? = some n) (hpid : s.pidOf m = s.pidOf n) : k = l := by
  obtain ⟨htaken, hpos, -⟩ := h.handed m (List.mem_of_getElem? hk)
  obtain ⟨htaken', -, -⟩ := h.handed n (List.mem_of_getElem? hl)
  exact h.index_unique hk hl (h.unique _ _ htaken htaken' hpos hpid)

end Tracing

namespace Supervision

variable {s s' : Supervision M} {enableLogging : Bool} {es fs : List SupervisionEvent}

theorem step_extends (h : s.Ok) {e : SupervisionEvent} (hstep : s.step e = some s') :
    s.tracing.Extends s'.tracing := by
  cases e with
  | task e =>
    obtain ⟨w, -, rfl⟩ := Option.map_eq_some_iff.mp hstep
    exact .refl
  | checker e =>
    obtain ⟨tracing, htracing, rfl⟩ := Option.map_eq_some_iff.mp hstep
    exact Tracing.check_extends h.tracing htracing
  | monitor e =>
    obtain ⟨tracing, htracing, rfl⟩ := Option.map_eq_some_iff.mp hstep
    exact Tracing.serve_extends htracing
  | cleaner e =>
    rw [(clean_frame hstep).1]
    exact .refl

/-- **Later states extend earlier ones.** -/
theorem run_extends (hok : s.Ok) (h : Run step s fs s') : s'.Ok ∧ s.tracing.Extends s'.tracing := by
  refine h.invariant (I := fun t => t.Ok ∧ s.tracing.Extends t.tracing) ⟨hok, .refl⟩ ?_
  rintro t e t' ⟨ht, hext⟩ hstep
  exact ⟨step_ok ht hstep, hext.trans (step_extends ht hstep)⟩

/-- **A pid is monitored once.**  In no run of the supervisor have two monitor threads ever been
    started for one pid, whatever became of the first, nor more threads than the table has
    slots. -/
theorem monitored_once (h : Run step (start enableLogging) es s) :
    (∀ (k l : ℕ) (m n : MonitorRun M), s.tracing.monitors[k]? = some m →
      s.tracing.monitors[l]? = some n → s.tracing.pidOf m = s.tracing.pidOf n → k = l) ∧
    s.tracing.monitors.length ≤ M := by
  have hok := (ok_run h).tracing
  refine ⟨fun k l m n hk hl => hok.index_of_pid hk hl, ?_⟩
  have hcard := hok.nodup.length_le_card
  rw [List.length_map, Fintype.card_fin] at hcard
  exact hcard

/-- **A pid used again is not monitored again.**  Once the monitor of a pid has ended, no monitor
    reads the pipe of any process of that pid, however the run goes on. -/
theorem never_monitored_again (h : Run step (start enableLogging) es s) {m : MonitorRun M}
    (hm : m ∈ s.tracing.monitors) (hended : m.phase = .ended) (h' : Run step s fs s') :
    ∀ n ∈ s'.tracing.monitors, ∀ c t, n.phase = .reading c → s'.world.tasks[c]? = some t →
      t.pid ≠ s.tracing.pidOf m := by
  have hok := ok_run h
  obtain ⟨hok', hext⟩ := run_extends hok h'
  obtain ⟨k, hk⟩ := List.mem_iff_getElem?.mp hm
  obtain ⟨m', hm', hsame, hend'⟩ := hext.monitor hok.tracing hk
  -- the monitor that has ended still holds the pid
  have hpid : s'.tracing.pidOf m' = s.tracing.pidOf m := congrArg MonitorThread.pid hsame
  intro n hn c t hreading ht hsame
  obtain ⟨t', ht', hpid'⟩ := hok'.reading n hn c hreading
  obtain rfl := Option.some.inj (ht'.symm.trans ht)
  -- So the one that reads would be the same monitor.
  obtain ⟨l, hl⟩ := List.mem_iff_getElem?.mp hn
  have hkl := hok'.tracing.index_of_pid hl hm' (by rw [← hpid', hsame, hpid])
  subst hkl
  obtain rfl := Option.some.inj (hl.symm.trans hm')
  rw [hend' hended] at hreading
  exact absurd hreading (by simp)

end Supervision

/-! ### The pipe that stays -/

/-- The process has created its pipe. -/
def Task.PastCreation (t : Task) : Prop := t.phase = .created ∨ t.phase = .opened

instance (t : Task) : Decidable t.PastCreation := inferInstanceAs (Decidable (_ ∨ _))

/-- An element of a list with one element replaced is that one or was there before. -/
theorem getElem?_set_cases {α : Type*} {xs : List α} {i j : ℕ} {x y : α}
    (h : (xs.set i x)[j]? = some y) : i = j ∧ y = x ∨ i ≠ j ∧ xs[j]? = some y := by
  by_cases hij : i = j
  · subst hij
    have hlt : i < xs.length := by
      have := (List.getElem?_eq_some_iff.mp h).1
      rwa [List.length_set] at this
    rw [List.getElem?_set_self hlt] at h
    exact .inl ⟨rfl, (Option.some.inj h).symm⟩
  · rw [List.getElem?_set_ne hij] at h
    exact .inr ⟨hij, h⟩

/-- **While there is a pipe for a pid, no process of it creates one.** -/
theorem World.step_pastCreation {w w' : World} {pid : PidT} {c : ℕ} (hpipe : w.pipes pid = some c)
    {e : TaskEvent} (hstep : w.step e = some w') {id : ℕ} {t' : Task}
    (ht' : w'.tasks[id]? = some t') (hpid : t'.pid = pid) (hpast : t'.PastCreation) :
    ∃ t, w.tasks[id]? = some t ∧ t.pid = pid ∧ t.PastCreation := by
  -- the process moved is not past the creation unless it was so before
  have hmoved : ∀ {j : ℕ} {t : Task} {phase : TaskPhase} {made : ℕ}, w.tasks[j]? = some t →
      (w.tasks.set j { t with phase := phase, made := made })[id]? = some t' →
      (t.pid = pid → phase = .created ∨ phase = .opened → t.PastCreation) →
      ∃ t, w.tasks[id]? = some t ∧ t.pid = pid ∧ t.PastCreation := by
    intro j t phase made hget hset hbefore
    rcases getElem?_set_cases hset with ⟨rfl, rfl⟩ | ⟨-, hold⟩
    · exact ⟨t, hget, hpid, hbefore hpid hpast⟩
    · exact ⟨t', hold, hpid, hpast⟩
  cases e with
  | start pid' =>
    simp only [World.step] at hstep
    split at hstep
    · exact absurd hstep (by simp)
    · cases hstep
      rcases Nat.lt_or_ge id w.tasks.length with hlt | hge
      · exact ⟨t', by rw [← ht']; exact (List.getElem?_append_left hlt).symm, hpid, hpast⟩
      · -- A process that has just started is not that far.
        have hnew := (List.getElem?_append_right hge).symm.trans ht'
        have hmem := List.mem_singleton.mp (List.mem_of_getElem? hnew)
        subst hmem
        exact absurd hpast (by simp [Task.PastCreation])
  | access j =>
    obtain ⟨t, ht, rfl⟩ := Option.map_eq_some_iff.mp hstep
    refine hmoved (World.at?_eq_some ht).1 ht' fun _ hphase => ?_
    split at hphase <;> simp at hphase
  | mkfifo j ok =>
    obtain ⟨t, ht, rfl⟩ := Option.map_eq_some_iff.mp hstep
    obtain ⟨hget, -⟩ := World.at?_eq_some ht
    split at ht'
    · rename_i hok
      refine hmoved hget ht' fun htpid _ => ?_
      rw [Bool.and_eq_true, htpid, hpipe] at hok
      exact absurd hok.2 (by simp)
    · exact hmoved hget ht' fun _ hphase => absurd hphase (by simp)
  | openPipe j ok =>
    obtain ⟨t, ht, rfl⟩ := Option.map_eq_some_iff.mp hstep
    obtain ⟨hget, -⟩ := World.at?_eq_some ht
    obtain ⟨-, hkeep⟩ := Option.filter_eq_some_iff.mp ht
    rw [Bool.and_eq_true, decide_eq_true_iff] at hkeep
    exact hmoved hget ht' fun _ _ => Or.inl hkeep.2
  | die j =>
    obtain ⟨t, ht, rfl⟩ := Option.map_eq_some_iff.mp hstep
    obtain ⟨hget, -⟩ := Option.filter_eq_some_iff.mp ht
    rcases getElem?_set_cases ht' with ⟨rfl, rfl⟩ | ⟨-, hold⟩
    · exact ⟨t, hget, hpid, hpast⟩
    · exact ⟨t', hold, hpid, hpast⟩

namespace Supervision

variable {s s' : Supervision M} {enableLogging : Bool} {es fs : List SupervisionEvent}

/-- The pid is in a slot that is taken, the cleanup thread has not found it untraced, and there is
    a pipe for it. -/
structure Sealed (pid : PidT) (c : ℕ) (s : Supervision M) : Prop where
  traced : ¬ s.tracing.Clear pid
  untested : s.cleaner.tested ≠ some pid
  piped : s.world.pipes pid = some c

theorem step_sealed {pid : PidT} {c : ℕ} (hok : s.Ok) (hpos : 0 < pid) (h : s.Sealed pid c)
    {e : SupervisionEvent} (hstep : s.step e = some s') : s'.Sealed pid c := by
  obtain ⟨i, htaken, hpid⟩ : ∃ i, s.tracing.Taken i ∧ s.tracing.pidAt i = pid := by
    have htraced := h.traced
    rw [Tracing.clear_iff] at htraced
    push Not at htraced
    exact htraced
  have hext := step_extends hok hstep
  have htraced : ¬ s'.tracing.Clear pid := by
    rw [Tracing.clear_iff]
    intro hclear
    exact hclear i (hext.taken i htaken) ((hext.pids (hpid ▸ hpos)).trans hpid)
  refine ⟨htraced, fun htested => ?_, ?_⟩
  · rcases step_tested hstep htested with ⟨-, hclear⟩ | ⟨-, hbefore⟩
    · exact htraced hclear
    · exact h.untested hbefore
  · -- Only a removal by the cleanup thread takes a pipe away, and it does not hold this pid.
    cases e with
    | task e =>
      obtain ⟨w, hw, rfl⟩ := Option.map_eq_some_iff.mp hstep
      exact World.step_pipes hw h.piped
    | checker e =>
      obtain ⟨tracing, -, rfl⟩ := Option.map_eq_some_iff.mp hstep
      exact h.piped
    | monitor e =>
      obtain ⟨tracing, -, rfl⟩ := Option.map_eq_some_iff.mp hstep
      exact h.piped
    | cleaner e =>
      cases e with
      | entry pid' =>
        rcases clean_entry hstep with ⟨-, rfl | ⟨-, rfl⟩⟩ <;> exact h.piped
      | checkTraced =>
        rcases clean_checkTraced hstep with ⟨_, -, rfl | ⟨-, rfl⟩⟩ <;> exact h.piped
      | checkExist =>
        rcases clean_checkExist hstep with ⟨_, -, ⟨-, rfl⟩ | ⟨-, rfl⟩⟩ <;> exact h.piped
      | remove ok =>
        obtain ⟨pid', hpc, rfl⟩ := clean_remove hstep
        have hne : pid ≠ pid' := by
          rintro rfl
          exact h.untested (by rw [hpc]; rfl)
        cases ok
        · exact h.piped
        · show Function.update s.world.pipes pid' none pid = some c
          rw [Function.update_of_ne hne]
          exact h.piped

/-- **A pid stays sealed**, and meanwhile no process of it creates a pipe. -/
theorem sealed_run {pid : PidT} {c : ℕ} (hok : s.Ok) (hpos : 0 < pid) (hsealed : s.Sealed pid c)
    (h : Run step s fs s') :
    s'.Sealed pid c ∧
      ∀ (id : ℕ) (t' : Task), s'.world.tasks[id]? = some t' → t'.pid = pid → t'.PastCreation →
        ∃ t, s.world.tasks[id]? = some t ∧ t.pid = pid ∧ t.PastCreation := by
  have hinv : (s'.Ok ∧ s'.Sealed pid c) ∧
      ∀ (id : ℕ) (t' : Task), s'.world.tasks[id]? = some t' → t'.pid = pid → t'.PastCreation →
        ∃ t, s.world.tasks[id]? = some t ∧ t.pid = pid ∧ t.PastCreation := by
    refine h.invariant (I := fun u => (u.Ok ∧ u.Sealed pid c) ∧
      ∀ (id : ℕ) (t' : Task), u.world.tasks[id]? = some t' → t'.pid = pid → t'.PastCreation →
        ∃ t, s.world.tasks[id]? = some t ∧ t.pid = pid ∧ t.PastCreation)
      ⟨⟨hok, hsealed⟩, fun _ t ht hpid hpast => ⟨t, ht, hpid, hpast⟩⟩ ?_
    rintro u e u' ⟨⟨huok, husealed⟩, hpast⟩ hstep
    refine ⟨⟨step_ok huok hstep, step_sealed huok hpos husealed hstep⟩, ?_⟩
    intro id t' ht' hpid hcreated
    cases e with
    | task e =>
      obtain ⟨w, hw, rfl⟩ := Option.map_eq_some_iff.mp hstep
      obtain ⟨t, ht, htpid, htpast⟩ :=
        World.step_pastCreation husealed.piped hw ht' hpid hcreated
      exact hpast id t ht htpid htpast
    | checker e =>
      obtain ⟨tracing, -, rfl⟩ := Option.map_eq_some_iff.mp hstep
      exact hpast id t' ht' hpid hcreated
    | monitor e =>
      obtain ⟨tracing, -, rfl⟩ := Option.map_eq_some_iff.mp hstep
      exact hpast id t' ht' hpid hcreated
    | cleaner e =>
      obtain ⟨-, htasks, -⟩ := clean_frame hstep
      rw [htasks] at ht'
      exact hpast id t' ht' hpid hcreated
  exact ⟨hinv.1.2, hinv.2⟩

/-- **The pid of a traced task is locked out.**  While the cleanup thread does not hold the pid of
    a monitor as untraced, a pipe of that pid stays for the rest of the supervisor's life, and no
    process of the pid that has not created it by now ever gets past the `access` and `mkfifo` of
    `SharedMem_userInit`: not one that gets the pid after the task has died and its monitor has
    ended. -/
theorem pid_locked_out (h : Run step (start enableLogging) es s) {m : MonitorRun M}
    (hm : m ∈ s.tracing.monitors) {c : ℕ} (hpipe : s.world.pipes (s.tracing.pidOf m) = some c)
    (hcleaner : s.cleaner.tested ≠ some (s.tracing.pidOf m)) (h' : Run step s fs s') :
    s'.world.pipes (s.tracing.pidOf m) = some c ∧
      ∀ (id : ℕ) (t' : Task), s'.world.tasks[id]? = some t' → t'.pid = s.tracing.pidOf m →
        t'.PastCreation →
          ∃ t, s.world.tasks[id]? = some t ∧ t.pid = s.tracing.pidOf m ∧ t.PastCreation := by
  have hok := ok_run h
  obtain ⟨htaken, hpos, -⟩ := hok.tracing.handed m hm
  have hsealed : s.Sealed (s.tracing.pidOf m) c := by
    refine ⟨?_, hcleaner, hpipe⟩
    rw [Tracing.clear_iff]
    exact fun hclear => hclear m.slot htaken rfl
  obtain ⟨hsealed', hpast⟩ := sealed_run hok hpos hsealed h'
  exact ⟨hsealed'.piped, hpast⟩

/-- A task is monitored, dies, and its monitor ends. -/
def goneEvents : List SupervisionEvent :=
  taskEvents 0 7 ++ traceEvents 7 ++
    [.monitor (.access 0), .monitor (.openPipe 0), .task (.die 0), .monitor (.exit 0)]

def goneState : Supervision maxTracedTasks := (goneEvents.foldlM step (start false)).get (by decide)

theorem goneState_run : Run step (start false) goneEvents goneState := run_get _ _ _

/-- Another process gets its pid, and the supervisor's threads look at what there is. -/
def againEvents : List SupervisionEvent :=
  [.task (.start 7), .task (.access 1), .checker (.entry 7), .cleaner (.entry 7),
    .cleaner .checkTraced, .task (.access 1)]

def againState : Supervision maxTracedTasks := (againEvents.foldlM step goneState).get (by decide)

theorem againState_run : Run step goneState againEvents againState := run_get _ _ _

theorem never_monitored_again_sample :
    againState.world.kill 7 = true ∧
      ∀ n ∈ againState.tracing.monitors, ∀ c t, n.phase = .reading c →
        againState.world.tasks[c]? = some t → t.pid ≠ goneState.tracing.pidOf ⟨0, .ended⟩ :=
  ⟨by decide, never_monitored_again goneState_run (m := ⟨0, .ended⟩) (by decide) rfl againState_run⟩

theorem pid_locked_out_sample :
    againState.world.pipes 7 = some 0 ∧
      ∀ (id : ℕ) (t' : Task), againState.world.tasks[id]? = some t' → t'.pid = 7 →
        t'.PastCreation →
          ∃ t, goneState.world.tasks[id]? = some t ∧ t.pid = 7 ∧ t.PastCreation :=
  pid_locked_out goneState_run (m := ⟨0, .ended⟩) (by decide) (c := 0) (by decide) (by decide)
    againState_run

/-- A step of the checker that holds a pid and finds no slot is none. -/
theorem check_stuck {t t' : Tracing M} {pid : PidT} (hfull : ∀ i, t.Taken i)
    (hpc : t.checker = .found pid) {e : CheckerEvent} (hstep : t.check e = some t') : t' = t := by
  cases e with
  | entry pid' =>
    obtain ⟨hscan, -⟩ := Tracing.check_entry hstep
    rw [hpc] at hscan
    exact absurd hscan (by simp)
  | reserve =>
    obtain ⟨_, -, ⟨-, rfl⟩ | ⟨i, hfree, -⟩⟩ := Tracing.check_reserve hstep
    · rfl
    · exact absurd (hfull i) (Bool.eq_false_iff.mp hfree)
  | store =>
    obtain ⟨_, _, hreserved, -⟩ := Tracing.check_store hstep
    rw [hpc] at hreserved
    exact absurd hreserved (by simp)
  | create ok =>
    obtain ⟨_, _, hstored, -⟩ := Tracing.check_create hstep
    rw [hpc] at hstored
    exact absurd hstored (by simp)

/-- **A full table stops the checker for ever.**  Once every slot is taken and the checker holds
    one more pid, it goes on asking for a slot, whatever happens and whatever monitor ends: the
    table does not change any more and no further monitor is started. -/
theorem stuck_for_ever {pid : PidT} (hfull : ∀ i, s.tracing.Taken i)
    (hpc : s.tracing.checker = .found pid) (h : Run step s fs s') :
    s'.tracing.supervisor = s.tracing.supervisor ∧ s'.tracing.checker = .found pid ∧
      s'.tracing.monitors.map MonitorRun.slot = s.tracing.monitors.map MonitorRun.slot := by
  refine h.invariant (I := fun t => t.tracing.supervisor = s.tracing.supervisor ∧
    t.tracing.checker = .found pid ∧
    t.tracing.monitors.map MonitorRun.slot = s.tracing.monitors.map MonitorRun.slot)
    ⟨rfl, hpc, rfl⟩ ?_
  rintro t e t' ⟨htable, hchecker, hslots⟩ hstep
  have hfull' : ∀ i, t.tracing.Taken i := by
    intro i
    show t.tracing.supervisor.isTaskBeingTraced i = true
    rw [htable]
    exact hfull i
  cases e with
  | task e =>
    obtain ⟨w, -, rfl⟩ := Option.map_eq_some_iff.mp hstep
    exact ⟨htable, hchecker, hslots⟩
  | checker e =>
    obtain ⟨tracing, htracing, rfl⟩ := Option.map_eq_some_iff.mp hstep
    obtain rfl := check_stuck hfull' hchecker htracing
    exact ⟨htable, hchecker, hslots⟩
  | monitor e =>
    obtain ⟨tracing, htracing, rfl⟩ := Option.map_eq_some_iff.mp hstep
    obtain ⟨k, m, phase, hget, -, rfl, -⟩ := Tracing.serve_cases htracing
    refine ⟨htable, hchecker, ?_⟩
    show (t.tracing.monitors.set k { m with phase := phase }).map MonitorRun.slot = _
    rw [Tracing.map_slot_set hget]
    exact hslots
  | cleaner e =>
    rw [(clean_frame hstep).1]
    exact ⟨htable, hchecker, hslots⟩

/-- A supervisor with one slot, and a second task. -/
def fullEvents : List SupervisionEvent :=
  taskEvents 0 7 ++ traceEvents 7 ++ taskEvents 1 9 ++ [.checker (.entry 9)]

def fullState : Supervision 1 := (fullEvents.foldlM step (start false)).get (by decide)

/-- The first task is gone and its monitor has ended, and the checker asks again. -/
def stuckEvents : List SupervisionEvent :=
  [.checker .reserve, .monitor (.access 0), .monitor (.openPipe 0), .task (.die 0),
    .monitor (.exit 0), .checker .reserve]

def stuckState : Supervision 1 := (stuckEvents.foldlM step fullState).get (by decide)

theorem stuck_for_ever_sample :
    stuckState.tracing.supervisor = fullState.tracing.supervisor ∧
      stuckState.tracing.checker = .found 9 ∧
      stuckState.tracing.monitors.map MonitorRun.slot
        = fullState.tracing.monitors.map MonitorRun.slot :=
  stuck_for_ever (by decide) (by decide) (run_get fullState stuckEvents (by decide))

end Supervision

end RtTaskTrace
