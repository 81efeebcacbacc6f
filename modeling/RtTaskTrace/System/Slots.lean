import RtTaskTrace.System.Supervision

namespace RtTaskTrace

open Runs

/-!
# Slots and monitors

What holds of the supervisor's table over every run.

* `Tracing.Ok` — the table, the pid the checker holds between its critical sections and the
  monitors started so far agree; `check_ok` and `serve_ok` keep it;
* `Supervision.Ok` — and each pipe, and each monitor that has found one, belongs to a process of
  the right pid: `ok_run`;
* `one_monitor_per_task` — so no two monitors ever read one task's pipe.
-/

variable {M : ℕ}

namespace Tracing

variable {s s' : Tracing M} {w : World}

/-- A slot is taken. -/
def Taken (s : Tracing M) (i : Fin M) : Prop := s.supervisor.isTaskBeingTraced i = true

instance (s : Tracing M) (i : Fin M) : Decidable (s.Taken i) :=
  inferInstanceAs (Decidable (_ = _))

/-- The pid stored in a slot. -/
def pidAt (s : Tracing M) (i : Fin M) : PidT := (s.supervisor.monitor i).pid

/-- The table, the checker and the monitors agree: a free slot has never been used; a pid is in
    one slot only; the pid the checker holds is in none, until it stores it in the slot it has
    reserved; and each monitor has a slot of its own, with a pid in it. -/
structure Ok (s : Tracing M) : Prop where
  blank : ∀ i, ¬ s.Taken i → s.pidAt i = 0
  unique : ∀ i j, s.Taken i → s.Taken j → 0 < s.pidAt i → s.pidAt i = s.pidAt j → i = j
  found : ∀ pid, s.checker = .found pid → 0 < pid ∧ ∀ j, s.Taken j → s.pidAt j ≠ pid
  reserved : ∀ pid i, s.checker = .reserved pid i →
    s.Taken i ∧ s.pidAt i = 0 ∧ 0 < pid ∧ ∀ j, s.Taken j → s.pidAt j ≠ pid
  stored : ∀ pid i, s.checker = .stored pid i → s.Taken i ∧ s.pidAt i = pid ∧ 0 < pid
  handed : ∀ m ∈ s.monitors, s.Taken m.slot ∧ 0 < s.pidAt m.slot ∧ s.checker.slot ≠ some m.slot
  nodup : (s.monitors.map MonitorRun.slot).Nodup

theorem start_ok (enableLogging : Bool) : (start enableLogging : Tracing M).Ok where
  blank := fun _ _ => rfl
  unique := fun _ _ hi => absurd hi Bool.false_ne_true
  found := by
    intro pid h
    exact absurd h (by simp [start])
  reserved := by
    intro pid i h
    exact absurd h (by simp [start])
  stored := by
    intro pid i h
    exact absurd h (by simp [start])
  handed := by
    intro m hm
    exact absurd hm List.not_mem_nil
  nodup := List.nodup_nil

/-! ### The checker keeps it -/

/-- A pid found is one that no slot holds. -/
theorem Ok.find (h : s.Ok) {pid : PidT} (hpos : 0 < pid)
    (hfresh : ∀ j, s.Taken j → s.pidAt j ≠ pid) : Ok { s with checker := .found pid } where
  blank := h.blank
  unique := h.unique
  found := by
    intro pid' heq
    cases heq
    exact ⟨hpos, hfresh⟩
  reserved := by
    intro pid' i heq
    exact absurd heq (by simp)
  stored := by
    intro pid' i heq
    exact absurd heq (by simp)
  handed := by
    intro m hm
    obtain ⟨htaken, hpid, -⟩ := h.handed m hm
    exact ⟨htaken, hpid, by simp [CheckerPc.slot]⟩
  nodup := h.nodup

/-- Taking a slot changes no other. -/
theorem taken_update {i j : Fin M} :
    Function.update s.supervisor.isTaskBeingTraced i true j = true ↔ j = i ∨ s.Taken j := by
  by_cases hj : j = i
  · subst hj
    rw [Function.update_self]
    exact iff_of_true rfl (Or.inl rfl)
  · rw [Function.update_of_ne hj]
    exact (or_iff_right hj).symm

/-- **The reservation**: the slot taken is one that was never used. -/
theorem Ok.reserve (h : s.Ok) {pid : PidT} {i : Fin M} (hpc : s.checker = .found pid)
    (hfree : s.supervisor.isTaskBeingTraced i = false) :
    Ok { s with
      supervisor := { s.supervisor with
        isTaskBeingTraced := Function.update s.supervisor.isTaskBeingTraced i true }
      checker := .reserved pid i } := by
  have hnot : ¬ s.Taken i := Bool.eq_false_iff.mp hfree
  have hblank := h.blank i hnot
  obtain ⟨hpos, hfresh⟩ := h.found pid hpc
  refine ⟨?_, ?_, ?_, ?_, ?_, ?_, h.nodup⟩
  · intro j hj
    exact h.blank j fun htaken => hj (taken_update.mpr (Or.inr htaken))
  · intro j k hj hk hjpos heq
    change 0 < s.pidAt j at hjpos
    change s.pidAt j = s.pidAt k at heq
    -- The slot just taken holds no positive pid yet.
    rcases taken_update.mp hj with rfl | hj
    · rw [hblank] at hjpos
      exact absurd hjpos (by decide)
    · rcases taken_update.mp hk with rfl | hk
      · rw [heq, hblank] at hjpos
        exact absurd hjpos (by decide)
      · exact h.unique j k hj hk hjpos heq
  · intro pid' heq
    exact absurd heq (by simp)
  · intro pid' i' heq
    cases heq
    refine ⟨taken_update.mpr (Or.inl rfl), hblank, hpos, ?_⟩
    intro j hj
    rcases taken_update.mp hj with rfl | hj
    · intro heq
      rw [show s.pidAt j = pid from heq] at hblank
      rw [hblank] at hpos
      exact absurd hpos (by decide)
    · exact hfresh j hj
  · intro pid' i' heq
    exact absurd heq (by simp)
  · intro m hm
    obtain ⟨htaken, hpid, -⟩ := h.handed m hm
    refine ⟨taken_update.mpr (Or.inr htaken), hpid, ?_⟩
    intro heq
    obtain rfl := Option.some.inj heq
    exact hnot htaken

/-- **The store**: the pid goes into the slot reserved for it, which no monitor has. -/
theorem Ok.store (h : s.Ok) {pid : PidT} {i : Fin M} (hpc : s.checker = .reserved pid i) :
    Ok { s with supervisor := s.supervisor.storePid i pid, checker := .stored pid i } := by
  obtain ⟨htaken, -, hpos, hfresh⟩ := h.reserved pid i hpc
  have hself : ((s.supervisor.storePid i pid).monitor i).pid = pid := Supervisor.storePid_pid_self
  have hother : ∀ j, j ≠ i → ((s.supervisor.storePid i pid).monitor j).pid = s.pidAt j :=
    fun j hj => Supervisor.storePid_pid_ne hj
  refine ⟨?_, ?_, ?_, ?_, ?_, ?_, h.nodup⟩
  · intro j hj
    have hji : j ≠ i := by
      rintro rfl
      exact hj htaken
    exact (hother j hji).trans (h.blank j hj)
  · intro j k hj hk hjpos heq
    change 0 < ((s.supervisor.storePid i pid).monitor j).pid at hjpos
    change ((s.supervisor.storePid i pid).monitor j).pid
      = ((s.supervisor.storePid i pid).monitor k).pid at heq
    -- The pid stored was in no other slot.
    by_cases hji : j = i
    · by_cases hki : k = i
      · rw [hji, hki]
      · rw [hji, hself, hother k hki] at heq
        exact absurd heq.symm (hfresh k hk)
    · rw [hother j hji] at hjpos heq
      by_cases hki : k = i
      · rw [hki, hself] at heq
        exact absurd heq (hfresh j hj)
      · rw [hother k hki] at heq
        exact h.unique j k hj hk hjpos heq
  · intro pid' heq
    exact absurd heq (by simp)
  · intro pid' i' heq
    exact absurd heq (by simp)
  · intro pid' i' heq
    cases heq
    exact ⟨htaken, hself, hpos⟩
  · intro m hm
    obtain ⟨hm', hpid, hslot⟩ := h.handed m hm
    rw [hpc] at hslot
    have hne : m.slot ≠ i := by
      intro heq
      exact hslot (by rw [heq]; rfl)
    refine ⟨hm', ?_, ?_⟩
    · show 0 < ((s.supervisor.storePid i pid).monitor m.slot).pid
      rw [hother m.slot hne]
      exact hpid
    · intro heq
      exact hne (Option.some.inj heq).symm

/-- A monitor after a creation was there before, or is the new one. -/
theorem mem_create {ok : Bool} {i : Fin M} {m : MonitorRun M}
    (hm : m ∈ if ok then s.monitors ++ [⟨i, .waiting⟩] else s.monitors) :
    m ∈ s.monitors ∨ m = ⟨i, .waiting⟩ := by
  cases ok with
  | true => exact (List.mem_append.mp hm).imp_right List.mem_singleton.mp
  | false => exact .inl hm

/-- **The creation**: the slot goes to a new monitor, or to none. -/
theorem Ok.create (h : s.Ok) {pid : PidT} {i : Fin M} (hpc : s.checker = .stored pid i)
    (ok : Bool) :
    Ok { s with
      checker := .scanning
      monitors := if ok then s.monitors ++ [⟨i, .waiting⟩] else s.monitors } := by
  obtain ⟨htaken, hpid, hpos⟩ := h.stored pid i hpc
  -- The slot the checker holds is no monitor's.
  have hnew : i ∉ s.monitors.map MonitorRun.slot := by
    intro hmem
    obtain ⟨m, hm, hslot⟩ := List.mem_map.mp hmem
    have hne := (h.handed m hm).2.2
    rw [hpc, hslot] at hne
    exact hne rfl
  refine ⟨h.blank, h.unique, ?_, ?_, ?_, ?_, ?_⟩
  · intro pid' heq
    exact absurd heq (by simp)
  · intro pid' i' heq
    exact absurd heq (by simp)
  · intro pid' i' heq
    exact absurd heq (by simp)
  · intro m hm
    rcases mem_create hm with hold | rfl
    · obtain ⟨hmtaken, hmpid, -⟩ := h.handed m hold
      exact ⟨hmtaken, hmpid, by simp [CheckerPc.slot]⟩
    · refine ⟨htaken, ?_, by simp [CheckerPc.slot]⟩
      show 0 < s.pidAt i
      rw [hpid]
      exact hpos
  · cases ok
    · rw [if_neg Bool.false_ne_true]
      exact h.nodup
    · rw [if_pos rfl, List.map_append, List.nodup_append]
      refine ⟨h.nodup, List.nodup_singleton _, ?_⟩
      intro a ha b hb hab
      rw [List.map_singleton, List.mem_singleton] at hb
      rw [hab, hb] at ha
      exact hnew ha

theorem check_ok (h : s.Ok) {e : CheckerEvent} (hstep : s.check e = some s') : s'.Ok := by
  cases e with
  | entry pid =>
    rcases check_entry hstep with ⟨-, rfl | ⟨hpos, htraced, rfl⟩⟩
    · exact h
    · exact h.find hpos (Supervisor.checkIfTaskIsBeingTraced_eq_false.mp htraced)
  | reserve =>
    rcases check_reserve hstep with ⟨pid, hpc, ⟨-, rfl⟩ | ⟨i, hfree, rfl⟩⟩
    · exact h
    · exact h.reserve hpc hfree
  | store =>
    obtain ⟨pid, i, hpc, rfl⟩ := check_store hstep
    exact h.store hpc
  | create ok =>
    obtain ⟨pid, i, hpc, rfl⟩ := check_create hstep
    exact h.create hpc ok

/-! ### The monitors keep it -/

/-- Changing the phase of a monitor changes no slot. -/
theorem map_slot_set {monitors : List (MonitorRun M)} {k : ℕ} {m : MonitorRun M}
    (hm : monitors[k]? = some m) (phase : MonitorPhase) :
    (monitors.set k { m with phase := phase }).map MonitorRun.slot
      = monitors.map MonitorRun.slot := by
  obtain ⟨hk, rfl⟩ := List.getElem?_eq_some_iff.mp hm
  have hk' : k < (monitors.map MonitorRun.slot).length := by
    rw [List.length_map]
    exact hk
  have hsame : (monitors.map MonitorRun.slot)[k] = monitors[k].slot := List.getElem_map _
  rw [List.map_set]
  show (monitors.map MonitorRun.slot).set k monitors[k].slot = monitors.map MonitorRun.slot
  rw [← hsame, List.set_getElem_self]

theorem serve_ok (h : s.Ok) {e : MonitorEvent} (hstep : s.serve w e = some s') : s'.Ok := by
  obtain ⟨k, m, phase, hm, -, rfl, -, -⟩ := serve_cases hstep
  refine ⟨h.blank, h.unique, h.found, h.reserved, h.stored, ?_, ?_⟩
  · intro m' hm'
    -- the monitor that changed has the slot it had
    have hmem : m'.slot ∈ (s.monitors.set k { m with phase := phase }).map MonitorRun.slot :=
      List.mem_map_of_mem hm'
    rw [map_slot_set hm] at hmem
    obtain ⟨m₀, hm₀, hslot⟩ := List.mem_map.mp hmem
    rw [← hslot]
    exact h.handed m₀ hm₀
  · show ((s.monitors.set k { m with phase := phase }).map MonitorRun.slot).Nodup
    rw [map_slot_set hm]
    exact h.nodup

/-- Two monitors that share a slot are one. -/
theorem Ok.index_unique (h : s.Ok) {k l : ℕ} {m n : MonitorRun M} (hk : s.monitors[k]? = some m)
    (hl : s.monitors[l]? = some n) (hslot : m.slot = n.slot) : k = l := by
  have hlt : k < (s.monitors.map MonitorRun.slot).length := by
    rw [List.length_map]
    exact (List.getElem?_eq_some_iff.mp hk).1
  apply (List.getElem?_inj hlt h.nodup).mp
  rw [List.getElem?_map, List.getElem?_map, hk, hl]
  exact congrArg some hslot

/-- A step of the checker changes the pid of no monitor, and starts only one that waits. -/
theorem check_monitors (h : s.Ok) {e : CheckerEvent} (hstep : s.check e = some s')
    {m : MonitorRun M} (hm : m ∈ s'.monitors) :
    m.phase = .waiting ∨ m ∈ s.monitors ∧ s'.pidOf m = s.pidOf m := by
  cases e with
  | entry pid =>
    rcases check_entry hstep with ⟨-, rfl | ⟨-, -, rfl⟩⟩ <;> exact .inr ⟨hm, rfl⟩
  | reserve =>
    rcases check_reserve hstep with ⟨pid, -, ⟨-, rfl⟩ | ⟨i, -, rfl⟩⟩ <;> exact .inr ⟨hm, rfl⟩
  | store =>
    obtain ⟨pid, i, hpc, rfl⟩ := check_store hstep
    -- the slot the checker has reserved is no monitor's
    have hslot := (h.handed m hm).2.2
    rw [hpc] at hslot
    have hne : m.slot ≠ i := by
      intro heq
      exact hslot (by rw [heq]; rfl)
    exact .inr ⟨hm, Supervisor.storePid_pid_ne hne⟩
  | create ok =>
    obtain ⟨pid, i, -, rfl⟩ := check_create hstep
    rcases mem_create hm with hold | rfl
    · exact .inr ⟨hold, rfl⟩
    · exact .inl rfl

end Tracing

namespace World

/-- Each pipe was created by a process of the pid it is for. -/
def Owned (w : World) : Prop :=
  ∀ pid c, w.pipes pid = some c → ∃ t, w.tasks[c]? = some t ∧ t.pid = pid

theorem step_owned {w w' : World} (h : w.Owned) {e : TaskEvent} (hstep : w.step e = some w') :
    w'.Owned := by
  intro pid c hc
  -- a pipe that was there has the creator it had, who has the pid it had
  have hold : w.pipes pid = some c → ∃ t, w'.tasks[c]? = some t ∧ t.pid = pid := by
    intro hc
    obtain ⟨t, ht, hpid⟩ := h pid c hc
    obtain ⟨t', ht', hpid'⟩ := step_pid hstep ht
    exact ⟨t', ht', hpid'.trans hpid⟩
  -- A new pipe is the one of the process that has made the step.
  rcases step_cases hstep with ⟨_, -, hpipes⟩ | ⟨id, t, t', hget, -, hpid, htasks, hpipes⟩
  · rw [hpipes] at hc
    exact hold hc
  · rcases hpipes with hpipes | ⟨-, hpipes⟩
    · rw [hpipes] at hc
      exact hold hc
    · rw [hpipes] at hc
      by_cases heq : pid = t.pid
      · rw [heq, Function.update_self] at hc
        obtain rfl := Option.some.inj hc
        refine ⟨t', ?_, hpid.trans heq.symm⟩
        rw [htasks]
        exact List.getElem?_set_self (List.getElem?_eq_some_iff.mp hget).1
      · rw [Function.update_of_ne heq] at hc
        exact hold hc

end World

namespace Supervision

/-- The table is right, and pipes and the monitors that have found them belong to processes of the
    right pid. -/
structure Ok (s : Supervision M) : Prop where
  tracing : s.tracing.Ok
  owned : s.world.Owned
  found : ∀ m ∈ s.tracing.monitors, ∀ c, m.phase.creator = some c →
    ∃ t, s.world.tasks[c]? = some t ∧ t.pid = s.tracing.pidOf m

variable {s s' : Supervision M}

/-- A monitor reads the pipe of a process of its pid. -/
theorem Ok.reading (h : s.Ok) (m : MonitorRun M) (hm : m ∈ s.tracing.monitors) (c : ℕ)
    (hphase : m.phase = .reading c) :
    ∃ t, s.world.tasks[c]? = some t ∧ t.pid = s.tracing.pidOf m :=
  h.found m hm c (by rw [hphase]; rfl)

theorem start_ok (enableLogging : Bool) : (start enableLogging : Supervision M).Ok where
  tracing := Tracing.start_ok enableLogging
  owned := by
    intro pid c hc
    exact absurd hc (by simp [start, World.empty])
  found := by
    intro m hm
    exact absurd hm List.not_mem_nil

/-- **Every step keeps it.** -/
theorem step_ok (h : s.Ok) {e : SupervisionEvent} (hstep : s.step e = some s') : s'.Ok := by
  cases e with
  | task e =>
    obtain ⟨w, hw, rfl⟩ := Option.map_eq_some_iff.mp hstep
    refine ⟨h.tracing, World.step_owned h.owned hw, ?_⟩
    intro m hm c hphase
    -- A task's step changes no process's pid.
    obtain ⟨t, ht, hpid⟩ := h.found m hm c hphase
    obtain ⟨t', ht', hpid'⟩ := World.step_pid hw ht
    exact ⟨t', ht', hpid'.trans hpid⟩
  | checker e =>
    obtain ⟨tracing, htracing, rfl⟩ := Option.map_eq_some_iff.mp hstep
    refine ⟨Tracing.check_ok h.tracing htracing, h.owned, ?_⟩
    intro m hm c hphase
    -- A new monitor has found nothing yet, and an old one has the pid it had.
    rcases Tracing.check_monitors h.tracing htracing hm with hwaiting | ⟨hold, hpid⟩
    · rw [hwaiting] at hphase
      exact absurd hphase (by simp [MonitorPhase.creator])
    · obtain ⟨t, ht, htpid⟩ := h.found m hold c hphase
      exact ⟨t, ht, htpid.trans hpid.symm⟩
  | monitor e =>
    obtain ⟨tracing, htracing, rfl⟩ := Option.map_eq_some_iff.mp hstep
    refine ⟨Tracing.serve_ok h.tracing htracing, h.owned, ?_⟩
    obtain ⟨k, m, phase, hget, -, rfl, hfound, -⟩ := Tracing.serve_cases htracing
    intro m' hm' c hphase
    rcases List.mem_or_eq_of_mem_set hm' with hold | rfl
    · exact h.found m' hold c hphase
    · -- The monitor that has moved had found the pipe, or finds it at its path.
      rcases hfound c hphase with hbefore | hpipe
      · exact h.found m (List.mem_of_getElem? hget) c hbefore
      · exact h.owned _ c hpipe
  | cleaner e =>
    obtain ⟨htracing, htasks, hpipes⟩ := clean_frame hstep
    refine ⟨htracing ▸ h.tracing, ?_, ?_⟩
    · intro pid c hc
      rw [htasks]
      exact h.owned pid c (hpipes pid c hc)
    · rw [htracing, htasks]
      exact h.found

/-- **Every run keeps it.** -/
theorem ok_run {enableLogging : Bool} {es : List SupervisionEvent}
    (h : Run step (start enableLogging) es s) : s.Ok :=
  h.invariant (start_ok enableLogging) fun _ _ _ hI hstep => step_ok hI hstep

/-- **One monitor per task.**  In every reachable state no two slots hold the same positive pid,
    no slot has been handed to two monitor threads, and no two of them read the pipes of one
    process. -/
theorem one_monitor_per_task {enableLogging : Bool} {es : List SupervisionEvent}
    (h : Run step (start enableLogging) es s) :
    (∀ i j, s.tracing.Taken i → s.tracing.Taken j → 0 < s.tracing.pidAt i →
      s.tracing.pidAt i = s.tracing.pidAt j → i = j) ∧
    (s.tracing.monitors.map MonitorRun.slot).Nodup ∧
    ∀ (k l : ℕ) (m n : MonitorRun M) (c : ℕ), s.tracing.monitors[k]? = some m →
      s.tracing.monitors[l]? = some n → m.phase = .reading c → n.phase = .reading c → k = l := by
  have hok := ok_run h
  refine ⟨hok.tracing.unique, hok.tracing.nodup, ?_⟩
  intro k l m n c hk hl hm hn
  have hmem := List.mem_of_getElem? hk
  obtain ⟨t, ht, hpid⟩ := hok.reading m hmem c hm
  obtain ⟨u, hu, hpid'⟩ := hok.reading n (List.mem_of_getElem? hl) c hn
  -- the process read has one pid, which is in one slot only
  have htu : t = u := Option.some.inj (ht.symm.trans hu)
  have hsame : s.tracing.pidOf m = s.tracing.pidOf n := by
    rw [← hpid, ← hpid', htu]
  obtain ⟨htaken, hpos, -⟩ := hok.tracing.handed m hmem
  obtain ⟨htaken', -, -⟩ := hok.tracing.handed n (List.mem_of_getElem? hl)
  exact hok.tracing.index_unique hk hl (hok.tracing.unique _ _ htaken htaken' hpos hsame)

/-- The process `id` starts and makes the calls of `SharedMem_userInit`. -/
def taskEvents (id : ℕ) (pid : PidT) : List SupervisionEvent :=
  [.task (.start pid), .task (.access id), .task (.mkfifo id true), .task (.openPipe id true)]

/-- The checker finds a pid and starts a monitor for it. -/
def traceEvents (pid : PidT) : List SupervisionEvent :=
  [.checker (.entry pid), .checker .reserve, .checker .store, .checker (.create true)]

/-- Two tasks; a directory with two names for the first one; and a monitor for each. -/
def twoTasks : List SupervisionEvent :=
  taskEvents 0 7 ++ traceEvents 7 ++ [.checker (.entry 7)] ++ taskEvents 1 9 ++
    [.monitor (.access 0), .monitor (.openPipe 0)] ++ traceEvents 9 ++
    [.monitor (.access 1), .monitor (.openPipe 1)]

theorem one_monitor_per_task_sample :
    ∃ s : Supervision maxTracedTasks, Run step (start false) twoTasks s ∧
      s.tracing.monitors = [⟨0, .reading 0⟩, ⟨1, .reading 1⟩] ∧
      (∀ i j, s.tracing.Taken i → s.tracing.Taken j → 0 < s.tracing.pidAt i →
        s.tracing.pidAt i = s.tracing.pidAt j → i = j) ∧
      (s.tracing.monitors.map MonitorRun.slot).Nodup ∧
      ∀ (k l : ℕ) (m n : MonitorRun maxTracedTasks) (c : ℕ), s.tracing.monitors[k]? = some m →
        s.tracing.monitors[l]? = some n → m.phase = .reading c → n.phase = .reading c → k = l :=
  ⟨(twoTasks.foldlM step (start false)).get (by decide), run_get _ _ _, by decide,
    one_monitor_per_task (run_get (start false) twoTasks (by decide))⟩

end Supervision

end RtTaskTrace
