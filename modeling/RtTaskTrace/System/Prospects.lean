import RtTaskTrace.System.Phases

namespace RtTaskTrace

open Runs

/-!
# Which tasks can still be monitored

A slot is never given back, the checker takes the next one for the pid it holds, and a monitor
whose `open` has failed, or waits for a pipe that is not the task's, does not try it again.  So
whether a task can still come to be monitored depends on the free slots, on where the checker and
the monitor of its pid stand, and on whether its pipe is still at its path.

* `Tracing.Room` — a free slot is left for the pid once the checker has one for the pid it holds;
* `Tracing.Prospect` — a thread for the pid looks for its pipe, or can still be started;
* `Tracing.Hires` — the checker alone can start one, `room_hires`;
* `Supervision.Prospect` — the condition: a thread has found the task's pipe, or can come to;
  `step_prospect`: no step of any party brings it about;
* `monitored_iff` — the task can come to be monitored exactly then, and then steps of the checker and
  the monitors alone lead to it.
-/

variable {M : ℕ}

namespace Tracing

variable {s s' : Tracing M} {w : World} {pid : PidT} {id : ℕ}

/-- The slots that are not taken. -/
def freeSlots (s : Tracing M) : Finset (Fin M) := Finset.univ.filter fun i => ¬ s.Taken i

/-- How many slots the checker has still to reserve until it has reserved one for the pid. -/
def needed (s : Tracing M) (pid : PidT) : ℕ :=
  match s.checker with
  | .scanning | .stored _ _ => 1
  | .found pid' => if pid' = pid then 1 else 2
  | .reserved pid' _ => if pid' = pid then 0 else 1

/-- There are as many free slots. -/
def Room (s : Tracing M) (pid : PidT) : Prop := s.needed pid ≤ s.freeSlots.card

instance (s : Tracing M) (pid : PidT) : Decidable (s.Room pid) :=
  inferInstanceAs (Decidable (_ ≤ _))

instance (s : Tracing M) (pid : PidT) : Decidable (s.Clear pid) :=
  inferInstanceAs (Decidable (_ = _))

/-- A monitor of the pid that is about to look for its pipe. -/
def Heading (s : Tracing M) (pid : PidT) (m : MonitorRun M) : Prop :=
  s.pidOf m = pid ∧ (m.phase = .waiting ∨ m.phase = .accessed)

instance (s : Tracing M) (pid : PidT) (m : MonitorRun M) : Decidable (s.Heading pid m) :=
  inferInstanceAs (Decidable (_ ∧ _))

/-- The pid is in no slot and there is room for it, or the checker has stored it and is about to
    start its thread, or its thread is about to look for its pipe. -/
def Prospect (s : Tracing M) (pid : PidT) : Prop :=
  s.Clear pid ∧ s.Room pid ∨ (∃ i, s.checker = .stored pid i) ∨
    ∃ m ∈ s.monitors, s.Heading pid m

instance (s : Tracing M) (pid : PidT) : Decidable (s.Prospect pid) :=
  inferInstanceAs (Decidable (_ ∨ _))

/-- A thread reads the pipe of the process `c`, or waits for it to open the `made`-th one it has
    created. -/
def Found (s : Tracing M) (c made : ℕ) : Prop :=
  ∃ m ∈ s.monitors, m.phase = .reading c ∨ m.phase = .opening c made

instance (s : Tracing M) (c made : ℕ) : Decidable (s.Found c made) :=
  inferInstanceAs (Decidable (∃ m ∈ s.monitors, _))

/-! ### What no step brings about -/

/-- A reservation takes one slot from those that are free. -/
theorem card_freeSlots_reserve {i : Fin M} (hfree : s.supervisor.isTaskBeingTraced i = false)
    (checker : CheckerPc M) :
    (freeSlots { s with
      supervisor := { s.supervisor with
        isTaskBeingTraced := Function.update s.supervisor.isTaskBeingTraced i true }
      checker := checker }).card + 1 = s.freeSlots.card := by
  have hmem : i ∈ s.freeSlots :=
    Finset.mem_filter.mpr ⟨Finset.mem_univ i, Bool.eq_false_iff.mp hfree⟩
  have herase : freeSlots { s with
      supervisor := { s.supervisor with
        isTaskBeingTraced := Function.update s.supervisor.isTaskBeingTraced i true }
      checker := checker } = s.freeSlots.erase i := by
    ext j
    rw [Finset.mem_erase, freeSlots, freeSlots, Finset.mem_filter, Finset.mem_filter]
    have htaken := taken_update (s := s) (i := i) (j := j)
    constructor
    · rintro ⟨huniv, hnot⟩
      exact ⟨fun heq => hnot (htaken.mpr (.inl heq)), huniv, fun hj => hnot (htaken.mpr (.inr hj))⟩
    · rintro ⟨hne, huniv, hnot⟩
      refine ⟨huniv, fun hj => ?_⟩
      rcases htaken.mp hj with heq | hold
      · exact hne heq
      · exact hnot hold
  rw [herase]
  exact Finset.card_erase_add_one hmem

/-- **The checker makes no room.**  The slot it takes for another pid is one it needed. -/
theorem check_room {e : CheckerEvent} (hstep : s.check e = some s') (h : s'.Room pid) :
    s.Room pid := by
  unfold Room needed at *
  cases e with
  | entry pid' =>
    rcases check_entry hstep with ⟨hpc, rfl | ⟨-, -, rfl⟩⟩
    · exact h
    · rw [hpc]
      change (if pid' = pid then 1 else 2) ≤ s.freeSlots.card at h
      show 1 ≤ s.freeSlots.card
      split at h <;> omega
  | reserve =>
    rcases check_reserve hstep with ⟨pid', hpc, ⟨-, rfl⟩ | ⟨i, hfree, rfl⟩⟩
    · exact h
    · have hcard := card_freeSlots_reserve hfree (.reserved pid' i)
      rw [hpc]
      change (if pid' = pid then 0 else 1) ≤ _ at h
      show (if pid' = pid then 1 else 2) ≤ s.freeSlots.card
      split at h
      · rw [if_pos ‹_›]
        omega
      · rw [if_neg ‹_›]
        omega
  | store =>
    obtain ⟨pid', i, hpc, rfl⟩ := check_store hstep
    rw [hpc]
    change 1 ≤ s.freeSlots.card at h
    show (if pid' = pid then 0 else 1) ≤ s.freeSlots.card
    split <;> omega
  | create ok =>
    obtain ⟨pid', i, hpc, rfl⟩ := check_create hstep
    rw [hpc]
    exact h

/-- **A step of the checker** leads only from one prospect to another. -/
theorem check_prospect (hok : s.Ok) (hpos : 0 < pid) {e : CheckerEvent}
    (hstep : s.check e = some s') (h : s'.Prospect pid) : s.Prospect pid := by
  rcases h with ⟨hclear, hroom⟩ | ⟨i, hstored⟩ | ⟨m, hm, hpid, hphase⟩
  · exact .inl ⟨((check_clear hok hpos hstep).mp hclear).1, check_room hstep hroom⟩
  · cases e with
    | entry pid' =>
      rcases check_entry hstep with ⟨-, rfl | ⟨-, -, rfl⟩⟩
      · exact .inr (.inl ⟨i, hstored⟩)
      · exact absurd hstored (by simp)
    | reserve =>
      rcases check_reserve hstep with ⟨pid', -, ⟨-, rfl⟩ | ⟨j, -, rfl⟩⟩
      · exact .inr (.inl ⟨i, hstored⟩)
      · exact absurd hstored (by simp)
    | store =>
      -- The pid stored was in no slot, and had its own.
      obtain ⟨pid', j, hpc, rfl⟩ := check_store hstep
      cases hstored
      obtain ⟨-, -, -, hfresh⟩ := hok.reserved pid i hpc
      refine .inl ⟨clear_iff.mpr hfresh, ?_⟩
      rw [Room, needed, hpc]
      simp
    | create ok =>
      obtain ⟨pid', j, -, rfl⟩ := check_create hstep
      exact absurd hstored (by simp)
  · cases e with
    | entry pid' =>
      rcases check_entry hstep with ⟨-, rfl | ⟨-, -, rfl⟩⟩ <;>
        exact .inr (.inr ⟨m, hm, hpid, hphase⟩)
    | reserve =>
      rcases check_reserve hstep with ⟨pid', -, ⟨-, rfl⟩ | ⟨j, -, rfl⟩⟩ <;>
        exact .inr (.inr ⟨m, hm, hpid, hphase⟩)
    | store =>
      -- the slot written to is no monitor's
      obtain ⟨pid', j, hpc, rfl⟩ := check_store hstep
      have hne : m.slot ≠ j := by
        intro heq
        exact (hok.handed m hm).2.2 (by rw [hpc, heq]; rfl)
      exact .inr (.inr ⟨m, hm, (Supervisor.storePid_pid_ne hne).symm.trans hpid, hphase⟩)
    | create ok =>
      -- A new thread is that of the pid stored.
      obtain ⟨pid', j, hpc, rfl⟩ := check_create hstep
      rcases mem_create hm with hold | rfl
      · exact .inr (.inr ⟨m, hold, hpid, hphase⟩)
      · obtain ⟨-, hslot, -⟩ := hok.stored pid' j hpc
        have heq : pid' = pid := hslot.symm.trans hpid
        exact .inr (.inl ⟨j, heq ▸ hpc⟩)

/-- The threads that the checker starts have found no pipe yet. -/
theorem check_found (hok : s.Ok) {e : CheckerEvent} (hstep : s.check e = some s') {c made : ℕ}
    (h : s'.Found c made) : s.Found c made := by
  obtain ⟨m, hm, hphase⟩ := h
  rcases check_monitors hok hstep hm with hwaiting | ⟨hold, -⟩
  · rw [hwaiting] at hphase
    exact absurd hphase (by simp)
  · exact ⟨m, hold, hphase⟩

/-- **A step of a monitor** lets no thread look for its pipe that has not done so before. -/
theorem serve_prospect {e : MonitorEvent} (hstep : s.serve w e = some s')
    (h : s'.Prospect pid) : s.Prospect pid := by
  obtain ⟨k, m, phase, hget, rfl, hmove⟩ := serve_moves hstep
  rcases h with hroom | hstored | ⟨n, hn, hpid, hphase⟩
  · exact .inl hroom
  · exact .inr (.inl hstored)
  · rcases List.mem_or_eq_of_mem_set hn with hold | rfl
    · exact .inr (.inr ⟨n, hold, hpid, hphase⟩)
    · -- It has just found that there is one.
      exact .inr (.inr ⟨m, List.mem_of_getElem? hget, hpid, .inl (hmove.looking hphase)⟩)

/-- **A thread finds the pipe of a process** that has opened its pipe at the path of its pid, or has
    found it before. -/
theorem serve_found {e : MonitorEvent} (hstep : s.serve w e = some s') {c : ℕ} {t : Task}
    (ht : w.tasks[c]? = some t) (h : s'.Found c t.made) :
    s.Found c t.made ∨ ∃ m ∈ s.monitors, m.phase = .accessed ∧ w.pipes (s.pidOf m) = some c := by
  obtain ⟨n, hn, hphase⟩ := h
  obtain ⟨k, m, phase, hget, rfl, hmove⟩ := serve_moves hstep
  have hmem := List.mem_of_getElem? hget
  rcases List.mem_or_eq_of_mem_set hn with hold | rfl
  · exact .inl ⟨n, hold, hphase⟩
  · change phase = .reading c ∨ phase = .opening c t.made at hphase
    cases hmove with
    | access | fail | hang | exit => exact absurd hphase (by simp)
    | read haccessed hpipe =>
      obtain rfl : _ = c := by simpa using hphase
      exact .inr ⟨m, hmem, haccessed, hpipe⟩
    | wait haccessed hpipe =>
      obtain ⟨rfl, -⟩ : _ = c ∧ _ = t.made := by simpa using hphase
      exact .inr ⟨m, hmem, haccessed, hpipe⟩
    | wake hopening hopened =>
      -- the pipe it has waited for is the last one the process has made
      obtain rfl : _ = c := by simpa using hphase
      obtain ⟨u, hu, -, hmade⟩ := World.hasOpened_iff.mp hopened
      obtain rfl := Option.some.inj (hu.symm.trans ht)
      exact .inl ⟨m, hmem, .inr (hmade ▸ hopening)⟩

/-! ### What the checker can do alone -/

/-- Steps of the checker lead to a thread that waits for the pipe of the pid. -/
def Hires (s : Tracing M) (pid : PidT) : Prop :=
  ∃ es s', Run check s es s' ∧ ∃ m ∈ s'.monitors, m.phase = .waiting ∧ s'.pidOf m = pid

theorem Hires.step {e : CheckerEvent} (h : s'.Hires pid) (hstep : s.check e = some s') :
    s.Hires pid := by
  obtain ⟨es, t, hrun, hm⟩ := h
  exact ⟨e :: es, t, (run_cons _ _ _ _).mpr ⟨s', hstep, hrun⟩, hm⟩

/-- The pid is in its slot. -/
theorem stored_hires (hok : s.Ok) {i : Fin M} (hpc : s.checker = .stored pid i) :
    s.Hires pid := by
  obtain ⟨-, hpid, -⟩ := hok.stored pid i hpc
  have hstep : s.check (.create true) = some { s with
      checker := .scanning, monitors := s.monitors ++ [⟨i, .waiting⟩] } := by
    rw [check, hpc]
    rfl
  refine Hires.step ?_ hstep
  exact ⟨[], _, (run_nil _ _).mpr rfl, ⟨i, .waiting⟩,
    List.mem_append_right _ (List.mem_singleton_self _), rfl, hpid⟩

/-- A slot has been reserved for the pid. -/
theorem reserved_hires (hok : s.Ok) {i : Fin M} (hpc : s.checker = .reserved pid i) :
    s.Hires pid := by
  have hstep : s.check .store = some { s with
      supervisor := s.supervisor.storePid i pid, checker := .stored pid i } := by
    rw [check, hpc]
  exact (stored_hires (check_ok hok hstep) rfl).step hstep

/-- **The reservation** when a slot is free. -/
theorem exists_reserve {pid' : PidT} (hpc : s.checker = .found pid') (hfree : 0 < s.freeSlots.card) :
    ∃ i s', s.check .reserve = some s' ∧ s'.checker = .reserved pid' i ∧
      s'.freeSlots.card + 1 = s.freeSlots.card := by
  cases hreserve : s.supervisor.reserveInstance with
  | mk supervisor slot =>
    cases slot with
    | none =>
      obtain ⟨i, hi⟩ := Finset.card_pos.mp hfree
      exact absurd ((Supervisor.reserveInstance_none hreserve).1 i) (Finset.mem_filter.mp hi).2
    | some i =>
      refine ⟨i, { s with supervisor := supervisor, checker := .reserved pid' i }, ?_, rfl, ?_⟩
      · simp only [check, hpc, hreserve]
      · obtain ⟨hslot, rfl⟩ := Supervisor.reserveInstance_some hreserve
        exact card_freeSlots_reserve hslot _

/-- The checker has found the pid and there is a slot. -/
theorem found_hires (hok : s.Ok) (hpc : s.checker = .found pid) (hfree : 0 < s.freeSlots.card) :
    s.Hires pid := by
  obtain ⟨i, s', hstep, hpc', -⟩ := exists_reserve hpc hfree
  exact (reserved_hires (check_ok hok hstep) hpc').step hstep

/-- The checker reads the directory, in which the pid has an entry. -/
theorem scanning_hires (hok : s.Ok) (hpos : 0 < pid) (hclear : s.Clear pid)
    (hpc : s.checker = .scanning) (hfree : 0 < s.freeSlots.card) : s.Hires pid := by
  have hstep : s.check (.entry pid) = some { s with checker := .found pid } := by
    simp only [check, hpc]
    rw [if_neg (Int32.not_le.mpr hpos), if_neg (Bool.eq_false_iff.mp hclear)]
  exact (found_hires (check_ok hok hstep) rfl hfree).step hstep

/-- The checker is about to start the thread of another pid. -/
theorem other_stored_hires (hok : s.Ok) (hpos : 0 < pid) (hclear : s.Clear pid) {pid' : PidT}
    {i : Fin M} (hpc : s.checker = .stored pid' i) (hfree : 0 < s.freeSlots.card) :
    s.Hires pid := by
  have hstep : s.check (.create true) = some { s with
      checker := .scanning, monitors := s.monitors ++ [⟨i, .waiting⟩] } := by
    rw [check, hpc]
    rfl
  exact (scanning_hires (check_ok hok hstep) hpos hclear rfl hfree).step hstep

/-- The checker has reserved a slot for another pid. -/
theorem other_reserved_hires (hok : s.Ok) (hpos : 0 < pid) (hclear : s.Clear pid) {pid' : PidT}
    (hne : pid' ≠ pid) {i : Fin M} (hpc : s.checker = .reserved pid' i)
    (hfree : 0 < s.freeSlots.card) : s.Hires pid := by
  have hstep : s.check .store = some { s with
      supervisor := s.supervisor.storePid i pid', checker := .stored pid' i } := by
    rw [check, hpc]
  have hclear' := (check_clear hok hpos hstep).mpr ⟨hclear, by simp [storing, hpc, hne]⟩
  exact (other_stored_hires (check_ok hok hstep) hpos hclear' rfl hfree).step hstep

/-- **Where there is room, the pid gets its thread**, wherever the checker stands. -/
theorem room_hires (hok : s.Ok) (hpos : 0 < pid) (hclear : s.Clear pid) (hroom : s.Room pid) :
    s.Hires pid := by
  unfold Room needed at hroom
  cases hpc : s.checker with
  | scanning =>
    rw [hpc] at hroom
    exact scanning_hires hok hpos hclear hpc hroom
  | stored pid' i =>
    rw [hpc] at hroom
    exact other_stored_hires hok hpos hclear hpc hroom
  | found pid' =>
    simp only [hpc] at hroom
    by_cases heq : pid' = pid
    · rw [if_pos heq] at hroom
      exact found_hires hok (heq ▸ hpc) hroom
    · rw [if_neg heq] at hroom
      -- One slot goes to the pid the checker holds.
      obtain ⟨i, s', hstep, hpc', hcard⟩ := exists_reserve hpc (by omega)
      have hfree : 0 < s'.freeSlots.card := by omega
      have hclear' := (check_clear hok hpos hstep).mpr ⟨hclear, by simp⟩
      exact (other_reserved_hires (check_ok hok hstep) hpos hclear' heq hpc' hfree).step hstep
  | reserved pid' i =>
    simp only [hpc] at hroom
    by_cases heq : pid' = pid
    · exact reserved_hires hok (heq ▸ hpc)
    · rw [if_neg heq] at hroom
      exact other_reserved_hires hok hpos hclear heq hpc hroom

end Tracing

/-! ### The tasks and the supervisor together -/

namespace World

variable {w w' : World}

/-- No process has a pid that `atoi` could not have read. -/
def Positive (w : World) : Prop := ∀ t ∈ w.tasks, 0 < t.pid

theorem step_positive (h : w.Positive) {e : TaskEvent} (hstep : w.step e = some w') :
    w'.Positive := by
  have hset : ∀ (id : ℕ) (t t' : Task), w.tasks[id]? = some t → t'.pid = t.pid →
      ∀ u ∈ w.tasks.set id t', 0 < u.pid := by
    intro id t t' ht hpid u hu
    rcases List.mem_or_eq_of_mem_set hu with hold | rfl
    · exact h u hold
    · exact hpid ▸ h t (List.mem_of_getElem? ht)
  cases e with
  | start pid =>
    simp only [step] at hstep
    split at hstep
    · exact absurd hstep (by simp)
    · rename_i hnot
      cases hstep
      intro u hu
      rcases List.mem_append.mp hu with hold | hnew
      · exact h u hold
      · rw [List.mem_singleton.mp hnew]
        exact Int32.not_le.mp fun hle => hnot (.inl hle)
  | access id =>
    obtain ⟨t, ht, rfl⟩ := Option.map_eq_some_iff.mp hstep
    exact hset id t _ (at?_eq_some ht).1 (by rfl)
  | mkfifo id ok =>
    obtain ⟨t, ht, rfl⟩ := Option.map_eq_some_iff.mp hstep
    split
    · exact hset id t _ (at?_eq_some ht).1 (by rfl)
    · exact hset id t _ (at?_eq_some ht).1 (by rfl)
  | openPipe id ok =>
    obtain ⟨t, ht, rfl⟩ := Option.map_eq_some_iff.mp hstep
    exact hset id t _ (at?_eq_some ht).1 (by rfl)
  | die id =>
    obtain ⟨t, ht, rfl⟩ := Option.map_eq_some_iff.mp hstep
    exact hset id t _ (Option.filter_eq_some_iff.mp ht).1 (by rfl)

end World

/-- A step of the checker or of a monitor. -/
def SupervisionEvent.OfSupervisor (e : SupervisionEvent) : Prop :=
  (∃ e', e = .checker e') ∨ ∃ e', e = .monitor e'

namespace Supervision

variable {s s' : Supervision M} {pid : PidT} {id : ℕ} {enableLogging : Bool}
  {e : SupervisionEvent} {es : List SupervisionEvent}

theorem positive_run (h : Run step (start enableLogging) es s) : s.world.Positive := by
  refine h.invariant (I := fun t => t.world.Positive)
    (fun t ht => absurd ht List.not_mem_nil) ?_
  intro t e t' ht hstep
  cases e with
  | task e =>
    obtain ⟨w, hw, rfl⟩ := Option.map_eq_some_iff.mp hstep
    exact World.step_positive ht hw
  | checker e =>
    obtain ⟨tracing, -, rfl⟩ := Option.map_eq_some_iff.mp hstep
    exact ht
  | monitor e =>
    obtain ⟨tracing, -, rfl⟩ := Option.map_eq_some_iff.mp hstep
    exact ht
  | cleaner e =>
    unfold World.Positive
    rw [(clean_frame hstep).2.1]
    exact ht

/-- Some monitor reads the pipe of the process. -/
def Monitored (s : Supervision M) (id : ℕ) : Prop :=
  ∃ m ∈ s.tracing.monitors, m.phase = .reading id

/-- A thread has found the pipe of the process `id`, `t`, or the pipe is at its path and a thread
    for the pid can come to look for it. -/
def Prospect (s : Supervision M) (id : ℕ) (t : Task) : Prop :=
  s.tracing.Found id t.made ∨ s.world.pipes t.pid = some id ∧ s.tracing.Prospect t.pid

instance (s : Supervision M) (id : ℕ) (t : Task) : Decidable (s.Prospect id t) :=
  inferInstanceAs (Decidable (_ ∨ _))

/-- **What an opened process keeps.** -/
theorem step_opened (hstep : s.step e = some s') {t : Task}
    (ht : s.world.tasks[id]? = some t) (hopened : t.phase = .opened) :
    (∃ t', s'.world.tasks[id]? = some t' ∧ t'.phase = .opened ∧ t'.pid = t.pid ∧
      t'.made = t.made) ∧ (s'.world.pipes t.pid = some id → s.world.pipes t.pid = some id) := by
  cases e with
  | task e =>
    obtain ⟨w, hw, rfl⟩ := Option.map_eq_some_iff.mp hstep
    exact World.step_opened hw ht hopened
  | checker e =>
    obtain ⟨tracing, -, rfl⟩ := Option.map_eq_some_iff.mp hstep
    exact ⟨⟨t, ht, hopened, rfl, rfl⟩, fun hpipe => hpipe⟩
  | monitor e =>
    obtain ⟨tracing, -, rfl⟩ := Option.map_eq_some_iff.mp hstep
    exact ⟨⟨t, ht, hopened, rfl, rfl⟩, fun hpipe => hpipe⟩
  | cleaner e =>
    obtain ⟨-, htasks, hpipes⟩ := clean_frame hstep
    rw [htasks]
    exact ⟨⟨t, ht, hopened, rfl, rfl⟩, hpipes t.pid id⟩

/-- **No step brings a prospect about**, neither of the supervisor nor of a task. -/
theorem step_prospect (hok : s.Ok) (hstep : s.step e = some s') {t : Task}
    (ht : s.world.tasks[id]? = some t) (hopened : t.phase = .opened) (hpos : 0 < t.pid)
    (h : s'.Prospect id t) : s.Prospect id t := by
  have hpipes := (step_opened hstep ht hopened).2
  cases e with
  | task e =>
    obtain ⟨w, -, rfl⟩ := Option.map_eq_some_iff.mp hstep
    exact h.imp_right (And.imp_left hpipes)
  | checker e =>
    obtain ⟨tracing, htracing, rfl⟩ := Option.map_eq_some_iff.mp hstep
    exact h.imp (Tracing.check_found hok.tracing htracing)
      (And.imp_right (Tracing.check_prospect hok.tracing hpos htracing))
  | monitor e =>
    obtain ⟨tracing, htracing, rfl⟩ := Option.map_eq_some_iff.mp hstep
    rcases h with hfound | ⟨hpipe, hprospect⟩
    · rcases Tracing.serve_found htracing ht hfound with hbefore | ⟨m, hm, haccessed, hpipe⟩
      · exact .inl hbefore
      · -- the pipe it has found is at the path of the process's own pid
        obtain ⟨u, hu, hpid⟩ := hok.owned _ id hpipe
        obtain rfl := Option.some.inj (hu.symm.trans ht)
        exact .inr ⟨hpid ▸ hpipe, .inr (.inr ⟨m, hm, hpid.symm, .inr haccessed⟩)⟩
    · exact .inr ⟨hpipe, Tracing.serve_prospect htracing hprospect⟩
  | cleaner e =>
    have htracing := (clean_frame hstep).1
    unfold Prospect at h ⊢
    rw [htracing] at h
    exact h.imp_right (And.imp_left hpipes)

/-- **Whoever is monitored at last had a prospect at first.** -/
theorem prospect_of_run (hok : s.Ok) {t : Task} (ht : s.world.tasks[id]? = some t)
    (hopened : t.phase = .opened) (hpos : 0 < t.pid) (h : Run step s es s')
    (hmonitored : s'.Monitored id) : s.Prospect id t := by
  -- The table stays right, and the process stays what it is but for its death.
  refine h.reflects (P := fun u => u.Prospect id t) (I := fun u => u.Ok ∧
    ∃ t', u.world.tasks[id]? = some t' ∧ t'.phase = .opened ∧ t'.pid = t.pid ∧ t'.made = t.made)
    ⟨hok, t, ht, hopened, rfl, rfl⟩ ?_ ?_
  · rintro u e u' ⟨huok, t', ht', hopened', hpid, hmade⟩ hstep
    obtain ⟨⟨t'', ht'', hopened'', hpid', hmade'⟩, -⟩ := step_opened hstep ht' hopened'
    refine ⟨⟨step_ok huok hstep, t'', ht'', hopened'', hpid'.trans hpid, hmade'.trans hmade⟩, ?_⟩
    intro hprospect
    have hsame : ∀ v : Supervision M, v.Prospect id t' ↔ v.Prospect id t := by
      intro v
      rw [Prospect, Prospect, hpid, hmade]
    exact (hsame u).mp (step_prospect huok hstep ht' hopened' (hpid ▸ hpos) ((hsame u').mpr hprospect))
  · obtain ⟨m, hm, hreading⟩ := hmonitored
    exact .inl ⟨m, hm, .inl hreading⟩

/-- Steps of the checker and the monitors alone lead to a monitor of the process. -/
def Attains (s : Supervision M) (id : ℕ) : Prop :=
  ∃ es s', (∀ e ∈ es, e.OfSupervisor) ∧ Run step s es s' ∧ s'.Monitored id

theorem Attains.of_run {fs : List SupervisionEvent} (h : s'.Attains id)
    (hfs : ∀ e ∈ fs, e.OfSupervisor) (hrun : Run step s fs s') : s.Attains id := by
  obtain ⟨es, t, hes, hrun', hmonitored⟩ := h
  refine ⟨fs ++ es, t, fun e he => ?_, (run_append _ _ _ _).mpr ⟨s', hrun, hrun'⟩, hmonitored⟩
  rcases List.mem_append.mp he with hmem | hmem
  · exact hfs e hmem
  · exact hes e hmem

theorem Attains.of_step {e : SupervisionEvent} (h : s'.Attains id) (he : e.OfSupervisor)
    (hstep : s.step e = some s') : s.Attains id := by
  have hrun : Run step s [e] s' := (run_cons s s' e []).mpr ⟨s', hstep, (run_nil _ _).mpr rfl⟩
  refine h.of_run (fun f hf => ?_) hrun
  rw [List.mem_singleton.mp hf]
  exact he

/-- What the `open` of a thread makes of it. -/
theorem openPipe_attains {k : ℕ} {m : MonitorRun M} (hm : s.tracing.monitors[k]? = some m)
    (hopen : s.tracing.openPipe s.world m = some (.reading id)) : s.Attains id := by
  have hlt := (List.getElem?_eq_some_iff.mp hm).1
  have hstep : s.step (.monitor (.openPipe k)) = some { s with tracing := { s.tracing with
      monitors := s.tracing.monitors.set k { m with phase := .reading id } } } := by
    simp only [step, Tracing.serve, hm, hopen, Option.bind_eq_bind, Option.bind_some,
      Option.map_some]
  refine Attains.of_step ?_ (.inr ⟨_, rfl⟩) hstep
  exact ⟨[], _, fun e he => absurd he List.not_mem_nil, (run_nil _ _).mpr rfl,
    { m with phase := .reading id }, List.mem_of_getElem? (List.getElem?_set_self hlt), rfl⟩

/-- A thread opens the pipe at its path while the creator holds it open. -/
theorem accessed_attains {k : ℕ} {m : MonitorRun M} (hm : s.tracing.monitors[k]? = some m)
    (hphase : m.phase = .accessed) (hpipe : s.world.pipes (s.tracing.pidOf m) = some id)
    {t : Task} (ht : s.world.at? id .opened = some t) : s.Attains id := by
  apply openPipe_attains hm
  obtain ⟨hget, halive⟩ := World.at?_eq_some ht
  simp only [Tracing.openPipe, hphase, hpipe, hget, Option.map_some, Tracing.openRead, halive,
    World.at?_phase ht, if_true]

/-- A thread that waits for the pipe finds it. -/
theorem waiting_attains {k : ℕ} {m : MonitorRun M} (hm : s.tracing.monitors[k]? = some m)
    (hphase : m.phase = .waiting) (hpipe : s.world.pipes (s.tracing.pidOf m) = some id)
    {t : Task} (ht : s.world.at? id .opened = some t) : s.Attains id := by
  have hlt := (List.getElem?_eq_some_iff.mp hm).1
  have hstep : s.step (.monitor (.access k)) = some { s with tracing := { s.tracing with
      monitors := s.tracing.monitors.set k { m with phase := .accessed } } } := by
    simp only [step, Tracing.serve, hm, Option.filter_some, hphase, hpipe, Option.isSome_some,
      decide_true, Bool.and_self, if_true, Option.bind_eq_bind, Option.bind_some, Option.map_some]
  refine Attains.of_step ?_ (.inr ⟨_, rfl⟩) hstep
  exact accessed_attains (List.getElem?_set_self hlt) rfl hpipe ht

/-- The checker first starts the thread. -/
theorem hires_attains (h : s.tracing.Hires pid) (hpipe : s.world.pipes pid = some id)
    {t : Task} (ht : s.world.at? id .opened = some t) : s.Attains id := by
  obtain ⟨es, tracing, hrun, m, hm, hphase, hpid⟩ := h
  obtain ⟨k, hk⟩ := List.mem_iff_getElem?.mp hm
  have hwaiting : Attains { s with tracing := tracing } id :=
    waiting_attains hk hphase (by rw [← hpipe]; exact congrArg s.world.pipes hpid) ht
  have hsystem : Run step s (es.map SupervisionEvent.checker) { s with tracing := tracing } :=
    hrun.map (f := fun tracing => { s with tracing := tracing }) fun _ _ _ hstep =>
      Option.map_eq_some_iff.mpr ⟨_, hstep, rfl⟩
  refine hwaiting.of_run (fun e he => ?_) hsystem
  obtain ⟨e', -, rfl⟩ := List.mem_map.mp he
  exact .inl ⟨e', rfl⟩

/-- A thread that has found the pipe reads it, or has only waited for it to be opened. -/
theorem found_attains {t : Task} (ht : s.world.at? id .opened = some t)
    (h : s.tracing.Found id t.made) : s.Attains id := by
  obtain ⟨m, hm, hreading | hopening⟩ := h
  · exact ⟨[], s, fun e he => absurd he List.not_mem_nil, (run_nil _ _).mpr rfl, m, hm, hreading⟩
  · obtain ⟨k, hk⟩ := List.mem_iff_getElem?.mp hm
    apply openPipe_attains hk
    have hopened : s.world.hasOpened id t.made = true :=
      World.hasOpened_iff.mpr ⟨t, (World.at?_eq_some ht).1, World.at?_phase ht, rfl⟩
    simp only [Tracing.openPipe, hopening, hopened, if_true]

/-- **Where there is a prospect**, the supervisor's threads can see it through. -/
theorem prospect_attains (hok : s.Ok) {t : Task} (hpos : 0 < t.pid)
    (ht : s.world.at? id .opened = some t) (h : s.Prospect id t) : s.Attains id := by
  rcases h with hfound | ⟨hpipe, ⟨hclear, hroom⟩ | ⟨i, hstored⟩ | ⟨m, hm, hpid, hphase⟩⟩
  · exact found_attains ht hfound
  · exact hires_attains (Tracing.room_hires hok.tracing hpos hclear hroom) hpipe ht
  · exact hires_attains (Tracing.stored_hires hok.tracing hstored) hpipe ht
  · obtain ⟨k, hk⟩ := List.mem_iff_getElem?.mp hm
    rw [← hpid] at hpipe
    rcases hphase with hwaiting | haccessed
    · exact waiting_attains hk hwaiting hpipe ht
    · exact accessed_attains hk haccessed hpipe ht

/-- **Which tasks can still be monitored.**  In every reachable state, of a living task that has its
    pipe open: some run leads to a monitor that reads it exactly when the task has a prospect, and
    then steps of the checker and the monitors alone do. -/
theorem monitored_iff (h : Run step (start enableLogging) es s) {t : Task}
    (ht : s.world.at? id .opened = some t) :
    ((∃ fs s', Run step s fs s' ∧ s'.Monitored id) ↔ s.Prospect id t) ∧
      (s.Prospect id t → s.Attains id) := by
  have hok := ok_run h
  have hget := (World.at?_eq_some ht).1
  have hpos := positive_run h t (List.mem_of_getElem? hget)
  have hattains := prospect_attains hok hpos ht
  refine ⟨⟨?_, fun hprospect => ?_⟩, hattains⟩
  · rintro ⟨fs, s', hrun, hmonitored⟩
    exact prospect_of_run hok hget (World.at?_phase ht) hpos hrun hmonitored
  · obtain ⟨fs, s', -, hrun, hmonitored⟩ := hattains hprospect
    exact ⟨fs, s', hrun, hmonitored⟩

/-- A supervisor with one slot has found the second of two tasks. -/
def rivalEvents : List SupervisionEvent :=
  taskEvents 0 7 ++ taskEvents 1 9 ++ [.checker (.entry 9)]

def rivalState : Supervision 1 := (rivalEvents.foldlM step (start false)).get (by decide)

theorem rivalState_run : Run step (start false) rivalEvents rivalState := run_get _ _ _

/-- The cleanup thread finds a task untraced, and its thread finds the pipe; then the task dies, the
    thread waits in its `open`, the pipe is removed, and a new process of the pid has its own. -/
def unlinkedEvents : List SupervisionEvent :=
  taskEvents 0 7 ++ [.cleaner (.entry 7), .cleaner .checkTraced] ++ traceEvents 7 ++
    [.monitor (.access 0), .task (.die 0), .monitor (.openPipe 0), .cleaner .checkExist,
      .cleaner (.remove true)] ++ taskEvents 1 7

def unlinkedState : Supervision maxTracedTasks :=
  (unlinkedEvents.foldlM step (start false)).get (by decide)

theorem unlinkedState_run : Run step (start false) unlinkedEvents unlinkedState := run_get _ _ _

/-- The one slot is for the second of the two tasks, so the first will never be monitored; nor will
    the process whose predecessor's pipe a thread still waits for. -/
theorem monitored_iff_sample :
    (¬ ∃ fs s', Run step rivalState fs s' ∧ s'.Monitored 0) ∧ rivalState.Attains 1 ∧
      ¬ ∃ fs s', Run step unlinkedState fs s' ∧ s'.Monitored 1 := by
  have hfirst : rivalState.world.at? 0 .opened = some ⟨7, true, .opened, 1⟩ := by decide
  have hsecond : rivalState.world.at? 1 .opened = some ⟨9, true, .opened, 1⟩ := by decide
  have hnew : unlinkedState.world.at? 1 .opened = some ⟨7, true, .opened, 1⟩ := by decide +kernel
  refine ⟨fun hrun => ?_, (monitored_iff rivalState_run hsecond).2 (by decide), fun hrun => ?_⟩
  · exact absurd ((monitored_iff rivalState_run hfirst).1.mp hrun) (by decide)
  · exact absurd ((monitored_iff unlinkedState_run hnew).1.mp hrun) (by decide +kernel)

end Supervision

end RtTaskTrace
