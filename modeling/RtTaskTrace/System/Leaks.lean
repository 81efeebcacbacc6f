import RtTaskTrace.System.Slots

namespace RtTaskTrace

open Runs

/-!
# Slots that leak

A slot should be taken exactly while a monitor for it lives or is being started.  But the
supervisor never calls `Supervisor_freeInstance`: a monitor that ends, and a
`pthread_create` that fails, leave their slot taken.

* `Tracing.Corresponds` — the correspondence, and what follows from it;
* `Tracing.Leaked` — a slot that is taken and not served; `check_leaked` and `serve_leaked`
  say which slot a step leaks, and that none is ever got back;
* `slots_correspond_iff` — so the correspondence holds until the first monitor ends or fails
  to start, and never again.
-/

variable {M : ℕ}

namespace Tracing

variable {s s' : Tracing M} {w : World}

/-- A monitor thread that has not ended has been handed the slot. -/
def Live (s : Tracing M) (i : Fin M) : Prop := ∃ m ∈ s.monitors, m.slot = i ∧ m.phase ≠ .ended

/-- A slot has a monitor, or the checker is starting one for it. -/
def Served (s : Tracing M) (i : Fin M) : Prop := s.checker.slot = some i ∨ s.Live i

/-- The monitors that have not ended. -/
def live (s : Tracing M) : List (MonitorRun M) := s.monitors.filter fun m => m.phase ≠ .ended

/-- **A slot is taken exactly while it is served.**  So a pid is traced only while some monitor
    serves it, and a reservation fails only when there are as many monitors as slots. -/
structure Corresponds (s : Tracing M) : Prop where
  taken_iff : ∀ i, s.Taken i ↔ s.Served i
  traced : ∀ pid, s.supervisor.checkIfTaskIsBeingTraced pid = true →
    ∃ i, s.pidAt i = pid ∧ s.Served i
  full : ∀ pid, s.checker = .found pid → s.supervisor.reserveInstance.2 = none →
    s.live.length = M

/-- A slot that is taken for nobody. -/
def Leaked (s : Tracing M) (i : Fin M) : Prop := s.Taken i ∧ ¬ s.Served i

instance (s : Tracing M) (i : Fin M) : Decidable (s.Live i) :=
  inferInstanceAs (Decidable (∃ m ∈ s.monitors, _))

instance (s : Tracing M) (i : Fin M) : Decidable (s.Served i) :=
  inferInstanceAs (Decidable (_ ∨ _))

instance (s : Tracing M) (i : Fin M) : Decidable (s.Leaked i) :=
  inferInstanceAs (Decidable (_ ∧ ¬ _))

/-- A slot that is served is taken. -/
theorem Ok.taken_of_served (h : s.Ok) {i : Fin M} (hi : s.Served i) : s.Taken i := by
  rcases hi with hslot | ⟨m, hm, rfl, -⟩
  · cases hpc : s.checker with
    | reserved pid j =>
      rw [hpc] at hslot
      exact Option.some.inj hslot ▸ (h.reserved pid j hpc).1
    | stored pid j =>
      rw [hpc] at hslot
      exact Option.some.inj hslot ▸ (h.stored pid j hpc).1
    | scanning =>
      rw [hpc] at hslot
      exact absurd hslot (by simp [CheckerPc.slot])
    | found pid =>
      rw [hpc] at hslot
      exact absurd hslot (by simp [CheckerPc.slot])
  · exact (h.handed m hm).1

/-- The monitors that live have slots of their own. -/
theorem Ok.live_nodup (h : s.Ok) : (s.live.map MonitorRun.slot).Nodup :=
  h.nodup.sublist (List.Sublist.map _ List.filter_sublist)

/-- When each slot has a monitor that lives, there are as many as slots. -/
theorem Ok.live_length (h : s.Ok) (hall : ∀ i, s.Live i) : s.live.length = M := by
  have hmem : ∀ i, i ∈ s.live.map MonitorRun.slot := by
    intro i
    obtain ⟨m, hm, hslot, hphase⟩ := hall i
    exact List.mem_map.mpr ⟨m, List.mem_filter.mpr ⟨hm, decide_eq_true hphase⟩, hslot⟩
  -- The slots of the living monitors are all slots, each once.
  have hperm : (s.live.map MonitorRun.slot).Perm (List.finRange M) := by
    apply (List.perm_ext_iff_of_nodup h.live_nodup (List.nodup_finRange M)).mpr
    intro i
    exact iff_of_true (hmem i) (List.mem_finRange i)
  have hlen : (s.live.map MonitorRun.slot).length = s.live.length := List.length_map _
  rw [← hlen, hperm.length_eq, List.length_finRange]

/-- **The correspondence is that no slot has leaked.** -/
theorem Ok.corresponds_iff (h : s.Ok) : s.Corresponds ↔ ¬ ∃ i, s.Leaked i := by
  constructor
  · rintro hc ⟨i, htaken, hserved⟩
    exact hserved ((hc.taken_iff i).mp htaken)
  · intro hnone
    have hserved : ∀ i, s.Taken i → s.Served i := by
      intro i hi
      by_contra hserved
      exact hnone ⟨i, hi, hserved⟩
    refine ⟨fun i => ⟨hserved i, h.taken_of_served⟩, ?_, ?_⟩
    · intro pid htraced
      obtain ⟨i, htaken, hpid⟩ := Supervisor.checkIfTaskIsBeingTraced_iff.mp htraced
      exact ⟨i, hpid, hserved i htaken⟩
    · intro pid hpc hreserve
      have hfull := (Supervisor.reserveInstance_none (Prod.ext rfl hreserve)).1
      apply h.live_length
      intro i
      -- A checker that asks for a slot holds none.
      rcases hserved i (hfull i) with hslot | hlive
      · rw [hpc] at hslot
        exact absurd hslot (by simp [CheckerPc.slot])
      · exact hlive

/-! ### Which slots a step leaks -/

/-- A monitor has been handed a slot when the checker has just started one for it, or it had
    been before. -/
theorem live_append {i j : Fin M} :
    (∃ m ∈ s.monitors ++ [⟨i, .waiting⟩], m.slot = j ∧ m.phase ≠ .ended) ↔ i = j ∨ s.Live j := by
  constructor
  · rintro ⟨m, hm, hslot, hphase⟩
    rcases List.mem_append.mp hm with hold | hnew
    · exact .inr ⟨m, hold, hslot, hphase⟩
    · rw [List.mem_singleton.mp hnew] at hslot
      exact .inl hslot
  · rintro (rfl | ⟨m, hm, hslot, hphase⟩)
    · exact ⟨⟨i, .waiting⟩, List.mem_append_right _ (List.mem_singleton_self _), rfl, by simp⟩
    · exact ⟨m, List.mem_append_left _ hm, hslot, hphase⟩

/-- **A reservation leaks nothing**: the slot was free, and the checker serves it now. -/
theorem leaked_reserve {pid : PidT} {i j : Fin M} (hpc : s.checker = .found pid)
    (hfree : s.supervisor.isTaskBeingTraced i = false) :
    Leaked { s with
      supervisor := { s.supervisor with
        isTaskBeingTraced := Function.update s.supervisor.isTaskBeingTraced i true }
      checker := .reserved pid i } j ↔ s.Leaked j := by
  have hnot : ¬ s.Taken i := Bool.eq_false_iff.mp hfree
  by_cases hj : j = i
  · subst hj
    refine iff_of_false ?_ fun hleak => hnot hleak.1
    intro hleak
    exact hleak.2 (.inl rfl)
  · have htaken := taken_update (s := s) (i := i) (j := j)
    rw [or_iff_right hj] at htaken
    have hslot : (some i = some j) ↔ s.checker.slot = some j := by
      rw [hpc]
      exact iff_of_false (fun heq => hj (Option.some.inj heq).symm) (by simp [CheckerPc.slot])
    exact and_congr htaken (not_congr (or_congr hslot Iff.rfl))

/-- **A monitor that is started** takes over the slot of the checker. -/
theorem leaked_started {pid : PidT} {i j : Fin M} (hpc : s.checker = .stored pid i) :
    Leaked { s with checker := .scanning, monitors := s.monitors ++ [⟨i, .waiting⟩] } j ↔
      s.Leaked j := by
  have hslot : s.checker.slot = some j ↔ i = j := by
    rw [hpc]
    exact Option.some_inj
  refine and_congr Iff.rfl (not_congr ?_)
  show none = some j ∨ _ ↔ s.checker.slot = some j ∨ s.Live j
  rw [hslot, or_iff_right (by simp)]
  exact live_append

/-- **A start that fails** leaks the slot: the checker lets go of it, and no monitor takes it. -/
theorem Ok.leaked_not_started (h : s.Ok) {pid : PidT} {i j : Fin M}
    (hpc : s.checker = .stored pid i) :
    Leaked { s with checker := .scanning } j ↔ s.Leaked j ∨ s.checker.slot = some j := by
  have hslot : s.checker.slot = some j ↔ i = j := by
    rw [hpc]
    exact Option.some_inj
  rw [hslot]
  constructor
  · rintro ⟨htaken, hserved⟩
    by_cases hj : i = j
    · exact .inr hj
    · refine .inl ⟨htaken, ?_⟩
      rintro (heq | hlive)
      · exact hj (hslot.mp heq)
      · exact hserved (.inr hlive)
  · rintro (⟨htaken, hserved⟩ | rfl)
    · refine ⟨htaken, ?_⟩
      rintro (heq | hlive)
      · exact absurd heq (by simp [CheckerPc.slot])
      · exact hserved (.inr hlive)
    · refine ⟨(h.stored pid i hpc).1, ?_⟩
      rintro (heq | ⟨m, hm, hmslot, -⟩)
      · exact absurd heq (by simp [CheckerPc.slot])
      · -- the slot the checker holds is no monitor's
        exact (h.handed m hm).2.2 (by rw [hpc, hmslot]; rfl)

/-- **What the checker leaks**: the slot it holds when its `pthread_create` fails. -/
theorem check_leaked (h : s.Ok) {e : CheckerEvent} (hstep : s.check e = some s') (j : Fin M) :
    s'.Leaked j ↔ s.Leaked j ∨ e = .create false ∧ s.checker.slot = some j := by
  cases e with
  | entry pid =>
    rw [or_iff_left (by simp)]
    rcases check_entry hstep with ⟨hpc, rfl | ⟨-, -, rfl⟩⟩
    · exact Iff.rfl
    · simp only [Leaked, Served, Taken, Live, hpc, CheckerPc.slot]
  | reserve =>
    rw [or_iff_left (by simp)]
    rcases check_reserve hstep with ⟨pid, hpc, ⟨-, rfl⟩ | ⟨i, hfree, rfl⟩⟩
    · exact Iff.rfl
    · exact leaked_reserve hpc hfree
  | store =>
    rw [or_iff_left (by simp)]
    obtain ⟨pid, i, hpc, rfl⟩ := check_store hstep
    simp only [Leaked, Served, Taken, Live, hpc, CheckerPc.slot,
      Supervisor.storePid_isTaskBeingTraced]
  | create ok =>
    obtain ⟨pid, i, hpc, rfl⟩ := check_create hstep
    cases ok with
    | true =>
      rw [or_iff_left (by simp)]
      exact leaked_started hpc
    | false =>
      rw [and_iff_right rfl]
      exact h.leaked_not_started hpc

/-- When the phase of a monitor changes, another slot has the monitor it had; the monitor's own
    slot has it unless it has ended. -/
theorem Ok.live_set (h : s.Ok) {k : ℕ} {m : MonitorRun M} (hget : s.monitors[k]? = some m)
    (hm : m.phase ≠ .ended) (phase : MonitorPhase) (j : Fin M) :
    (∃ n ∈ s.monitors.set k { m with phase := phase }, n.slot = j ∧ n.phase ≠ .ended) ↔
      s.Live j ∧ (m.slot = j → phase ≠ .ended) := by
  have hk : k < s.monitors.length := (List.getElem?_eq_some_iff.mp hget).1
  constructor
  · rintro ⟨n, hn, hslot, hphase⟩
    obtain ⟨l, hl⟩ := List.mem_iff_getElem?.mp hn
    -- The monitor that changed, or another one, which has another slot.
    by_cases hkl : k = l
    · rw [← hkl, List.getElem?_set_self hk] at hl
      obtain rfl := Option.some.inj hl
      exact ⟨⟨m, List.mem_of_getElem? hget, hslot, hm⟩, fun _ => hphase⟩
    · rw [List.getElem?_set_ne hkl] at hl
      refine ⟨⟨n, List.mem_of_getElem? hl, hslot, hphase⟩, fun hmslot => ?_⟩
      exact absurd (h.index_unique hget hl (hmslot.trans hslot.symm)) hkl
  · rintro ⟨⟨n, hn, hslot, hphase⟩, hend⟩
    obtain ⟨l, hl⟩ := List.mem_iff_getElem?.mp hn
    by_cases hkl : k = l
    · have hmn : m = n := Option.some.inj (hget.symm.trans (hkl ▸ hl))
      subst hmn
      exact ⟨_, List.mem_of_getElem? (List.getElem?_set_self hk), hslot, hend hslot⟩
    · refine ⟨n, List.mem_of_getElem? (i := l) ?_, hslot, hphase⟩
      rw [List.getElem?_set_ne hkl]
      exact hl

/-- **What a monitor leaks**: its slot, when it ends. -/
theorem serve_leaked (h : s.Ok) {e : MonitorEvent} (hstep : s.serve w e = some s') (j : Fin M) :
    s'.Leaked j ↔
      s.Leaked j ∨ ∃ k m, e = .exit k ∧ s.monitors[k]? = some m ∧ m.slot = j := by
  obtain ⟨k, m, phase, hget, hm, rfl, -, hend⟩ := serve_cases hstep
  have hlive := h.live_set hget hm phase j
  obtain ⟨htaken, -, hslot⟩ := h.handed m (List.mem_of_getElem? hget)
  have hmlive : s.Live m.slot := ⟨m, List.mem_of_getElem? hget, rfl, hm⟩
  rcases hend with ⟨hphase, rfl⟩ | ⟨hphase, hexit⟩
  · -- the monitor's own slot had nothing but the monitor
    by_cases hj : m.slot = j
    · subst hj
      refine iff_of_true ⟨htaken, ?_⟩ (.inr ⟨k, m, rfl, hget, rfl⟩)
      rintro (heq | hstill)
      · exact hslot heq
      · exact (hlive.mp hstill).2 rfl hphase
    · have hother : ¬ ∃ k' m', MonitorEvent.exit k = .exit k' ∧ s.monitors[k']? = some m' ∧
          m'.slot = j := by
        rintro ⟨k', m', heq, hget', hslot'⟩
        obtain rfl := MonitorEvent.exit.inj heq
        obtain rfl := Option.some.inj (hget.symm.trans hget')
        exact hj hslot'
      rw [or_iff_left hother]
      refine and_congr Iff.rfl (not_congr (or_congr Iff.rfl (hlive.trans ?_)))
      exact and_iff_left fun heq => absurd heq hj
  · rw [or_iff_left (by rintro ⟨k', m', heq, -⟩; exact hexit k' heq)]
    refine and_congr Iff.rfl (not_congr (or_congr Iff.rfl (hlive.trans ?_)))
    exact and_iff_left fun _ => hphase

end Tracing

namespace Supervision

variable {s s' : Supervision M}

/-- A step that ends no monitor and fails to start none. -/
def Lasting : SupervisionEvent → Prop
  | .checker (.create ok) => ok = true
  | .monitor (.exit _) => False
  | _ => True

instance : (e : SupervisionEvent) → Decidable (Lasting e)
  | .checker (.create _) => inferInstanceAs (Decidable (_ = _))
  | .checker (.entry _) | .checker .reserve | .checker .store => isTrue trivial
  | .monitor (.exit _) => isFalse id
  | .monitor (.access _) | .monitor (.openPipe _) => isTrue trivial
  | .task _ => isTrue trivial
  | .cleaner _ => isTrue trivial

/-- **A step leaks a slot** when a monitor ends or fails to start, and gets none back. -/
theorem step_leaked (h : s.tracing.Ok) {e : SupervisionEvent} (hstep : s.step e = some s') :
    (∃ i, s'.tracing.Leaked i) ↔ (∃ i, s.tracing.Leaked i) ∨ ¬ Lasting e := by
  cases e with
  | task e =>
    obtain ⟨w, -, rfl⟩ := Option.map_eq_some_iff.mp hstep
    exact (or_iff_left (fun hnot => hnot trivial)).symm
  | cleaner e =>
    rw [(clean_frame hstep).1]
    exact (or_iff_left (fun hnot => hnot trivial)).symm
  | checker e =>
    obtain ⟨tracing, htracing, rfl⟩ := Option.map_eq_some_iff.mp hstep
    rw [exists_congr fun j => Tracing.check_leaked h htracing j, exists_or]
    apply or_congr Iff.rfl
    cases e with
    | create ok =>
      obtain ⟨pid, i, hpc, -⟩ := Tracing.check_create htracing
      cases ok with
      | true =>
        refine iff_of_false ?_ fun hnot => hnot rfl
        rintro ⟨j, heq, -⟩
        exact absurd heq (by simp)
      | false =>
        exact iff_of_true ⟨i, rfl, by rw [hpc]; rfl⟩ Bool.false_ne_true
    | _ =>
      refine iff_of_false ?_ fun hnot => hnot trivial
      rintro ⟨j, heq, -⟩
      exact absurd heq (by simp)
  | monitor e =>
    obtain ⟨tracing, htracing, rfl⟩ := Option.map_eq_some_iff.mp hstep
    rw [exists_congr fun j => Tracing.serve_leaked h htracing j, exists_or]
    apply or_congr Iff.rfl
    cases e with
    | exit k =>
      obtain ⟨k', m, phase, hget, -, -, -, ⟨-, heq⟩ | ⟨-, hexit⟩⟩ := Tracing.serve_cases htracing
      · exact iff_of_true ⟨m.slot, k', m, heq, hget, rfl⟩ fun hfalse => hfalse
      · exact absurd rfl (hexit k)
    | _ =>
      refine iff_of_false ?_ fun hnot => hnot trivial
      rintro ⟨j, k, m, heq, -⟩
      exact absurd heq (by simp)

/-- **The slots of a run.**  After a run the table corresponds to the monitors exactly when no
    step of the run ended a monitor or failed to start one. -/
theorem slots_correspond_iff {enableLogging : Bool} {es : List SupervisionEvent}
    (h : Run step (start enableLogging) es s) :
    s.tracing.Corresponds ↔ ∀ e ∈ es, Lasting e := by
  have hleaked : (∃ i, s.tracing.Leaked i) ↔ ∃ e ∈ es, ¬ Lasting e := by
    -- by induction over the run: each step leaks what `step_leaked` names
    refine h.history_induction (P := fun es t => (∃ i, t.tracing.Leaked i) ↔
      ∃ e ∈ es, ¬ Lasting e) ?_ ?_
    · apply iff_of_false
      · rintro ⟨i, htaken, -⟩
        exact Bool.false_ne_true htaken
      · rintro ⟨e, he, -⟩
        exact List.not_mem_nil he
    · intro es t e t' hrun ih hstep
      rw [step_leaked (ok_run hrun).tracing hstep, ih]
      constructor
      · rintro (⟨f, hf, hnot⟩ | hnot)
        · exact ⟨f, List.mem_append_left _ hf, hnot⟩
        · exact ⟨e, List.mem_append_right _ (List.mem_singleton_self e), hnot⟩
      · rintro ⟨f, hf, hnot⟩
        rcases List.mem_append.mp hf with hold | hnew
        · exact .inl ⟨f, hold, hnot⟩
        · exact .inr (List.mem_singleton.mp hnew ▸ hnot)
  rw [(ok_run h).tracing.corresponds_iff, hleaked]
  constructor
  · intro hnone e he
    by_contra hnot
    exact hnone ⟨e, he, hnot⟩
  · rintro hall ⟨e, he, hnot⟩
    exact hnot (hall e he)

/-- The run of two tasks, each with its monitor: the correspondence holds. -/
theorem slots_correspond_iff_sample :
    ∃ s : Supervision maxTracedTasks, Run step (start false) twoTasks s ∧
      s.tracing.monitors.length = 2 ∧ s.tracing.Corresponds :=
  ⟨(twoTasks.foldlM step (start false)).get (by decide), run_get _ _ _, by decide,
    (slots_correspond_iff (run_get (start false) twoTasks (by decide))).mpr (by decide)⟩

/-- A task is traced and dies, and its monitor ends. -/
def taskEnds : List SupervisionEvent :=
  taskEvents 0 7 ++ traceEvents 7 ++ [.monitor (.access 0), .monitor (.openPipe 0)] ++
    [.task (.die 0), .monitor (.exit 0)]

/-- A task is found, and its monitor cannot be started. -/
def createFails : List SupervisionEvent :=
  taskEvents 0 7 ++ [.checker (.entry 7), .checker .reserve, .checker .store,
    .checker (.create false)]

/-- **Two slots that leak.**  After either run a slot is taken though no monitor lives and none
    is being started, and the pid counts as traced. -/
theorem slots_leak :
    (∃ s : Supervision maxTracedTasks, Run step (start false) taskEnds s ∧
      s.tracing.Taken 0 ∧ ¬ s.tracing.Served 0 ∧
      s.tracing.supervisor.checkIfTaskIsBeingTraced 7 = true) ∧
    ∃ s : Supervision maxTracedTasks, Run step (start false) createFails s ∧
      s.tracing.Taken 0 ∧ ¬ s.tracing.Served 0 ∧
      s.tracing.supervisor.checkIfTaskIsBeingTraced 7 = true :=
  ⟨⟨(taskEnds.foldlM step (start false)).get (by decide), run_get _ _ _,
      by decide, by decide, by decide⟩,
    (createFails.foldlM step (start false)).get (by decide), run_get _ _ _,
      by decide, by decide, by decide⟩

end Supervision

end RtTaskTrace
