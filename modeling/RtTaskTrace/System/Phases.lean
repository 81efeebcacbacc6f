import RtTaskTrace.System.Lifetime

namespace RtTaskTrace

/-!
# How far processes and monitors get

What one step makes of the phase of a process or of a monitor thread.

* `World.step_process`, `step_new`, `step_opened` — a process has its pipe open only after an `open`
  of its own, and from then on;
* `Supervision.step_reading` — a monitor reads a pipe only after its creator has opened it;
* `Supervision.step_ended` — a monitor has ended only after its exit.
-/

variable {M : ℕ}

namespace World

variable {w w' : World} {e : TaskEvent} {c : ℕ} {t t' : Task}

theorem at?_phase {phase : TaskPhase} (h : w.at? c phase = some t) : t.phase = phase := by
  obtain ⟨-, hkeep⟩ := Option.filter_eq_some_iff.mp h
  rw [Bool.and_eq_true, decide_eq_true_iff] at hkeep
  exact hkeep.2

/-- A process that is moved from a phase before the last. -/
theorem move_process {id made : ℕ} {u : Task} {phase phase' : TaskPhase}
    (hat : w.at? id phase = some u) (hphase : phase ≠ .opened)
    (htasks : w'.tasks = w.tasks.set id { u with phase := phase', made := made })
    (hopen : phase' = .opened → ∃ ok, e = .openPipe id ok) (ht : w.tasks[c]? = some t) :
    ∃ t', w'.tasks[c]? = some t' ∧ (t.phase = .opened → t'.phase = .opened) ∧
      (t'.phase = .opened → t.phase = .opened ∨ ∃ ok, e = .openPipe c ok) := by
  obtain ⟨hget, -⟩ := at?_eq_some hat
  rw [htasks]
  by_cases hid : id = c
  · subst hid
    obtain rfl := Option.some.inj (hget.symm.trans ht)
    refine ⟨_, List.getElem?_set_self (List.getElem?_eq_some_iff.mp hget).1, ?_, ?_⟩
    · intro hopened
      exact absurd ((at?_phase hat).symm.trans hopened) hphase
    · exact fun hopened => .inr (hopen hopened)
  · exact ⟨t, by rw [List.getElem?_set_ne hid]; exact ht, fun hopened => hopened, .inl⟩

/-- **What a step makes of the phase of a process.**  It keeps its pipe open, and gets there only
    by an `open` of its own. -/
theorem step_process (h : w.step e = some w') (ht : w.tasks[c]? = some t) :
    ∃ t', w'.tasks[c]? = some t' ∧ (t.phase = .opened → t'.phase = .opened) ∧
      (t'.phase = .opened → t.phase = .opened ∨ ∃ ok, e = .openPipe c ok) := by
  cases e with
  | start pid =>
    simp only [step] at h
    split at h
    · exact absurd h (by simp)
    · cases h
      refine ⟨t, ?_, fun hopened => hopened, .inl⟩
      rw [← ht]
      exact List.getElem?_append_left (List.getElem?_eq_some_iff.mp ht).1
  | access id =>
    obtain ⟨u, hu, rfl⟩ := Option.map_eq_some_iff.mp h
    refine move_process hu (by decide) rfl (fun hopened => ?_) ht
    split at hopened <;> simp at hopened
  | mkfifo id ok =>
    obtain ⟨u, hu, rfl⟩ := Option.map_eq_some_iff.mp h
    split
    · exact move_process hu (by decide) rfl (fun hopened => absurd hopened (by decide)) ht
    · exact move_process hu (by decide) rfl (fun hopened => absurd hopened (by decide)) ht
  | openPipe id ok =>
    obtain ⟨u, hu, rfl⟩ := Option.map_eq_some_iff.mp h
    exact move_process hu (by decide) rfl (fun _ => ⟨ok, rfl⟩) ht
  | die id =>
    obtain ⟨u, hu, rfl⟩ := Option.map_eq_some_iff.mp h
    obtain ⟨hget, -⟩ := Option.filter_eq_some_iff.mp hu
    by_cases hid : id = c
    · subst hid
      obtain rfl := Option.some.inj (hget.symm.trans ht)
      exact ⟨_, List.getElem?_set_self (List.getElem?_eq_some_iff.mp hget).1,
        fun hopened => hopened, .inl⟩
    · exact ⟨t, by rw [← ht]; exact List.getElem?_set_ne hid, fun hopened => hopened, .inl⟩

/-- **A process that has opened its pipe** keeps what it has made, and its pipe does not come back to
    a path it was removed from. -/
theorem step_opened (h : w.step e = some w') (ht : w.tasks[c]? = some t)
    (hopened : t.phase = .opened) :
    (∃ t', w'.tasks[c]? = some t' ∧ t'.phase = .opened ∧ t'.pid = t.pid ∧ t'.made = t.made) ∧
      (w'.pipes t.pid = some c → w.pipes t.pid = some c) := by
  -- No process that moves is the one that has its pipe open.
  have hother : ∀ {id : ℕ} {u : Task} {phase : TaskPhase}, w.at? id phase = some u →
      phase ≠ .opened → c ≠ id := by
    rintro id u phase hat hphase rfl
    obtain rfl := Option.some.inj ((at?_eq_some hat).1.symm.trans ht)
    exact hphase ((at?_phase hat).symm.trans hopened)
  have hmoved : ∀ {id : ℕ} {u u' : Task} {phase : TaskPhase}, w.at? id phase = some u →
      phase ≠ .opened → (w.tasks.set id u')[c]? = some t := fun hat hphase =>
    (List.getElem?_set_ne (hother hat hphase).symm).trans ht
  cases e with
  | start pid =>
    simp only [step] at h
    split at h
    · exact absurd h (by simp)
    · cases h
      refine ⟨⟨t, ?_, hopened, rfl, rfl⟩, fun hpipe => hpipe⟩
      rw [← ht]
      exact List.getElem?_append_left (List.getElem?_eq_some_iff.mp ht).1
  | access id =>
    obtain ⟨u, hu, rfl⟩ := Option.map_eq_some_iff.mp h
    exact ⟨⟨t, hmoved hu (by decide), hopened, rfl, rfl⟩, fun hpipe => hpipe⟩
  | mkfifo id ok =>
    obtain ⟨u, hu, rfl⟩ := Option.map_eq_some_iff.mp h
    split
    · refine ⟨⟨t, hmoved hu (by decide), hopened, rfl, rfl⟩, fun hpipe => ?_⟩
      change Function.update w.pipes u.pid (some id) t.pid = some c at hpipe
      by_cases hpid : t.pid = u.pid
      · rw [hpid, Function.update_self] at hpipe
        exact absurd (Option.some.inj hpipe).symm (hother hu (by decide))
      · rwa [Function.update_of_ne hpid] at hpipe
    · exact ⟨⟨t, hmoved hu (by decide), hopened, rfl, rfl⟩, fun hpipe => hpipe⟩
  | openPipe id ok =>
    obtain ⟨u, hu, rfl⟩ := Option.map_eq_some_iff.mp h
    exact ⟨⟨t, hmoved hu (by decide), hopened, rfl, rfl⟩, fun hpipe => hpipe⟩
  | die id =>
    obtain ⟨u, hu, rfl⟩ := Option.map_eq_some_iff.mp h
    refine ⟨?_, fun hpipe => hpipe⟩
    obtain ⟨hget, -⟩ := Option.filter_eq_some_iff.mp hu
    by_cases hid : id = c
    · subst hid
      obtain rfl := Option.some.inj (hget.symm.trans ht)
      exact ⟨_, List.getElem?_set_self (List.getElem?_eq_some_iff.mp hget).1, hopened, rfl, rfl⟩
    · exact ⟨t, (List.getElem?_set_ne hid).trans ht, hopened, rfl, rfl⟩

/-- A process that is new has just started. -/
theorem step_new (h : w.step e = some w') (ht' : w'.tasks[c]? = some t')
    (hnone : w.tasks[c]? = none) : t'.phase = .started := by
  rcases step_cases h with ⟨pid, htasks, -⟩ | ⟨id, u, u', -, -, -, htasks, -⟩
  · rw [htasks, List.getElem?_append_right (List.getElem?_eq_none_iff.mp hnone)] at ht'
    rw [List.mem_singleton.mp (List.mem_of_getElem? ht')]
  · have hlt := (List.getElem?_eq_some_iff.mp ht').1
    rw [htasks, List.length_set] at hlt
    exact absurd hlt (Nat.not_lt.mpr (List.getElem?_eq_none_iff.mp hnone))

theorem at?_of {phase : TaskPhase} (ht : w.tasks[c]? = some t) (halive : t.alive = true)
    (hphase : t.phase = phase) : w.at? c phase = some t := by
  rw [at?, ht, Option.filter_some, halive, hphase, decide_eq_true rfl]
  rfl

/-- A process that makes its `open` has just created its pipe, and is alive. -/
theorem step_openPipe {ok : Bool} (h : w.step (.openPipe c ok) = some w')
    (ht : w.tasks[c]? = some t) (ht' : w'.tasks[c]? = some t') :
    t.phase = .created ∧ t'.alive = true := by
  obtain ⟨u, hu, rfl⟩ := Option.map_eq_some_iff.mp h
  obtain ⟨hget, halive⟩ := at?_eq_some hu
  obtain rfl := Option.some.inj (hget.symm.trans ht)
  refine ⟨at?_phase hu, ?_⟩
  have hset := (List.getElem?_set_self (List.getElem?_eq_some_iff.mp hget).1).symm.trans ht'
  rw [← Option.some.inj hset]
  exact halive

end World

namespace Tracing

variable {s s' : Tracing M} {w : World}

/-- A monitor reads a pipe only after its creator has opened it. -/
theorem serve_reading {e : MonitorEvent} (h : s.serve w e = some s') {m : MonitorRun M}
    (hm : m ∈ s'.monitors) {c : ℕ} (hphase : m.phase = .reading c) :
    m ∈ s.monitors ∨ ∃ t, w.tasks[c]? = some t ∧ t.phase = .opened := by
  obtain ⟨k, n, phase, -, rfl, hmove⟩ := serve_moves h
  rcases List.mem_or_eq_of_mem_set hm with hold | rfl
  · exact .inl hold
  · right
    obtain rfl : phase = .reading c := hphase
    cases hmove with
    | read _ _ ht _ hopened => exact ⟨_, ht, hopened⟩
    | wake _ hopened =>
      obtain ⟨t, ht, htphase, -⟩ := World.hasOpened_iff.mp hopened
      exact ⟨t, ht, htphase⟩

/-- A monitor ends by its exit. -/
theorem serve_ended {e : MonitorEvent} (h : s.serve w e = some s') {k : ℕ} {m : MonitorRun M}
    (hm : s'.monitors[k]? = some m) (hphase : m.phase = .ended) :
    s.monitors[k]? = some m ∨ e = .exit k := by
  obtain ⟨l, n, phase, -, -, rfl, -, hend⟩ := serve_cases h
  rcases getElem?_set_cases hm with ⟨rfl, rfl⟩ | ⟨-, hold⟩
  · rcases hend with ⟨-, rfl⟩ | ⟨hnot, -⟩
    · exact .inr rfl
    · exact absurd hphase hnot
  · exact .inl hold

end Tracing

namespace Supervision

variable {s s' : Supervision M} {e : SupervisionEvent}

/-- A monitor that reads a pipe did so before, or the creator of the pipe has opened it. -/
theorem step_reading (h : s.Ok) (hstep : s.step e = some s') {m : MonitorRun M}
    (hm : m ∈ s'.tracing.monitors) {c : ℕ} (hphase : m.phase = .reading c) :
    m ∈ s.tracing.monitors ∨ ∃ t, s.world.tasks[c]? = some t ∧ t.phase = .opened := by
  cases e with
  | task e =>
    obtain ⟨w, -, rfl⟩ := Option.map_eq_some_iff.mp hstep
    exact .inl hm
  | checker e =>
    obtain ⟨tracing, htracing, rfl⟩ := Option.map_eq_some_iff.mp hstep
    rcases Tracing.check_monitors h.tracing htracing hm with hwaiting | ⟨hold, -⟩
    · rw [hwaiting] at hphase
      exact absurd hphase (by simp)
    · exact .inl hold
  | monitor e =>
    obtain ⟨tracing, htracing, rfl⟩ := Option.map_eq_some_iff.mp hstep
    exact Tracing.serve_reading htracing hm hphase
  | cleaner e =>
    rw [(clean_frame hstep).1] at hm
    exact .inl hm

/-- A monitor that has ended had done so before, or has just left. -/
theorem step_ended (hstep : s.step e = some s') {k : ℕ} {m : MonitorRun M}
    (hm : s'.tracing.monitors[k]? = some m) (hphase : m.phase = .ended) :
    s.tracing.monitors[k]? = some m ∨ e = .monitor (.exit k) := by
  cases e with
  | task e =>
    obtain ⟨w, -, rfl⟩ := Option.map_eq_some_iff.mp hstep
    exact .inl hm
  | checker e =>
    obtain ⟨tracing, htracing, rfl⟩ := Option.map_eq_some_iff.mp hstep
    cases e with
    | entry pid =>
      rcases Tracing.check_entry htracing with ⟨-, rfl | ⟨-, -, rfl⟩⟩ <;> exact .inl hm
    | reserve =>
      rcases Tracing.check_reserve htracing with ⟨_, -, ⟨-, rfl⟩ | ⟨i, -, rfl⟩⟩ <;> exact .inl hm
    | store =>
      obtain ⟨_, _, -, rfl⟩ := Tracing.check_store htracing
      exact .inl hm
    | create ok =>
      obtain ⟨_, i, -, rfl⟩ := Tracing.check_create htracing
      cases ok
      · exact .inl hm
      · change (s.tracing.monitors ++ [⟨i, .waiting⟩])[k]? = some m at hm
        rcases Nat.lt_or_ge k s.tracing.monitors.length with hlt | hge
        · rw [List.getElem?_append_left hlt] at hm
          exact .inl hm
        · rw [List.getElem?_append_right hge] at hm
          rw [List.mem_singleton.mp (List.mem_of_getElem? hm)] at hphase
          exact absurd hphase (by simp)
  | monitor e =>
    obtain ⟨tracing, htracing, rfl⟩ := Option.map_eq_some_iff.mp hstep
    exact (Tracing.serve_ended htracing hm hphase).imp_right (congrArg SupervisionEvent.monitor)
  | cleaner e =>
    rw [(clean_frame hstep).1] at hm
    exact .inl hm

end Supervision

end RtTaskTrace
