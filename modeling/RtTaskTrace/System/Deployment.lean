import RtTaskTrace.System.Phases
import RtTaskTrace.System.Pipeline

namespace RtTaskTrace

open Runs

/-!
# The whole program at work

The supervisor with all its monitor threads in their loops, and any number of traced tasks, each
with its calls, its queue, its gateway thread and its pipe.  `Deployment.step` is one step of any
of them; as in `Delivery.lean`, a call of `Queue_add` or `Queue_getNext` is one step.

* `Event.project`, `trace` — what a step of the whole is for one task and one monitor;
* `Joined` — the invariant: a monitor thread reads the pipe of one process, of its own pid, and
  what the two have done is a run of `Traced.step`;
* `Joined.system`, `ofTask`, `enter`, `put`, `putBroken` — the parties keep it;
* `run_joined` — so do all runs.
-/

variable {M N : ℕ} [NeZero N]

/-- A monitor thread in its loop: the process that has created the pipe its descriptor is open on,
    or none after a failed `open`, and what the thread has computed. -/
structure MonitorLoop where
  pipe : Option ℕ
  task : MonitorTask

/-- The supervisor and the tasks, with what each task that has its pipe open has handed over, and
    the monitor threads that have got to their loops. -/
structure Deployment (M N : ℕ) where
  supervision : Supervision M
  capacity : ℕ
  deliveries : ℕ → Option (Delivery N)
  threads : ℕ → Option MonitorLoop

namespace Deployment

/-- A step of the supervisor, of the initialisation of a task or the end of one; a call of the
    task `id` or of half an update by its gateway; or the `k`-th monitor's `Monitor_init` or a
    round of its loop. -/
inductive Event
  | system (e : SupervisionEvent)
  | call (id : ℕ) (c : TaskTrace.Call)
  | fetch (id : ℕ) (wait : WaitOutcome)
  | forward (id : ℕ) (fault : Option ℤ)
  | enter (k : ℕ) (scheduler : ℤ) (fopen : Bool)
  | round (k : ℕ) (answers : Answers)
  | emptyRound (k : ℕ) (ret : ℤ) (answers : Answers)

/-- The start.  Every pipe will have the same capacity. -/
def start (enableLogging : Bool) (capacity : ℕ) : Deployment M N :=
  ⟨.start enableLogging, capacity, fun _ => none, fun _ => none⟩

/-- A task whose `open` has succeeded is initialised. -/
def opened (s : Deployment M N) (supervision : Supervision M) :
    SupervisionEvent → ℕ → Option (Delivery N)
  | .task (.openPipe id _) =>
    match supervision.world.at? id .opened with
    | some t => Function.update s.deliveries id (some (.start t.pid s.capacity))
    | none => s.deliveries
  | _ => s.deliveries

/-- Whether the step is no end of a monitor thread, or that of one that has left its loop. -/
def allows (s : Deployment M N) : SupervisionEvent → Bool
  | .monitor (.exit k) => (s.threads k).any fun th => th.task.exited
  | _ => true

def system (s : Deployment M N) (e : SupervisionEvent) : Option (Deployment M N) :=
  if s.allows e then (s.supervision.step e).map fun supervision =>
    { s with supervision := supervision, deliveries := s.opened supervision e }
  else none

/-- A step of the process `id`, which is alive and has its pipe open. -/
def ofTask (s : Deployment M N) (id : ℕ) (f : Delivery N → Option (Delivery N)) :
    Option (Deployment M N) := do
  let _ ← s.supervision.world.at? id .opened
  let d ← s.deliveries id
  let d' ← f d
  some { s with deliveries := Function.update s.deliveries id (some d') }

/-- The descriptor `SharedMem_supervisorInit` has left, when it has returned. -/
def descriptor (m : MonitorRun M) : Option (Option ℕ) :=
  match m.phase with
  | .reading c => some (some c)
  | .broken => some none
  | _ => none

/-- `Monitor_init` of the `k`-th monitor. -/
def enter (s : Deployment M N) (k : ℕ) (scheduler : ℤ) (fopen : Bool) :
    Option (Deployment M N) := do
  let m ← s.supervision.tracing.monitors[k]?
  let pipe ← descriptor m
  if (s.threads k).isSome then none
  else
    let task := MonitorTask.start (s.supervision.tracing.supervisor.monitor m.slot) scheduler fopen
    some { s with threads := Function.update s.threads k (some ⟨pipe, task⟩) }

/-- What the `k`-th monitor and the process `c` have become. -/
def put (s : Deployment M N) (k c : ℕ) (t : Traced N) : Deployment M N :=
  { s with
    deliveries := Function.update s.deliveries c (some t.delivery)
    threads := Function.update s.threads k (some ⟨some c, t.monitor⟩) }

/-- A round of the `k`-th monitor that reads from its pipe. -/
def round (s : Deployment M N) (k : ℕ) (answers : Answers) : Option (Deployment M N) := do
  let th ← s.threads k
  let c ← th.pipe
  let d ← s.deliveries c
  (Traced.round ⟨d, th.task⟩ answers).map (s.put k c)

/-- A round that reads nothing.  The read fails, as it always does without a descriptor, or it is
    at the end of the pipe: nobody has it open for writing any more. -/
def emptyRound (s : Deployment M N) (k : ℕ) (ret : ℤ) (answers : Answers) :
    Option (Deployment M N) := do
  let th ← s.threads k
  match th.pipe with
  | none =>
    if ret = -1 then
      (th.task.iterate (answers.emptyInput th.task.me.telegram ret)).map fun task =>
        { s with threads := Function.update s.threads k (some ⟨none, task⟩) }
    else none
  | some c =>
    let d ← s.deliveries c
    if ret = 0 ∧ s.supervision.world.tasks[c]?.any Task.alive then none
    else (Traced.emptyRound ⟨d, th.task⟩ ret answers).map (s.put k c)

/-- What a step is for the process `c` and the `k`-th monitor. -/
def Event.project (k c : ℕ) : Event → Option Traced.Event
  | .call id made => if id = c then some (.call made) else none
  | .fetch id wait => if id = c then some (.fetch wait) else none
  | .forward id fault => if id = c then some (.forward fault) else none
  | .round l answers => if l = k then some (.round answers) else none
  | .emptyRound l ret answers => if l = k then some (.emptyRound ret answers) else none
  | _ => none

/-- The steps of the process `c`, its gateway and the `k`-th monitor among all steps. -/
def trace (k c : ℕ) (es : List Event) : List Traced.Event := es.filterMap (Event.project k c)

/-- One step. -/
def step (s : Deployment M N) : Event → Option (Deployment M N)
  | .system e => s.system e
  | .call id c => s.ofTask id fun d => some (d.call c)
  | .fetch id wait => s.ofTask id fun d => d.fetch wait
  | .forward id fault => s.ofTask id fun d => d.forward fault
  | .enter k scheduler fopen => s.enter k scheduler fopen
  | .round k answers => s.round k answers
  | .emptyRound k ret answers => s.emptyRound k ret answers

end Deployment

namespace Deployment

variable {s s' : Deployment M N} {es : List Event}

/-! ### The invariant -/

/-- What has been replaced was there before. -/
theorem isSome_update {α : Type*} {f : ℕ → Option α} {i : ℕ} {x y : α} (h : f i = some y) (j : ℕ) :
    (Function.update f i (some x) j).isSome = (f j).isSome := by
  by_cases hj : j = i
  · rw [hj, Function.update_self, h]
    rfl
  · rw [Function.update_of_ne hj]

/-- Where nothing is after a replacement, nothing was before. -/
theorem of_update_eq_none {α : Type*} {f : ℕ → Option α} {i j : ℕ} {x : α}
    (h : Function.update f i (some x) j = none) : j ≠ i ∧ f j = none := by
  have hj : j ≠ i := by
    rintro rfl
    rw [Function.update_self] at h
    exact absurd h (by simp)
  exact ⟨hj, (Function.update_of_ne hj ..).symm.trans h⟩

theorem trace_concat (k c : ℕ) (es : List Event) (e : Event) :
    trace k c (es ++ [e]) = trace k c es ++ (e.project k c).toList := by
  rw [trace, List.filterMap_append]
  cases he : e.project k c with
  | none => rw [List.filterMap_cons_none he]; rfl
  | some f => rw [List.filterMap_cons_some he]; rfl

/-- A step of others is not traced. -/
theorem trace_other {k c : ℕ} {es : List Event} {e : Event} (h : e.project k c = none) :
    trace k c (es ++ [e]) = trace k c es := by
  rw [trace_concat, h]
  exact List.append_nil _

theorem mem_trace_round {k c : ℕ} {answers : Answers} {es : List Event}
    (h : .round answers ∈ trace k c es) : .round k answers ∈ es := by
  obtain ⟨e, he, hproject⟩ := List.mem_filterMap.mp h
  cases e with
  | round l answers' =>
    obtain ⟨rfl, heq⟩ := Option.ite_none_right_eq_some.mp hproject
    rw [← Traced.Event.round.inj (Option.some.inj heq)]
    exact he
  | system e => exact absurd hproject (Option.some_ne_none _).symm
  | call id made => exact absurd (Option.ite_none_right_eq_some.mp hproject).2 (by simp)
  | fetch id wait => exact absurd (Option.ite_none_right_eq_some.mp hproject).2 (by simp)
  | forward id fault => exact absurd (Option.ite_none_right_eq_some.mp hproject).2 (by simp)
  | enter l scheduler fopen => exact absurd hproject (Option.some_ne_none _).symm
  | emptyRound l ret answers' =>
    exact absurd (Option.ite_none_right_eq_some.mp hproject).2 (by simp)

/-- What holds of the rounds of the thread, and of whatever is no round, holds of all that is
    traced. -/
theorem forall_trace {k c : ℕ} {es : List Event} {P : Traced.Event → Prop}
    (hround : ∀ answers, .round k answers ∈ es → P (.round answers))
    (hother : ∀ e : Traced.Event, (∀ answers, e ≠ .round answers) → P e) :
    ∀ e ∈ trace k c es, P e := by
  intro e he
  cases e with
  | round answers => exact hround answers (mem_trace_round he)
  | call _ | fetch _ | forward _ | emptyRound _ _ => exact hother _ (fun _ => by simp)

/-- The `k`-th monitor thread, started on the slot of `m`, reads the pipe of the process `c`, which
    has the pid of the slot.  Their steps so far are a run of a task and its monitor; and the thread
    has left its loop only at the end of the pipe. -/
structure Serves (es : List Event) (s : Deployment M N) (k c : ℕ) (task : MonitorTask)
    (m : MonitorRun M) (t : Task) (d : Delivery N) (scheduler : ℤ) (fopen : Bool) : Prop where
  monitor : s.supervision.tracing.monitors[k]? = some m
  process : s.supervision.world.tasks[c]? = some t
  pid : t.pid = s.supervision.tracing.pidOf m
  delivery : s.deliveries c = some d
  entered : Event.enter k scheduler fopen ∈ es
  run : Run Traced.step (Traced.start (s.supervision.tracing.pidOf m) s.capacity
    (MonitorTask.start (s.supervision.tracing.supervisor.monitor m.slot) scheduler fopen))
    (trace k c es) ⟨d, task⟩
  ended : task.exited = true → t.alive = false ∧ d.pipe.bytes = []

/-- The processes with a delivery are those that have opened their pipe, and no others have made
    steps.  One whose pipe no thread reads has made its steps as if beside any monitor; one whose
    pipe is read serves the thread; and the monitors that have ended are threads that have left
    their loops. -/
structure Joined (es : List Event) (s : Deployment M N) : Prop where
  supervision : s.supervision.Ok
  opened : ∀ c, (s.deliveries c).isSome ↔
    ∃ t, s.supervision.world.tasks[c]? = some t ∧ t.phase = .opened
  reading : ∀ m ∈ s.supervision.tracing.monitors, ∀ c, m.phase = .reading c →
    (s.deliveries c).isSome
  silent : ∀ k c, s.threads k = none → s.deliveries c = none → trace k c es = []
  alone : ∀ (c : ℕ) (t : Task) (d : Delivery N), s.supervision.world.tasks[c]? = some t →
    s.deliveries c = some d → (∀ l th, s.threads l = some th → th.pipe ≠ some c) →
      ∀ k, s.threads k = none → ∀ monitor,
        Run Traced.step (Traced.start t.pid s.capacity monitor) (trace k c es) ⟨d, monitor⟩
  serves : ∀ k c task, s.threads k = some ⟨some c, task⟩ →
    ∃ m t d scheduler fopen, Serves es s k c task m t d scheduler fopen
  ended : ∀ (k : ℕ) (m : MonitorRun M), s.supervision.tracing.monitors[k]? = some m →
    m.phase = .ended → ∃ c task, s.threads k = some ⟨some c, task⟩ ∧ task.exited = true
  broken : ∀ k task, s.threads k = some ⟨none, task⟩ → task.exited = false

theorem start_joined (enableLogging : Bool) (capacity : ℕ) :
    Joined [] (start enableLogging capacity : Deployment M N) where
  supervision := Supervision.start_ok enableLogging
  opened := by
    intro c
    constructor
    · intro h
      exact absurd h Bool.false_ne_true
    · rintro ⟨t, ht, -⟩
      exact absurd ht (by simp [start, Supervision.start, World.empty])
  reading := by
    intro m hm
    exact absurd hm List.not_mem_nil
  silent := fun _ _ _ _ => rfl
  alone := by
    intro c t d _ hd
    exact absurd hd (by simp [start])
  serves := by
    intro k c task h
    exact absurd h (by simp [start])
  ended := by
    intro k m hm
    exact absurd hm (by simp [start, Supervision.start, Tracing.start])
  broken := by
    intro k task h
    exact absurd h (by simp [start])

/-- **A pipe has one reader.**  No other thread reads the pipe of the process the `k`-th monitor
    was started for. -/
theorem Joined.one_reader (h : Joined es s) {k l c : ℕ} {m : MonitorRun M} {t : Task}
    {task : MonitorTask} (hm : s.supervision.tracing.monitors[k]? = some m)
    (ht : s.supervision.world.tasks[c]? = some t) (hpid : t.pid = s.supervision.tracing.pidOf m)
    (hl : s.threads l = some ⟨some c, task⟩) : l = k := by
  obtain ⟨n, u, d, scheduler, fopen, hn⟩ := h.serves l c task hl
  obtain rfl := Option.some.inj (hn.process.symm.trans ht)
  exact h.supervision.tracing.index_of_pid hn.monitor hm (hn.pid.symm.trans hpid)

/-- Others may have taken a step. -/
theorem Serves.frame {k c : ℕ} {task : MonitorTask} {m : MonitorRun M} {t : Task} {d : Delivery N}
    {scheduler : ℤ} {fopen : Bool} (h : Serves es s k c task m t d scheduler fopen) {e : Event}
    (he : e.project k c = none) {deliveries : ℕ → Option (Delivery N)}
    (hd : deliveries c = s.deliveries c) (threads : ℕ → Option MonitorLoop) :
    Serves (es ++ [e]) { s with deliveries := deliveries, threads := threads } k c task m t d
      scheduler fopen where
  monitor := h.monitor
  process := h.process
  pid := h.pid
  delivery := hd.trans h.delivery
  entered := List.mem_append_left _ h.entered
  run := by
    rw [trace_other he]
    exact h.run
  ended := h.ended

/-- The thread and its task have taken a step. -/
theorem Serves.step {k c : ℕ} {task task' : MonitorTask} {m : MonitorRun M} {t : Task}
    {d d' : Delivery N} {scheduler : ℤ} {fopen : Bool}
    (h : Serves es s k c task m t d scheduler fopen) {e : Event} {f : Traced.Event}
    (he : e.project k c = some f) (hstep : Traced.step ⟨d, task⟩ f = some ⟨d', task'⟩) :
    Run Traced.step (Traced.start (s.supervision.tracing.pidOf m) s.capacity
      (MonitorTask.start (s.supervision.tracing.supervisor.monitor m.slot) scheduler fopen))
      (trace k c (es ++ [e])) ⟨d', task'⟩ := by
  rw [trace_concat, he]
  exact (run_concat _ _ _ f).mpr ⟨_, h.run, hstep⟩

/-! ### The steps of the supervisor, and the beginning and the end of tasks -/

/-- What such a step keeps for the deliveries: those there are, and those of the processes that
    have just opened their pipe are new. -/
structure Grows (s : Deployment M N) (supervision : Supervision M)
    (deliveries : ℕ → Option (Delivery N)) : Prop where
  processes : ∀ (c : ℕ) (t : Task), s.supervision.world.tasks[c]? = some t →
    ∃ t', supervision.world.tasks[c]? = some t' ∧ t'.pid = t.pid ∧
      (t.alive = false → t'.alive = false)
  kept : ∀ c d, s.deliveries c = some d → deliveries c = some d
  fresh : ∀ c d, deliveries c = some d → s.deliveries c = some d ∨
    s.deliveries c = none ∧ ∃ t, supervision.world.tasks[c]? = some t ∧
      d = .start t.pid s.capacity
  opened : ∀ c, (deliveries c).isSome ↔
    ∃ t, supervision.world.tasks[c]? = some t ∧ t.phase = .opened

theorem opened_of_ne {supervision : Supervision M} {e : SupervisionEvent}
    (h : ∀ id ok, e = .task (.openPipe id ok) → supervision.world.at? id .opened = none) :
    s.opened supervision e = s.deliveries := by
  unfold opened
  split
  · rename_i id ok
    rw [h id ok rfl]
  · rfl

/-- Nothing is new when no process is. -/
theorem Joined.grows_same (h : Joined es s) {supervision : Supervision M}
    (htasks : supervision.world.tasks = s.supervision.world.tasks) :
    Grows s supervision s.deliveries where
  processes := by
    intro c t ht
    exact ⟨t, by rw [htasks]; exact ht, rfl, id⟩
  kept := fun _ _ hd => hd
  fresh := fun _ _ hd => .inl hd
  opened := by
    intro c
    rw [htasks]
    exact h.opened c

/-- **A step of a task**: only its successful `open` gives it a delivery. -/
theorem Joined.grows_task (h : Joined es s) {e : TaskEvent} {world : World}
    (hstep : s.supervision.world.step e = some world) :
    Grows s { s.supervision with world := world }
      (s.opened { s.supervision with world := world } (.task e)) := by
  have hprocesses : ∀ (c : ℕ) (t : Task), s.supervision.world.tasks[c]? = some t →
      ∃ t', world.tasks[c]? = some t' ∧ t'.pid = t.pid ∧ (t.alive = false → t'.alive = false) := by
    intro c t ht
    obtain ⟨t', ht', hpid⟩ := World.step_pid hstep ht
    refine ⟨t', ht', hpid, fun hdead => ?_⟩
    obtain rfl := Option.some.inj ((World.step_dead hstep ht hdead).symm.trans ht')
    exact hdead
  -- A process that has its pipe open had it before, or has just opened it.
  have hopened : ∀ (c : ℕ) (t' : Task), world.tasks[c]? = some t' → t'.phase = .opened →
      (s.deliveries c).isSome ∨ (∃ ok, e = .openPipe c ok) ∧ world.at? c .opened = some t' := by
    intro c t' ht' hphase
    cases ht : s.supervision.world.tasks[c]? with
    | none =>
      rw [World.step_new hstep ht' ht] at hphase
      exact absurd hphase (by decide)
    | some t =>
      obtain ⟨u, hu, -, hnew⟩ := World.step_process hstep ht
      obtain rfl := Option.some.inj (hu.symm.trans ht')
      rcases hnew hphase with hbefore | ⟨ok, rfl⟩
      · exact .inl ((h.opened c).mpr ⟨t, ht, hbefore⟩)
      · exact .inr ⟨⟨ok, rfl⟩, World.at?_of ht' (World.step_openPipe hstep ht ht').2 hphase⟩
  have hstays : ∀ c, (s.deliveries c).isSome →
      ∃ t', world.tasks[c]? = some t' ∧ t'.phase = .opened := by
    intro c hsome
    obtain ⟨t, ht, hphase⟩ := (h.opened c).mp hsome
    obtain ⟨t', ht', hkept, -⟩ := World.step_process hstep ht
    exact ⟨t', ht', hkept hphase⟩
  by_cases hnew : ∃ id ok t, e = .openPipe id ok ∧ world.at? id .opened = some t
  · obtain ⟨id, ok, t', rfl, hat⟩ := hnew
    obtain ⟨ht', -⟩ := World.at?_eq_some hat
    have hupdate : s.opened { s.supervision with world := world } (.task (.openPipe id ok))
        = Function.update s.deliveries id (some (.start t'.pid s.capacity)) := by
      simp only [Deployment.opened, hat]
    -- it had none before, since it had not opened its pipe
    have hnone : s.deliveries id = none := by
      rw [← Option.not_isSome_iff_eq_none]
      intro hsome
      obtain ⟨t, ht, hphase⟩ := (h.opened id).mp hsome
      rw [(World.step_openPipe hstep ht ht').1] at hphase
      exact absurd hphase (by decide)
    rw [hupdate]
    refine ⟨hprocesses, fun c d hd => ?_, fun c d hd => ?_, fun c => ?_⟩
    · have hne : c ≠ id := by
        rintro rfl
        rw [hnone] at hd
        exact absurd hd (by simp)
      rw [Function.update_of_ne hne]
      exact hd
    · by_cases hc : c = id
      · subst hc
        rw [Function.update_self] at hd
        exact .inr ⟨hnone, t', ht', (Option.some.inj hd).symm⟩
      · rw [Function.update_of_ne hc] at hd
        exact .inl hd
    · by_cases hc : c = id
      · subst hc
        rw [Function.update_self]
        exact iff_of_true rfl ⟨t', ht', World.at?_phase hat⟩
      · rw [Function.update_of_ne hc]
        refine ⟨hstays c, ?_⟩
        rintro ⟨u, hu, hphase⟩
        rcases hopened c u hu hphase with hsome | ⟨⟨ok', heq⟩, -⟩
        · exact hsome
        · exact absurd (TaskEvent.openPipe.inj heq).1.symm hc
  · have hsame : s.opened { s.supervision with world := world } (.task e) = s.deliveries := by
      apply opened_of_ne
      intro id ok heq
      rw [Option.eq_none_iff_forall_ne_some]
      intro t hat
      exact hnew ⟨id, ok, t, SupervisionEvent.task.inj heq, hat⟩
    rw [hsame]
    refine ⟨hprocesses, fun _ _ hd => hd, fun _ _ hd => .inl hd, fun c => ⟨hstays c, ?_⟩⟩
    rintro ⟨u, hu, hphase⟩
    rcases hopened c u hu hphase with hsome | ⟨⟨ok, heq⟩, hat⟩
    · exact hsome
    · exact absurd ⟨c, ok, u, heq, hat⟩ hnew

theorem Joined.grows (h : Joined es s) {e : SupervisionEvent} {supervision : Supervision M}
    (hstep : s.supervision.step e = some supervision) :
    Grows s supervision (s.opened supervision e) := by
  cases e with
  | task e =>
    obtain ⟨world, hworld, rfl⟩ := Option.map_eq_some_iff.mp hstep
    exact h.grows_task hworld
  | checker e =>
    obtain ⟨tracing, -, rfl⟩ := Option.map_eq_some_iff.mp hstep
    exact h.grows_same rfl
  | monitor e =>
    obtain ⟨tracing, -, rfl⟩ := Option.map_eq_some_iff.mp hstep
    exact h.grows_same rfl
  | cleaner e => exact h.grows_same (Supervision.clean_frame hstep).2.1

/-- **The supervisor's steps, and a task's beginning and end**, leave what the threads and the tasks
    have done together as it is. -/
theorem Joined.system (h : Joined es s) {e : SupervisionEvent}
    (hstep : s.system e = some s') : Joined (es ++ [.system e]) s' := by
  unfold Deployment.system at hstep
  split at hstep
  · rename_i hallows
    obtain ⟨supervision, hsupervision, rfl⟩ := Option.map_eq_some_iff.mp hstep
    have hgrows := h.grows hsupervision
    have hext := Supervision.step_extends h.supervision hsupervision
    refine ⟨Supervision.step_ok h.supervision hsupervision, hgrows.opened, ?_, ?_, ?_, ?_, ?_,
      h.broken⟩
    · -- The creator of a pipe that is read has a delivery, and keeps it.
      intro m hm c hphase
      have hsome : (s.deliveries c).isSome := by
        rcases Supervision.step_reading h.supervision hsupervision hm hphase with hold | hopened
        · exact h.reading m hold c hphase
        · exact (h.opened c).mpr hopened
      obtain ⟨d, hd⟩ := Option.isSome_iff_exists.mp hsome
      exact Option.isSome_iff_exists.mpr ⟨d, hgrows.kept c d hd⟩
    · intro k c hthread hnone
      rw [trace_other rfl]
      refine h.silent k c hthread (Option.eq_none_iff_forall_ne_some.mpr fun d hd => ?_)
      exact absurd ((hgrows.kept c d hd).symm.trans hnone) (by simp)
    · intro c t' d ht' hd halone k hthread monitor
      change supervision.world.tasks[c]? = some t' at ht'
      rw [trace_other rfl]
      rcases hgrows.fresh c d hd with hold | ⟨hnone, u, hu, rfl⟩
      · obtain ⟨t, ht, -⟩ := (h.opened c).mp (Option.isSome_iff_exists.mpr ⟨d, hold⟩)
        obtain ⟨u, hu, hpid, -⟩ := hgrows.processes c t ht
        obtain rfl := Option.some.inj (hu.symm.trans ht')
        rw [hpid]
        exact h.alone c t d ht hold halone k hthread monitor
      · obtain rfl := Option.some.inj (hu.symm.trans ht')
        rw [h.silent k c hthread hnone]
        exact (run_nil _ _).mpr rfl
    · intro k c task hthread
      obtain ⟨m, t, d, scheduler, fopen, hs⟩ := h.serves k c task hthread
      -- the slot of the monitor is what it was
      obtain ⟨m', hm', hsame, -⟩ := hext.monitor h.supervision.tracing hs.monitor
      obtain ⟨t', ht', hpid, hdead⟩ := hgrows.processes c t hs.process
      have hpidOf : supervision.tracing.pidOf m' = s.supervision.tracing.pidOf m :=
        congrArg MonitorThread.pid hsame
      refine ⟨m', t', d, scheduler, fopen, hm', ht', ?_, hgrows.kept c d hs.delivery,
        List.mem_append_left _ hs.entered, ?_, ?_⟩
      · exact (hpid.trans hs.pid).trans hpidOf.symm
      · show Run Traced.step (Traced.start (supervision.tracing.pidOf m') s.capacity
          (MonitorTask.start (supervision.tracing.supervisor.monitor m'.slot) scheduler fopen))
          (trace k c (es ++ [.system e])) ⟨d, task⟩
        rw [hpidOf, hsame, trace_other rfl]
        exact hs.run
      · intro hexited
        exact ⟨hdead (hs.ended hexited).1, (hs.ended hexited).2⟩
    · -- A monitor that ends now has left its loop.
      intro k m hm hphase
      rcases Supervision.step_ended hsupervision hm hphase with hold | rfl
      · exact h.ended k m hold hphase
      · obtain ⟨⟨pipe, task⟩, hthread, hexited⟩ := (Option.any_eq_true _ _).mp hallows
        cases pipe with
        | none => exact absurd ((h.broken k task hthread).symm.trans hexited) (by decide)
        | some c => exact ⟨c, task, hthread, hexited⟩
  · exact absurd hstep (by simp)

/-! ### The steps of a task -/

/-- **A step of a task** is one of its run with its monitor, if it has one already, and of its run
    beside any monitor otherwise. -/
theorem Joined.ofTask (h : Joined es s) {f : Delivery N → Option (Delivery N)} {id : ℕ}
    {e : Event} {e' : Traced.Event}
    (he : ∀ k c, e.project k c = if id = c then some e' else none)
    (hf : ∀ d d' (monitor : MonitorTask), f d = some d' →
      Traced.step ⟨d, monitor⟩ e' = some ⟨d', monitor⟩)
    (hstep : s.ofTask id f = some s') : Joined (es ++ [e]) s' := by
  obtain ⟨u, hu, hstep⟩ := Option.bind_eq_some_iff.mp hstep
  obtain ⟨d, hd, hstep⟩ := Option.bind_eq_some_iff.mp hstep
  obtain ⟨d', hd', hstep⟩ := Option.bind_eq_some_iff.mp hstep
  cases hstep
  obtain ⟨hget, halive⟩ := World.at?_eq_some hu
  have hself : ∀ k, e.project k id = some e' := fun k => (he k id).trans (if_pos rfl)
  have hother : ∀ k {c : ℕ}, c ≠ id → e.project k c = none :=
    fun k c hc => (he k c).trans (if_neg (Ne.symm hc))
  refine ⟨h.supervision, fun c => ?_, fun m hm c hphase => ?_, ?_, ?_, ?_, h.ended, h.broken⟩
  · show (Function.update s.deliveries id (some d') c).isSome = true ↔ _
    rw [isSome_update hd]
    exact h.opened c
  · show (Function.update s.deliveries id (some d') c).isSome = true
    rw [isSome_update hd]
    exact h.reading m hm c hphase
  · intro k c hthread hnone
    obtain ⟨hc, hnone⟩ := of_update_eq_none hnone
    rw [trace_other (hother k hc)]
    exact h.silent k c hthread hnone
  · intro c t d₁ ht hd₁ halone k hthread monitor
    change Function.update s.deliveries id (some d') c = some d₁ at hd₁
    by_cases hc : c = id
    · subst hc
      rw [Function.update_self] at hd₁
      obtain rfl := Option.some.inj hd₁
      have hrun := h.alone c t d ht hd halone k hthread monitor
      rw [trace_concat, hself k]
      exact (run_concat _ _ _ e').mpr ⟨_, hrun, hf d d' monitor hd'⟩
    · rw [Function.update_of_ne hc] at hd₁
      rw [trace_other (hother k hc)]
      exact h.alone c t d₁ ht hd₁ halone k hthread monitor
  · intro k c task hthread
    obtain ⟨m, t, d₁, scheduler, fopen, hs⟩ := h.serves k c task hthread
    by_cases hc : c = id
    · subst hc
      obtain rfl := Option.some.inj (hs.delivery.symm.trans hd)
      refine ⟨m, t, d', scheduler, fopen, hs.monitor, hs.process, hs.pid,
        Function.update_self .., List.mem_append_left _ hs.entered,
        hs.step (hself k) (hf d₁ d' task hd'), fun hexited => ?_⟩
      -- the thread has not left its loop, since the task is alive
      obtain rfl := Option.some.inj (hs.process.symm.trans hget)
      exact absurd ((hs.ended hexited).1.symm.trans halive) (by decide)
    · exact ⟨m, t, d₁, scheduler, fopen,
        hs.frame (hother k hc) (Function.update_of_ne hc ..) s.threads⟩

/-! ### The steps of a monitor thread -/

/-- **A thread that enters its loop** finds what its task has done so far as the beginning of a run
    with it. -/
theorem Joined.enter (h : Joined es s) {k : ℕ} {scheduler : ℤ} {fopen : Bool}
    (hstep : s.enter k scheduler fopen = some s') :
    Joined (es ++ [.enter k scheduler fopen]) s' := by
  obtain ⟨m, hm, hstep⟩ := Option.bind_eq_some_iff.mp hstep
  obtain ⟨pipe, hpipe, hstep⟩ := Option.bind_eq_some_iff.mp hstep
  split at hstep
  · exact absurd hstep (by simp)
  · rename_i hfree
    have hnone : s.threads k = none := Option.not_isSome_iff_eq_none.mp hfree
    cases hstep
    have hother : ∀ {l : ℕ}, l ≠ k → Function.update s.threads k (some ⟨pipe, .start
        (s.supervision.tracing.supervisor.monitor m.slot) scheduler fopen⟩) l = s.threads l :=
      fun hl => Function.update_of_ne hl ..
    have hkept : ∀ {l : ℕ} {th : MonitorLoop}, s.threads l = some th → l ≠ k := by
      rintro l th hl rfl
      rw [hnone] at hl
      exact absurd hl (by simp)
    refine ⟨h.supervision, h.opened, h.reading, ?_, ?_, ?_, ?_, ?_⟩
    · intro l c hl hd
      rw [trace_other rfl]
      exact h.silent l c (of_update_eq_none hl).2 hd
    · intro c t d ht hd halone l hl
      rw [trace_other rfl]
      refine h.alone c t d ht hd (fun i th hi => ?_) l (of_update_eq_none hl).2
      exact halone i th ((hother (hkept hi)).trans hi)
    · intro l c task hl
      change Function.update s.threads k _ l = some _ at hl
      by_cases hlk : l = k
      · subst hlk
        rw [Function.update_self] at hl
        obtain ⟨rfl, rfl⟩ := MonitorLoop.mk.inj (Option.some.inj hl)
        have hphase : m.phase = .reading c := by
          unfold descriptor at hpipe
          split at hpipe
          · rename_i c' heq
            rw [heq, Option.some.inj (Option.some.inj hpipe)]
          · exact absurd hpipe (by simp)
          · exact absurd hpipe (by simp)
        have hmem := List.mem_of_getElem? hm
        obtain ⟨t, ht, hpid⟩ := h.supervision.reading m hmem c hphase
        obtain ⟨d, hd⟩ := Option.isSome_iff_exists.mp (h.reading m hmem c hphase)
        have halone : ∀ (i : ℕ) (th : MonitorLoop), s.threads i = some th → th.pipe ≠ some c := by
          rintro i ⟨_, task⟩ hi rfl
          exact hkept hi (h.one_reader hm ht hpid hi)
        have hrun := h.alone c t d ht hd halone l hnone (.start
          (s.supervision.tracing.supervisor.monitor m.slot) scheduler fopen)
        refine ⟨m, t, d, scheduler, fopen, hm, ht, hpid, hd,
          List.mem_append_right _ (List.mem_singleton_self _), ?_,
          fun hexited => absurd hexited Bool.false_ne_true⟩
        rw [hpid] at hrun
        rw [trace_other rfl]
        exact hrun
      · rw [hother hlk] at hl
        obtain ⟨n, t, d, scheduler', fopen', hs⟩ := h.serves l c task hl
        exact ⟨n, t, d, scheduler', fopen', hs.frame rfl rfl _⟩
    · intro l n hn hphase
      obtain ⟨c, task, hl, hexited⟩ := h.ended l n hn hphase
      exact ⟨c, task, (hother (hkept hl)).trans hl, hexited⟩
    · intro l task hl
      change Function.update s.threads k _ l = some _ at hl
      by_cases hlk : l = k
      · subst hlk
        rw [Function.update_self] at hl
        obtain ⟨-, rfl⟩ := MonitorLoop.mk.inj (Option.some.inj hl)
        rfl
      · rw [hother hlk] at hl
        exact h.broken l task hl

/-- **A round on a pipe** is a step of the run of the thread with its task. -/
theorem Joined.put (h : Joined es s) {k c : ℕ} {task : MonitorTask} {d : Delivery N}
    {t : Traced N} {e : Event} {e' : Traced.Event} (hthread : s.threads k = some ⟨some c, task⟩)
    (hd : s.deliveries c = some d) (hrunning : task.exited = false)
    (he : ∀ l i, e.project l i = if k = l then some e' else none)
    (hstep : Traced.step ⟨d, task⟩ e' = some t)
    (hended : t.monitor.exited = true → t.delivery.pipe.bytes = [] ∧
      ∀ u, s.supervision.world.tasks[c]? = some u → u.alive = false) :
    Joined (es ++ [e]) (s.put k c t) := by
  have hother : ∀ {l : ℕ} i, l ≠ k → e.project l i = none :=
    fun i hl => (he _ i).trans (if_neg (Ne.symm hl))
  obtain ⟨m, u, d', scheduler, fopen, hs⟩ := h.serves k c task hthread
  obtain rfl := Option.some.inj (hs.delivery.symm.trans hd)
  refine ⟨h.supervision, fun i => ?_, fun n hn i hphase => ?_, ?_, ?_, ?_, ?_, ?_⟩
  · show (Function.update s.deliveries c (some t.delivery) i).isSome = true ↔ _
    rw [isSome_update hd]
    exact h.opened i
  · show (Function.update s.deliveries c (some t.delivery) i).isSome = true
    rw [isSome_update hd]
    exact h.reading n hn i hphase
  · intro l i hl hnone
    obtain ⟨hlk, hl⟩ := of_update_eq_none hl
    rw [trace_other (hother i hlk)]
    exact h.silent l i hl (of_update_eq_none hnone).2
  · -- The pipe that was read is not one without a reader.
    intro i u' d₁ hu' hd₁ halone l hl
    obtain ⟨hlk, hl⟩ := of_update_eq_none hl
    have hself : (s.put k c t).threads k = some ⟨some c, t.monitor⟩ := Function.update_self ..
    have hi : i ≠ c := fun heq => halone k _ hself (congrArg some heq.symm)
    have hold : s.deliveries i = some d₁ := (Function.update_of_ne hi ..).symm.trans hd₁
    rw [trace_other (hother i hlk)]
    refine h.alone i u' d₁ hu' hold (fun j th hj => ?_) l hl
    by_cases hjk : j = k
    · subst hjk
      rw [hthread] at hj
      rw [← Option.some.inj hj]
      exact fun heq => hi (Option.some.inj heq).symm
    · exact halone j th ((Function.update_of_ne hjk ..).trans hj)
  · intro l i task₁ hl
    change Function.update s.threads k (some ⟨some c, t.monitor⟩) l = some _ at hl
    by_cases hlk : l = k
    · subst hlk
      rw [Function.update_self] at hl
      obtain ⟨heq, rfl⟩ := MonitorLoop.mk.inj (Option.some.inj hl)
      obtain rfl := Option.some.inj heq
      exact ⟨m, u, t.delivery, scheduler, fopen, hs.monitor, hs.process, hs.pid,
        Function.update_self .., List.mem_append_left _ hs.entered,
        hs.step ((he l c).trans (if_pos rfl)) hstep,
        fun hexited => ⟨(hended hexited).2 u hs.process, (hended hexited).1⟩⟩
    · rw [Function.update_of_ne hlk] at hl
      obtain ⟨n, u', d₁, scheduler', fopen', hs'⟩ := h.serves l i task₁ hl
      -- another thread reads another pipe
      have hi : i ≠ c := by
        rintro rfl
        exact hlk (h.one_reader hs.monitor hs.process hs.pid hl)
      exact ⟨n, u', d₁, scheduler', fopen',
        hs'.frame (hother i hlk) (Function.update_of_ne hi ..) _⟩
  · intro l n hn hphase
    obtain ⟨i, task₁, hl, hexited⟩ := h.ended l n hn hphase
    have hlk : l ≠ k := by
      rintro rfl
      obtain ⟨-, rfl⟩ := MonitorLoop.mk.inj (Option.some.inj (hl.symm.trans hthread))
      exact absurd (hrunning.symm.trans hexited) (by decide)
    exact ⟨i, task₁, (Function.update_of_ne hlk ..).trans hl, hexited⟩
  · intro l task₁ hl
    change Function.update s.threads k (some ⟨some c, t.monitor⟩) l = some _ at hl
    by_cases hlk : l = k
    · subst hlk
      rw [Function.update_self] at hl
      exact absurd (MonitorLoop.mk.inj (Option.some.inj hl)).1 (by simp)
    · rw [Function.update_of_ne hlk] at hl
      exact h.broken l task₁ hl

/-- A thread without a descriptor goes on without one. -/
theorem Joined.putBroken (h : Joined es s) {k : ℕ} {task task' : MonitorTask}
    (hthread : s.threads k = some ⟨none, task⟩) (hrunning : task'.exited = false) {e : Event}
    (he : ∀ l i, l ≠ k → e.project l i = none) :
    Joined (es ++ [e])
      { s with threads := Function.update s.threads k (some ⟨none, task'⟩) } := by
  have hother : ∀ {l i : ℕ} {task₁ : MonitorTask},
      Function.update s.threads k (some ⟨none, task'⟩) l = some ⟨some i, task₁⟩ ↔
        s.threads l = some ⟨some i, task₁⟩ := by
    intro l i task₁
    by_cases hlk : l = k
    · rw [hlk, Function.update_self, hthread]
      simp
    · rw [Function.update_of_ne hlk]
  refine ⟨h.supervision, h.opened, h.reading, ?_, ?_, ?_, ?_, ?_⟩
  · intro l i hl hnone
    obtain ⟨hlk, hl⟩ := of_update_eq_none hl
    rw [trace_other (he l i hlk)]
    exact h.silent l i hl hnone
  · intro c t d ht hd halone l hl
    obtain ⟨hlk, hl⟩ := of_update_eq_none hl
    rw [trace_other (he l c hlk)]
    refine h.alone c t d ht hd (fun j th hj heq => ?_) l hl
    obtain ⟨pipe, task₁⟩ := th
    obtain rfl : pipe = some c := heq
    exact halone j _ (hother.mpr hj) rfl
  · intro l c task₁ hl
    have hold := hother.mp hl
    obtain ⟨n, t, d, scheduler, fopen, hs⟩ := h.serves l c task₁ hold
    have hlk : l ≠ k := by
      rintro rfl
      exact absurd (hold.symm.trans hthread) (by simp)
    exact ⟨n, t, d, scheduler, fopen, hs.frame (he l c hlk) rfl _⟩
  · intro l n hn hphase
    obtain ⟨c, task₁, hl, hexited⟩ := h.ended l n hn hphase
    exact ⟨c, task₁, hother.mpr hl, hexited⟩
  · intro l task₁ hl
    change Function.update s.threads k (some ⟨none, task'⟩) l = some _ at hl
    by_cases hlk : l = k
    · rw [hlk, Function.update_self] at hl
      obtain ⟨-, rfl⟩ := MonitorLoop.mk.inj (Option.some.inj hl)
      exact hrunning
    · rw [Function.update_of_ne hlk] at hl
      exact h.broken l task₁ hl

theorem Joined.round (h : Joined es s) {k : ℕ} {answers : Answers}
    (hstep : s.round k answers = some s') : Joined (es ++ [.round k answers]) s' := by
  obtain ⟨⟨pipe, task⟩, hthread, hstep⟩ := Option.bind_eq_some_iff.mp hstep
  obtain ⟨c, rfl, hstep⟩ := Option.bind_eq_some_iff.mp hstep
  obtain ⟨d, hd, hstep⟩ := Option.bind_eq_some_iff.mp hstep
  obtain ⟨t, hround, rfl⟩ := Option.map_eq_some_iff.mp hstep
  obtain ⟨_, -, -, hiter⟩ := Traced.round_eq_some hround
  have hstep : Traced.step ⟨d, task⟩ (.round answers) = some t := hround
  refine h.put hthread hd (MonitorTask.running_of_iterate hiter) (fun _ _ => rfl) hstep
    fun hexited => ?_
  rw [Traced.round_running hround] at hexited
  exact absurd hexited (by decide)

theorem Joined.emptyRound (h : Joined es s) {k : ℕ} {ret : ℤ} {answers : Answers}
    (hstep : s.emptyRound k ret answers = some s') :
    Joined (es ++ [.emptyRound k ret answers]) s' := by
  obtain ⟨⟨pipe, task⟩, hthread, hstep⟩ := Option.bind_eq_some_iff.mp hstep
  cases pipe with
  | none =>
    simp only at hstep
    split at hstep
    · rename_i hret
      obtain ⟨task', hiter, rfl⟩ := Option.map_eq_some_iff.mp hstep
      refine h.putBroken hthread ?_ fun l i hlk => if_neg (Ne.symm hlk)
      -- A read that fails is no end of a pipe.
      rw [← Bool.not_eq_true, MonitorTask.iterate_exited_iff hiter]
      intro hempty
      have hzero : ret = 0 := hempty.1
      rw [hret] at hzero
      exact absurd hzero (by decide)
    · exact absurd hstep (by simp)
  | some c =>
    obtain ⟨d, hd, hstep⟩ := Option.bind_eq_some_iff.mp hstep
    split at hstep
    · exact absurd hstep (by simp)
    · rename_i hend
      obtain ⟨t, hround, rfl⟩ := Option.map_eq_some_iff.mp hstep
      obtain ⟨hrunning, exited, rfl, hexit⟩ := Traced.emptyRound_eq_some hround
      have hstep : Traced.step ⟨d, task⟩ (.emptyRound ret answers)
          = some ⟨d, { task with exited := exited }⟩ := hround
      refine h.put hthread hd hrunning (fun _ _ => rfl) hstep fun hexited => ?_
      obtain ⟨hzero, hnil⟩ := hexit hexited
      refine ⟨hnil, fun u hu => ?_⟩
      rw [hu] at hend
      cases halive : u.alive
      · rfl
      · exact absurd ⟨hzero, halive⟩ hend

/-! ### Runs -/

theorem step_joined (h : Joined es s) {e : Event} (hstep : s.step e = some s') :
    Joined (es ++ [e]) s' := by
  cases e with
  | system e => exact h.system hstep
  | call id c =>
    refine h.ofTask (fun _ _ => rfl) (fun d d' monitor hd' => ?_) hstep
    rw [← Option.some.inj hd']
    rfl
  | fetch id wait =>
    refine h.ofTask (fun _ _ => rfl) (fun d d' monitor hd' => ?_) hstep
    show (d.fetch wait).map _ = _
    rw [hd']
    rfl
  | forward id fault =>
    refine h.ofTask (fun _ _ => rfl) (fun d d' monitor hd' => ?_) hstep
    show (d.forward fault).map _ = _
    rw [hd']
    rfl
  | enter k scheduler fopen => exact h.enter hstep
  | round k answers => exact h.round hstep
  | emptyRound k ret answers => exact h.emptyRound hstep

variable {enableLogging : Bool} {capacity : ℕ}

theorem run_joined (h : Run step (start enableLogging capacity : Deployment M N) es s) :
    Joined es s :=
  h.history_induction (P := Joined) (start_joined enableLogging capacity)
    fun _ _ _ _ _ hjoined hstep => step_joined hjoined hstep

/-- **All that a step can do to the whole.**  It is one of the supervisor and the tasks it finds,
    or it leaves these alone and starts a thread only for a monitor that has come back from
    `SharedMem_supervisorInit`. -/
theorem step_cases {e : Event} (hstep : s.step e = some s') :
    (∃ e' supervision, e = .system e' ∧ s.supervision.step e' = some supervision ∧
      s' = { s with supervision := supervision, deliveries := s.opened supervision e' }) ∨
    ∃ deliveries threads, s' = { s with deliveries := deliveries, threads := threads } ∧
      ∀ k, (threads k).isSome → (s.threads k).isSome ∨
        ∃ m pipe, s.supervision.tracing.monitors[k]? = some m ∧ descriptor m = some pipe := by
  have hkept : ∀ {k : ℕ} {th th' : MonitorLoop}, s.threads k = some th → ∀ l,
      (Function.update s.threads k (some th') l).isSome → (s.threads l).isSome := by
    intro k th th' hth l hl
    rw [isSome_update hth] at hl
    exact hl
  cases e with
  | system e =>
    change s.system e = some s' at hstep
    unfold system at hstep
    split at hstep
    · obtain ⟨supervision, hsupervision, rfl⟩ := Option.map_eq_some_iff.mp hstep
      exact .inl ⟨e, supervision, rfl, hsupervision, rfl⟩
    · exact absurd hstep (by simp)
  | call id _ | fetch id _ | forward id _ =>
    obtain ⟨_, -, hstep⟩ := Option.bind_eq_some_iff.mp hstep
    obtain ⟨_, -, hstep⟩ := Option.bind_eq_some_iff.mp hstep
    obtain ⟨_, -, hstep⟩ := Option.bind_eq_some_iff.mp hstep
    cases hstep
    exact .inr ⟨_, _, rfl, fun _ => .inl⟩
  | enter k scheduler fopen =>
    obtain ⟨m, hm, hstep⟩ := Option.bind_eq_some_iff.mp hstep
    obtain ⟨pipe, hpipe, hstep⟩ := Option.bind_eq_some_iff.mp hstep
    split at hstep
    · exact absurd hstep (by simp)
    · cases hstep
      refine .inr ⟨_, _, rfl, fun l hl => ?_⟩
      by_cases hlk : l = k
      · subst hlk
        exact .inr ⟨m, pipe, hm, hpipe⟩
      · rw [Function.update_of_ne hlk] at hl
        exact .inl hl
  | round k answers =>
    obtain ⟨_, hth, hstep⟩ := Option.bind_eq_some_iff.mp hstep
    obtain ⟨_, -, hstep⟩ := Option.bind_eq_some_iff.mp hstep
    obtain ⟨_, -, hstep⟩ := Option.bind_eq_some_iff.mp hstep
    obtain ⟨_, -, rfl⟩ := Option.map_eq_some_iff.mp hstep
    exact .inr ⟨_, _, rfl, fun l hl => .inl (hkept hth l hl)⟩
  | emptyRound k ret answers =>
    obtain ⟨_, hth, hstep⟩ := Option.bind_eq_some_iff.mp hstep
    split at hstep
    · split at hstep
      · obtain ⟨_, -, rfl⟩ := Option.map_eq_some_iff.mp hstep
        exact .inr ⟨_, _, rfl, fun l hl => .inl (hkept hth l hl)⟩
      · exact absurd hstep (by simp)
    · obtain ⟨_, -, hstep⟩ := Option.bind_eq_some_iff.mp hstep
      split at hstep
      · exact absurd hstep (by simp)
      · obtain ⟨_, -, rfl⟩ := Option.map_eq_some_iff.mp hstep
        exact .inr ⟨_, _, rfl, fun l hl => .inl (hkept hth l hl)⟩

theorem step_capacity {e : Event} (hstep : s.step e = some s') : s'.capacity = s.capacity := by
  rcases step_cases hstep with ⟨_, _, -, -, rfl⟩ | ⟨_, _, rfl, -⟩ <;> rfl

theorem run_capacity (h : Run step (start enableLogging capacity : Deployment M N) es s) :
    s.capacity = capacity :=
  h.invariant (I := fun s => s.capacity = capacity) rfl
    fun _ _ _ hsame hstep => (step_capacity hstep).trans hsame

end Deployment

end RtTaskTrace
