import RtTaskTrace.Supervisor.PidTexts
import RtTaskTrace.Supervisor.UserInputs
import RtTaskTrace.System.Slots

namespace RtTaskTrace

open Runs

/-!
# What the monitors are handed

With its slot a monitor is handed a pid and the logging switch.  The pid is that of an entry of
the directory, and the switch that of the command line, in every run.

* `Tracing.Handed` — where the pids in the table and the switches come from;
* `Supervision.handed_run`, `monitor_handed` — every run keeps it;
* `Tracing.Unused`, `Supervision.slot_eq` — nothing else is in the slot;
* `monitors_log_iff` — which command line the monitors log for;
* `monitors_texts_fit` — which directories they can be run on without an overrun.
-/

variable {M : ℕ}

/-- The pid the checker holds. -/
def CheckerPc.pid : CheckerPc M → Option PidT
  | .scanning => none
  | .found pid | .reserved pid _ | .stored pid _ => some pid

namespace Tracing

variable {s s' : Tracing M} {w : World} {listed listed' : PidT → Prop} {enableLogging : Bool}

/-- The pids the checker and the table hold are listed, and the switch of a slot with a pid is
    that of the supervisor. -/
structure Handed (listed : PidT → Prop) (enableLogging : Bool) (s : Tracing M) : Prop where
  switch : s.supervisor.enableLogging = enableLogging
  found : ∀ pid ∈ s.checker.pid, listed pid
  stored : ∀ i, s.pidAt i ≠ 0 →
    listed (s.pidAt i) ∧ (s.supervisor.monitor i).enableLogging = enableLogging

theorem start_handed : (start enableLogging : Tracing M).Handed listed enableLogging where
  switch := rfl
  found := by
    intro pid h
    exact absurd h (Option.not_mem_none pid)
  stored := by
    intro i h
    exact absurd rfl h

/-- More pids may be listed. -/
theorem Handed.mono (h : s.Handed listed enableLogging) (hle : ∀ pid, listed pid → listed' pid) :
    s.Handed listed' enableLogging where
  switch := h.switch
  found := fun pid hpid => hle pid (h.found pid hpid)
  stored := fun i hi => ⟨hle _ (h.stored i hi).1, (h.stored i hi).2⟩

/-- **The writes to a slot** hand over the pid the checker holds and the switch. -/
theorem Handed.store (h : s.Handed listed enableLogging) {pid : PidT} {i : Fin M}
    (hpc : s.checker = .reserved pid i) :
    Handed listed enableLogging
      { s with supervisor := s.supervisor.storePid i pid, checker := .stored pid i } where
  switch := h.switch
  found := by
    intro pid' hpid
    apply h.found pid'
    rw [hpc]
    exact hpid
  stored := by
    intro j
    by_cases hj : j = i
    · subst hj
      intro _
      simp only [pidAt, Supervisor.storePid, Function.update_self]
      exact ⟨h.found pid (by rw [hpc]; rfl), h.switch⟩
    · simp only [pidAt, Supervisor.storePid, Function.update_of_ne hj]
      exact h.stored j

/-- **A step of the checker** hands over what was handed to it, if the entry it reads is listed. -/
theorem check_handed (h : s.Handed listed enableLogging) {e : CheckerEvent}
    (hentry : ∀ pid, e = .entry pid → listed pid) (hstep : s.check e = some s') :
    s'.Handed listed enableLogging := by
  cases e with
  | entry pid =>
    rcases check_entry hstep with ⟨-, rfl | ⟨-, -, rfl⟩⟩
    · exact h
    · refine ⟨h.switch, ?_, h.stored⟩
      intro pid' hpid
      exact Option.mem_some_iff.mp hpid ▸ hentry pid rfl
  | reserve =>
    rcases check_reserve hstep with ⟨pid, hpc, ⟨-, rfl⟩ | ⟨i, -, rfl⟩⟩
    · exact h
    · refine ⟨h.switch, ?_, h.stored⟩
      intro pid' hpid
      apply h.found pid'
      rw [hpc]
      exact hpid
  | store =>
    obtain ⟨pid, i, hpc, rfl⟩ := check_store hstep
    exact h.store hpc
  | create ok =>
    obtain ⟨pid, i, -, rfl⟩ := check_create hstep
    refine ⟨h.switch, ?_, h.stored⟩
    intro pid' hpid
    exact absurd hpid (Option.not_mem_none pid')

/-- A step of a monitor hands over nothing. -/
theorem serve_handed (h : s.Handed listed enableLogging) {e : MonitorEvent}
    (hstep : s.serve w e = some s') : s'.Handed listed enableLogging := by
  obtain ⟨_, _, _, -, -, rfl, -⟩ := serve_cases hstep
  exact ⟨h.switch, h.found, h.stored⟩

end Tracing

namespace Supervision

variable {s : Supervision M} {enableLogging : Bool} {es : List SupervisionEvent}

/-- **Every run keeps it**, with the entries the checker has read. -/
theorem handed_run (h : Run step (start enableLogging) es s) :
    s.tracing.Handed (fun pid => .checker (.entry pid) ∈ es) enableLogging := by
  -- By induction over the run; the entries read so far only become more.
  refine h.history_induction (P := fun es s =>
    s.tracing.Handed (fun pid => .checker (.entry pid) ∈ es) enableLogging)
    Tracing.start_handed ?_
  intro es t e t' _ ih hstep
  have hmore : t.tracing.Handed (fun pid => .checker (.entry pid) ∈ es ++ [e]) enableLogging :=
    ih.mono fun pid hpid => List.mem_append_left _ hpid
  cases e with
  | task e =>
    obtain ⟨_, -, rfl⟩ := Option.map_eq_some_iff.mp hstep
    exact hmore
  | checker e =>
    obtain ⟨tracing, htracing, rfl⟩ := Option.map_eq_some_iff.mp hstep
    refine Tracing.check_handed hmore ?_ htracing
    rintro pid rfl
    exact List.mem_append_right _ (List.mem_singleton_self _)
  | monitor e =>
    obtain ⟨tracing, htracing, rfl⟩ := Option.map_eq_some_iff.mp hstep
    exact Tracing.serve_handed hmore htracing
  | cleaner e =>
    rw [(clean_frame hstep).1]
    exact hmore

/-- **What a monitor was handed**: the positive pid of an entry, and the supervisor's switch. -/
theorem monitor_handed (h : Run step (start enableLogging) es s) {m : MonitorRun M}
    (hm : m ∈ s.tracing.monitors) :
    0 < s.tracing.pidOf m ∧ .checker (.entry (s.tracing.pidOf m)) ∈ es ∧
      (s.tracing.supervisor.monitor m.slot).enableLogging = enableLogging := by
  obtain ⟨-, hpos, -⟩ := (ok_run h).tracing.handed m hm
  refine ⟨hpos, (handed_run h).stored m.slot ?_⟩
  intro hzero
  rw [hzero] at hpos
  exact absurd hpos (by decide)

/-- The start is that of the supervisor `main` has left running. -/
theorem start_of_main {argv : List String} {euid : ℕ} {outcome : Supervisor.InitOutcome}
    {supervisor : Supervisor M} (hmain : Supervisor.main argv euid outcome = .ok supervisor) :
    (start supervisor.enableLogging : Supervision M).tracing.supervisor = supervisor := by
  obtain ⟨-, ⟨rfl, rfl⟩, rfl⟩ := Supervisor.main_eq_ok.mp hmain
  rfl

/-- **A monitor logs** in every run of the program exactly when the last `--log` of the command
    line was followed by `on`. -/
theorem monitors_log_iff {argv : List String} {euid : ℕ} {outcome : Supervisor.InitOutcome}
    {supervisor : Supervisor M} (hmain : Supervisor.main argv euid outcome = .ok supervisor)
    (h : Run step (start supervisor.enableLogging) es s) {m : MonitorRun M}
    (hm : m ∈ s.tracing.monitors) :
    (s.tracing.supervisor.monitor m.slot).enableLogging = true ↔
      Argument.LastLogOn (Argument.all (argv.drop 1)) := by
  obtain ⟨-, -, hswitch⟩ := monitor_handed h hm
  rw [hswitch]
  exact Supervisor.main_enableLogging hmain

/-- The supervisor started with logging on, by root. -/
def loggingSupervisor : Supervisor maxTracedTasks :=
  (Supervisor.init .zero 0 ⟨true, true, true⟩ true).1

def loggedSupervision : Supervision maxTracedTasks :=
  ((taskEvents 0 7 ++ traceEvents 7).foldlM step (start loggingSupervisor.enableLogging)).get
    (by decide)

theorem monitors_log_iff_sample :
    (loggedSupervision.tracing.supervisor.monitor 0).enableLogging = true ↔
      Argument.LastLogOn (Argument.all ["--log", "on"]) := by
  have hmain : Supervisor.main ["Supervisor", "--log", "on"] 0 ⟨true, true, true⟩
      = .ok loggingSupervisor :=
    Supervisor.main_eq_ok.mpr ⟨by decide, ⟨rfl, rfl⟩, rfl⟩
  have hm : (⟨0, .waiting⟩ : MonitorRun maxTracedTasks) ∈ loggedSupervision.tracing.monitors := by
    decide
  exact monitors_log_iff hmain (run_get (start loggingSupervisor.enableLogging)
    (taskEvents 0 7 ++ traceEvents 7) (by decide)) hm

/-- **No monitor overruns an array** in a run in which no entry's pid has ten digits. -/
theorem monitors_texts_fit (h : Run step (start enableLogging) es s)
    (hentries : ∀ pid : PidT, .checker (.entry pid) ∈ es → pid.toInt < 10 ^ 9)
    {m : MonitorRun M} (hm : m ∈ s.tracing.monitors) : TextsFit (s.tracing.pidOf m) := by
  obtain ⟨hpos, hentry, -⟩ := monitor_handed h hm
  exact (textsFit_iff_lt hpos).mpr (hentries _ hentry)

end Supervision

end RtTaskTrace
