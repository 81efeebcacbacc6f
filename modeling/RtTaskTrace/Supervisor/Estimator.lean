import RtTaskTrace.Lib.Loop
import Mathlib.Tactic.Ring
import Mathlib.Tactic.Linarith

namespace RtTaskTrace

open Loop

/-!
# The ready-time estimator, over the integers

What the monitor's deadline branch is for, without machine words: from the start and stop
times of the executions alone, follow when the task was ready, and count the executions that
ended more than a deadline after that.

`Estimate.step` is one execution.  It pulls the estimate back to an early start, judges the
execution against it, walks it in periods past the stop, and pushes it forward after a loss
that was not an overrun.  The lemmas here say how far each of these moves the estimate; they
are what every statement about runs is assembled from.
-/

/-- The declared timing of a deadline task. -/
structure Timing where
  runtime : ℕ
  deadline : ℕ
  period : ℕ
  deriving DecidableEq, Repr

/-- One reported execution. -/
structure Execution where
  start : ℕ
  stop : ℕ
  deriving DecidableEq, Repr

/-- The estimator: the next ready time (`0` before the first execution), the last latency,
    the sum of the adjustments, the periods walked, and the executions counted. -/
structure Estimate where
  ready : ℕ
  latency : ℕ
  adjust : ℤ
  cycles : ℕ
  losses : ℕ
  overruns : ℕ
  depletions : ℕ
  deriving DecidableEq, Repr

namespace Execution

/-- The execution took longer than the runtime. -/
def Overrun (x : Execution) (timing : Timing) : Prop := timing.runtime < x.stop - x.start

/-- The execution took longer than runtime and period. -/
def Depleted (x : Execution) (timing : Timing) : Prop :=
  x.Overrun timing ∧ timing.period < x.stop - x.start

instance (x : Execution) (timing : Timing) : Decidable (x.Overrun timing) :=
  inferInstanceAs (Decidable (_ < _))

instance (x : Execution) (timing : Timing) : Decidable (x.Depleted timing) :=
  inferInstanceAs (Decidable (_ ∧ _))

end Execution

namespace Estimate

/-- Before the first execution. -/
def initial : Estimate := ⟨0, 0, 0, 0, 0, 0, 0⟩

/-- The ready time an execution is judged against: the estimate, unless there is none yet or
    the execution started before it. -/
def readyAt (e : Estimate) (x : Execution) : ℕ :=
  if e.ready = 0 ∨ x.start < e.ready then x.start else e.ready

/-- The execution ends more than a deadline after the ready time it is judged against. -/
def Lost (e : Estimate) (timing : Timing) (x : Execution) : Prop :=
  timing.deadline < x.stop - e.readyAt x

instance (e : Estimate) (timing : Timing) (x : Execution) : Decidable (e.Lost timing x) :=
  inferInstanceAs (Decidable (_ < _))

/-- The estimate is pulled back and the latency taken. -/
def pull (e : Estimate) (x : Execution) : Estimate :=
  { e with
    ready := e.readyAt x
    latency := x.start - e.readyAt x
    adjust := if e.ready = 0 then e.adjust else e.adjust - (e.ready - e.readyAt x : ℕ) }

/-- The execution is judged. -/
def judge (e : Estimate) (timing : Timing) (x : Execution) : Estimate :=
  { e with
    losses := if timing.deadline < x.stop - e.ready then e.losses + 1 else e.losses
    overruns := if x.Overrun timing then e.overruns + 1 else e.overruns
    depletions := if x.Depleted timing then e.depletions + 1 else e.depletions }

/-- The estimate is walked past the stop. -/
def walk (e : Estimate) (timing : Timing) (x : Execution) : Estimate :=
  { e with
    ready := strideTo timing.period e.ready x.stop
    cycles := e.cycles + (x.stop - e.ready) ⌈/⌉ timing.period }

/-- The estimate is pushed forward by the latency. -/
def push (e : Estimate) : Estimate :=
  { e with ready := e.ready + e.latency, adjust := e.adjust + e.latency }

/-- One execution. -/
def step (e : Estimate) (timing : Timing) (x : Execution) : Estimate :=
  let walked := ((e.pull x).judge timing x).walk timing x
  if e.Lost timing x ∧ ¬ x.Overrun timing then walked.push else walked

/-! ### What one execution does to the estimate -/

variable {e : Estimate} {timing : Timing} {x : Execution}

/-- By how much the estimate is pushed forward. -/
def pushed (e : Estimate) (timing : Timing) (x : Execution) : ℕ :=
  if e.Lost timing x ∧ ¬ x.Overrun timing then x.start - e.readyAt x else 0

/-- The estimate after an execution: walked from where it was judged, then pushed. -/
theorem step_ready (e : Estimate) (timing : Timing) (x : Execution) :
    (e.step timing x).ready =
      strideTo timing.period (e.readyAt x) x.stop + e.pushed timing x := by
  unfold step pushed
  split <;> rfl

/-- A loss is counted, and nothing else is. -/
theorem step_losses (e : Estimate) (timing : Timing) (x : Execution) :
    (e.step timing x).losses = if e.Lost timing x then e.losses + 1 else e.losses := by
  unfold step
  split <;> rfl

theorem step_overruns (e : Estimate) (timing : Timing) (x : Execution) :
    (e.step timing x).overruns
      = if x.Overrun timing then e.overruns + 1 else e.overruns := by
  unfold step
  split <;> rfl

theorem step_depletions (e : Estimate) (timing : Timing) (x : Execution) :
    (e.step timing x).depletions
      = if x.Depleted timing then e.depletions + 1 else e.depletions := by
  unfold step
  split <;> rfl

/-- The latency is how long after the time it is judged against an execution starts. -/
theorem step_latency (e : Estimate) (timing : Timing) (x : Execution) :
    (e.step timing x).latency = x.start - e.readyAt x := by
  unfold step
  split <;> rfl

/-- The cycles counted are the strides to the stop. -/
theorem step_cycles (e : Estimate) (timing : Timing) (x : Execution) :
    (e.step timing x).cycles = e.cycles + (x.stop - e.readyAt x) ⌈/⌉ timing.period := by
  unfold step
  split <;> rfl

/-- The adjustments booked are the pull-back and the push. -/
theorem step_adjust (e : Estimate) (timing : Timing) (x : Execution) :
    (e.step timing x).adjust = (e.pull x).adjust + e.pushed timing x := by
  unfold step pushed
  split
  · rfl
  · exact (Int.add_zero _).symm

/-- An execution is never judged against a ready time after its start. -/
theorem readyAt_le_start (e : Estimate) (x : Execution) : e.readyAt x ≤ x.start := by
  unfold readyAt
  split
  · exact le_refl _
  · omega

/-- Once there is an estimate, it is only ever pulled back. -/
theorem readyAt_le_ready (h : 0 < e.ready) : e.readyAt x ≤ e.ready := by
  unfold readyAt
  split
  · omega
  · exact le_refl _

/-- A bound on the time an execution is judged against is one on the start and on the
    estimate, if there is one. -/
theorem le_readyAt_iff (e : Estimate) (x : Execution) (b : ℤ) :
    b ≤ e.readyAt x ↔ (e.ready = 0 ∨ b ≤ e.ready) ∧ b ≤ x.start := by
  unfold readyAt
  split <;> omega

/-- After an execution there is an estimate, not before its stop. -/
theorem stop_le_step_ready (hp : 0 < timing.period) : x.stop ≤ (e.step timing x).ready := by
  rw [step_ready]
  exact le_trans (le_strideTo hp _ _) (Nat.le_add_right _ _)

/-- An execution of positive length moves the estimate on by at least a period. -/
theorem add_le_step_ready (hp : 0 < timing.period) (hx : x.start < x.stop) :
    e.readyAt x + timing.period ≤ (e.step timing x).ready := by
  have hlt : e.readyAt x < x.stop := lt_of_le_of_lt (e.readyAt_le_start x) hx
  rw [step_ready]
  exact le_trans (add_le_strideTo hp hlt) (Nat.le_add_right _ _)

/-- An execution that ends within a period of its ready time moves the estimate on by at
    most a period and the push. -/
theorem step_ready_le_add (hp : 0 < timing.period)
    (hstop : x.stop ≤ e.readyAt x + timing.period) :
    (e.step timing x).ready ≤ e.readyAt x + timing.period + e.pushed timing x := by
  rw [step_ready]
  exact Nat.add_le_add_right (strideTo_le_add hp hstop) _

/-- An execution that is not lost, of positive length and within a period, moves the estimate
    on by exactly a period. -/
theorem step_ready_of_not_lost (hp : 0 < timing.period) (hx : x.start < x.stop)
    (hstop : x.stop ≤ e.readyAt x + timing.period) (hlost : ¬ e.Lost timing x) :
    (e.step timing x).ready = e.readyAt x + timing.period := by
  have hlt : e.readyAt x < x.stop := lt_of_le_of_lt (e.readyAt_le_start x) hx
  have hpush : e.pushed timing x = 0 := if_neg fun h => hlost h.1
  rw [step_ready, hpush, strideTo_eq_add hp hlt hstop, Nat.add_zero]

/-! ### Runs of executions -/

/-- The estimator after the first `n` executions, each with the timing read for it. -/
def run (timing : ℕ → Timing) (x : ℕ → Execution) : ℕ → Estimate
  | 0 => initial
  | n + 1 => (run timing x n).step (timing n) (x n)

@[simp] theorem run_zero (timing : ℕ → Timing) (x : ℕ → Execution) :
    run timing x 0 = initial := rfl

@[simp] theorem run_succ (timing : ℕ → Timing) (x : ℕ → Execution) (n : ℕ) :
    run timing x (n + 1) = (run timing x n).step (timing n) (x n) := rfl

/-- The losses counted are the executions lost. -/
theorem run_losses (timing : ℕ → Timing) (x : ℕ → Execution) (n : ℕ) :
    (run timing x n).losses
      = (List.range n).countP fun k => decide ((run timing x k).Lost (timing k) (x k)) := by
  induction n with
  | zero => rfl
  | succ n ih =>
    -- The last execution is counted apart.
    rw [run_succ, step_losses, List.range_succ, List.countP_append, ← ih]
    by_cases h : (run timing x n).Lost (timing n) (x n) <;> simp [h]

/-! ### Periodic tasks

The executions of a task released at `r`, `r + P`, `r + 2P`, …, one for each release, reported
in order.  An execution may start and stop as late as it likes. -/

section Periodic

variable {timing : Timing} {x : ℕ → Execution} {r : ℤ} {n : ℕ}

/-- **The estimate is never before the release.**  The one thing pull-backs, walks and pushes
    have in common: each leaves the estimate at or after the next release. -/
theorem release_le_readyAt (hp : 0 < timing.period) (hlt : ∀ k < n, (x k).start < (x k).stop)
    (hrelease : ∀ k < n, r + k * timing.period ≤ (x k).start) {k : ℕ} (hk : k < n) :
    r + k * timing.period ≤ (run (fun _ => timing) x k).readyAt (x k) := by
  refine (le_readyAt_iff _ _ _).mpr ⟨?_, hrelease k hk⟩
  cases k with
  | zero => exact Or.inl rfl
  | succ k =>
    right
    have ih := release_le_readyAt hp hlt hrelease (show k < n by omega)
    -- The execution before moved the estimate on by a period at least.
    have hstep := add_le_step_ready (e := run (fun _ => timing) x k) hp (hlt k (by omega))
    rw [run_succ]
    push_cast
    rw [add_mul, one_mul]
    omega

/-- **Only late executions are lost.** -/
theorem late_of_lost (hp : 0 < timing.period) (hlt : ∀ k < n, (x k).start < (x k).stop)
    (hrelease : ∀ k < n, r + k * timing.period ≤ (x k).start) {k : ℕ} (hk : k < n)
    (hlost : (run (fun _ => timing) x k).Lost timing (x k)) :
    r + k * timing.period + timing.deadline < (x k).stop := by
  have hle := release_le_readyAt hp hlt hrelease hk
  unfold Lost at hlost
  omega

/-- An execution that does not disturb the estimate: it is done by the next release and, if
    it is late, the lateness is its own (it overran its runtime) or there is no latency to
    push by (it started at its release). -/
def Undisturbing (timing : Timing) (r : ℤ) (x : ℕ → Execution) (k : ℕ) : Prop :=
  (x k).stop ≤ r + k * timing.period + timing.period ∧
    ((x k).stop ≤ r + k * timing.period + timing.deadline ∨ (x k).Overrun timing ∨
      (x k).start = r + k * timing.period)

instance (timing : Timing) (r : ℤ) (x : ℕ → Execution) (k : ℕ) :
    Decidable (Undisturbing timing r x k) :=
  inferInstanceAs (Decidable (_ ∧ _))

/-- An undisturbing execution moves the estimate on by at most a period: it is not walked
    twice, and not pushed. -/
theorem step_ready_le_of_undisturbing (hp : 0 < timing.period)
    (hlt : ∀ k < n, (x k).start < (x k).stop)
    (hrelease : ∀ k < n, r + k * timing.period ≤ (x k).start) {k : ℕ} (hk : k < n)
    (hund : Undisturbing timing r x k) :
    (run (fun _ => timing) x (k + 1)).ready
      ≤ (run (fun _ => timing) x k).readyAt (x k) + timing.period := by
  obtain ⟨hdone, hcause⟩ := hund
  have hle := release_le_readyAt hp hlt hrelease hk
  have hstart := (run (fun _ => timing) x k).readyAt_le_start (x k)
  have hpush : (run (fun _ => timing) x k).pushed timing (x k) = 0 := by
    unfold pushed
    -- A push needs a loss that was not an overrun; each of the three causes excludes it.
    split
    · rename_i h
      have hlate := late_of_lost hp hlt hrelease hk h.1
      rcases hcause with hontime | hover | hexact
      · omega
      · exact absurd hover h.2
      · omega
    · rfl
  have hadd := step_ready_le_add (e := run (fun _ => timing) x k) hp (show (x k).stop
    ≤ (run (fun _ => timing) x k).readyAt (x k) + timing.period by omega)
  rw [hpush] at hadd
  exact hadd

/-- **Since an execution `i` with only undisturbing ones after it**, the estimate is at most
    that execution's start delay after the release. -/
theorem readyAt_le_release_add_delay (hp : 0 < timing.period)
    (hpos : ∀ k < n, 0 < (x k).start) (hlt : ∀ k < n, (x k).start < (x k).stop)
    (hrelease : ∀ k < n, r + k * timing.period ≤ (x k).start) {i k : ℕ} (hik : i ≤ k)
    (hk : k < n) (hund : ∀ j, i ≤ j → j < k → Undisturbing timing r x j) :
    ((run (fun _ => timing) x k).readyAt (x k) : ℤ)
      ≤ r + k * timing.period + ((x i).start - (r + i * timing.period)) := by
  induction k, hik using Nat.le_induction with
  | base =>
    -- At `i` itself the estimate is not after the start.
    have := (run (fun _ => timing) x i).readyAt_le_start (x i)
    omega
  | succ k hik ih =>
    have ih := ih (by omega) fun j hij hjk => hund j hij (by omega)
    have hstep := step_ready_le_of_undisturbing hp hlt hrelease (show k < n by omega)
      (hund k hik (by omega))
    -- After an execution there is an estimate, and it is only ever pulled back.
    have hready : 0 < (run (fun _ => timing) x (k + 1)).ready :=
      lt_of_lt_of_le (lt_trans (hpos k (by omega)) (hlt k (by omega))) (stop_le_step_ready hp)
    have hle := readyAt_le_ready (x := x (k + 1)) hready
    push_cast
    rw [add_mul, one_mul]
    omega

end Periodic

end Estimate

end RtTaskTrace
