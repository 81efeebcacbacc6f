import RtTaskTrace.Supervisor.Estimator

namespace RtTaskTrace

open Loop

/-!
# What reports that never arrive can cost

The estimator follows a periodic task by the jobs it is told of, in any selection: a full queue
or a full pipe drops some of them.  Nothing bounds how many are missing, nor how late those that
come are.  Still the losses it counts can be accounted for: each is a job that was late, one that
overran its runtime, or the first loss after a *gap*, a place where jobs were left out.

The account rests on a debt of at most one.  Past a gap the estimate may be behind the releases;
it stays there until a loss without an overrun pushes it to where that job started, which is at
or after its release.

* `gaps` — the places of a list of jobs where some are left out;
* `debt` — whether the estimate is behind the next release;
* `step_losses_add_debt_le` — what one job does to losses and debt;
* `losses_le` — the account over a run.
-/

namespace Estimate

variable {timing : Timing} {x : ℕ → Execution} {r : ℤ} {e : Estimate}

/-- The estimator after the jobs `ks` of those that `x` gives, taken in this order. -/
def runJobs (timing : Timing) (x : ℕ → Execution) (ks : List ℕ) : Estimate :=
  ks.foldl (fun e k => e.step timing (x k)) initial

/-- Job `k` is not the one after `j`. -/
def gap (j k : ℕ) : ℕ := if k = j + 1 then 0 else 1

/-- How often jobs are left out between one job of the list and the next. -/
def gaps : List ℕ → ℕ
  | j :: k :: ks => gap j k + gaps (k :: ks)
  | _ => 0

@[simp] theorem gaps_nil : gaps [] = 0 := rfl

@[simp] theorem gaps_singleton (j : ℕ) : gaps [j] = 0 := rfl

@[simp] theorem gaps_cons_cons (j k : ℕ) (ks : List ℕ) :
    gaps (j :: k :: ks) = gap j k + gaps (k :: ks) := rfl

theorem gap_le_one (j k : ℕ) : gap j k ≤ 1 := by
  unfold gap
  split <;> omega

/-- Leaving out one more job makes at most one more gap. -/
theorem gaps_cons_le (j k : ℕ) (ks : List ℕ) : gaps (j :: ks) ≤ gaps (j :: k :: ks) + 1 := by
  cases ks with
  | nil => exact Nat.zero_le _
  | cons l ks =>
    have hgap := gap_le_one j l
    rw [gaps_cons_cons, gaps_cons_cons, gaps_cons_cons]
    omega

theorem gaps_le_gaps_cons (k : ℕ) (ks : List ℕ) : gaps ks ≤ gaps (k :: ks) := by
  cases ks with
  | nil => exact Nat.zero_le _
  | cons l ks => exact Nat.le_add_left _ _

/-- More jobs at the end close no gap. -/
theorem gaps_le_gaps_append (ks ls : List ℕ) : gaps ks ≤ gaps (ks ++ ls) := by
  induction ks with
  | nil => exact Nat.zero_le _
  | cons k ks ih =>
    cases ks with
    | nil => exact Nat.zero_le _
    | cons l ks =>
      rw [List.cons_append, List.cons_append, gaps_cons_cons, gaps_cons_cons]
      exact Nat.add_le_add_left ih _

/-- Jobs that get lost behind one that does not make no more gaps than they are. -/
theorem gaps_cons_add_length_le {ls ks : List ℕ} (h : ls.Sublist ks) (j : ℕ) :
    gaps (j :: ls) + ls.length ≤ gaps (j :: ks) + ks.length := by
  induction h generalizing j with
  | slnil => exact le_rfl
  | @cons ls ks k _ ih =>
    have hout := gaps_cons_le j k ks
    have ih := ih j
    rw [List.length_cons]
    omega
  | cons_cons k _ ih =>
    have ih := ih k
    rw [gaps_cons_cons, gaps_cons_cons, List.length_cons, List.length_cons]
    omega

/-- **Jobs that get lost make no more gaps than they are**, besides those there were. -/
theorem gaps_add_length_le {ls ks : List ℕ} (h : ls.Sublist ks) :
    gaps ls + ls.length ≤ gaps ks + ks.length := by
  induction h with
  | slnil => exact le_rfl
  | @cons ls ks k _ ih =>
    have hout := gaps_le_gaps_cons k ks
    rw [List.length_cons]
    omega
  | cons_cons k h =>
    have hbehind := gaps_cons_add_length_le h k
    rw [List.length_cons, List.length_cons]
    omega

/-- The job ends more than a deadline after its release. -/
def Late (timing : Timing) (r : ℤ) (x : ℕ → Execution) (k : ℕ) : Prop :=
  r + k * timing.period + timing.deadline < (x k).stop

instance (timing : Timing) (r : ℤ) (x : ℕ → Execution) (k : ℕ) : Decidable (Late timing r x k) :=
  inferInstanceAs (Decidable (_ < _))

/-- A job of a periodic task, the first one released at `r`: it starts at or after its release
    and takes some time. -/
structure Released (timing : Timing) (r : ℤ) (x : ℕ → Execution) (k : ℕ) : Prop where
  release_le : r + k * timing.period ≤ (x k).start
  start_lt_stop : (x k).start < (x k).stop

instance (timing : Timing) (r : ℤ) (x : ℕ → Execution) (k : ℕ) :
    Decidable (Released timing r x k) :=
  decidable_of_iff (r + k * timing.period ≤ (x k).start ∧ (x k).start < (x k).stop)
    ⟨fun ⟨hrelease, hlt⟩ => ⟨hrelease, hlt⟩, fun h => ⟨h.release_le, h.start_lt_stop⟩⟩

/-- One if the estimate after job `j` is behind the next release. -/
def debt (timing : Timing) (r : ℤ) (e : Estimate) (j : ℕ) : ℕ :=
  if e.ready = 0 ∨ r + j * timing.period + timing.period ≤ e.ready then 0 else 1

theorem debt_le_one (timing : Timing) (r : ℤ) (e : Estimate) (j : ℕ) :
    debt timing r e j ≤ 1 := by
  unfold debt
  split <;> omega

/-! ### One job -/

section Step

variable {k : ℕ}

/-- **An estimate not before the release** stays so, and loses only a late job. -/
theorem step_of_release_le (hp : 0 < timing.period) (hk : Released timing r x k)
    (hle : r + k * timing.period ≤ e.readyAt (x k)) :
    debt timing r (e.step timing (x k)) k = 0 ∧ (e.Lost timing (x k) → Late timing r x k) := by
  have hadd := add_le_step_ready (e := e) hp hk.start_lt_stop
  constructor
  · rw [debt, if_pos]
    omega
  · intro hlost
    unfold Lost at hlost
    unfold Late
    omega

/-- **A loss that is no overrun clears the debt**: the estimate is pushed to where the job
    started, and past it. -/
theorem debt_of_pushed (hp : 0 < timing.period) (hk : Released timing r x k)
    (hlost : e.Lost timing (x k)) (hover : ¬ (x k).Overrun timing) :
    debt timing r (e.step timing (x k)) k = 0 := by
  have hstart := e.readyAt_le_start (x k)
  have hstride := add_le_strideTo hp (lt_of_le_of_lt hstart hk.start_lt_stop)
  have hrelease := hk.release_le
  rw [debt, if_pos]
  right
  rw [step_ready, pushed, if_pos ⟨hlost, hover⟩]
  omega

/-- Without a debt the next job is judged against its release or later. -/
theorem release_le_of_no_debt {j : ℕ} (hk : Released timing r x (j + 1))
    (hdebt : debt timing r e j = 0) : r + (j + 1 : ℕ) * timing.period ≤ e.readyAt (x (j + 1)) := by
  refine (le_readyAt_iff _ _ _).mpr ⟨?_, hk.release_le⟩
  unfold debt at hdebt
  split at hdebt
  · rename_i hready
    push_cast
    rw [add_mul, one_mul, ← add_assoc]
    exact hready
  · exact absurd hdebt one_ne_zero

/-- **What one job does to the account.**  Its loss and the debt it leaves are covered by the debt
    there was, the gap before it, its lateness or its overrun. -/
theorem step_losses_add_debt_le (hp : 0 < timing.period) (hk : Released timing r x k) (j : ℕ) :
    (e.step timing (x k)).losses + debt timing r (e.step timing (x k)) k
      ≤ e.losses + debt timing r e j + gap j k + (if Late timing r x k then 1 else 0)
        + (if (x k).Overrun timing then 1 else 0) := by
  have hdebt := debt_le_one timing r (e.step timing (x k)) k
  rw [step_losses]
  by_cases hclear : gap j k = 0 ∧ debt timing r e j = 0
  · -- no gap and no debt: the job is judged against its release or later
    obtain ⟨hgap, hnone⟩ := hclear
    have hnext : k = j + 1 := by
      unfold gap at hgap
      split at hgap
      · assumption
      · exact absurd hgap one_ne_zero
    subst hnext
    obtain ⟨hzero, hlate⟩ := step_of_release_le hp hk (release_le_of_no_debt hk hnone)
    rw [hzero]
    by_cases hlost : e.Lost timing (x (j + 1))
    · rw [if_pos hlost, if_pos (hlate hlost)]
      omega
    · rw [if_neg hlost]
      omega
  · have hcover : 1 ≤ debt timing r e j + gap j k := by omega
    by_cases hlost : e.Lost timing (x k)
    · by_cases hover : (x k).Overrun timing
      · -- The overrun pays for the loss, the rest for the debt.
        rw [if_pos hlost, if_pos hover]
        omega
      · -- the loss is paid for by what it clears
        rw [if_pos hlost, debt_of_pushed hp hk hlost hover]
        omega
    · rw [if_neg hlost]
      omega

end Step

/-! ### Runs -/

/-- The account over the jobs after `j`. -/
theorem foldl_losses_le (hp : 0 < timing.period) {ks : List ℕ}
    (hks : ∀ k ∈ ks, Released timing r x k) (e : Estimate) (j : ℕ) :
    (ks.foldl (fun e k => e.step timing (x k)) e).losses
      ≤ e.losses + debt timing r e j + gaps (j :: ks)
        + ks.countP (fun k => decide (Late timing r x k))
        + ks.countP (fun k => decide ((x k).Overrun timing)) := by
  induction ks generalizing e j with
  | nil => exact le_trans (Nat.le_add_right _ _) (Nat.le_add_right _ _)
  | cons k ks ih =>
    have ih := ih (fun i hi => hks i (List.mem_cons_of_mem k hi)) (e.step timing (x k)) k
    have hstep := step_losses_add_debt_le (e := e) hp (hks k List.mem_cons_self) j
    rw [List.foldl_cons, gaps_cons_cons, List.countP_cons, List.countP_cons]
    simp only [decide_eq_true_eq]
    omega

/-- The overruns counted are the jobs that overran. -/
theorem runJobs_overruns (timing : Timing) (x : ℕ → Execution) (ks : List ℕ) :
    (runJobs timing x ks).overruns = ks.countP fun k => decide ((x k).Overrun timing) := by
  induction ks using List.reverseRecOn with
  | nil => rfl
  | append_singleton ks k ih =>
    have hstep : runJobs timing x (ks ++ [k]) = (runJobs timing x ks).step timing (x k) := by
      rw [runJobs, List.foldl_append]
      rfl
    rw [hstep, step_overruns, List.countP_append, ← ih]
    by_cases hover : (x k).Overrun timing <;> simp [hover]

/-- **The account of the losses.**  Whatever jobs of a periodic task are reported, the losses
    counted are at most the jobs that were late, the overruns counted and the gaps. -/
theorem losses_le (hp : 0 < timing.period) {ks : List ℕ}
    (hks : ∀ k ∈ ks, Released timing r x k) :
    (runJobs timing x ks).losses
      ≤ ks.countP (fun k => decide (Late timing r x k)) + (runJobs timing x ks).overruns
        + gaps ks := by
  rw [runJobs_overruns]
  cases ks with
  | nil => exact Nat.zero_le _
  | cons k ks =>
    -- The first job has no estimate before it: it is judged against its own start.
    have hk := hks k List.mem_cons_self
    have hfirst : r + k * timing.period ≤ initial.readyAt (x k) := hk.release_le
    obtain ⟨hzero, hlate⟩ := step_of_release_le hp hk hfirst
    have hrest := foldl_losses_le hp (fun i hi => hks i (List.mem_cons_of_mem k hi))
      (initial.step timing (x k)) k
    have hlosses := step_losses initial timing (x k)
    rw [hzero, hlosses] at hrest
    rw [runJobs, List.foldl_cons, List.countP_cons, List.countP_cons]
    simp only [decide_eq_true_eq]
    by_cases hlost : initial.Lost timing (x k)
    · rw [if_pos hlost] at hrest
      rw [if_pos (hlate hlost)]
      have hnone : initial.losses = 0 := rfl
      omega
    · rw [if_neg hlost] at hrest
      have hnone : initial.losses = 0 := rfl
      omega

end Estimate

end RtTaskTrace
