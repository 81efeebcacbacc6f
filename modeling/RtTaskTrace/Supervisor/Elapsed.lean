import RtTaskTrace.Supervisor.Conservation
import RtTaskTrace.Supervisor.Counters

namespace RtTaskTrace

open Runs

/-!
# Whether the cycles are the periods elapsed

With one period, the cycle count should stay below the periods begun since the first start.  The
loop counts a stride for each period from the ready time an execution is judged against to its
stop.  When the execution started before the estimate, that ready time has been pulled back over
periods already counted, and the loop counts them again.

* `CountsElapsed` — the count, measured against the time from the first start to the last stop;
* `Paced` — the estimate without its adjustments is ahead by no more than the last stride leaves;
* `Estimate.unadjusted` — that estimate: the first start and the periods counted; `balance_toNat`;
* `countsElapsed_step` — one round; `cycles_elapsed_iff` — every run.
-/

/-- The number of strides to a goal, and what the last one leaves. -/
theorem strides_lt_iff {p a y c f : ℕ} (hp : 0 < p) (h : a < y) (hf : f ≤ y) :
    (c + (y - a) ⌈/⌉ p - 1) * p < y - f ↔ f + c * p ≤ a + (y - a - 1) % p := by
  have hstride := Loop.strideTo_add_mod hp h
  unfold Loop.strideTo at hstride
  obtain ⟨n, hn⟩ := Nat.exists_eq_add_of_le (Loop.one_le_strides hp h)
  rw [hn, Nat.add_mul, Nat.one_mul] at hstride
  rw [hn, show c + (1 + n) - 1 = c + n by omega, Nat.add_mul]
  omega

/-- Strides that were too few for the way so far are so for the way to the next goal, unless
    they start too far ahead of where they should. -/
theorem elapsed_iff {p a y c f : ℕ} (hp : 0 < p) (ha : a ≤ y) (hf : f ≤ y)
    (hprev : 1 ≤ c → (c - 1) * p < y - f) :
    (1 ≤ c + (y - a) ⌈/⌉ p → (c + (y - a) ⌈/⌉ p - 1) * p < y - f) ↔
      y = a ∨ f + c * p ≤ a + (y - a - 1) % p := by
  rcases Nat.eq_or_lt_of_le ha with rfl | hlt
  · -- No stride is made.
    rw [Nat.sub_self, zero_ceilDiv, Nat.add_zero]
    exact iff_of_true hprev (.inl rfl)
  · have hone := Loop.one_le_strides hp hlt
    rw [strides_lt_iff hp hlt hf |>.symm]
    constructor
    · intro h
      exact .inr (h (by omega))
    · rintro (heq | h) -
      · omega
      · exact h

namespace Estimate

variable {xs : List (Timing × Execution)} {x : Timing × Execution} {p : ℕ}

/-- Fewer periods have been counted than have begun since the first start. -/
def CountsElapsed (p : ℕ) (xs : List (Timing × Execution)) : Prop :=
  ∀ first ∈ xs.head?, ∀ last ∈ xs.getLast?,
    1 ≤ (follow xs).cycles → ((follow xs).cycles - 1) * p < last.2.stop - first.2.start

/-- The estimate without its adjustments: the first start and the periods counted. -/
def unadjusted (p : ℕ) : List (Timing × Execution) → ℕ
  | [] => 0
  | first :: xs => first.2.start + (follow (first :: xs)).cycles * p

/-- **One execution.**  If the cycles were right before it, they are right after it exactly when
    no stride is made, or the estimate without its adjustments is no further ahead of the time it
    is judged against than the last stride leaves. -/
theorem countsElapsed_step (h : ∀ y ∈ xs ++ [x], y.1.period = p ∧ 0 < p ∧ y.2.InRange)
    (hordered : InOrder (xs ++ [x])) (hprev : CountsElapsed p xs) :
    CountsElapsed p (xs ++ [x]) ↔ x.2.stop = (follow xs).readyAt x.2 ∨
      unadjusted p xs
        ≤ (follow xs).readyAt x.2 + (x.2.stop - (follow xs).readyAt x.2 - 1) % p := by
  obtain ⟨rfl, hp, hx⟩ := h x (List.mem_append_right _ (List.mem_singleton_self x))
  have hread := le_trans ((follow xs).readyAt_le_start x.2) hx.ordered
  have hcycles : (follow (xs ++ [x])).cycles
      = (follow xs).cycles + (x.2.stop - (follow xs).readyAt x.2) ⌈/⌉ x.1.period := by
    rw [follow_append, List.foldl_cons, List.foldl_nil, step_cycles]
  unfold CountsElapsed
  rw [List.getLast?_concat, hcycles]
  cases xs with
  | nil =>
    -- The first execution is judged against its start, which is the first one.
    have hat : (follow []).readyAt x.2 = x.2.start := if_pos (.inl rfl)
    have hzero : (follow []).cycles = 0 := rfl
    have hahead : x.2.start + 0 * x.1.period
        ≤ x.2.start + (x.2.stop - x.2.start - 1) % x.1.period := by
      rw [Nat.zero_mul]
      exact Nat.le_add_right _ _
    simp only [List.nil_append, List.head?_cons, Option.mem_some_iff, forall_eq', hat, hzero]
    refine iff_of_true ?_ (.inr (Nat.zero_le _))
    exact (elapsed_iff hp hx.ordered hx.ordered fun hnot => absurd hnot (by decide)).mpr
      (.inr hahead)
  | cons first xs =>
    have hbound := (follow_cycles_le
      (fun y hy => ⟨(h y hy).1 ▸ (h y hy).2.1, (h y hy).2.2⟩) hordered first rfl x
      List.getLast?_concat).1
    simp only [List.cons_append, List.head?_cons, Option.mem_some_iff, forall_eq']
    apply elapsed_iff hp hread (by omega)
    intro hone
    -- The last execution before stopped before this one started.
    obtain ⟨last, hlast⟩ : ∃ last, (first :: xs).getLast? = some last :=
      ⟨_, List.getLast?_eq_some_getLast (List.cons_ne_nil first xs)⟩
    have hcount := hprev first rfl last hlast hone
    have hnext := (List.isChain_append.mp hordered).2.2 last hlast x rfl
    have hstop := hx.ordered
    omega

end Estimate

namespace MonitorTask

variable {task task' : MonitorTask} {me : MonitorThread} {scheduler : ℤ} {fopen : Bool}
  {es : List MonitorInput} {input : MonitorInput} {period : UInt64}

/-- Fewer periods have been counted than have begun since the first start. -/
def CountsElapsed (period : UInt64) (task₀ : MonitorTask) (es : List MonitorInput)
    (task : MonitorTask) : Prop :=
  ∀ first ∈ (supervisions task₀ es).head?, ∀ last ∈ (supervisions task₀ es).getLast?,
    1 ≤ task.me.metrics.cycleCount.toNat →
      (task.me.metrics.cycleCount.toNat - 1) * period.toNat < last.2.stop - first.2.start

/-- A supervised round makes no stride, or the estimate without its adjustments is no further
    ahead of the time the execution is judged against than the last stride leaves. -/
def Paced (task : MonitorTask) (input : MonitorInput) : Prop :=
  ∀ props ∈ task.supervisedWith input,
    let ready := (task.recordedMetrics input).loopStart.toNat
    input.telegram.t2.toNat = ready ∨
      task.me.metrics.balance.toNat
        ≤ ready + (input.telegram.t2.toNat - ready - 1) % props.period.toNat

instance (task : MonitorTask) (input : MonitorInput) : Decidable (task.Paced input) :=
  inferInstanceAs (Decidable (∀ props ∈ task.supervisedWith input, _))

/-- The bookings of a run are its supervisions. -/
theorem bookings_map (task : MonitorTask) (es : List MonitorInput) :
    (bookings task es).map (fun booking => (booking.period.toNat, booking.start.toNat))
      = (supervisions task es).map fun x => (x.1.period, x.2.start) := by
  rw [bookings, supervisions, map_records, map_records]
  congr 1
  funext task input task'
  unfold books supervises
  cases task.supervisedWith input <;> rfl

/-- **The estimate without its adjustments** is the first start and the periods counted. -/
theorem balance_run (h : Run iterate (start me scheduler fopen) es task)
    (hrange : Along iterate InRange (start me scheduler fopen) es)
    (hperiod : ∀ x ∈ supervisions (start me scheduler fopen) es, x.1.period = period.toNat) :
    ∀ first ∈ (supervisions (start me scheduler fopen) es).head?,
      task.me.metrics.balance = UInt64.ofNat first.2.start + task.me.metrics.cycleCount * period := by
  have hbooked := booked_run h hrange
  have hmap := bookings_map (start me scheduler fopen) es
  generalize supervisions (start me scheduler fopen) es = xs at hperiod hmap ⊢
  generalize bookings (start me scheduler fopen) es = bs at hbooked hmap
  intro first hfirst
  obtain ⟨xs, rfl⟩ : ∃ rest, xs = first :: rest := List.head?_eq_some_iff.mp hfirst
  cases bs with
  | nil => exact absurd hmap (by simp)
  | cons b bs =>
    obtain ⟨-, hsum⟩ := hbooked.balance b rfl
    -- Every booking has the period, and the first one the start.
    have hperiods : ∀ booking ∈ b :: bs, booking.period = period := by
      intro booking hbooking
      have hmem : (booking.period.toNat, booking.start.toNat)
          ∈ (first :: xs).map fun x => (x.1.period, x.2.start) := by
        rw [← hmap]
        exact List.mem_map_of_mem hbooking
      obtain ⟨z, hz, heqz⟩ := List.mem_map.mp hmem
      apply UInt64.toNat_inj.mp
      rw [← hperiod z hz]
      exact (congrArg Prod.fst heqz).symm
    have hstart : b.start.toNat = first.2.start := congrArg Prod.snd (List.cons.inj hmap).1
    rw [hsum, sum_amount hperiods, ← hbooked.cycles, ← hstart, UInt64.ofNat_toNat]

/-- Before the first execution it is zero, and so is the count. -/
theorem balance_fresh (h : Run iterate (start me scheduler fopen) es task)
    (hrange : Along iterate InRange (start me scheduler fopen) es)
    (hnil : supervisions (start me scheduler fopen) es = []) :
    task.me.metrics.balance = 0 := by
  have hbooked := booked_run h hrange
  have hmap := bookings_map (start me scheduler fopen) es
  rw [hnil] at hmap
  obtain ⟨hready, hadjust⟩ := hbooked.fresh (List.map_eq_nil_iff.mp hmap)
  rw [MonitorMetrics.balance, hready, hadjust]
  rfl

/-- In a run in order the cycle count is that of the estimator. -/
theorem cycleCount_toNat (h : Run iterate (start me scheduler fopen) es task)
    (hrange : Along iterate InRange (start me scheduler fopen) es)
    (hordered : Estimate.InOrder (supervisions (start me scheduler fopen) es)) :
    task.me.metrics.cycleCount.toNat
      = (Estimate.follow (supervisions (start me scheduler fopen) es)).cycles := by
  have hall := supervisions_inRange h hrange
  rw [(follow_run h hrange).cycles, UInt64.toNat_ofNat', Nat.mod_eq_of_lt]
  exact Estimate.follow_cycles_lt (fun x hx => ⟨(hall x hx).1.1, (hall x hx).2⟩) hordered

/-- In a run in order the count is right when that of the estimator is. -/
theorem countsElapsed_iff (h : Run iterate (start me scheduler fopen) es task)
    (hrange : Along iterate InRange (start me scheduler fopen) es)
    (hordered : Estimate.InOrder (supervisions (start me scheduler fopen) es)) :
    CountsElapsed period (start me scheduler fopen) es task ↔
      Estimate.CountsElapsed period.toNat (supervisions (start me scheduler fopen) es) := by
  unfold CountsElapsed
  rw [cycleCount_toNat h hrange hordered]
  rfl

/-- As long as the count is right, the estimate without its adjustments does not wrap. -/
theorem balance_toNat (h : Run iterate (start me scheduler fopen) es task)
    (hrange : Along iterate InRange (start me scheduler fopen) es)
    (hperiod : ∀ x ∈ supervisions (start me scheduler fopen) es, x.1.period = period.toNat)
    (hordered : Estimate.InOrder (supervisions (start me scheduler fopen) es))
    (hcounts : Estimate.CountsElapsed period.toNat (supervisions (start me scheduler fopen) es)) :
    task.me.metrics.balance.toNat
      = Estimate.unadjusted period.toNat (supervisions (start me scheduler fopen) es) := by
  have hall := supervisions_inRange h hrange
  have hbalance := balance_run h hrange hperiod
  have hfresh := balance_fresh h hrange
  have hcycles := cycleCount_toNat h hrange hordered
  generalize supervisions (start me scheduler fopen) es = xs at *
  cases xs with
  | nil =>
    rw [hfresh rfl]
    rfl
  | cons first xs =>
    -- There is a last execution, so the count is bounded by its stop.
    obtain ⟨last, hlast⟩ : ∃ last, (first :: xs).getLast? = some last :=
      ⟨_, List.getLast?_eq_some_getLast (List.cons_ne_nil first xs)⟩
    have hcount := hcounts first rfl last hlast
    have hstop := (hall last (List.mem_of_getLast? hlast)).2.bounded
    obtain ⟨⟨-, hp⟩, hfirst⟩ := hall first List.mem_cons_self
    rw [hperiod first List.mem_cons_self] at hp
    have hstart := lt_of_le_of_lt hfirst.ordered hfirst.bounded
    rw [hbalance first rfl, Estimate.unadjusted, ← hcycles]
    rw [← hcycles] at hcount
    generalize task.me.metrics.cycleCount = c at *
    have hbound : c.toNat * period.toNat < 2 ^ 63 := by
      rcases Nat.eq_zero_or_pos c.toNat with hzero | hpos
      · rw [hzero, Nat.zero_mul]
        exact Nat.two_pow_pos 63
      · have := hcount hpos
        rw [Nat.sub_mul, Nat.one_mul] at this
        omega
    rw [UInt64.toNat_add, UInt64.toNat_mul, UInt64.toNat_ofNat', Nat.mod_eq_of_lt (by omega),
      Nat.mod_eq_of_lt (by omega), Nat.mod_eq_of_lt (by omega)]

/-- A round that is not supervised changes nothing. -/
theorem countsElapsed_unsupervised (h : Run iterate (start me scheduler fopen) es task)
    (hstep : task.iterate input = some task') (hnone : task.supervisedWith input = none) :
    CountsElapsed period (start me scheduler fopen) (es ++ [input]) task' ↔
      CountsElapsed period (start me scheduler fopen) es task := by
  obtain ⟨t1, t2, lastRT, minRT, WCRT, perfMarks, hmetrics⟩ := unsupervised_metrics hstep hnone
  unfold CountsElapsed
  rw [supervisions_concat_none h hstep hnone, hmetrics]

/-- **A supervised round.**  If the count was right before it, it is right after it exactly when
    the round is paced. -/
theorem countsElapsed_supervised {props : DeadlineProps}
    (h : Run iterate (start me scheduler fopen) es task) (hstep : task.iterate input = some task')
    (hrange : Along iterate InRange (start me scheduler fopen) (es ++ [input]))
    (hperiod : ∀ x ∈ supervisions (start me scheduler fopen) (es ++ [input]),
      x.1.period = period.toNat)
    (hordered : Estimate.InOrder (supervisions (start me scheduler fopen) (es ++ [input])))
    (hsome : task.supervisedWith input = some props)
    (hprev : CountsElapsed period (start me scheduler fopen) es task) :
    CountsElapsed period (start me scheduler fopen) (es ++ [input]) task' ↔ task.Paced input := by
  have hrun' : Run iterate (start me scheduler fopen) (es ++ [input]) task' :=
    (run_concat _ _ _ _).mpr ⟨task, h, hstep⟩
  have hall := supervisions_inRange hrun' hrange
  have hbefore' := supervisions_before h hstep
  have hordered' := List.IsChain.prefix hordered hbefore'
  obtain ⟨hbefore, hin⟩ := (along_concat h).mp hrange
  obtain ⟨hx, hp, -⟩ := hin props hsome
  obtain ⟨hr, ho⟩ := recordResponseTime_refines (follow_run h hbefore) hx
  have hready : (task.recordedMetrics input).loopStart.toNat
      = (Estimate.follow (supervisions (start me scheduler fopen) es)).readyAt input.execution :=
    loopStart_toNat hr ho
  rw [countsElapsed_iff h hbefore hordered'] at hprev
  have hbalance := balance_toNat h hbefore (fun x hx => hperiod x (hbefore'.subset hx)) hordered'
    hprev
  rw [countsElapsed_iff hrun' hrange hordered]
  unfold Paced
  rw [supervisions_concat_some h hstep hsome] at hall hperiod hordered ⊢
  have hpropsPeriod : props.period.toNat = period.toNat :=
    hperiod (props.timing, input.execution) (List.mem_append_right _ (List.mem_singleton_self _))
  have hpos : 0 < period.toNat := hpropsPeriod ▸ hp
  rw [Estimate.countsElapsed_step (fun y hy => ⟨hperiod y hy, hpos, (hall y hy).2⟩) hordered hprev,
    hsome]
  simp only [Option.mem_some_iff, forall_eq']
  rw [hready, hbalance, hpropsPeriod]
  rfl

/-- **One round.** -/
theorem countsElapsed_step (h : Run iterate (start me scheduler fopen) es task)
    (hstep : task.iterate input = some task')
    (hrange : Along iterate InRange (start me scheduler fopen) (es ++ [input]))
    (hperiod : ∀ x ∈ supervisions (start me scheduler fopen) (es ++ [input]),
      x.1.period = period.toNat)
    (hordered : Estimate.InOrder (supervisions (start me scheduler fopen) (es ++ [input])))
    (hprev : CountsElapsed period (start me scheduler fopen) es task) :
    CountsElapsed period (start me scheduler fopen) (es ++ [input]) task' ↔ task.Paced input := by
  cases hsome : task.supervisedWith input with
  | none =>
    refine iff_of_true ((countsElapsed_unsupervised h hstep hsome).mpr hprev) fun props hprops => ?_
    exact absurd (hsome.symm.trans hprops) (by simp)
  | some props => exact countsElapsed_supervised h hstep hrange hperiod hordered hsome hprev

/-- **When the cycles are the periods elapsed.**  In a run in range, of one period, that supervises
    executions in order, the count stays right all along exactly when every round is paced. -/
theorem cycles_elapsed_iff (h : Run iterate (start me scheduler fopen) es task)
    (hrange : Along iterate InRange (start me scheduler fopen) es)
    (hperiod : ∀ x ∈ supervisions (start me scheduler fopen) es, x.1.period = period.toNat)
    (hordered : Estimate.InOrder (supervisions (start me scheduler fopen) es)) :
    (∀ before task, before <+: es → Run iterate (start me scheduler fopen) before task →
      CountsElapsed period (start me scheduler fopen) before task) ↔
    Along iterate Paced (start me scheduler fopen) es := by
  refine h.history_induction (P := fun es _ =>
    Along iterate InRange (start me scheduler fopen) es →
    (∀ x ∈ supervisions (start me scheduler fopen) es, x.1.period = period.toNat) →
    Estimate.InOrder (supervisions (start me scheduler fopen) es) →
    ((∀ before task, before <+: es → Run iterate (start me scheduler fopen) before task →
      CountsElapsed period (start me scheduler fopen) before task) ↔
      Along iterate Paced (start me scheduler fopen) es)) ?_ ?_ hrange hperiod hordered
  · -- Before the first round nothing has been supervised.
    refine fun _ _ _ => iff_of_true (fun before task hbefore _ first hfirst => ?_) trivial
    obtain rfl := List.prefix_nil.mp hbefore
    exact absurd hfirst (by simp [supervisions, records])
  · intro es task input task' hes ih hstep hrange hperiod hordered
    have hrun' : Run iterate (start me scheduler fopen) (es ++ [input]) task' :=
      (run_concat _ _ _ _).mpr ⟨task, hes, hstep⟩
    obtain ⟨hbefore, -⟩ := (along_concat hes).mp hrange
    have hbefore' := supervisions_before hes hstep
    have hordered' := List.IsChain.prefix hordered hbefore'
    have ih := ih hbefore (fun x hx => hperiod x (hbefore'.subset hx)) hordered'
    rw [along_concat hes, ← ih]
    constructor
    · intro hall
      have hes' := hall es task (List.prefix_append es [input]) hes
      refine ⟨fun before t hpre => hall before t (hpre.trans (List.prefix_append es [input])), ?_⟩
      exact (countsElapsed_step hes hstep hrange hperiod hordered hes').mp
        (hall _ task' (List.prefix_refl _) hrun')
    · rintro ⟨hall, hpaced⟩ before t hpre hrun
      rcases List.prefix_concat_iff.mp hpre with rfl | hpre
      · -- The whole run.
        obtain rfl := hrun.unique hrun'
        exact (countsElapsed_step hes hstep hrange hperiod hordered
          (hall es task (List.prefix_refl _) hes)).mpr hpaced
      · exact hall before t hpre hrun

theorem cycles_elapsed_sample :
    ∃ task, Run iterate (startOn 1) sampleRounds task ∧
      Along iterate Paced (startOn 1) sampleRounds ∧
      ∀ before task, before <+: sampleRounds → Run iterate (startOn 1) before task →
        CountsElapsed 20 (startOn 1) before task := by
  obtain ⟨task, hrun⟩ : ∃ task, Run iterate (startOn 1) sampleRounds task :=
    ⟨_, run_get _ _ (by decide)⟩
  have hpaced : Along iterate Paced (startOn 1) sampleRounds := by decide
  exact ⟨task, hrun, hpaced,
    (cycles_elapsed_iff hrun (by decide) (by decide) (by decide)).mpr hpaced⟩

/-- **A task faster than its period.**  Two executions of 1 nanosecond, one after the other, make
    two cycles of 20. -/
theorem cycles_elapsed_not :
    let es := [jobInput ⟨5, 10, 20⟩ 1 100 101, jobInput ⟨5, 10, 20⟩ 1 101 102]
    ∃ task, Run iterate (startOn 1) es task ∧
      Along iterate InRange (startOn 1) es ∧
      (∀ x ∈ supervisions (startOn 1) es, x.1.period = 20) ∧
      Estimate.InOrder (supervisions (startOn 1) es) ∧
      task.me.metrics.cycleCount = 2 ∧ ¬ CountsElapsed 20 (startOn 1) es task := by
  intro es
  obtain ⟨task, hrun, hcount⟩ : ∃ task, Run iterate (startOn 1) es task ∧
      task.me.metrics.cycleCount = 2 := ⟨_, run_get _ _ (by decide), by decide⟩
  refine ⟨task, hrun, by decide, by decide, by decide, hcount, fun hcounts => ?_⟩
  have hlast := hcounts (⟨5, 10, 20⟩, ⟨100, 101⟩) rfl (⟨5, 10, 20⟩, ⟨101, 102⟩) rfl
  rw [hcount] at hlast
  exact absurd (hlast (by decide)) (by decide)

end MonitorTask

end RtTaskTrace
