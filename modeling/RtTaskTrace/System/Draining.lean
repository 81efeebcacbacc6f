import RtTaskTrace.System.Pipeline

namespace RtTaskTrace

open Runs

/-!
# No telegram is stuck

At any time telegrams may lie in the queue, in the gateway's hand and in the pipe.  The gateway and
the monitor can bring all of them home on their own, whatever went before: the monitor empties the
pipe, which makes room for the gateway's write, and the queue has a token for each telegram in it,
so no wait of the gateway blocks while there is one.  That rests on `Queue_add` and `Queue_getNext`
being one step each: where their updates of `count` race, a token may be spent in vain and a
telegram left behind.

The hypotheses on the monitor and the telegrams are those of `Pipeline.lean`.  The pipe can hold a
telegram, the monitor's thread has not ended, and the kernel goes on giving the same parameters.

* `Traced.Carries` — steps of the gateway and the monitor alone, none of which fails;
* `Follows.drain_pipe`, `drain_hand`, `drain_queue` — each place is emptied into the next;
* `pipeline_drains` — from every state of every run.
-/

variable {N : ℕ} [NeZero N]

namespace Traced

/-- A fetch with a token, a write that meets no fault or a round answered with `answers`. -/
def Event.Carrying (answers : Answers) (e : Event) : Prop :=
  e = .fetch .acquired ∨ e = .forward none ∨ e = .round answers

/-- Steps of the gateway and the monitor lead from `s` to `s'`.  They hand nothing over and drop
    nothing, and the monitor goes on. -/
structure Carries (answers : Answers) (s s' : Traced N) : Prop where
  steps : ∃ es, (∀ e ∈ es, Event.Carrying answers e) ∧ Run step s es s'
  accepted : s'.delivery.accepted = s.delivery.accepted
  dropped : s'.delivery.dropped = s.delivery.dropped
  capacity : s'.delivery.pipe.capacity = s.delivery.pipe.capacity
  running : s'.monitor.exited = false

variable {pid : PidT} {props : DeadlineProps} {answers : Answers} {s s' s'' : Traced N}
  {read piped queued done : List Telegram}

theorem Carries.refl (hrunning : s.monitor.exited = false) : Carries answers s s where
  steps := ⟨[], fun _ he => absurd he List.not_mem_nil, (run_nil s s).mpr rfl⟩
  accepted := rfl
  dropped := rfl
  capacity := rfl
  running := hrunning

theorem Carries.trans (h : Carries answers s s') (h' : Carries answers s' s'') :
    Carries answers s s'' where
  steps := by
    obtain ⟨es, hes, hrun⟩ := h.steps
    obtain ⟨fs, hfs, hrun'⟩ := h'.steps
    refine ⟨es ++ fs, fun e he => ?_, (run_append s s'' es fs).mpr ⟨s', hrun, hrun'⟩⟩
    rcases List.mem_append.mp he with hmem | hmem
    · exact hes e hmem
    · exact hfs e hmem
  accepted := h'.accepted.trans h.accepted
  dropped := h'.dropped.trans h.dropped
  capacity := h'.capacity.trans h.capacity
  running := h'.running

theorem steps_single {e : Event} (he : Event.Carrying answers e) (hstep : s.step e = some s') :
    ∃ es, (∀ e ∈ es, Event.Carrying answers e) ∧ Run step s es s' := by
  refine ⟨[e], fun f hf => ?_, ?_⟩
  · rw [List.mem_singleton.mp hf]
    exact he
  · rw [run_cons]
    exact ⟨s', hstep, (run_nil s' s').mpr rfl⟩

/-! ### One step -/

/-- **A running monitor reads on** while there is something in the pipe. -/
theorem Follows.carry_round {t : Telegram}
    (h : Follows pid props s read (t :: piped) queued done) (hrunning : s.monitor.exited = false)
    (hprops : props.timing.InRange) (hsup : (Event.round answers).Supervised props)
    (hx : ∀ t ∈ s.delivery.accepted, t.execution.InRange) :
    ∃ s', Carries answers s s' ∧ Follows pid props s' (read ++ [t]) piped queued done ∧
      s'.delivery.fetched = s.delivery.fetched ∧ s'.delivery.task = s.delivery.task := by
  have ht := h.tracks
  have hmem : t ∈ s.delivery.accepted := by
    rw [ht.order, List.append_assoc]
    exact List.mem_append_left _ (ht.sublist.subset (by simp))
  have hjob := isJob_input hsup (ht.own t hmem) (h.codes t hmem) s.monitor.me.telegram
  have hexec : (answers.input s.monitor.me.telegram t.encode).execution = t.execution := by
    rw [MonitorInput.execution, input_decode]
  -- The round returns, since the telegram is in range.
  obtain ⟨monitor, hiter, hw, -⟩ := iterate_job_refines ⟨hrunning, h.pid, h.policy⟩
    (h.refines hx) hjob (by rw [hexec]; exact hx t hmem) hprops
  have hstep : s.step (.round answers) = some ⟨afterRead s.delivery t piped, monitor⟩ := by
    show s.round answers = _
    rw [Traced.round_cons ht, hiter]
    rfl
  exact ⟨_, ⟨steps_single (Or.inr (Or.inr rfl)) hstep, rfl, rfl, rfl, hw.running⟩,
    h.round_cons hprops hsup hstep, rfl, rfl⟩

/-- **The gateway writes** what it has in its hand into an empty pipe. -/
theorem Follows.carry_forward (h : Follows pid props s read [] queued done)
    (answers : Answers) (hrunning : s.monitor.exited = false) (hf : s.delivery.fetched = true)
    (hcapacity : Telegram.size ≤ s.delivery.pipe.capacity) :
    ∃ s', Carries answers s s' ∧
      Follows pid props s' read [s.delivery.task.gateway.telegram] queued
        (done ++ [s.delivery.task.gateway.telegram]) ∧
      s'.delivery.fetched = false := by
  have ht := h.tracks
  have hempty : s.delivery.pipe.bytes = [] := ht.pipe
  have hroom : s.delivery.pipe.bytes.length + Telegram.size ≤ s.delivery.pipe.capacity := by
    rw [hempty, List.length_nil, Nat.zero_add]
    exact hcapacity
  have hwrite : (s.delivery.task.gateway.forward s.delivery.pipe none s.delivery.errno).1
      = ⟨{ s.delivery.pipe with
            bytes := s.delivery.pipe.bytes ++ s.delivery.task.gateway.telegram.encode },
          Telegram.size, s.delivery.errno⟩ := by
    rw [Gateway.forward_fst, SharedMem.userWrite, if_pos hroom]
  have hforward : s.delivery.forward none = some { s.delivery with
      fetched := false
      pipe := { s.delivery.pipe with
        bytes := s.delivery.pipe.bytes ++ s.delivery.task.gateway.telegram.encode } } := by
    rw [Delivery.forward, if_pos hf]
    simp only [hwrite, if_true]
  have hstep := congrArg (Option.map fun delivery => { s with delivery := delivery }) hforward
  exact ⟨_, ⟨steps_single (Or.inr (Or.inl rfl)) hstep, rfl, rfl, rfl, hrunning⟩,
    ⟨ht.written hf _ _ rfl, h.codes, h.tokens, h.pid, h.policy, h.refines⟩, rfl⟩

/-- **The gateway fetches** the oldest telegram of a queue that holds something. -/
theorem Follows.carry_fetch {t : Telegram} (h : Follows pid props s read piped (t :: queued) done)
    (answers : Answers) (hrunning : s.monitor.exited = false) (hf : s.delivery.fetched = false) :
    ∃ s', Carries answers s s' ∧ Follows pid props s' read piped queued done ∧
      s'.delivery.fetched = true := by
  have ht := h.tracks
  -- There is a token for the telegram.
  have hsem : s.delivery.task.gateway.queue.sem ≠ 0 := by
    have htokens := h.tokens
    rw [ht.queue.count_eq, List.length_cons] at htokens
    omega
  obtain ⟨gateway, ret, hfetch⟩ := Gateway.fetch_acquired hsem
  obtain ⟨rfl, -, ht'⟩ := ht.fetch_cons hf hfetch
  have hfetched : s.delivery.fetch .acquired = some { s.delivery with
      task := { s.delivery.task with gateway := gateway }, fetched := true } := by
    rw [Delivery.fetch, if_neg (by simp [hf]), hfetch]
    rfl
  have hstep := congrArg (Option.map fun delivery => { s with delivery := delivery }) hfetched
  have htokens := Queue.getNext_tokens h.tokens (Gateway.fetch_eq_some hfetch)
  exact ⟨_, ⟨steps_single (Or.inl rfl) hstep, rfl, rfl, rfl, hrunning⟩,
    ⟨ht', h.codes, htokens, h.pid, h.policy, h.refines⟩, rfl⟩

/-! ### One place after the other -/

theorem Follows.drain_pipe (h : Follows pid props s read piped queued done)
    (hrunning : s.monitor.exited = false) (hprops : props.timing.InRange)
    (hsup : (Event.round answers).Supervised props)
    (hx : ∀ t ∈ s.delivery.accepted, t.execution.InRange) :
    ∃ s', Carries answers s s' ∧ Follows pid props s' (read ++ piped) [] queued done ∧
      s'.delivery.fetched = s.delivery.fetched := by
  induction piped generalizing s read with
  | nil =>
    rw [List.append_nil]
    exact ⟨s, .refl hrunning, h, rfl⟩
  | cons t piped ih =>
    obtain ⟨s₁, hcarry, h₁, hfetched, -⟩ := h.carry_round hrunning hprops hsup hx
    obtain ⟨s', hcarry', h', hfetched'⟩ := ih h₁ hcarry.running (hcarry.accepted ▸ hx)
    rw [List.append_assoc] at h'
    exact ⟨s', hcarry.trans hcarry', h', hfetched'.trans hfetched⟩

theorem Follows.drain_hand (h : Follows pid props s read piped queued done)
    (hrunning : s.monitor.exited = false) (hprops : props.timing.InRange)
    (hsup : (Event.round answers).Supervised props)
    (hx : ∀ t ∈ s.delivery.accepted, t.execution.InRange)
    (hcapacity : Telegram.size ≤ s.delivery.pipe.capacity) :
    ∃ s' read' done', Carries answers s s' ∧ Follows pid props s' read' [] queued done' ∧
      s'.delivery.fetched = false := by
  obtain ⟨s₁, hcarry, h₁, hfetched⟩ := h.drain_pipe hrunning hprops hsup hx
  by_cases hf : s.delivery.fetched = true
  · -- The pipe is empty, so the write goes through, and the monitor reads it.
    obtain ⟨s₂, hcarry', h₂, hfree⟩ := h₁.carry_forward answers hcarry.running
      (hfetched.trans hf) (hcarry.capacity ▸ hcapacity)
    have hboth := hcarry.trans hcarry'
    obtain ⟨s', hcarry'', h', hfree'⟩ := h₂.drain_pipe hboth.running hprops hsup
      (hboth.accepted ▸ hx)
    exact ⟨s', _, _, hboth.trans hcarry'', h', hfree'.trans hfree⟩
  · exact ⟨s₁, _, _, hcarry, h₁, hfetched.trans (Bool.eq_false_iff.mpr hf)⟩

theorem Follows.drain_queue (h : Follows pid props s read piped queued done)
    (hrunning : s.monitor.exited = false) (hprops : props.timing.InRange)
    (hsup : (Event.round answers).Supervised props)
    (hx : ∀ t ∈ s.delivery.accepted, t.execution.InRange)
    (hcapacity : Telegram.size ≤ s.delivery.pipe.capacity) :
    ∃ s' read' done', Carries answers s s' ∧ Follows pid props s' read' [] [] done' ∧
      s'.delivery.fetched = false := by
  induction queued generalizing s read piped done with
  | nil => exact h.drain_hand hrunning hprops hsup hx hcapacity
  | cons t queued ih =>
    -- the hand first, then the next telegram of the queue
    obtain ⟨s₁, read₁, done₁, hcarry, h₁, hfree⟩ := h.drain_hand hrunning hprops hsup hx hcapacity
    obtain ⟨s₂, hcarry', h₂, -⟩ := h₁.carry_fetch answers hcarry.running hfree
    have hboth := hcarry.trans hcarry'
    obtain ⟨s', read', done', hcarry'', h', hfree'⟩ := ih h₂ hboth.running
      (hboth.accepted ▸ hx) (hboth.capacity ▸ hcapacity)
    exact ⟨s', read', done', hboth.trans hcarry'', h', hfree'⟩

/-! ### Runs -/

/-- No step changes the capacity of the pipe. -/
theorem step_capacity {e : Event} (h : s.step e = some s') :
    s'.delivery.pipe.capacity = s.delivery.pipe.capacity := by
  cases e with
  | call c =>
    cases h
    rfl
  | fetch wait =>
    obtain ⟨delivery, hfetch, rfl⟩ := Option.map_eq_some_iff.mp h
    obtain ⟨-, gateway, ret, -, rfl⟩ := Delivery.fetch_eq_some hfetch
    rfl
  | forward fault =>
    obtain ⟨delivery, hforward, rfl⟩ := Option.map_eq_some_iff.mp h
    obtain ⟨-, rfl⟩ := Delivery.forward_eq_some hforward
    show (s.delivery.task.gateway.forward s.delivery.pipe fault s.delivery.errno).1.pipe.capacity
      = _
    rcases Delivery.forward_cases s.delivery.task.gateway s.delivery.pipe fault s.delivery.errno
      with ⟨-, hpipe⟩ | ⟨-, hpipe⟩ <;> rw [hpipe]
  | round answers =>
    obtain ⟨_, -, hrest⟩ := Option.bind_eq_some_iff.mp h
    obtain ⟨delivery, hread, hrest⟩ := Option.bind_eq_some_iff.mp hrest
    obtain ⟨monitor, -, heq⟩ := Option.bind_eq_some_iff.mp hrest
    cases heq
    obtain ⟨⟨bytes, pipe⟩, hsupervisor, rfl⟩ := Option.map_eq_some_iff.mp hread
    unfold SharedMem.supervisorRead at hsupervisor
    split at hsupervisor
    · exact absurd hsupervisor (by simp)
    · cases hsupervisor
      rfl
  | emptyRound ret answers =>
    have hempty : s.emptyRound ret answers = some s' := h
    unfold Traced.emptyRound at hempty
    split at hempty
    · obtain ⟨monitor, -, rfl⟩ := Option.map_eq_some_iff.mp hempty
      rfl
    · exact absurd hempty (by simp)

theorem run_capacity {es : List Event} (h : Run step s es s') :
    s'.delivery.pipe.capacity = s.delivery.pipe.capacity :=
  h.invariant (I := fun t => t.delivery.pipe.capacity = s.delivery.pipe.capacity) rfl
    fun _ _ _ ht hstep => (step_capacity hstep).trans ht

/-- **No telegram is stuck.**  From every state that the task, the gateway and the monitor can
    reach by whole calls on the queue, in any order and past any refused call, failed write or
    interrupted wait: as long as the monitor's thread is running and goes on reading the
    parameters, steps of the gateway and the monitor alone lead to a state in which every telegram
    the task has handed over has been read, but for those dropped before. -/
theorem pipeline_drains {monitor : MonitorTask} {capacity : ℕ} {es : List Event}
    (h : Run step (start pid capacity monitor : Traced N) es s) (hw : Watching pid monitor)
    (hfresh : monitor.me.metrics = MonitorMetrics.init) (hprops : props.timing.InRange)
    (hsup : ∀ e ∈ es, e.Supervised props) (hx : ∀ t ∈ s.delivery.accepted, t.execution.InRange)
    (hcapacity : Telegram.size ≤ capacity) (hrunning : s.monitor.exited = false)
    (hanswers : (Event.round answers).Supervised props) :
    ∃ fs s', (∀ e ∈ fs, Event.Carrying answers e) ∧ Run step s fs s' ∧
      ∃ read : List Telegram, s'.delivery.reads = read.map Telegram.encode ∧
        s.delivery.accepted.Perm (read ++ s.delivery.dropped) := by
  obtain ⟨read, piped, queued, done, hf⟩ := run_follows h hw hfresh hprops hsup
  have hroom : Telegram.size ≤ s.delivery.pipe.capacity := by
    rw [run_capacity h]
    exact hcapacity
  obtain ⟨s', read', done', hcarry, h', hfree⟩ := hf.drain_queue hrunning hprops hanswers hx hroom
  obtain ⟨fs, hfs, hrun⟩ := hcarry.steps
  refine ⟨fs, s', hfs, hrun, read', h'.tracks.reads, ?_⟩
  -- All three places are empty.
  have hall := h'.tracks.accounted
  have hhand : s'.delivery.inHand = [] := by
    rw [Delivery.inHand, hfree]
    rfl
  rw [hhand, hcarry.accepted, hcarry.dropped] at hall
  simpa using hall

/-- A task that is two telegrams ahead of its monitor: one is in the pipe, one in the queue. -/
def behindEvents : List Event :=
  .call .enableRecording :: sampleJob 100 ++ (sampleJob 120).take 2

def behindState : Traced queueSize :=
  (behindEvents.foldlM step (start 7 24 (MonitorTask.startOn 7))).get (by decide)

theorem pipeline_drains_sample :
    behindState.delivery.reads = [] ∧
      ∃ fs s', (∀ e ∈ fs, Event.Carrying sampleAnswers e) ∧ Run step behindState fs s' ∧
        ∃ read : List Telegram, s'.delivery.reads = read.map Telegram.encode ∧
          behindState.delivery.accepted.Perm (read ++ behindState.delivery.dropped) :=
  ⟨by decide, pipeline_drains (run_get (start 7 24 (MonitorTask.startOn 7)) behindEvents (by decide))
    (watching_startOn 7) rfl (show sampleProps.timing.InRange by decide) (by decide) (by decide)
    (by decide) (by decide) (by decide)⟩

end Traced

end RtTaskTrace
