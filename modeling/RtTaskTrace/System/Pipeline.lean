import RtTaskTrace.System.Recording
import RtTaskTrace.Supervisor.Ending
import RtTaskTrace.Supervisor.Gaps
import RtTaskTrace.User.QueueFifo

namespace RtTaskTrace

open Runs

/-!
# The traced task and its monitor, side by side

The calls of the task, the two halves of the gateway's updates and the rounds of the monitor, in
any order.  `Traced.step` is one step of one of the three; nothing waits for anything, so the
monitor may be as far behind as the queue and the pipe allow, and a full pipe drops telegrams.

As in `Delivery.lean`, `Queue_add` and `Queue_getNext` are one step each, so the runs are those in
which their accesses to `count` do not interleave.  The monitor is one that starts with the
pid and with fresh metrics on a task it has found to be a deadline task; each of its rounds on a
telegram reads the same parameters, with a period in range; and the times of all telegrams handed
over are in range.

* `Traced.Follows` — the invariant: the telegrams are where `Delivery.Tracks` says, and the
  monitor has made one step of the estimator for each one read;
* `pipeline_refines` — so after any run the monitor's metrics are the estimate over the telegrams
  read, which are among those accepted, in order;
* `pipeline_losses_le` — and every deadline loss it shows has a cause.
-/

variable {N : ℕ} [NeZero N]

/-- What a round of the monitor is answered, besides its read. -/
structure Answers where
  euid : ℕ
  kill : PidT → Bool
  reads : SchedReads
  fopen : Bool

/-- The round on the bytes a read has put over the monitor's telegram buffer. -/
def Answers.input (answers : Answers) (buffer : Telegram) (bytes : List UInt8) : MonitorInput where
  numberOfBytesReceived := bytes.length
  telegram := .decode (bytes ++ buffer.encode.drop bytes.length)
  euid := answers.euid
  kill := answers.kill
  reads := answers.reads
  fopen := answers.fopen

/-- The round on a read that came back with the number `ret` and no bytes. -/
def Answers.emptyInput (answers : Answers) (buffer : Telegram) (ret : ℤ) : MonitorInput where
  numberOfBytesReceived := ret
  telegram := buffer
  euid := answers.euid
  kill := answers.kill
  reads := answers.reads
  fopen := answers.fopen

namespace Traced

/-- One step of one party.  A round of the monitor may find no bytes: its read is interrupted, or
    at the end of the pipe. -/
inductive Event
  | call (c : TaskTrace.Call)
  | fetch (wait : WaitOutcome)
  | forward (fault : Option ℤ)
  | round (answers : Answers)
  | emptyRound (ret : ℤ) (answers : Answers)

/-- A round of the monitor that reads from the pipe. -/
def round (s : Traced N) (answers : Answers) : Option (Traced N) := do
  let (bytes, _) ← SharedMem.supervisorRead s.delivery.pipe
  let delivery ← s.delivery.read
  let monitor ← s.monitor.iterate (answers.input s.monitor.me.telegram bytes)
  some ⟨delivery, monitor⟩

/-- A round of the monitor that reads nothing. -/
def emptyRound (s : Traced N) (ret : ℤ) (answers : Answers) : Option (Traced N) :=
  if ret = -1 ∨ ret = 0 ∧ s.delivery.pipe.bytes = [] then
    (s.monitor.iterate (answers.emptyInput s.monitor.me.telegram ret)).map fun monitor =>
      { s with monitor := monitor }
  else none

/-- One step. -/
def step (s : Traced N) : Event → Option (Traced N)
  | .call c => some { s with delivery := s.delivery.call c }
  | .fetch wait => (s.delivery.fetch wait).map fun delivery => { s with delivery := delivery }
  | .forward fault =>
    (s.delivery.forward fault).map fun delivery => { s with delivery := delivery }
  | .round answers => s.round answers
  | .emptyRound ret answers => s.emptyRound ret answers

/-- The deadline parameters `props` are read in a round on a telegram. -/
def Event.Supervised (props : DeadlineProps) : Event → Prop
  | .round answers =>
    PID.getDeadlinePropeties answers.reads.scheduler answers.reads.attr = .ok props
  | _ => True

instance (props : DeadlineProps) : (e : Event) → Decidable (e.Supervised props)
  | .round answers =>
    inferInstanceAs (Decidable (
      PID.getDeadlinePropeties answers.reads.scheduler answers.reads.attr = .ok props))
  | .call _ | .fetch _ | .forward _ | .emptyRound _ _ => inferInstanceAs (Decidable True)

/-- Only a round reads them. -/
theorem Event.supervised_of_ne {props : DeadlineProps} {e : Event}
    (h : ∀ answers, e ≠ .round answers) : e.Supervised props := by
  cases e with
  | round answers => exact absurd rfl (h answers)
  | call _ | fetch _ | forward _ | emptyRound _ _ => trivial

/-- The executions the telegrams `ts` report, each with the timing `props`. -/
def timed (props : DeadlineProps) (ts : List Telegram) : List (Timing × Execution) :=
  ts.map fun t => (props.timing, t.execution)

/-! ### The invariant -/

/-- The telegrams are where the delivery has them, those handed over are start/stop telegrams, and
    there is a token for each one queued.  The monitor of the task has made one step of the
    estimator for each telegram read, as long as all that was handed over is in range. -/
structure Follows (pid : PidT) (props : DeadlineProps) (s : Traced N)
    (read piped queued done : List Telegram) : Prop where
  tracks : s.delivery.Tracks pid read piped queued done
  codes : ∀ t ∈ s.delivery.accepted, t.code = TelegramCode.startAndStopTime.value
  tokens : s.delivery.task.gateway.queue.count ≤ s.delivery.task.gateway.queue.sem
  pid : s.monitor.me.pid = pid
  policy : s.monitor.me.policy = schedDeadline
  refines : (∀ t ∈ s.delivery.accepted, t.execution.InRange) →
    Refines s.monitor.me.metrics (.follow (timed props read))

end Traced

/-- What has been read is in order among what was handed over. -/
theorem Delivery.Tracks.read_sublist {d : Delivery N} {pid : PidT}
    {read piped queued done : List Telegram} (h : d.Tracks pid read piped queued done) :
    read.Sublist d.accepted := by
  rw [h.order, List.append_assoc]
  exact ((List.sublist_append_left read piped).trans h.sublist).trans
    (List.sublist_append_left _ _)

/-- An add leaves a token for each element counted. -/
theorem Queue.add_tokens {me : Queue N} (h : me.count ≤ me.sem) (telegram : Telegram) :
    (me.add telegram).1.count ≤ (me.add telegram).1.sem := by
  unfold Queue.add
  split
  · exact h
  · show me.count + 1 ≤ ((me.sem + 1 : ℕ) : ℤ)
    omega

/-- And so does a take: it takes no more tokens than elements, unless there are none. -/
theorem Queue.getNext_tokens {me q : Queue N} (h : me.count ≤ me.sem) {wait : WaitOutcome}
    {buffer b : Telegram} {ret : ℤ} (hnext : me.getNext wait buffer = some (q, b, ret)) :
    q.count ≤ q.sem := by
  obtain ⟨sem, hsem, heq⟩ := Option.map_eq_some_iff.mp hnext
  obtain ⟨hle, -⟩ := QueueUse.semWait_le hsem
  split at heq
  · rename_i hempty
    cases heq
    show me.count ≤ sem
    omega
  · cases heq
    show me.count - 1 ≤ sem
    omega

/-- What a call accepts is a start/stop telegram. -/
theorem Delivery.call_accepted (d : Delivery N) (c : TaskTrace.Call) :
    (d.call c).accepted = d.accepted ∨
      ∃ t : Telegram, (d.call c).accepted = d.accepted ++ [t] ∧
        t.code = TelegramCode.startAndStopTime.value := by
  cases haccepts : reports c && decide ((d.task.call c).2 = 0)
  · exact Or.inl (call_accepted_of_refused haccepts)
  · right
    have heq : (d.call c).accepted = d.accepted ++ [(d.task.call c).1.telegram] := by
      show (if reports c && decide ((d.task.call c).2 = 0) then _ else d.accepted) = _
      rw [haccepts]
      rfl
    refine ⟨_, heq, ?_⟩
    obtain ⟨hreports, hret⟩ := Bool.and_eq_true_iff.mp haccepts
    cases c with
    | traceExecutionStop clock =>
      rcases d.task.traceExecutionStop_cases clock with ⟨time, -, htelegram, -⟩ | ⟨hrefused, -⟩
      · show (d.task.traceExecutionStop clock).1.telegram.code = _
        rw [htelegram]
        rfl
      · exact absurd (of_decide_eq_true hret) hrefused
    | enableRecording => exact absurd hreports Bool.false_ne_true
    | disableRecording => exact absurd hreports Bool.false_ne_true
    | traceExecutionStart clock => exact absurd hreports Bool.false_ne_true

/-- A call leaves the queue alone or adds to it. -/
theorem TaskTrace.call_tokens {me : TaskTrace N}
    (h : me.gateway.queue.count ≤ me.gateway.queue.sem) (c : TaskTrace.Call) :
    (me.call c).1.gateway.queue.count ≤ (me.call c).1.gateway.queue.sem := by
  by_cases hstop : ∃ clock, c = .traceExecutionStop clock
  · obtain ⟨clock, rfl⟩ := hstop
    show (me.traceExecutionStop clock).1.gateway.queue.count ≤ _
    rcases me.traceExecutionStop_cases clock with ⟨time, hgateway, -, -⟩ | ⟨-, hgateway⟩
    · rw [Gateway.write_eq] at hgateway
      show _ ≤ ((me.traceExecutionStop clock).1.gateway.queue.sem : ℤ)
      rw [hgateway]
      exact Queue.add_tokens h _
    · show _ ≤ ((me.traceExecutionStop clock).1.gateway.queue.sem : ℤ)
      rw [hgateway]
      exact h
  · have hgateway := (me.call_frame c).2.2 fun clock hc => hstop ⟨clock, hc⟩
    rw [hgateway]
    exact h

namespace Traced

variable {pid : PidT} {props : DeadlineProps} {s s' : Traced N}
  {read piped queued done : List Telegram}

theorem start_follows {monitor : MonitorTask} (capacity : ℕ) (hw : Watching pid monitor)
    (hfresh : monitor.me.metrics = MonitorMetrics.init) :
    Follows pid props (start pid capacity monitor : Traced N) [] [] [] [] where
  tracks := Delivery.start_tracks pid capacity
  codes := by
    intro t ht
    exact absurd ht List.not_mem_nil
  tokens := le_refl (0 : ℤ)
  pid := hw.pid
  policy := hw.policy
  refines := by
    intro _
    show Refines monitor.me.metrics .initial
    rw [hfresh]
    exact refines_init

/-! ### The steps of the task and the gateway -/

theorem Follows.call (h : Follows pid props s read piped queued done) (c : TaskTrace.Call) :
    ∃ queued', Follows pid props { s with delivery := s.delivery.call c } read piped queued'
      done := by
  obtain ⟨queued', ht⟩ := Delivery.call_tracks h.tracks c
  have htokens := TaskTrace.call_tokens h.tokens c
  refine ⟨queued', ht, ?_, htokens, h.pid, h.policy, ?_⟩
  · show ∀ t ∈ (s.delivery.call c).accepted, _
    rcases s.delivery.call_accepted c with heq | ⟨t, heq, hcode⟩
    · rw [heq]
      exact h.codes
    · rw [heq]
      intro t' ht'
      rcases List.mem_append.mp ht' with hold | hnew
      · exact h.codes t' hold
      · rw [List.mem_singleton.mp hnew]
        exact hcode
  · -- What is in range afterwards was so before: nothing handed over is forgotten.
    intro hx
    refine h.refines fun t ht => hx t ?_
    show t ∈ (s.delivery.call c).accepted
    rcases s.delivery.call_accepted c with heq | ⟨_, heq, -⟩
    · rw [heq]
      exact ht
    · rw [heq]
      exact List.mem_append_left _ ht

theorem Follows.fetch (h : Follows pid props s read piped queued done) {wait : WaitOutcome}
    {delivery : Delivery N} (hstep : s.delivery.fetch wait = some delivery) :
    ∃ queued', Follows pid props { s with delivery := delivery } read piped queued' done := by
  obtain ⟨queued', ht⟩ := Delivery.fetch_tracks h.tracks hstep
  obtain ⟨-, gateway, ret, hfetch, rfl⟩ := Delivery.fetch_eq_some hstep
  have htokens := Queue.getNext_tokens h.tokens (Gateway.fetch_eq_some hfetch)
  exact ⟨queued', ht, h.codes, htokens, h.pid, h.policy, h.refines⟩

theorem Follows.forward (h : Follows pid props s read piped queued done) {fault : Option ℤ}
    {delivery : Delivery N} (hstep : s.delivery.forward fault = some delivery) :
    ∃ piped' done', Follows pid props { s with delivery := delivery } read piped' queued
      done' := by
  obtain ⟨piped', done', ht⟩ := Delivery.forward_tracks h.tracks hstep
  obtain ⟨-, rfl⟩ := Delivery.forward_eq_some hstep
  exact ⟨piped', done', ht, h.codes, h.tokens, h.pid, h.policy, h.refines⟩

/-! ### The steps of the monitor -/

omit [NeZero N] in
/-- **What a round that reads does**: the read brings some bytes, and the monitor takes them. -/
theorem round_eq_some {answers : Answers} (h : s.round answers = some s') :
    ∃ bytes : List UInt8, bytes ≠ [] ∧ s.delivery.read = some s'.delivery ∧
      s.monitor.iterate (answers.input s.monitor.me.telegram bytes) = some s'.monitor := by
  obtain ⟨⟨bytes, pipe⟩, hread, h⟩ := Option.bind_eq_some_iff.mp h
  obtain ⟨delivery, hdelivery, h⟩ := Option.bind_eq_some_iff.mp h
  obtain ⟨monitor, hiter, h⟩ := Option.bind_eq_some_iff.mp h
  cases h
  refine ⟨bytes, ?_, hdelivery, hiter⟩
  rintro rfl
  -- Some bytes of a pipe that is not empty are some.
  unfold SharedMem.supervisorRead at hread
  split at hread
  · exact absurd hread (by simp)
  · rename_i hne
    obtain ⟨htake, -⟩ := Prod.mk.inj (Option.some.inj hread)
    rw [List.take_eq_nil_iff] at htake
    rcases htake with hzero | hnil
    · exact absurd hzero (by decide)
    · exact hne hnil

omit [NeZero N] in
/-- A round that reads does not end the thread. -/
theorem round_running {answers : Answers} (h : s.round answers = some s') : s'.monitor.exited = false := by
  obtain ⟨bytes, hne, -, hiter⟩ := round_eq_some h
  rw [← Bool.not_eq_true, MonitorTask.iterate_exited_iff hiter]
  intro hempty
  have hlength : (bytes.length : ℤ) = 0 := hempty.1
  exact hne (List.length_eq_zero_iff.mp (Int.natCast_eq_zero.mp hlength))

omit [NeZero N] in
/-- **What a round that reads nothing does**: it may end the thread, at the end of the pipe. -/
theorem emptyRound_eq_some {ret : ℤ} {answers : Answers} (h : s.emptyRound ret answers = some s') :
    s.monitor.exited = false ∧ ∃ exited : Bool,
      s' = { s with monitor := { s.monitor with exited := exited } } ∧
        (exited = true → ret = 0 ∧ s.delivery.pipe.bytes = []) := by
  unfold emptyRound at h
  split at h
  · rename_i hempty
    obtain ⟨monitor, hiter, rfl⟩ := Option.map_eq_some_iff.mp h
    have hrunning := MonitorTask.running_of_iterate hiter
    have hshort : (answers.emptyInput s.monitor.me.telegram ret).numberOfBytesReceived
        ≠ Telegram.size := by
      show ret ≠ Telegram.size
      rcases hempty with rfl | ⟨rfl, -⟩ <;> decide
    obtain rfl := Option.some.inj ((MonitorTask.iterate_not_whole hrunning hshort).symm.trans hiter)
    refine ⟨hrunning, _, rfl, fun hexited => ?_⟩
    have hzero : ret = 0 := (of_decide_eq_true hexited).1
    rcases hempty with hfailed | hend
    · rw [hzero] at hfailed
      exact absurd hfailed (by decide)
    · exact hend
  · exact absurd h (by simp)

/-- What the monitor is handed when a whole telegram was read. -/
theorem input_decode (answers : Answers) (buffer t : Telegram) :
    (answers.input buffer t.encode).telegram = t := by
  -- A whole telegram leaves nothing of the buffer before.
  have hrest : buffer.encode.drop t.encode.length = [] := by
    rw [t.encode_length, ← buffer.encode_length, List.drop_length]
  show Telegram.decode (t.encode ++ buffer.encode.drop t.encode.length) = t
  rw [hrest, List.append_nil, Telegram.decode_encode]

/-- The round on a whole start/stop telegram of the task is a job of the monitor. -/
theorem isJob_input {answers : Answers} (hsup : (Event.round answers).Supervised props)
    {t : Telegram} (hpid : t.pid = pid) (hcode : t.code = TelegramCode.startAndStopTime.value)
    (buffer : Telegram) : IsJob props pid (answers.input buffer t.encode) := by
  refine ⟨⟨?_, ?_, ?_⟩, hsup⟩
  · show (t.encode.length : ℤ) = Telegram.size
    rw [t.encode_length]
  · rw [input_decode]
    exact hpid
  · rw [input_decode]
    exact hcode

/-- The state after the monitor has read the oldest telegram of the pipe. -/
def afterRead (d : Delivery N) (t : Telegram) (piped : List Telegram) : Delivery N :=
  { d with
    pipe := { d.pipe with bytes := piped.flatMap Telegram.encode }
    reads := d.reads ++ [t.encode] }

/-- **A round on a pipe that holds something** takes the oldest telegram and handles it. -/
theorem round_cons {t : Telegram} (ht : s.delivery.Tracks pid read (t :: piped) queued done)
    (answers : Answers) :
    s.round answers
      = (s.monitor.iterate (answers.input s.monitor.me.telegram t.encode)).map fun monitor =>
          ⟨afterRead s.delivery t piped, monitor⟩ := by
  obtain ⟨hread, -⟩ := ht.read_cons
  rw [Traced.round, Delivery.read, hread]
  simp only [Option.bind_eq_bind, Option.bind_some, Option.map_some]
  cases s.monitor.iterate (answers.input s.monitor.me.telegram t.encode) <;> rfl

/-- **A round that reads** makes a step of the estimator on the telegram it has read. -/
theorem Follows.round_cons {t : Telegram} (h : Follows pid props s read (t :: piped) queued done)
    (hprops : props.timing.InRange) {answers : Answers}
    (hsup : (Event.round answers).Supervised props) (hstep : s.round answers = some s') :
    Follows pid props s' (read ++ [t]) piped queued done := by
  have ht := h.tracks
  rw [Traced.round_cons ht answers] at hstep
  obtain ⟨monitor, hiter, rfl⟩ := Option.map_eq_some_iff.mp hstep
  have hmem : t ∈ s.delivery.accepted := by
    rw [ht.order, List.append_assoc]
    exact List.mem_append_left _ (ht.sublist.subset (by simp))
  have hjob := isJob_input hsup (ht.own t hmem) (h.codes t hmem) s.monitor.me.telegram
  have hreport : OwnReport s.monitor.me.pid (answers.input s.monitor.me.telegram t.encode) := by
    rw [h.pid]
    exact hjob.toOwnReport
  obtain ⟨hpid, -, hpolicy⟩ := MonitorTask.iterate_frame hiter
  refine ⟨ht.read_cons.2, h.codes, h.tokens, hpid.trans h.pid, ?_, ?_⟩
  · -- The parameters are read, so the policy is kept.
    show monitor.me.policy = schedDeadline
    rw [hpolicy, if_pos hreport, MonitorThread.policyAfter, if_pos h.policy, hjob.props]
    exact h.policy
  · intro hx
    have hexec : (answers.input s.monitor.me.telegram t.encode).execution = t.execution := by
      rw [MonitorInput.execution, input_decode]
    obtain ⟨task', hiter', -, href⟩ := iterate_job_refines
      ⟨MonitorTask.running_of_iterate hiter, h.pid, h.policy⟩ (h.refines hx) hjob
      (by rw [hexec]; exact hx t hmem) hprops
    obtain rfl := Option.some.inj (hiter'.symm.trans hiter)
    rw [hexec] at href
    rw [timed, List.map_append, Estimate.follow_append]
    exact href

theorem Follows.round (h : Follows pid props s read piped queued done)
    (hprops : props.timing.InRange) {answers : Answers}
    (hsup : (Event.round answers).Supervised props) (hstep : s.round answers = some s') :
    ∃ read' piped', Follows pid props s' read' piped' queued done := by
  cases piped with
  | nil =>
    -- Nothing is in the pipe, and the read blocks.
    have hnil : SharedMem.supervisorRead s.delivery.pipe = none := if_pos h.tracks.pipe
    rw [Traced.round, hnil] at hstep
    exact absurd hstep (by simp)
  | cons t piped => exact ⟨_, _, h.round_cons hprops hsup hstep⟩

/-- A round that reads nothing does nothing to the metrics. -/
theorem Follows.emptyRound (h : Follows pid props s read piped queued done) {ret : ℤ}
    {answers : Answers} (hstep : s.emptyRound ret answers = some s') :
    Follows pid props s' read piped queued done := by
  obtain ⟨-, _, rfl, -⟩ := emptyRound_eq_some hstep
  exact ⟨h.tracks, h.codes, h.tokens, h.pid, h.policy, h.refines⟩

/-! ### Runs -/

/-- Every step keeps the invariant. -/
theorem Follows.step (h : Follows pid props s read piped queued done)
    (hprops : props.timing.InRange) {e : Event} (hsup : e.Supervised props)
    (hstep : s.step e = some s') :
    ∃ read' piped' queued' done', Follows pid props s' read' piped' queued' done' := by
  cases e with
  | call c =>
    cases hstep
    obtain ⟨queued', h'⟩ := h.call c
    exact ⟨_, _, _, _, h'⟩
  | fetch wait =>
    obtain ⟨delivery, hfetch, rfl⟩ := Option.map_eq_some_iff.mp hstep
    obtain ⟨queued', h'⟩ := h.fetch hfetch
    exact ⟨_, _, _, _, h'⟩
  | forward fault =>
    obtain ⟨delivery, hforward, rfl⟩ := Option.map_eq_some_iff.mp hstep
    obtain ⟨piped', done', h'⟩ := h.forward hforward
    exact ⟨_, _, _, _, h'⟩
  | round answers =>
    obtain ⟨read', piped', h'⟩ := h.round hprops hsup hstep
    exact ⟨_, _, _, _, h'⟩
  | emptyRound ret answers => exact ⟨_, _, _, _, h.emptyRound hstep⟩

variable {monitor : MonitorTask} {capacity : ℕ} {es : List Event}

/-- **The telegrams are somewhere** after any run, whatever the monitor makes of them. -/
theorem run_tracks {monitor : MonitorTask} {capacity : ℕ} {es : List Event}
    (h : Run step (start pid capacity monitor : Traced N) es s) :
    ∃ read piped queued done, s.delivery.Tracks pid read piped queued done := by
  refine h.invariant
    (I := fun s => ∃ read piped queued done, s.delivery.Tracks pid read piped queued done)
    ⟨[], [], [], [], Delivery.start_tracks pid capacity⟩ ?_
  rintro t e t' ⟨_, _, _, _, ht⟩ hstep
  cases e with
  | call c =>
    cases hstep
    obtain ⟨queued', ht'⟩ := Delivery.call_tracks ht c
    exact ⟨_, _, _, _, ht'⟩
  | fetch wait =>
    obtain ⟨delivery, hfetch, rfl⟩ := Option.map_eq_some_iff.mp hstep
    obtain ⟨queued', ht'⟩ := Delivery.fetch_tracks ht hfetch
    exact ⟨_, _, _, _, ht'⟩
  | forward fault =>
    obtain ⟨delivery, hforward, rfl⟩ := Option.map_eq_some_iff.mp hstep
    obtain ⟨piped', done', ht'⟩ := Delivery.forward_tracks ht hforward
    exact ⟨_, _, _, _, ht'⟩
  | round answers =>
    obtain ⟨_, -, hread, -⟩ := round_eq_some hstep
    obtain ⟨read', piped', ht'⟩ := Delivery.read_tracks ht hread
    exact ⟨_, _, _, _, ht'⟩
  | emptyRound ret answers =>
    obtain ⟨-, _, rfl, -⟩ := emptyRound_eq_some hstep
    exact ⟨_, _, _, _, ht⟩

theorem run_follows (h : Run step (start pid capacity monitor : Traced N) es s)
    (hw : Watching pid monitor) (hfresh : monitor.me.metrics = MonitorMetrics.init)
    (hprops : props.timing.InRange) (hsup : ∀ e ∈ es, e.Supervised props) :
    ∃ read piped queued done, Follows pid props s read piped queued done := by
  refine h.invariant_along
    (I := fun s => ∃ read piped queued done, Follows pid props s read piped queued done)
    (along_of_forall hsup _) ⟨[], [], [], [], start_follows capacity hw hfresh⟩ ?_
  rintro t e t' ⟨_, _, _, _, ht⟩ he hstep
  exact ht.step hprops he hstep

/-- **The whole system refines the estimator.**  A monitor starts on a deadline task with fresh
    metrics, reads the same parameters in each round on a telegram, and these and the times of the
    telegrams handed over are in range.  After any steps of the task, the gateway and the monitor,
    in any order and with whole calls on the queue: the monitor's metrics are the estimate, in
    machine words, over the executions of exactly the telegrams it has read, and these are in order
    among those the task's stop calls have handed over. -/
theorem pipeline_refines (h : Run step (start pid capacity monitor : Traced N) es s)
    (hw : Watching pid monitor) (hfresh : monitor.me.metrics = MonitorMetrics.init)
    (hprops : props.timing.InRange) (hsup : ∀ e ∈ es, e.Supervised props)
    (hx : ∀ t ∈ s.delivery.accepted, t.execution.InRange) :
    ∃ read : List Telegram, s.delivery.reads = read.map Telegram.encode ∧
      read.Sublist s.delivery.accepted ∧
      Refines s.monitor.me.metrics (.follow (timed props read)) := by
  obtain ⟨read, piped, queued, done, hf⟩ := run_follows h hw hfresh hprops hsup
  exact ⟨read, hf.tracks.reads, hf.tracks.read_sublist, hf.refines hx⟩

/-- The parameters of a task with runtime 5, deadline 10 and period 20, and a round that reads
    them. -/
def sampleProps : DeadlineProps := ⟨5, 10, 20⟩

def sampleAnswers : Answers where
  euid := 0
  kill := fun _ => true
  reads := ⟨schedDeadline, some ⟨5, 10, 20⟩, schedDeadline⟩
  fopen := false

/-- A job that starts at `start` and takes 5, and the gateway's update for it. -/
def sampleJob (start : Int64) : List Event :=
  [.call (.traceExecutionStart (some ⟨0, start⟩)),
    .call (.traceExecutionStop (some ⟨0, start + 5⟩)), .fetch .acquired, .forward none]

/-- Three jobs, a period apart, through a pipe that has room for one telegram: the second finds it
    full. -/
def sampleEvents : List Event :=
  .call .enableRecording :: sampleJob 100 ++ sampleJob 120 ++ [.round sampleAnswers]
    ++ sampleJob 140 ++ [.round sampleAnswers]

theorem sampleEvents_supervised : ∀ e ∈ sampleEvents, e.Supervised sampleProps := by decide

/-- The system after them. -/
def sampleState : Traced queueSize :=
  (sampleEvents.foldlM step (start 7 24 (MonitorTask.startOn 7))).get (by decide)

theorem sampleState_run :
    Run step (start 7 24 (MonitorTask.startOn 7)) sampleEvents sampleState :=
  run_get _ _ _

theorem pipeline_refines_sample :
    ∃ read : List Telegram, sampleState.delivery.reads = read.map Telegram.encode ∧
      read.Sublist sampleState.delivery.accepted ∧
      Refines sampleState.monitor.me.metrics (.follow (timed sampleProps read)) :=
  pipeline_refines sampleState_run (watching_startOn 7) rfl (by decide) sampleEvents_supervised
    (by decide)

/-! ### Where a loss comes from -/

/-- The telegrams that have left the gateway, by the numbers of the jobs they report: those read
    are, in order, among the jobs reported, and have no more gaps than those jobs had and
    telegrams were dropped. -/
theorem Follows.jobs (h : Follows pid props s read piped queued done) {ks : List ℕ} {x : ℕ → Execution}
    (hjobs : s.delivery.accepted.map Telegram.execution = ks.map x) :
    ∃ ls, ls.Sublist ks ∧ read.map Telegram.execution = ls.map x ∧
      Estimate.gaps ls ≤ Estimate.gaps ks + s.delivery.dropped.length := by
  have ht := h.tracks
  -- what has left the gateway are the first jobs reported
  rw [ht.order, List.append_assoc, List.map_append] at hjobs
  obtain ⟨ds, rest, rfl, hds, -⟩ := List.append_eq_map_iff.mp hjobs
  -- Those in the pipe and those read are some of them, and the others were dropped.
  have hsub : ((read ++ piped).map Telegram.execution).Sublist (ds.map x) := by
    rw [hds]
    exact ht.sublist.map _
  obtain ⟨ms, hms, hmap⟩ := List.sublist_map_iff.mp hsub
  rw [List.map_append] at hmap
  obtain ⟨ls, ps, rfl, hls, hps⟩ := List.append_eq_map_iff.mp hmap
  refine ⟨ls, (List.sublist_append_left ls ps).trans (hms.trans (List.sublist_append_left _ _)),
    hls.symm, ?_⟩
  have hmissing := Estimate.gaps_add_length_le hms
  have hprefix := Estimate.gaps_le_gaps_append ls ps
  have hreported := Estimate.gaps_le_gaps_append ds rest
  have haccount := ht.account.length_eq
  have hlen := congrArg List.length hds
  have hlenread := congrArg List.length hls
  have hlenpiped := congrArg List.length hps
  simp only [List.length_append, List.length_map] at hmissing haccount hlen hlenread hlenpiped
  omega

/-- The estimator's run over telegrams is the one over the jobs they report. -/
theorem follow_timed {ls : List ℕ} {x : ℕ → Execution}
    (h : read.map Telegram.execution = ls.map x) :
    Estimate.follow (timed props read) = Estimate.runJobs props.timing x ls := by
  have htimed : timed props read = ls.map fun k => (props.timing, x k) := by
    calc timed props read
        = (read.map Telegram.execution).map fun x => (props.timing, x) := by
          rw [List.map_map]
          rfl
      _ = ls.map fun k => (props.timing, x k) := by
          rw [h, List.map_map]
          rfl
  rw [htimed, Estimate.follow, List.foldl_map]
  rfl

/-- **Every loss shown has a cause.**  A periodic task hands over some of its jobs, `ks`, to a monitor
    that starts with fresh metrics and reads the parameters in each round on a telegram; these and
    all times are in range.  However the three parties take turns, however far the monitor is behind
    and however much does not arrive: the deadline losses the monitor has counted are at most the
    jobs that ended more than a deadline after their release, those that overran their runtime, the
    places where the task handed over no telegram, and the telegrams the gateway dropped. -/
theorem pipeline_losses_le (h : Run step (start pid capacity monitor : Traced N) es s)
    (hw : Watching pid monitor) (hfresh : monitor.me.metrics = MonitorMetrics.init)
    (hprops : props.timing.InRange) (hsup : ∀ e ∈ es, e.Supervised props) {ks : List ℕ}
    {x : ℕ → Execution} {r : ℤ}
    (hjobs : s.delivery.accepted.map Telegram.execution = ks.map x)
    (hreleased : ∀ k ∈ ks, Estimate.Released props.timing r x k)
    (hrange : ∀ k ∈ ks, (x k).InRange) :
    s.monitor.me.metrics.deadlineLostCount.toNat
      ≤ ks.countP (fun k => decide (Estimate.Late props.timing r x k))
        + ks.countP (fun k => decide ((x k).Overrun props.timing))
        + Estimate.gaps ks + s.delivery.dropped.length := by
  obtain ⟨read, piped, queued, done, hf⟩ := run_follows h hw hfresh hprops hsup
  have hx : ∀ t ∈ s.delivery.accepted, t.execution.InRange := by
    intro t ht
    have hmem : t.execution ∈ ks.map x := hjobs ▸ List.mem_map_of_mem ht
    obtain ⟨k, hk, heq⟩ := List.mem_map.mp hmem
    exact heq ▸ hrange k hk
  obtain ⟨ls, hls, hread, hgaps⟩ := hf.jobs hjobs
  have href := hf.refines hx
  rw [follow_timed hread] at href
  -- The account of the estimator, over the jobs read.
  have haccount := Estimate.losses_le hprops.1 fun k hk => hreleased k (hls.subset hk)
  rw [Estimate.runJobs_overruns] at haccount
  have hlate := hls.countP_le (p := fun k => decide (Estimate.Late props.timing r x k))
  have hover := hls.countP_le (p := fun k => decide ((x k).Overrun props.timing))
  have hcount : s.monitor.me.metrics.deadlineLostCount.toNat
      ≤ (Estimate.runJobs props.timing x ls).losses := by
    rw [href.losses, UInt32.toNat_ofNat']
    exact Nat.mod_le _ _
  omega

/-- Job `k` of the sample. -/
def sampleExecution (k : ℕ) : Execution := ⟨100 + 20 * k, 105 + 20 * k⟩

/-- The jobs of the sample are on time; the loss counted is the telegram dropped. -/
theorem pipeline_losses_le_sample :
    sampleState.monitor.me.metrics.deadlineLostCount = 1 ∧
      sampleState.monitor.me.metrics.deadlineLostCount.toNat
        ≤ [0, 1, 2].countP (fun k =>
            decide (Estimate.Late sampleProps.timing 100 sampleExecution k))
          + [0, 1, 2].countP (fun k => decide ((sampleExecution k).Overrun sampleProps.timing))
          + Estimate.gaps [0, 1, 2] + sampleState.delivery.dropped.length :=
  ⟨by decide, pipeline_losses_le sampleState_run (watching_startOn 7) rfl (by decide)
    sampleEvents_supervised (by decide) (by decide) (by decide)⟩

end Traced

end RtTaskTrace
