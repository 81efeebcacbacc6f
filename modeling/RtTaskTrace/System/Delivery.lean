import RtTaskTrace.User.TaskTrace
import RtTaskTrace.Supervisor.Monitor
import RtTaskTrace.Lib.Runs

namespace RtTaskTrace

/-!
# From the traced task to its monitor

A telegram's way: the task's stop call puts it into the queue, the gateway thread takes it
from there and writes it to the pipe, the monitor reads the pipe.  `Delivery` is the three
parties and the two buffers between them, with what has been accepted, dropped and read so
far; `Delivery.step` is one step of one party.  A call of `Queue_add` or `Queue_getNext` is one
step too, as it acts in runs in which their accesses to `count` do not interleave
(`Threads.threads_linearize`).  The pipe has no message boundaries: a read takes at most
`sizeof(Telegram)` bytes off it, whatever they are.

* `Delivery.Tracks` — the invariant: what lies in which buffer, and in which order;
* `call_tracks`, `fetch_tracks`, `forward_tracks`, `read_tracks` — each party keeps it;
* `delivery` — what every run delivers.
-/

variable {N : ℕ} [NeZero N]

/-- The traced task with its gateway, the pipe, and the histories: the telegrams accepted by
    `TaskTrace_traceExecutionStop`, those whose write failed, and the results of the reads. -/
structure Delivery (N : ℕ) where
  task : TaskTrace N
  fetched : Bool
  pipe : Pipe
  errno : ℤ
  accepted : List Telegram
  dropped : List Telegram
  reads : List (List UInt8)

namespace Delivery

/-- One step of one party, with the answers of its environment: a call of the task, either
    half of a `Gateway_update`, a `SharedMem_supervisorRead`. -/
inductive Event
  | call (c : TaskTrace.Call)
  | fetch (wait : WaitOutcome)
  | forward (fault : Option ℤ)
  | read
  deriving DecidableEq, Repr

/-- Whether a call reports an execution. -/
def reports : TaskTrace.Call → Bool
  | .traceExecutionStop _ => true
  | _ => false

/-- The start: `TaskTrace_init` has succeeded and the monitor has the empty pipe open. -/
def start (pid : PidT) (capacity : ℕ) : Delivery N where
  task := (TaskTrace.init pid false ⟨true, true, true⟩).1
  fetched := false
  pipe := ⟨capacity, []⟩
  errno := 0
  accepted := []
  dropped := []
  reads := []

/-- A call of the task.  A stop call that returned 0 has accepted the telegram it built. -/
def call (s : Delivery N) (c : TaskTrace.Call) : Delivery N :=
  let (task, ret) := s.task.call c
  { s with
    task := task
    accepted := if reports c && ret = 0 then s.accepted ++ [task.telegram] else s.accepted }

/-- The gateway thread's `Queue_getNext`; when it fails, the update ends there. -/
def fetch (s : Delivery N) (wait : WaitOutcome) : Option (Delivery N) :=
  if s.fetched then none
  else (s.task.gateway.fetch wait).map fun (gateway, ret) =>
    { s with task := { s.task with gateway := gateway }, fetched := ret = 0 }

/-- The gateway thread's write of the telegram it fetched. -/
def forward (s : Delivery N) (fault : Option ℤ) : Option (Delivery N) :=
  if s.fetched then
    let written := (s.task.gateway.forward s.pipe fault s.errno).1
    some { s with
      fetched := false
      pipe := written.pipe
      errno := written.errno
      dropped :=
        if written.ret = Telegram.size then s.dropped
        else s.dropped ++ [s.task.gateway.telegram] }
  else none

/-- The monitor's read; it blocks while the pipe is empty. -/
def read (s : Delivery N) : Option (Delivery N) :=
  (SharedMem.supervisorRead s.pipe).map fun (bytes, pipe) =>
    { s with pipe := pipe, reads := s.reads ++ [bytes] }

/-- One step. -/
def step (s : Delivery N) : Event → Option (Delivery N)
  | .call c => some (s.call c)
  | .fetch wait => s.fetch wait
  | .forward fault => s.forward fault
  | .read => s.read

/-- A fetch is made while the gateway has no telegram in hand. -/
theorem fetch_eq_some {s s' : Delivery N} {wait : WaitOutcome} (h : s.fetch wait = some s') :
    s.fetched = false ∧ ∃ gateway ret, s.task.gateway.fetch wait = some (gateway, ret) ∧
      s' = { s with task := { s.task with gateway := gateway }, fetched := ret = 0 } := by
  unfold fetch at h
  split at h
  · cases h
  · rename_i hfetched
    obtain ⟨⟨gateway, ret⟩, hfetch, heq⟩ := Option.map_eq_some_iff.mp h
    exact ⟨Bool.eq_false_iff.mpr hfetched, gateway, ret, hfetch, heq.symm⟩

omit [NeZero N] in
/-- A forward is made while it has one. -/
theorem forward_eq_some {s s' : Delivery N} {fault : Option ℤ} (h : s.forward fault = some s') :
    s.fetched = true ∧
      s' = { s with
        fetched := false
        pipe := (s.task.gateway.forward s.pipe fault s.errno).1.pipe
        errno := (s.task.gateway.forward s.pipe fault s.errno).1.errno
        dropped :=
          if (s.task.gateway.forward s.pipe fault s.errno).1.ret = Telegram.size then s.dropped
          else s.dropped ++ [s.task.gateway.telegram] } := by
  unfold forward at h
  split at h
  · rename_i hfetched
    exact ⟨hfetched, (Option.some.inj h).symm⟩
  · cases h

/-- The telegram between the queue and the pipe, if there is one. -/
def inHand (s : Delivery N) : List Telegram :=
  if s.fetched then [s.task.gateway.telegram] else []

/-! ### The invariant -/

/-- The telegrams `read` have been read, `piped` are the bytes in the pipe, `queued` is the
    queue's content and `done` are those that have left the gateway, all in the order of
    their acceptance. -/
structure Tracks (pid : PidT) (s : Delivery N) (read piped queued done : List Telegram) :
    Prop where
  reads : s.reads = read.map Telegram.encode
  pipe : s.pipe.bytes = piped.flatMap Telegram.encode
  queue : s.task.gateway.queue.Holds queued
  order : s.accepted = done ++ s.inHand ++ queued
  sublist : (read ++ piped).Sublist done
  account : done.Perm (read ++ piped ++ s.dropped)
  own : ∀ t ∈ s.accepted, t.pid = pid
  pid : s.task.pid = pid

variable {pid : PidT} {s s' : Delivery N} {read piped queued done : List Telegram}

theorem start_tracks (pid : PidT) (capacity : ℕ) :
    Tracks pid (start pid capacity : Delivery N) [] [] [] [] where
  reads := rfl
  pipe := rfl
  queue := TaskTrace.ready_holds pid
  order := rfl
  sublist := List.Sublist.refl _
  account := List.Perm.refl _
  own := by
    intro t ht
    exact absurd ht List.not_mem_nil
  pid := rfl

/-- **Every accepted telegram is somewhere.** -/
theorem Tracks.accounted (h : Tracks pid s read piped queued done) :
    s.accepted.Perm (read ++ piped ++ s.inHand ++ queued ++ s.dropped) := by
  rw [h.order]
  -- What has left the gateway is accounted for; the rest is in its hand or queued.
  apply ((h.account.append_right s.inHand).append_right queued).trans
  simp only [List.append_assoc]
  refine List.Perm.append_left _ (List.Perm.append_left _ ?_)
  exact List.perm_append_comm.trans (List.Perm.of_eq (List.append_assoc _ _ _))

/-! ### The task's step -/

/-- Nothing is accepted by a call that is not an accepted stop. -/
theorem call_accepted_of_refused {c : TaskTrace.Call}
    (h : (reports c && decide ((s.task.call c).2 = 0)) = false) :
    (s.call c).accepted = s.accepted := by
  show (if reports c && decide ((s.task.call c).2 = 0) then _ else s.accepted) = s.accepted
  rw [h]
  rfl

/-- A call that leaves the gateway alone and accepts nothing leaves everything in place. -/
theorem Tracks.of_refused (h : Tracks pid s read piped queued done) {c : TaskTrace.Call}
    (hgateway : (s.task.call c).1.gateway = s.task.gateway)
    (hrefused : (reports c && decide ((s.task.call c).2 = 0)) = false) :
    Tracks pid (s.call c) read piped queued done where
  reads := h.reads
  pipe := h.pipe
  queue := by
    show (s.task.call c).1.gateway.queue.Holds queued
    rw [hgateway]
    exact h.queue
  order := by
    have hhand : (s.call c).inHand = s.inHand := by
      show (if s.fetched then [(s.task.call c).1.gateway.telegram] else []) = s.inHand
      rw [hgateway]
      rfl
    rw [call_accepted_of_refused hrefused, hhand]
    exact h.order
  sublist := h.sublist
  account := h.account
  own := by
    rw [call_accepted_of_refused hrefused]
    exact h.own
  pid := (s.task.call_frame c).1.trans h.pid

/-- A stop call on a task that is recording puts its telegram at the end of the queue, or is
    refused because the queue is full. -/
theorem Tracks.of_stop (h : Tracks pid s read piped queued done) (clock : Option Timespec)
    (time : Timespec)
    (hgateway : (s.task.traceExecutionStop clock).1.gateway
      = (s.task.gateway.write (s.task.stopTelegram time)).1)
    (htelegram : (s.task.traceExecutionStop clock).1.telegram = s.task.stopTelegram time)
    (hret : (s.task.traceExecutionStop clock).2 = 0 ↔
      (s.task.gateway.write (s.task.stopTelegram time)).2 = 0) :
    Tracks pid (s.call (.traceExecutionStop clock)) read piped
      (if queued.length = N then queued else queued ++ [s.task.stopTelegram time]) done := by
  rw [Gateway.write_eq] at hgateway hret
  by_cases hfull : queued.length = N
  · -- The queue is full: the call is refused.
    have hadd := Queue.add_of_full h.queue hfull (s.task.stopTelegram time)
    rw [hadd] at hgateway hret
    rw [if_pos hfull]
    refine h.of_refused hgateway ?_
    show decide ((s.task.traceExecutionStop clock).2 = 0) = false
    rw [decide_eq_false_iff_not, hret]
    exact fun hzero => absurd hzero (show (-1 : ℤ) ≠ 0 by decide)
  · -- There is room: the telegram goes behind those queued, and is accepted.
    have hroom : queued.length < N := lt_of_le_of_ne h.queue.room hfull
    obtain ⟨hzero, hholds, -⟩ := Queue.add_of_room h.queue hroom (s.task.stopTelegram time)
    have haccepted : (s.call (.traceExecutionStop clock)).accepted
        = s.accepted ++ [s.task.stopTelegram time] := by
      show (if decide ((s.task.traceExecutionStop clock).2 = 0) = true then
        s.accepted ++ [(s.task.traceExecutionStop clock).1.telegram] else s.accepted) = _
      rw [decide_eq_true (hret.mpr hzero), if_pos rfl, htelegram]
    have hhand : (s.call (.traceExecutionStop clock)).inHand = s.inHand := by
      show (if s.fetched then [(s.task.traceExecutionStop clock).1.gateway.telegram] else [])
        = s.inHand
      rw [hgateway]
      rfl
    rw [if_neg hfull]
    refine ⟨h.reads, h.pipe, ?_, ?_, h.sublist, h.account, ?_, ?_⟩
    · show (s.task.traceExecutionStop clock).1.gateway.queue.Holds _
      rw [hgateway]
      exact hholds
    · rw [haccepted, hhand, h.order, List.append_assoc]
    · rw [haccepted]
      intro t ht
      rcases List.mem_append.mp ht with hold | hnew
      · exact h.own t hold
      · rw [List.mem_singleton.mp hnew]
        exact h.pid
    · exact (s.task.call_frame (.traceExecutionStop clock)).1.trans h.pid

theorem call_tracks (h : Tracks pid s read piped queued done) (c : TaskTrace.Call) :
    ∃ queued', Tracks pid (s.call c) read piped queued' done := by
  cases c with
  | traceExecutionStop clock =>
    -- A stop that is recorded reaches the queue; any other is refused before it.
    rcases s.task.traceExecutionStop_cases clock with
      ⟨time, hgateway, htelegram, hret⟩ | ⟨hret, hgateway⟩
    · exact ⟨_, h.of_stop _ _ hgateway htelegram hret⟩
    · exact ⟨queued, h.of_refused hgateway (decide_eq_false hret)⟩
  | enableRecording =>
    exact ⟨queued, h.of_refused ((s.task.call_frame _).2.2 (by simp)) rfl⟩
  | disableRecording =>
    exact ⟨queued, h.of_refused ((s.task.call_frame _).2.2 (by simp)) rfl⟩
  | traceExecutionStart clock =>
    exact ⟨queued, h.of_refused ((s.task.call_frame _).2.2 (by simp)) rfl⟩

/-! ### The gateway's steps -/

/-- **A fetch from a queue that holds something** moves the oldest telegram into the gateway's
    hand. -/
theorem Tracks.fetch_cons {t : Telegram} (h : Tracks pid s read piped (t :: queued) done)
    (hf : s.fetched = false) {wait : WaitOutcome} {gateway : Gateway N} {ret : ℤ}
    (hfetch : s.task.gateway.fetch wait = some (gateway, ret)) :
    ret = 0 ∧ gateway.telegram = t ∧
      Tracks pid { s with task := { s.task with gateway := gateway }, fetched := true }
        read piped queued done := by
  obtain ⟨hret, hbuffer, hholds, -⟩ :=
    Queue.getNext_cons h.queue wait _ (Gateway.fetch_eq_some hfetch)
  have horder := h.order
  rw [inHand, hf] at horder
  refine ⟨hret, hbuffer, h.reads, h.pipe, hholds, ?_, h.sublist, h.account, h.own, h.pid⟩
  simpa [inHand, hbuffer] using horder

/-- **A fetch from an empty queue** fails and moves nothing. -/
theorem Tracks.fetch_nil (h : Tracks pid s read piped [] done) (hf : s.fetched = false)
    {wait : WaitOutcome} {gateway : Gateway N} {ret : ℤ}
    (hfetch : s.task.gateway.fetch wait = some (gateway, ret)) :
    ret = -1 ∧ Tracks pid { s with task := { s.task with gateway := gateway }, fetched := false }
      read piped [] done := by
  obtain ⟨hret, -, hholds, -⟩ :=
    Queue.getNext_nil h.queue wait _ (Gateway.fetch_eq_some hfetch)
  have horder := h.order
  rw [inHand, hf] at horder
  refine ⟨hret, h.reads, h.pipe, hholds, ?_, h.sublist, h.account, h.own, h.pid⟩
  simpa [inHand] using horder

theorem fetch_tracks (h : Tracks pid s read piped queued done) {wait : WaitOutcome}
    (hstep : s.fetch wait = some s') :
    ∃ queued', Tracks pid s' read piped queued' done := by
  obtain ⟨hf, gateway, ret, hfetch, rfl⟩ := fetch_eq_some hstep
  -- What the queue holds decides whether the fetch brings anything.
  cases queued with
  | nil =>
    obtain ⟨rfl, h'⟩ := h.fetch_nil hf hfetch
    exact ⟨[], h'⟩
  | cons t queued =>
    obtain ⟨rfl, -, h'⟩ := h.fetch_cons hf hfetch
    exact ⟨queued, h'⟩

/-- **A telegram written** is the last one in the pipe. -/
theorem Tracks.written (h : Tracks pid s read piped queued done) (hf : s.fetched = true)
    (pipe : Pipe) (errno : ℤ)
    (hpipe : pipe.bytes = s.pipe.bytes ++ s.task.gateway.telegram.encode) :
    Tracks pid { s with fetched := false, pipe := pipe, errno := errno } read
      (piped ++ [s.task.gateway.telegram]) queued (done ++ [s.task.gateway.telegram]) := by
  have horder := h.order
  rw [inHand, hf] at horder
  refine ⟨h.reads, ?_, h.queue, ?_, ?_, ?_, h.own, h.pid⟩
  · simp only [hpipe, h.pipe, List.flatMap_append, List.flatMap_singleton]
  · simpa [inHand] using horder
  · rw [← List.append_assoc]
    exact h.sublist.append (List.Sublist.refl _)
  · apply (h.account.append_right [s.task.gateway.telegram]).trans
    simp only [List.append_assoc]
    -- the telegram changes places with what was dropped
    have hswap : (s.dropped ++ [s.task.gateway.telegram]).Perm
        ([s.task.gateway.telegram] ++ s.dropped) := List.perm_append_comm
    exact (hswap.append_left piped).append_left read

/-- **A telegram not written** joins the dropped ones. -/
theorem Tracks.not_written (h : Tracks pid s read piped queued done) (hf : s.fetched = true)
    (errno : ℤ) :
    Tracks pid { s with
        fetched := false, errno := errno, dropped := s.dropped ++ [s.task.gateway.telegram] }
      read piped queued (done ++ [s.task.gateway.telegram]) := by
  have horder := h.order
  rw [inHand, hf] at horder
  refine ⟨h.reads, h.pipe, h.queue, ?_, ?_, ?_, h.own, h.pid⟩
  · simpa [inHand] using horder
  · exact h.sublist.trans (List.sublist_append_left _ _)
  · rw [← List.append_assoc]
    exact h.account.append_right _

omit [NeZero N] in
/-- What the write of a forward does: the whole telegram, or nothing. -/
theorem forward_cases (gateway : Gateway N) (pipe : Pipe) (fault : Option ℤ) (errno : ℤ) :
    ((gateway.forward pipe fault errno).1.ret = Telegram.size ∧
      (gateway.forward pipe fault errno).1.pipe
        = { pipe with bytes := pipe.bytes ++ gateway.telegram.encode }) ∨
    ((gateway.forward pipe fault errno).1.ret ≠ Telegram.size ∧
      (gateway.forward pipe fault errno).1.pipe = pipe) := by
  rw [gateway.forward_fst]
  unfold SharedMem.userWrite
  cases fault with
  | some e => exact Or.inr ⟨show (-1 : ℤ) ≠ Telegram.size by decide, rfl⟩
  | none =>
    by_cases hroom : pipe.bytes.length + Telegram.size ≤ pipe.capacity
    · simp only [if_pos hroom]
      exact Or.inl ⟨trivial, trivial⟩
    · simp only [if_neg hroom]
      exact Or.inr ⟨by decide, trivial⟩

theorem forward_tracks (h : Tracks pid s read piped queued done) {fault : Option ℤ}
    (hstep : s.forward fault = some s') :
    ∃ piped' done', Tracks pid s' read piped' queued done' := by
  obtain ⟨hf, rfl⟩ := forward_eq_some hstep
  -- The write is all or nothing.
  rcases forward_cases s.task.gateway s.pipe fault s.errno with ⟨hret, hpipe⟩ | ⟨hret, hpipe⟩
  · simp only [hpipe, if_pos hret]
    exact ⟨_, _, h.written hf _ _ rfl⟩
  · simp only [hpipe, if_neg hret]
    exact ⟨_, _, h.not_written hf _⟩

/-! ### The monitor's step -/

/-- **A read takes exactly the oldest telegram** in the pipe. -/
theorem Tracks.read_cons {t : Telegram} (h : Tracks pid s read (t :: piped) queued done) :
    SharedMem.supervisorRead s.pipe
        = some (t.encode, { s.pipe with bytes := piped.flatMap Telegram.encode }) ∧
      Tracks pid { s with
          pipe := { s.pipe with bytes := piped.flatMap Telegram.encode }
          reads := s.reads ++ [t.encode] }
        (read ++ [t]) piped queued done := by
  have hlen := t.encode_length
  have hpipe : s.pipe.bytes = t.encode ++ piped.flatMap Telegram.encode := by
    rw [h.pipe, List.flatMap_cons]
  -- A telegram is not empty, so neither is the pipe.
  have hne : ¬ s.pipe.bytes = [] := by
    intro hnil
    rw [hpipe] at hnil
    have hzero := congrArg List.length (List.append_eq_nil_iff.mp hnil).1
    rw [hlen] at hzero
    exact absurd hzero (by decide)
  refine ⟨?_, ?_, rfl, h.queue, h.order, ?_, ?_, h.own, h.pid⟩
  · -- The read takes as many bytes as a telegram has: the first one, whole.
    rw [SharedMem.supervisorRead, if_neg hne, hpipe, ← hlen, List.take_left, List.drop_left]
  · simp only [h.reads, List.map_append, List.map_singleton]
  · rw [List.append_assoc]
    exact h.sublist
  · rw [← List.append_cons]
    exact h.account

theorem read_tracks (h : Tracks pid s read piped queued done) (hstep : s.read = some s') :
    ∃ read' piped', Tracks pid s' read' piped' queued done := by
  unfold Delivery.read at hstep
  cases piped with
  | nil =>
    -- Nothing is in the pipe, and the read blocks.
    have hnil : SharedMem.supervisorRead s.pipe = none := if_pos h.pipe
    rw [hnil] at hstep
    exact absurd hstep (by simp)
  | cons t piped =>
    obtain ⟨hread, h'⟩ := h.read_cons
    rw [hread, Option.map_some, Option.some_inj] at hstep
    subst hstep
    exact ⟨_, _, h'⟩

/-! ### Runs -/

/-- Every step keeps the invariant. -/
theorem step_tracks (h : Tracks pid s read piped queued done) {e : Event}
    (hstep : s.step e = some s') :
    ∃ read' piped' queued' done', Tracks pid s' read' piped' queued' done' := by
  cases e with
  | call c =>
    cases hstep
    obtain ⟨queued', h'⟩ := call_tracks h c
    exact ⟨_, _, _, _, h'⟩
  | fetch wait =>
    obtain ⟨queued', h'⟩ := fetch_tracks h hstep
    exact ⟨_, _, _, _, h'⟩
  | forward fault =>
    obtain ⟨piped', done', h'⟩ := forward_tracks h hstep
    exact ⟨_, _, _, _, h'⟩
  | read =>
    obtain ⟨read', piped', h'⟩ := read_tracks h hstep
    exact ⟨_, _, _, _, h'⟩

theorem run_tracks {capacity : ℕ} {es : List Event}
    (h : Runs.Run step (start pid capacity : Delivery N) es s) :
    ∃ read piped queued done, Tracks pid s read piped queued done := by
  refine h.invariant (I := fun s => ∃ read piped queued done, Tracks pid s read piped queued done)
    ⟨[], [], [], [], start_tracks pid capacity⟩ ?_
  rintro t e t' ⟨_, _, _, _, ht⟩ hstep
  exact step_tracks ht hstep

/-- **End-to-end delivery.**  After any steps of the task, the gateway and the monitor: each
    read that returned has returned the bytes of exactly one telegram, and is decoded to it; the
    telegrams read are, in order, among those accepted; the monitor of the task takes what it
    decodes from any read for its own; and each accepted telegram has been read, is in the pipe,
    in the gateway's hand or in the queue, or was dropped by a failed write.  Between two updates
    of the gateway its hand is empty. -/
theorem delivery {capacity : ℕ} {es : List Event}
    (h : Runs.Run step (start pid capacity : Delivery N) es s) :
    ∃ read piped queued : List Telegram,
      s.reads = read.map Telegram.encode ∧
      s.reads.map Telegram.decode = read ∧
      s.pipe.bytes = piped.flatMap Telegram.encode ∧
      s.task.gateway.queue.Holds queued ∧
      read.Sublist s.accepted ∧
      (∀ t ∈ read, ∀ me : MonitorThread, me.pid = pid → me.ownTelegram t = true) ∧
      (∀ bytes ∈ s.reads, ∀ me : MonitorThread, me.pid = pid →
        me.ownTelegram (.decode bytes) = true) ∧
      s.accepted.Perm (read ++ piped ++ s.inHand ++ queued ++ s.dropped) ∧
      (s.fetched = false → s.accepted.Perm (read ++ piped ++ queued ++ s.dropped)) := by
  obtain ⟨read, piped, queued, done, ht⟩ := run_tracks h
  have hsub : read.Sublist s.accepted := by
    rw [ht.order, List.append_assoc]
    exact ((List.sublist_append_left read piped).trans ht.sublist).trans
      (List.sublist_append_left _ _)
  have hall := ht.accounted
  have hown : ∀ t ∈ read, ∀ me : MonitorThread, me.pid = pid → me.ownTelegram t = true := by
    intro t htm me hpid
    rw [MonitorThread.ownTelegram, decide_eq_true_iff, hpid, ht.own t (hsub.subset htm)]
  refine ⟨read, piped, queued, ht.reads, ?_, ht.pipe, ht.queue, hsub, hown, ?_, hall, ?_⟩
  · rw [ht.reads, List.map_map]
    exact (List.map_congr_left fun t _ => t.decode_encode).trans (List.map_id read)
  · intro bytes hbytes me hpid
    rw [ht.reads] at hbytes
    obtain ⟨t, htm, rfl⟩ := List.mem_map.mp hbytes
    rw [t.decode_encode]
    exact hown t htm me hpid
  · intro hf
    have hhand : s.inHand = [] := by
      rw [inHand, hf]
      rfl
    rw [hhand, List.append_nil] at hall
    exact hall

/-- Two executions: one is reported, carried and read, the second meets a full pipe. -/
def sampleEvents : List Event :=
  [.call .enableRecording,
    .call (.traceExecutionStart (some ⟨1, 0⟩)), .call (.traceExecutionStop (some ⟨1, 5⟩)),
    .fetch .acquired, .forward none,
    .call (.traceExecutionStart (some ⟨2, 0⟩)), .call (.traceExecutionStop (some ⟨2, 5⟩)),
    .fetch .acquired, .forward none, .read]

theorem delivery_sample :
    ∃ s : Delivery queueSize, Runs.Run step (start 7 32) sampleEvents s ∧
      (s.reads.length = 1 ∧ s.dropped.length = 1) ∧
      ∃ read piped queued : List Telegram,
        s.reads = read.map Telegram.encode ∧
        s.reads.map Telegram.decode = read ∧
        s.pipe.bytes = piped.flatMap Telegram.encode ∧
        s.task.gateway.queue.Holds queued ∧
        read.Sublist s.accepted ∧
        (∀ t ∈ read, ∀ me : MonitorThread, me.pid = 7 → me.ownTelegram t = true) ∧
        (∀ bytes ∈ s.reads, ∀ me : MonitorThread, me.pid = 7 →
          me.ownTelegram (.decode bytes) = true) ∧
        s.accepted.Perm (read ++ piped ++ s.inHand ++ queued ++ s.dropped) ∧
        (s.fetched = false → s.accepted.Perm (read ++ piped ++ queued ++ s.dropped)) :=
  ⟨(sampleEvents.foldlM step (start 7 32)).get (by decide), Runs.run_get _ _ _, by decide,
    delivery (Runs.run_get (start 7 32) sampleEvents (by decide))⟩

end Delivery

end RtTaskTrace
