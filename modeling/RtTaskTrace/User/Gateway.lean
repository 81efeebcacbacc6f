import RtTaskTrace.User.Queue
import RtTaskTrace.Common.SharedMem

namespace RtTaskTrace

/-!
# The gateway (`TaskTrace/Gateway`)

The traced task never touches the pipe: it puts its telegrams into the queue
(`Gateway.write`), and the gateway thread moves them on, one per `Gateway.update`.  An update
takes a telegram from the queue and then writes it; between the two the telegram is only in
the gateway's own buffer, so `Gateway.fetch` and `Gateway.forward` are the two halves.
-/

/-- `Gateway`.  The shared region's descriptor is the pipe it is open on, passed to the calls
    that use it. -/
structure Gateway (N : ℕ) where
  queue : Queue N
  telegram : Telegram

variable {N : ℕ} [NeZero N]

namespace Gateway

/-- `Gateway_init`: the gateway, whether the task's pipe exists afterwards, and the code
    returned. -/
def init (me : Gateway N) (pipeExists : Bool) (outcome : SharedMem.InitOutcome) :
    Gateway N × Bool × ℤ :=
  let me := { me with queue := me.queue.init }
  let (pipeExists, ret) := SharedMem.userInit pipeExists outcome
  if ret ≠ 0 then (me, pipeExists, -1)
  else if outcome.pthreadCreate = false then (me, pipeExists, -2)
  else (me, pipeExists, 0)

/-- `Gateway_write`. -/
def write (me : Gateway N) (telegram : Telegram) : Gateway N × ℤ :=
  let (queue, ret) := me.queue.add telegram
  if ret ≠ 0 then ({ me with queue := queue }, -1)
  else ({ me with queue := queue }, 0)

/-- The first half of `Gateway_update`: the call of `Queue_getNext` into the gateway's
    buffer, with the code that call returned. -/
def fetch (me : Gateway N) (wait : WaitOutcome) : Option (Gateway N × ℤ) :=
  (me.queue.getNext wait me.telegram).map fun (queue, telegram, ret) =>
    ({ me with queue := queue, telegram := telegram }, ret)

/-- The second half of `Gateway_update`: the buffer is written to the pipe and the outcome
    turned into the code returned. -/
def forward (me : Gateway N) (pipe : Pipe) (fault : Option ℤ) (errno : ℤ) :
    SharedMem.WriteResult × ℤ :=
  let written := SharedMem.userWrite pipe fault errno me.telegram
  if written.ret ≠ Telegram.size then
    if written.errno ≠ eagain then (written, -2)
    -- the pipe is full: the telegram is dropped and the update reports success
    else (written, 0)
  else (written, 0)

/-- `Gateway_update`: the gateway, what the write left behind and the code returned. -/
def update (me : Gateway N) (wait : WaitOutcome) (pipe : Pipe) (fault : Option ℤ)
    (errno : ℤ) : Option (Gateway N × SharedMem.WriteResult × ℤ) :=
  (me.fetch wait).map fun (me, ret) =>
    if ret ≠ 0 then (me, ⟨pipe, 0, errno⟩, -1)
    else
      let (written, ret) := me.forward pipe fault errno
      (me, written, ret)

/-- Writing to the gateway is adding to its queue, with the same verdict. -/
theorem write_eq (me : Gateway N) (telegram : Telegram) :
    me.write telegram
      = ({ me with queue := (me.queue.add telegram).1 }, (me.queue.add telegram).2) := by
  by_cases hfull : me.queue.count ≥ (N : ℤ)
  · simp only [write, Queue.add, if_pos hfull]
    rfl
  · simp only [write, Queue.add, if_neg hfull]
    rfl

/-- A fetch is a take from the queue, the telegram going into the gateway's buffer. -/
theorem fetch_eq_some {me me' : Gateway N} {wait : WaitOutcome} {ret : ℤ}
    (h : me.fetch wait = some (me', ret)) :
    me.queue.getNext wait me.telegram = some (me'.queue, me'.telegram, ret) := by
  obtain ⟨⟨queue, telegram, r⟩, hnext, heq⟩ := Option.map_eq_some_iff.mp h
  cases heq
  exact hnext

/-- With a token there is always something to wake up for. -/
theorem fetch_acquired {me : Gateway N} (h : me.queue.sem ≠ 0) :
    ∃ me' ret, me.fetch .acquired = some (me', ret) := by
  have hsem : semWait me.queue.sem .acquired = some (me.queue.sem - 1) := if_neg h
  rw [fetch, Queue.getNext, hsem]
  exact ⟨_, _, rfl⟩

omit [NeZero N] in
/-- What a forward leaves behind is what its write does. -/
theorem forward_fst (me : Gateway N) (pipe : Pipe) (fault : Option ℤ) (errno : ℤ) :
    (me.forward pipe fault errno).1 = SharedMem.userWrite pipe fault errno me.telegram := by
  unfold forward
  simp only
  split
  · split <;> rfl
  · rfl

end Gateway

end RtTaskTrace
