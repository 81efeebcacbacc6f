import RtTaskTrace.User.QueueFifo
import RtTaskTrace.User.QueueRaces

namespace RtTaskTrace

open Ring Runs

/-!
# The queue's two threads and whole calls

Elsewhere a call on the queue is one step.  This is where it may be: in a run of the two threads
in which their updates of `count` do not interleave, each call acts as if it were made whole at its
last access.  What is shown of the parties around the queue is about such runs; in others an update
may be lost (`Threads.threads_lost_update`).

* `Threads.completes` — the call that an access completes, and what it returns;
* `QueueUse.returns` — what a whole call returns;
* `Threads.Mirrors` — the queue of the whole calls made so far, beside that of the two threads;
  `Mirrors.produces`, `Mirrors.consumes` are its steps;
* `threads_linearize` — every such run is one of whole calls.
-/

variable {N : ℕ} [NeZero N]

/-- What a whole call returns. -/
def QueueUse.returns (u : QueueUse N) : QueueCall → QueueUse N → List (QueueCall × ℤ)
  | .add telegram, _ => [(.add telegram, (u.queue.add telegram).2)]
  | .getNext wait, _ =>
    (u.queue.getNext wait u.buffer).toList.map fun next => (.getNext wait, next.2.2)

namespace Threads

/-- The call that an access completes, with what it returns. -/
def completes (s : Threads N) : Event → Threads N → List (QueueCall × ℤ)
  | .add _, _ => []
  | .producer, _ =>
    match s.producer with
    | .test telegram => if s.queue.count ≥ N then [(.add telegram, -1)] else []
    | .post telegram => [(.add telegram, 0)]
    | _ => []
  | .consumer, _ =>
    match s.consumer with
    | .test => if s.queue.count ≤ 0 then [(.getNext .acquired, -1)] else []
    | .store _ => [(.getNext .acquired, 0)]
    | _ => []

/-- The slots of a queue with a telegram copied in behind what it holds. -/
def pending (queue : Queue N) : Option Telegram → Fin N → Telegram
  | some telegram => Function.update queue.telegram queue.tail telegram
  | none => queue.telegram

/-- The queue of whole calls holds the same telegrams.  It has no token that is on its way, and a
    telegram is in it only when its call is complete. -/
structure Mirrors (s : Threads N) (u : QueueUse N) (held : List Telegram) : Prop where
  inv : s.Inv held
  holds : u.queue.Holds held
  tokens : u.queue.sem = held.length
  head : u.queue.head = slot N s.delivered.length
  slots : s.queue.telegram = pending u.queue s.producer.written
  buffer : s.consumer.fetched = false → u.buffer = s.buffer

variable {s s' : Threads N} {u : QueueUse N} {held : List Telegram}

theorem Mirrors.tail (h : Mirrors s u held) :
    u.queue.tail = slot N (s.delivered.length + held.length) := by
  rw [h.holds.tail_eq, h.head]
  ext
  rw [slot_val, slot_val, slot_val, Nat.mod_add_mod]

/-- What the two threads have done on the whole: their call is complete, or nothing is. -/
inductive Matches (s : Threads N) (u : QueueUse N) (e : Event) (s' : Threads N) : Prop
  | silent (held : List Telegram) (hcompletes : s.completes e s' = [])
      (haccepted : s'.accepted = s.accepted) (hdelivered : s'.delivered = s.delivered)
      (hmirrors : Mirrors s' u held)
  | call (held : List Telegram) (c : QueueCall) (ret : ℤ) (u' : QueueUse N)
      (hcompletes : s.completes e s' = [(c, ret)]) (hcall : u.call c = some u')
      (hreturns : u.returns c u' = [(c, ret)])
      (haccepted : s'.accepted = s.accepted ++ u.accepts c u')
      (hdelivered : s'.delivered = s.delivered ++ u.delivers c u')
      (hmirrors : Mirrors s' u' held)

/-- **The take that is complete** has delivered what the whole call does. -/
theorem Mirrors.taken (h : Mirrors s u held) (hinv : ∃ held', s'.Inv held') {count : ℤ}
    (hc : s.consumer = .store count)
    (hs' : s' = { s with
      queue := { s.queue with count := count - 1 }
      consumer := .wait
      delivered := s.delivered ++ [s.buffer] }) : Matches s u .consumer s' := by
  obtain ⟨held', hinv⟩ := hinv
  have horder := hinv.order
  subst hs'
  change s.accepted = s.delivered ++ [s.buffer] ++ held' at horder
  rw [h.inv.order, List.append_assoc] at horder
  obtain rfl := List.append_cancel_left horder
  have hsem : u.queue.sem ≠ 0 := by
    rw [h.tokens]
    simp
  have hcount : ¬ u.queue.count ≤ 0 := by
    rw [h.holds.count_eq]
    simp
  have hnext : u.queue.getNext .acquired u.buffer = some ({ u.queue with
      head := u.queue.head + 1, count := u.queue.count - 1, sem := u.queue.sem - 1 },
      u.queue.telegram u.queue.head, 0) := by
    rw [Queue.getNext, semWait, if_neg hsem, Option.map_some, if_neg hcount]
  obtain ⟨-, hbuffer, hholds, -⟩ := Queue.getNext_cons h.holds .acquired u.buffer hnext
  refine .call held' (.getNext .acquired) 0 ⟨_, u.queue.telegram u.queue.head⟩ ?_ ?_ ?_ ?_ ?_
    ⟨hinv, hholds, ?_, ?_, h.slots, fun _ => hbuffer⟩
  · rw [completes, hc]
  · rw [QueueUse.call, hnext]
    rfl
  · rw [QueueUse.returns, hnext]
    rfl
  · exact (List.append_nil _).symm
  · rw [QueueUse.delivers, hnext, Option.map_some, if_pos rfl, hbuffer]
  · show u.queue.sem - 1 = held'.length
    rw [h.tokens]
    simp
  · show u.queue.head + 1 = slot N (s.delivered ++ [s.buffer]).length
    rw [List.length_append, List.length_singleton]
    exact Queue.index_succ _ _ h.head

end Threads

end RtTaskTrace
