import RtTaskTrace.User.Queue
import RtTaskTrace.Lib.Runs

namespace RtTaskTrace

open Runs

/-!
# The telegram queue is a bounded FIFO

Runs of whole calls, in any order, on a queue that `Queue_init` has set up.  What a run has
accepted and delivered is recorded call by call; the abstract content of the queue is the
difference.

* `QueueUse.call` — one call of either side;
* `accepted`, `delivered` — the telegrams of the successful calls of a run;
* `Backlog` — what the queue holds after a run, against what the run has recorded; `add_backlog`
  and `getNext_backlog` are its steps;
* `queue_refines_fifo` — every run.
-/

/-- A call on the queue; a take says how its `sem_wait` comes back. -/
inductive QueueCall
  | add (telegram : Telegram)
  | getNext (wait : WaitOutcome)
  deriving DecidableEq, Repr

/-- The queue and the buffer its consumer reads into. -/
structure QueueUse (N : ℕ) where
  queue : Queue N
  buffer : Telegram

variable {N : ℕ} [NeZero N]

namespace QueueUse

/-- The queue set up. -/
def start (queue : Queue N) (buffer : Telegram) : QueueUse N := ⟨queue.init, buffer⟩

/-- One call; `none` while it blocks. -/
def call (s : QueueUse N) : QueueCall → Option (QueueUse N)
  | .add telegram => some { s with queue := (s.queue.add telegram).1 }
  | .getNext wait =>
    (s.queue.getNext wait s.buffer).map fun (queue, buffer, _) => ⟨queue, buffer⟩

/-- The telegram a call adds, if it succeeds. -/
def accepts (s : QueueUse N) : QueueCall → QueueUse N → List Telegram
  | .add telegram, _ => if (s.queue.add telegram).2 = 0 then [telegram] else []
  | .getNext _, _ => []

/-- The telegram a call returns, if it succeeds. -/
def delivers (s : QueueUse N) : QueueCall → QueueUse N → List Telegram
  | .add _, _ => []
  | .getNext wait, s' =>
    if (s.queue.getNext wait s.buffer).map (fun next => next.2.2) = some 0 then [s'.buffer]
    else []

/-- The telegrams accepted along a run. -/
def accepted (s : QueueUse N) (es : List QueueCall) : List Telegram :=
  records call accepts s es

/-- The telegrams delivered along a run. -/
def delivered (s : QueueUse N) (es : List QueueCall) : List Telegram :=
  records call delivers s es

/-! ### What is accepted and not delivered -/

/-- After the calls `es` from `s₀`, the queue holds `held`: the telegrams accepted and not
    delivered, with a token for each, and no others unless a wait was interrupted. -/
structure Backlog (s₀ : QueueUse N) (es : List QueueCall) (s : QueueUse N)
    (held : List Telegram) : Prop where
  holds : s.queue.Holds held
  split : accepted s₀ es = delivered s₀ es ++ held
  tokens : held.length ≤ s.queue.sem
  uninterrupted : .getNext .interrupted ∉ es → s.queue.sem = held.length

variable {s₀ s s' : QueueUse N} {es : List QueueCall} {held : List Telegram}

theorem start_backlog (queue : Queue N) (buffer : Telegram) :
    Backlog (start queue buffer) [] (start queue buffer) [] where
  holds := Queue.holds_init queue
  split := rfl
  tokens := Nat.zero_le _
  uninterrupted := fun _ => rfl

/-- **An add** appends its telegram, or is refused. -/
theorem add_backlog (hrun : Run call s₀ es s) (h : Backlog s₀ es s held) (telegram : Telegram)
    (hstep : s.call (.add telegram) = some s') :
    ∃ held', Backlog s₀ (es ++ [.add telegram]) s' held' := by
  have hacc : accepted s₀ (es ++ [.add telegram]) = accepted s₀ es ++ s.accepts (.add telegram) s' :=
    records_concat hrun hstep
  have hdel : delivered s₀ (es ++ [.add telegram]) = delivered s₀ es := by
    rw [delivered, records_concat hrun hstep, delivers, List.append_nil]
    rfl
  have hwaits : .getNext .interrupted ∉ es ++ [QueueCall.add telegram] →
      .getNext .interrupted ∉ es := fun hnot hmem => hnot (List.mem_append_left _ hmem)
  cases hstep
  rcases Nat.lt_or_eq_of_le h.holds.room with hroom | hfull
  · -- with room
    obtain ⟨hret, hholds, hsem⟩ := Queue.add_of_room h.holds hroom telegram
    refine ⟨held ++ [telegram], hholds, ?_, ?_, fun hnot => ?_⟩
    · rw [hacc, hdel, accepts, if_pos hret, h.split, List.append_assoc]
    · rw [List.length_append, List.length_singleton, hsem]
      exact Nat.succ_le_succ h.tokens
    · rw [hsem, h.uninterrupted (hwaits hnot), List.length_append, List.length_singleton]
  · -- full
    have hrefused := Queue.add_of_full h.holds hfull telegram
    have hret : ¬ (s.queue.add telegram).2 = 0 := by
      rw [hrefused]
      exact show ¬ (-1 : ℤ) = 0 by decide
    have hsame : (s.queue.add telegram).1 = s.queue := by
      rw [hrefused]
    refine ⟨held, ?_, ?_, ?_, fun hnot => ?_⟩
    · rw [hsame]
      exact h.holds
    · rw [hacc, hdel, accepts, if_neg hret, List.append_nil, h.split]
    · rw [hsame]
      exact h.tokens
    · rw [hsame]
      exact h.uninterrupted (hwaits hnot)

/-- What a wait leaves of the tokens. -/
theorem semWait_le {sem sem' : ℕ} {wait : WaitOutcome} (h : semWait sem wait = some sem') :
    sem - 1 ≤ sem' ∧ (wait ≠ .interrupted → sem ≠ 0 ∧ sem' = sem - 1) := by
  cases wait with
  | interrupted =>
    cases h
    exact ⟨Nat.sub_le _ _, fun hne => absurd rfl hne⟩
  | acquired =>
    by_cases hzero : sem = 0
    · rw [semWait, if_pos hzero] at h
      cases h
    · rw [semWait, if_neg hzero] at h
      cases h
      exact ⟨le_rfl, fun _ => ⟨hzero, rfl⟩⟩

/-- **A take** delivers the oldest telegram, or finds none. -/
theorem getNext_backlog (hrun : Run call s₀ es s) (h : Backlog s₀ es s held) (wait : WaitOutcome)
    (hstep : s.call (.getNext wait) = some s') :
    ∃ held', Backlog s₀ (es ++ [.getNext wait]) s' held' := by
  have hacc : accepted s₀ (es ++ [.getNext wait]) = accepted s₀ es := by
    rw [accepted, records_concat hrun hstep, accepts, List.append_nil]
    rfl
  have hdel : delivered s₀ (es ++ [.getNext wait]) = delivered s₀ es
      ++ s.delivers (.getNext wait) s' := records_concat hrun hstep
  have hwaits : .getNext .interrupted ∉ es ++ [QueueCall.getNext wait] →
      .getNext .interrupted ∉ es ∧ wait ≠ .interrupted := by
    intro hnot
    refine ⟨fun hmem => hnot (List.mem_append_left _ hmem), ?_⟩
    rintro rfl
    exact hnot (List.mem_append_right _ (List.mem_singleton_self _))
  obtain ⟨⟨queue, buffer, ret⟩, hnext, rfl⟩ := Option.map_eq_some_iff.mp hstep
  have hret : (s.queue.getNext wait s.buffer).map (fun next => next.2.2) = some ret := by
    rw [hnext]
    rfl
  rw [delivers, hret] at hdel
  cases held with
  | nil =>
    -- Nothing to deliver: the wait was for a token left over.
    obtain ⟨rfl, rfl, hholds, hsem⟩ := Queue.getNext_nil h.holds wait s.buffer hnext
    refine ⟨[], hholds, ?_, Nat.zero_le _, fun hnot => ?_⟩
    · rw [hacc, hdel, if_neg (by decide), List.append_nil, h.split]
    · obtain ⟨hbefore, hwait⟩ := hwaits hnot
      exact absurd (h.uninterrupted hbefore) ((semWait_le hsem).2 hwait).1
  | cons t ts =>
    obtain ⟨rfl, rfl, hholds, hsem⟩ := Queue.getNext_cons h.holds wait s.buffer hnext
    have htokens := h.tokens
    rw [List.length_cons] at htokens
    obtain ⟨hle, hexact⟩ := semWait_le hsem
    refine ⟨ts, hholds, ?_, ?_, fun hnot => ?_⟩
    · rw [hacc, hdel, if_pos rfl, h.split, List.append_assoc, List.singleton_append]
    · show ts.length ≤ queue.sem
      omega
    · obtain ⟨hbefore, hwait⟩ := hwaits hnot
      have hsum := h.uninterrupted hbefore
      rw [List.length_cons] at hsum
      show queue.sem = ts.length
      rw [(hexact hwait).2, hsum, Nat.add_sub_cancel]

/-- Every run leaves what it has accepted and not delivered. -/
theorem run_backlog (hrun : Run call s₀ es s) (h₀ : Backlog s₀ [] s₀ []) :
    ∃ held, Backlog s₀ es s held := by
  refine hrun.history_induction (P := fun es s => ∃ held, Backlog s₀ es s held) ⟨[], h₀⟩ ?_
  rintro es s e s' hes ⟨held, h⟩ hstep
  cases e with
  | add telegram => exact add_backlog hes h telegram hstep
  | getNext wait => exact getNext_backlog hes h wait hstep

end QueueUse

open QueueUse in
/-- **The telegram queue refines a bounded FIFO.**  Telegrams are delivered unaltered and in
    order; an add is refused exactly when the capacity is undelivered, and a take fails only when
    nothing is.  There is a token for each undelivered telegram, and no other unless a wait was
    interrupted. -/
theorem queue_refines_fifo (queue : Queue N) (buffer : Telegram) {es : List QueueCall}
    {s : QueueUse N} (hrun : Run call (start queue buffer) es s) :
    delivered (start queue buffer) es <+: accepted (start queue buffer) es ∧
    (∀ telegram, (s.queue.add telegram).2 = -1 ↔
      (accepted (start queue buffer) es).length
        = (delivered (start queue buffer) es).length + N) ∧
    (∀ telegram, (s.queue.add telegram).2 = -1 → (s.queue.add telegram).1 = s.queue) ∧
    (∀ wait q b, s.queue.getNext wait s.buffer = some (q, b, -1) →
      delivered (start queue buffer) es = accepted (start queue buffer) es) ∧
    (accepted (start queue buffer) es).length
      ≤ (delivered (start queue buffer) es).length + s.queue.sem ∧
    (delivered (start queue buffer) es ≠ accepted (start queue buffer) es →
      ∃ next, s.queue.getNext .acquired s.buffer = some next) ∧
    (.getNext .interrupted ∉ es →
      (accepted (start queue buffer) es).length
        = (delivered (start queue buffer) es).length + s.queue.sem ∧
      ∀ q b r, s.queue.getNext .acquired s.buffer = some (q, b, r) → r = 0) := by
  obtain ⟨held, h⟩ := run_backlog hrun (start_backlog queue buffer)
  have hlength : (accepted (start queue buffer) es).length
      = (delivered (start queue buffer) es).length + held.length := by
    rw [h.split, List.length_append]
  have htokens := h.tokens
  refine ⟨⟨held, h.split.symm⟩, fun telegram => ?_, fun telegram hret => ?_, ?_, by omega, ?_, ?_⟩
  · rw [Queue.add_refused_iff h.holds telegram, hlength]
    omega
  · rw [Queue.add_of_full h.holds ((Queue.add_refused_iff h.holds telegram).mp hret) telegram]
  · intro wait q b hnext
    cases held with
    | nil => rw [h.split, List.append_nil]
    | cons t ts =>
      have := (Queue.getNext_cons h.holds wait s.buffer hnext).1
      exact absurd this (by decide)
  · intro hne
    -- Something is held, so there is a token for it.
    have hsem : s.queue.sem ≠ 0 := by
      intro hzero
      rw [hzero, Nat.le_zero, List.length_eq_zero_iff] at htokens
      rw [h.split, htokens, List.append_nil] at hne
      exact hne rfl
    exact ⟨_, by rw [Queue.getNext, semWait, if_neg hsem, Option.map_some]⟩
  · intro hnot
    have hsum := h.uninterrupted hnot
    refine ⟨by rw [hlength, hsum], fun q b r hnext => ?_⟩
    cases held with
    | nil =>
      -- Without a token the call would have blocked.
      obtain ⟨-, -, -, hsem⟩ := Queue.getNext_nil h.holds .acquired s.buffer hnext
      exact absurd hsum ((semWait_le hsem).2 (by decide)).1
    | cons t ts => exact (Queue.getNext_cons h.holds .acquired s.buffer hnext).1

/-- An empty queue of two places. -/
def sampleQueue : Queue 2 := ⟨fun _ => ⟨0, 0, 0, 0⟩, 0, 0, 0, 0⟩

/-- Three adds, of which the last is refused, and three takes, the first of them interrupted. -/
def sampleCalls : List QueueCall :=
  [.add ⟨1, 0, 1, 2⟩, .add ⟨1, 0, 3, 4⟩, .add ⟨1, 0, 5, 6⟩,
    .getNext .interrupted, .getNext .acquired, .getNext .acquired]

/-- The interrupted take leaves a token over, so the last one wakes up for nothing. -/
theorem queue_refines_fifo_sample :
    QueueUse.delivered (.start sampleQueue ⟨0, 0, 0, 0⟩) sampleCalls
        <+: QueueUse.accepted (.start sampleQueue ⟨0, 0, 0, 0⟩) sampleCalls ∧
      QueueUse.delivered (.start sampleQueue ⟨0, 0, 0, 0⟩) sampleCalls
        = [⟨1, 0, 1, 2⟩, ⟨1, 0, 3, 4⟩] :=
  ⟨(queue_refines_fifo sampleQueue ⟨0, 0, 0, 0⟩
    (show Run QueueUse.call (.start sampleQueue ⟨0, 0, 0, 0⟩) sampleCalls _ from rfl)).1,
    by decide⟩

end RtTaskTrace
