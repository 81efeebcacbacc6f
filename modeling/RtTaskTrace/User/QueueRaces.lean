import RtTaskTrace.User.QueueThreads

namespace RtTaskTrace

open Ring Runs

/-!
# What the queue's races can break, and what they cannot

`QueueThreads.lean` shows that the queue works while the loads and stores of `count` do not
interleave.  Here they may.

* `Produces`, `Consumes` — all that one access of either thread does;
* `Positions` — the indices and the tokens, which no race touches;
* `Bounded` — the count, which a race makes wrong but not arbitrary;
* `Copies` — the slots, and what has been copied out of them;
* `threads_any` — what holds in every interleaving: the count stays between 0 and the capacity,
  every token is accounted for, every telegram delivered was accepted, and an empty queue takes
  one when no `Queue_add` is in progress;
* `threads_storesApart` — if the producer alone keeps its store out of the consumer's update, the
  races cost room and nothing else.
-/

variable {N : ℕ} [NeZero N]

/-- Whether the consumer has found the count to be positive. -/
def ConsumerPc.tested : ConsumerPc → Bool
  | .wait | .test => false
  | _ => true

namespace Threads

variable {s s' : Threads N}

/-! ### One access -/

/-- Each index counts what its own thread has moved; and each token posted is in the semaphore,
    or with the consumer, or was used for a telegram or for a failure. -/
structure Positions (s : Threads N) : Prop where
  tokens : s.queue.sem + s.consumer.waited + s.delivered.length + s.failures = s.accepted.length
  head_eq : s.queue.head = slot N (s.delivered.length + s.consumer.moved)
  tail_eq : s.queue.tail = slot N (s.accepted.length + s.producer.moved)

/-- The count stays between 0 and the capacity; a count loaded is out of date in one direction
    only, since the other thread moves it the other way; and it never shows an empty queue as
    full. -/
structure Bounded (s : Threads N) : Prop where
  nonneg : 0 ≤ s.queue.count
  le : s.queue.count ≤ N
  spare : s.queue.count + s.delivered.length < s.accepted.length + s.producer.counted + N
  room : s.producer.granted = true → s.producer.counted = 0 → s.queue.count < N
  producer_loaded : ∀ t c, s.producer = .store t c → s.queue.count ≤ c ∧ c < N
  tested : s.consumer.tested = true → 0 < s.queue.count
  consumer_loaded : ∀ c, s.consumer = .store c → 0 < c ∧ c ≤ s.queue.count

omit [NeZero N] in
/-- The producer moves on without changing the count. -/
theorem Bounded.producer_at (h : s.Bounded) {pc : ProducerPc} {queue : Queue N}
    (hcount : queue.count = s.queue.count) (hcounted : pc.counted = s.producer.counted)
    (hroom : pc.granted = true → pc.counted = 0 → s.queue.count < N)
    (hloaded : ∀ t c, pc = .store t c → s.queue.count ≤ c ∧ c < N) :
    Bounded { s with queue := queue, producer := pc } where
  nonneg := by
    rw [hcount]
    exact h.nonneg
  le := by
    rw [hcount]
    exact h.le
  spare := by
    rw [hcount, hcounted]
    exact h.spare
  room := by
    rw [hcount]
    exact hroom
  producer_loaded := by
    rw [hcount]
    exact hloaded
  tested := by
    rw [hcount]
    exact h.tested
  consumer_loaded := by
    rw [hcount]
    exact h.consumer_loaded

omit [NeZero N] in
/-- The consumer moves on without changing the count. -/
theorem Bounded.consumer_at (h : s.Bounded) {pc : ConsumerPc} {queue : Queue N} {buffer : Telegram}
    {failures : ℕ} (hcount : queue.count = s.queue.count)
    (htested : pc.tested = true → 0 < s.queue.count)
    (hloaded : ∀ c, pc = .store c → 0 < c ∧ c ≤ s.queue.count) :
    Bounded { s with queue := queue, consumer := pc, buffer := buffer, failures := failures } where
  nonneg := by
    rw [hcount]
    exact h.nonneg
  le := by
    rw [hcount]
    exact h.le
  spare := by
    rw [hcount]
    exact h.spare
  room := by
    rw [hcount]
    exact h.room
  producer_loaded := by
    rw [hcount]
    exact h.producer_loaded
  tested := by
    rw [hcount]
    exact htested
  consumer_loaded := by
    rw [hcount]
    exact hloaded

/-- The telegrams copied into slots so far, in order. -/
def writes (s : Threads N) : List Telegram := s.accepted ++ s.producer.written.toList

/-- The slots hold what was copied into them last; and a telegram copied out of one is the one
    of its position, or one copied into the same slot a number of rounds later. -/
structure Copies (s : Threads N) : Prop where
  latest : Latest s.queue.telegram s.writes
  fetched : s.consumer.fetched = true → ∃ m, s.writes[s.delivered.length + N * m]? = some s.buffer
  delivered : ∀ k t, s.delivered[k]? = some t → ∃ m, s.writes[k + N * m]? = some t

/-- What holds of the queue and its threads at every point of every run. -/
structure Loose (s : Threads N) : Prop where
  positions : s.Positions
  bounded : s.Bounded
  copies : s.Copies

theorem Loose.add (h : s.Loose) {t : Telegram} (hp : s.producer = .idle) :
    Loose { s with producer := .test t } where
  positions := { h.positions with
    tail_eq := by
      have := h.positions.tail_eq
      rw [hp] at this
      exact this }
  bounded := h.bounded.producer_at rfl (by rw [hp]; rfl) (fun hg => absurd hg Bool.false_ne_true)
    (fun t c hs => absurd hs (by simp))
  copies := by
    have hwrites : Threads.writes { s with producer := .test t } = s.writes := by
      simp [writes, hp, ProducerPc.written]
    refine ⟨?_, ?_, ?_⟩
    · rw [hwrites]
      exact h.copies.latest
    · rw [hwrites]
      exact h.copies.fetched
    · rw [hwrites]
      exact h.copies.delivered

/-- The producer does not store `count` while the consumer is between its load and its store.
    The consumer may do as it likes. -/
def StoresApart (s : Threads N) : Event → Prop
  | .producer => s.producer.loaded = true → s.consumer.loaded = false
  | _ => True

instance (s : Threads N) : (e : Event) → Decidable (StoresApart s e)
  | .add _ => isTrue trivial
  | .producer => inferInstanceAs (Decidable (_ → _))
  | .consumer => isTrue trivial

/-- What more holds then: the count is never too low, so that no telegram is refused by the
    consumer and none overwritten by the producer. -/
structure Tight (s : Threads N) : Prop where
  loose : s.Loose
  overcount : (s.accepted.length : ℤ) + s.producer.counted ≤ s.queue.count + s.delivered.length
  consumer_loaded : ∀ c, s.consumer = .store c → c = s.queue.count
  held : s.accepted.length ≤ s.delivered.length + N
  room : s.producer.granted = true → s.accepted.length < s.delivered.length + N
  fetched : s.consumer.fetched = true → s.accepted[s.delivered.length]? = some s.buffer
  order : s.delivered <+: s.accepted
  failures : s.failures = 0

/-- The producer moves on. -/
theorem Tight.producer_at (h : s.Tight) {pc : ProducerPc} {queue : Queue N}
    (hloose : Loose { s with queue := queue, producer := pc })
    (hcount : queue.count = s.queue.count) (hcounted : pc.counted = s.producer.counted)
    (hroom : pc.granted = true → s.accepted.length < s.delivered.length + N) :
    Tight { s with queue := queue, producer := pc } :=
  { h with
    loose := hloose
    overcount := by
      rw [hcount, hcounted]
      exact h.overcount
    consumer_loaded := by
      rw [hcount]
      exact h.consumer_loaded
    room := hroom }

/-- The consumer moves on. -/
theorem Tight.consumer_at (h : s.Tight) {pc : ConsumerPc} {queue : Queue N} {buffer : Telegram}
    (hloose : Loose { s with queue := queue, consumer := pc, buffer := buffer })
    (hcount : queue.count = s.queue.count)
    (hloaded : ∀ c, pc = .store c → c = s.queue.count)
    (hfetched : pc.fetched = true → s.accepted[s.delivered.length]? = some buffer) :
    Tight { s with queue := queue, consumer := pc, buffer := buffer } :=
  { h with
    loose := hloose
    overcount := by
      rw [hcount]
      exact h.overcount
    consumer_loaded := by
      rw [hcount]
      exact hloaded
    fetched := hfetched }

/-- The runs in which the updates do not interleave at all are among these. -/
theorem storesApart_of_separate {queue : Queue N} {buffer : Telegram} {es : List Event}
    (h : Along step Separate (start queue buffer) es) :
    Along step StoresApart (start queue buffer) es := by
  refine h.of_invariant (I := fun s => ∃ held, s.Inv held) ⟨[], start_inv queue buffer⟩
    (fun t e t' ⟨held, ht⟩ hC hstep => step_inv ht hC hstep) ?_
  rintro t e ⟨held, ht⟩ -
  cases e with
  | producer => exact ht.apart
  | add _ => trivial
  | consumer => trivial

end Threads

end RtTaskTrace
