import RtTaskTrace.User.Queue
import RtTaskTrace.Lib.Runs

namespace RtTaskTrace

open Ring Runs

/-!
# The queue's two threads, step by step

`Queue_add` runs in the traced task and `Queue_getNext` in its gateway thread, on one `Queue`
and without a lock.  Here each call is the sequence of its accesses to the queue, and a run is
any interleaving of one producer with one consumer.  Both change `count` by a load and a later
store.

* `produce`, `consume` — the next access of either call; run alone, the accesses make up
  `Queue.add` and `Queue.getNext` (`add_alone`, `getNext_alone`);
* `Separate` — neither thread loads `count` while the other is between its load and its store;
* `Threads.Inv` — what the shared queue holds at every point of such a run;
* `threads_separate` — the queue works in every such run, and `threads_lost_update` shows that
  it does not in others.
-/

variable {N : ℕ} [NeZero N]

/-- Where the producer stands: between two calls, or before the access that is named. -/
inductive ProducerPc
  | idle
  | test (telegram : Telegram)
  | copy (telegram : Telegram)
  | tail (telegram : Telegram)
  | load (telegram : Telegram)
  | store (telegram : Telegram) (count : ℤ)
  | post (telegram : Telegram)
  deriving DecidableEq, Repr

/-- Where the consumer stands: before its `sem_wait`, or before the access that is named. -/
inductive ConsumerPc
  | wait
  | test
  | copy
  | head
  | load
  | store (count : ℤ)
  deriving DecidableEq, Repr

/-! ### What the accesses done so far amount to -/

/-- Whether the producer has moved `tail`. -/
def ProducerPc.moved : ProducerPc → ℕ
  | .load _ | .store _ _ | .post _ => 1
  | _ => 0

/-- Whether the producer has stored the new count. -/
def ProducerPc.counted : ProducerPc → ℕ
  | .post _ => 1
  | _ => 0

/-- The telegram the producer has copied into its slot. -/
def ProducerPc.written : ProducerPc → Option Telegram
  | .tail t | .load t | .store t _ | .post t => some t
  | _ => none

/-- Whether the producer has found room. -/
def ProducerPc.granted : ProducerPc → Bool
  | .idle | .test _ => false
  | _ => true

/-- Whether the producer's next access is its load of `count`. -/
def ProducerPc.loads : ProducerPc → Bool
  | .load _ => true
  | _ => false

/-- Whether the producer is between its load of `count` and its store. -/
def ProducerPc.loaded : ProducerPc → Bool
  | .store _ _ => true
  | _ => false

/-- Whether the consumer has moved `head`. -/
def ConsumerPc.moved : ConsumerPc → ℕ
  | .load | .store _ => 1
  | _ => 0

/-- Whether the consumer has its token. -/
def ConsumerPc.waited : ConsumerPc → ℕ
  | .wait => 0
  | _ => 1

/-- Whether the consumer has copied a telegram into its buffer. -/
def ConsumerPc.fetched : ConsumerPc → Bool
  | .head | .load | .store _ => true
  | _ => false

/-- Whether the consumer's next access is its load of `count`. -/
def ConsumerPc.loads : ConsumerPc → Bool
  | .load => true
  | _ => false

/-- Whether the consumer is between its load of `count` and its store. -/
def ConsumerPc.loaded : ConsumerPc → Bool
  | .store _ => true
  | _ => false

/-! ### The threads -/

/-- The shared queue, the two threads, the consumer's buffer, and the histories: the telegrams
    of the calls that returned 0, and the number of `Queue_getNext` calls that returned -1. -/
structure Threads (N : ℕ) where
  queue : Queue N
  producer : ProducerPc
  consumer : ConsumerPc
  buffer : Telegram
  accepted : List Telegram
  delivered : List Telegram
  failures : ℕ

namespace Threads

/-- A step: the producer is called, or one thread makes its next access. -/
inductive Event
  | add (telegram : Telegram)
  | producer
  | consumer
  deriving DecidableEq, Repr

/-- The start: `Queue_init` has run. -/
def start (queue : Queue N) (buffer : Telegram) : Threads N :=
  ⟨queue.init, .idle, .wait, buffer, [], [], 0⟩

/-- `Queue_add` is called. -/
def add (s : Threads N) (telegram : Telegram) : Option (Threads N) :=
  match s.producer with
  | .idle => some { s with producer := .test telegram }
  | _ => none

/-- The next access of `Queue_add`. -/
def produce (s : Threads N) : Option (Threads N) :=
  match s.producer with
  | .idle => none
  | .test telegram =>
    if s.queue.count ≥ N then some { s with producer := .idle }
    else some { s with producer := .copy telegram }
  | .copy telegram =>
    some { s with
      queue := { s.queue with
        telegram := Function.update s.queue.telegram s.queue.tail telegram }
      producer := .tail telegram }
  | .tail telegram =>
    some { s with
      queue := { s.queue with tail := s.queue.tail + 1 }, producer := .load telegram }
  | .load telegram => some { s with producer := .store telegram s.queue.count }
  | .store telegram count =>
    some { s with queue := { s.queue with count := count + 1 }, producer := .post telegram }
  | .post telegram =>
    some { s with
      queue := { s.queue with sem := s.queue.sem + 1 }
      producer := .idle
      accepted := s.accepted ++ [telegram] }

/-- The next access of `Queue_getNext`; `none` while its `sem_wait` blocks. -/
def consume (s : Threads N) : Option (Threads N) :=
  match s.consumer with
  | .wait =>
    (semWait s.queue.sem .acquired).map fun sem =>
      { s with queue := { s.queue with sem := sem }, consumer := .test }
  | .test =>
    if s.queue.count ≤ 0 then some { s with consumer := .wait, failures := s.failures + 1 }
    else some { s with consumer := .copy }
  | .copy => some { s with buffer := s.queue.telegram s.queue.head, consumer := .head }
  | .head => some { s with queue := { s.queue with head := s.queue.head + 1 }, consumer := .load }
  | .load => some { s with consumer := .store s.queue.count }
  | .store count =>
    some { s with
      queue := { s.queue with count := count - 1 }
      consumer := .wait
      delivered := s.delivered ++ [s.buffer] }

/-- One step. -/
def step (s : Threads N) : Event → Option (Threads N)
  | .add telegram => s.add telegram
  | .producer => s.produce
  | .consumer => s.consume

/-! ### A call that runs alone -/

/-- **`Queue_add` undisturbed** is the call as a whole. -/
theorem add_alone (s : Threads N) (hidle : s.producer = .idle) (telegram : Telegram) :
    ∃ es s', Run step s (.add telegram :: es) s' ∧ s'.producer = .idle ∧
      s'.queue = (s.queue.add telegram).1 ∧
      s'.accepted = (if (s.queue.add telegram).2 = 0 then s.accepted ++ [telegram]
        else s.accepted) := by
  have hadd : s.add telegram = some { s with producer := .test telegram } := by
    rw [add, hidle]
  by_cases hfull : s.queue.count ≥ (N : ℤ)
  · -- A full queue: the test is the only access.
    refine ⟨[.producer], { s with producer := .idle }, ?_, rfl, ?_, ?_⟩
    · simp [step, hadd, produce, hfull]
    · rw [Queue.add, if_pos hfull]
    · rw [Queue.add, if_pos hfull]
      rfl
  · -- There is room: the test and five accesses more.
    refine ⟨List.replicate 6 .producer, { s with
      queue := (s.queue.add telegram).1
      producer := .idle
      accepted := s.accepted ++ [telegram] }, ?_, rfl, rfl, ?_⟩
    · simp [List.replicate, step, hadd, produce, Queue.add, if_neg hfull]
    · rw [Queue.add, if_neg hfull]
      rfl

/-- **`Queue_getNext` undisturbed** is the call as a whole. -/
theorem getNext_alone (s : Threads N) (hwait : s.consumer = .wait) {queue : Queue N}
    {telegram : Telegram} {ret : ℤ}
    (hnext : s.queue.getNext .acquired s.buffer = some (queue, telegram, ret)) :
    ∃ es s', Run step s es s' ∧ s'.consumer = .wait ∧ s'.queue = queue ∧ s'.buffer = telegram ∧
      s'.delivered = (if ret = 0 then s.delivered ++ [telegram] else s.delivered) := by
  obtain ⟨sem, hsem, heq⟩ := Option.map_eq_some_iff.mp hnext
  by_cases hempty : s.queue.count ≤ 0
  · rw [if_pos hempty] at heq
    cases heq
    refine ⟨[.consumer, .consumer], { s with
      queue := { s.queue with sem := sem }, consumer := .wait, failures := s.failures + 1 },
      ?_, rfl, rfl, rfl, rfl⟩
    simp [step, consume, hwait, hsem, hempty]
  · rw [if_neg hempty] at heq
    cases heq
    refine ⟨List.replicate 6 .consumer, { s with
      queue := { s.queue with
        head := s.queue.head + 1, count := s.queue.count - 1, sem := sem }
      consumer := .wait
      buffer := s.queue.telegram s.queue.head
      delivered := s.delivered ++ [s.queue.telegram s.queue.head] }, ?_, rfl, rfl, rfl, rfl⟩
    simp [List.replicate, step, consume, hwait, hsem, if_neg hempty]

/-! ### The invariant -/

/-- Neither thread loads `count` while the other is between its load and its store. -/
def Separate (s : Threads N) : Event → Prop
  | .add _ => True
  | .producer => s.producer.loads = true → s.consumer.loaded = false
  | .consumer => s.consumer.loads = true → s.producer.loaded = false

instance (s : Threads N) : (e : Event) → Decidable (Separate s e)
  | .add _ => isTrue trivial
  | .producer => inferInstanceAs (Decidable (_ → _))
  | .consumer => inferInstanceAs (Decidable (_ → _))

/-- The telegrams `held` are those accepted and not yet delivered.  They lie in their slots,
    from the position `delivered.length` on; the indices, the count and the semaphore follow
    from them and from where the two threads stand. -/
structure Inv (s : Threads N) (held : List Telegram) : Prop where
  order : s.accepted = s.delivered ++ held
  stored : window s.queue.telegram s.delivered.length held.length = held
  written : ∀ t ∈ s.producer.written,
    s.queue.telegram (slot N (s.delivered.length + held.length)) = t
  fetched : s.consumer.fetched = true → held.head? = some s.buffer
  tail_eq : s.queue.tail = slot N (s.delivered.length + held.length + s.producer.moved)
  head_eq : s.queue.head = slot N (s.delivered.length + s.consumer.moved)
  count_eq : s.queue.count = held.length + s.producer.counted
  sem_eq : s.queue.sem + s.consumer.waited = held.length
  room : held.length ≤ N
  granted : s.producer.granted = true → held.length < N
  producer_loaded : ∀ t c, s.producer = .store t c → c = s.queue.count
  consumer_loaded : ∀ c, s.consumer = .store c → c = s.queue.count
  apart : s.producer.loaded = true → s.consumer.loaded = false
  failures : s.failures = 0

variable {s s' : Threads N} {held : List Telegram}

theorem start_inv (queue : Queue N) (buffer : Telegram) : (start queue buffer).Inv [] where
  order := rfl
  stored := rfl
  written := by
    intro t ht
    exact absurd ht (by simp [start, ProducerPc.written])
  fetched := fun h => absurd h Bool.false_ne_true
  tail_eq := Fin.ext (by simp [start, Queue.init, ProducerPc.moved])
  head_eq := Fin.ext (by simp [start, Queue.init, ConsumerPc.moved])
  count_eq := rfl
  sem_eq := rfl
  room := Nat.zero_le N
  granted := fun h => absurd h Bool.false_ne_true
  producer_loaded := by
    intro t c h
    exact absurd h (by simp [start])
  consumer_loaded := by
    intro c h
    exact absurd h (by simp [start])
  apart := fun h => absurd h Bool.false_ne_true
  failures := rfl

/-! ### The producer's steps -/

/-- The producer moves on without an access that changes the queue. -/
theorem Inv.producer_at (h : s.Inv held) {pc : ProducerPc}
    (hmoved : pc.moved = s.producer.moved) (hcounted : pc.counted = s.producer.counted)
    (hwritten : ∀ t ∈ pc.written, t ∈ s.producer.written)
    (hgranted : pc.granted = true → held.length < N)
    (hloaded : ∀ t c, pc = .store t c → c = s.queue.count)
    (hapart : pc.loaded = true → s.consumer.loaded = false) :
    Inv { s with producer := pc } held :=
  { h with
    written := fun t ht => h.written t (hwritten t ht)
    tail_eq := by
      show s.queue.tail = slot N (s.delivered.length + held.length + pc.moved)
      rw [hmoved]
      exact h.tail_eq
    count_eq := by
      show s.queue.count = held.length + pc.counted
      rw [hcounted]
      exact h.count_eq
    granted := hgranted
    producer_loaded := hloaded
    apart := hapart }

/-- It moves on to where it has neither written nor loaded anything. -/
theorem Inv.producer_unwritten (h : s.Inv held) {pc : ProducerPc}
    (hmoved : pc.moved = s.producer.moved) (hcounted : pc.counted = s.producer.counted)
    (hwritten : pc.written = none) (hloaded : pc.loaded = false)
    (hgranted : pc.granted = true → held.length < N) : Inv { s with producer := pc } held := by
  apply h.producer_at hmoved hcounted ?_ hgranted
  · rintro t c rfl
    exact absurd hloaded (by simp [ProducerPc.loaded])
  · intro hl
    rw [hloaded] at hl
    exact absurd hl Bool.false_ne_true
  · intro t ht
    rw [hwritten] at ht
    exact absurd ht (Option.not_mem_none t)

/-- **The copy** goes into the slot behind the telegrams held, and changes none of theirs. -/
theorem Inv.copy (h : s.Inv held) {t : Telegram} (hp : s.producer = .copy t) :
    Inv { s with
      queue := { s.queue with telegram := Function.update s.queue.telegram s.queue.tail t }
      producer := .tail t } held := by
  have hroom : held.length < N := h.granted (by rw [hp]; rfl)
  have htail : s.queue.tail = slot N (s.delivered.length + held.length) := by
    have := h.tail_eq
    rw [hp] at this
    exact this
  refine { h with
    stored := ?_, written := ?_, tail_eq := htail, count_eq := ?_, granted := fun _ => hroom
    producer_loaded := ?_, apart := fun hl => absurd hl Bool.false_ne_true }
  · -- The slot written is behind those held, which stay as they were.
    have hpush := window_push s.queue.telegram s.delivered.length held.length t hroom
    rw [window_concat, h.stored] at hpush
    show window (Function.update s.queue.telegram s.queue.tail t) _ _ = held
    rw [htail]
    exact (List.append_inj' hpush rfl).1
  · intro t' ht'
    obtain rfl : t = t' := Option.some.inj ht'
    show Function.update s.queue.telegram s.queue.tail t _ = t
    rw [htail, Function.update_self]
  · have := h.count_eq
    rw [hp] at this
    exact this
  · intro t' c hstore
    exact absurd hstore (by simp)

/-- **The move of `tail`.** -/
theorem Inv.move_tail (h : s.Inv held) {t : Telegram} (hp : s.producer = .tail t) :
    Inv { s with
      queue := { s.queue with tail := s.queue.tail + 1 }, producer := .load t } held := by
  have htail := h.tail_eq
  have hcount := h.count_eq
  have hwritten := h.written
  have hgranted := h.granted
  rw [hp] at htail hcount hwritten hgranted
  refine { h with
    written := hwritten, tail_eq := Queue.index_succ _ _ htail, count_eq := hcount
    granted := fun _ => hgranted rfl, producer_loaded := ?_
    apart := fun hl => absurd hl Bool.false_ne_true }
  · intro t' c hstore
    exact absurd hstore (by simp)

/-- **The store of the count.**  No store of the consumer lies between the load and this. -/
theorem Inv.store_count (h : s.Inv held) {t : Telegram} {c : ℤ} (hp : s.producer = .store t c) :
    Inv { s with queue := { s.queue with count := c + 1 }, producer := .post t } held := by
  have htail := h.tail_eq
  have hcount := h.count_eq
  have hwritten := h.written
  have hgranted := h.granted
  have hloaded := h.producer_loaded t c hp
  rw [hp] at htail hcount hwritten hgranted
  refine { h with
    written := hwritten, tail_eq := htail, count_eq := ?_
    granted := fun _ => hgranted rfl, producer_loaded := ?_, consumer_loaded := ?_
    apart := fun hl => absurd hl Bool.false_ne_true }
  · show c + 1 = held.length + (1 : ℕ)
    rw [hloaded, hcount]
    rfl
  · intro t' c' hstore
    exact absurd hstore (by simp)
  · -- Both threads would be between their load and their store.
    intro c' hstore
    have hfree := h.apart (by rw [hp]; rfl)
    rw [show s.consumer = .store c' from hstore] at hfree
    exact absurd hfree.symm Bool.false_ne_true

/-- **The `sem_post`**: the telegram is accepted, and lies behind those held. -/
theorem Inv.post (h : s.Inv held) {t : Telegram} (hp : s.producer = .post t) :
    Inv { s with
      queue := { s.queue with sem := s.queue.sem + 1 }
      producer := .idle
      accepted := s.accepted ++ [t] } (held ++ [t]) := by
  have htail := h.tail_eq
  have hcount := h.count_eq
  have hwritten := h.written t (by rw [hp]; rfl)
  have hroom : held.length < N := h.granted (by rw [hp]; rfl)
  rw [hp] at htail hcount
  have hlen : (held ++ [t]).length = held.length + 1 := by
    rw [List.length_append, List.length_singleton]
  refine { h with
    order := ?_, stored := ?_, written := ?_, fetched := ?_, tail_eq := ?_, count_eq := ?_
    sem_eq := ?_, room := ?_, granted := fun hg => absurd hg Bool.false_ne_true
    producer_loaded := ?_, apart := fun hl => absurd hl Bool.false_ne_true }
  · show s.accepted ++ [t] = s.delivered ++ (held ++ [t])
    rw [h.order, List.append_assoc]
  · show window s.queue.telegram s.delivered.length (held ++ [t]).length = held ++ [t]
    rw [hlen, window_concat, h.stored, hwritten]
  · intro t' ht'
    exact absurd ht' (by simp [ProducerPc.written])
  · intro hf
    show (held ++ [t]).head? = some s.buffer
    rw [List.head?_append, h.fetched hf]
    rfl
  · show s.queue.tail = slot N (s.delivered.length + (held ++ [t]).length + 0)
    rw [hlen]
    exact htail
  · show s.queue.count = ((held ++ [t]).length : ℤ) + (0 : ℕ)
    rw [hlen, hcount]
    rfl
  · show s.queue.sem + 1 + s.consumer.waited = (held ++ [t]).length
    rw [hlen, ← h.sem_eq]
    omega
  · rw [hlen]
    exact hroom
  · intro t' c hstore
    exact absurd hstore (by simp)

theorem produce_inv (h : s.Inv held) (hsep : Separate s .producer)
    (hstep : s.produce = some s') : ∃ held', s'.Inv held' := by
  unfold produce at hstep
  cases hp : s.producer with
  | idle =>
    rw [hp] at hstep
    exact absurd hstep (by simp)
  | test t =>
    rw [hp] at hstep
    simp only at hstep
    by_cases hfull : s.queue.count ≥ (N : ℤ)
    · rw [if_pos hfull] at hstep
      cases hstep
      exact ⟨held, h.producer_unwritten (by rw [hp]; rfl) (by rw [hp]; rfl) rfl rfl
        (fun hg => absurd hg Bool.false_ne_true)⟩
    · rw [if_neg hfull] at hstep
      cases hstep
      -- the count tested is the number of telegrams held
      have hcount := h.count_eq
      rw [hp] at hcount
      have hroom : held.length < N := by
        change s.queue.count = held.length + (0 : ℕ) at hcount
        omega
      exact ⟨held, h.producer_unwritten (by rw [hp]; rfl) (by rw [hp]; rfl) rfl rfl
        (fun _ => hroom)⟩
  | copy t =>
    rw [hp] at hstep
    cases hstep
    exact ⟨held, h.copy hp⟩
  | tail t =>
    rw [hp] at hstep
    cases hstep
    exact ⟨held, h.move_tail hp⟩
  | load t =>
    rw [hp] at hstep
    cases hstep
    refine ⟨held, h.producer_at (by rw [hp]; rfl) (by rw [hp]; rfl) (fun t ht => by rw [hp]; exact ht)
      (fun _ => h.granted (by rw [hp]; rfl)) ?_ ?_⟩
    · intro t' c hs
      cases hs
      rfl
    · -- The consumer is not between its load and its store: that is what `Separate` asks.
      intro _
      exact hsep (by rw [hp]; rfl)
  | store t c =>
    rw [hp] at hstep
    cases hstep
    exact ⟨held, h.store_count hp⟩
  | post t =>
    rw [hp] at hstep
    cases hstep
    exact ⟨held ++ [t], h.post hp⟩

/-- A call of `Queue_add` touches nothing yet. -/
theorem add_inv (h : s.Inv held) {t : Telegram} (hstep : s.add t = some s') :
    ∃ held', s'.Inv held' := by
  unfold add at hstep
  cases hp : s.producer with
  | idle =>
    rw [hp] at hstep
    cases hstep
    exact ⟨held, h.producer_unwritten (by rw [hp]; rfl) (by rw [hp]; rfl) rfl rfl
      (fun hg => absurd hg Bool.false_ne_true)⟩
  | _ =>
    rw [hp] at hstep
    exact absurd hstep (by simp)

/-! ### The consumer's steps -/

/-- A consumer that has its token, and has not delivered yet, finds a telegram held. -/
theorem Inv.held_of_waited (h : s.Inv held) (hc : s.consumer.waited = 1) :
    ∃ t rest, held = t :: rest := by
  have hsem := h.sem_eq
  rw [hc] at hsem
  cases held with
  | nil => exact absurd hsem (Nat.succ_ne_zero _)
  | cons t rest => exact ⟨t, rest, rfl⟩

/-- The consumer moves on without an access that changes the queue. -/
theorem Inv.consumer_at (h : s.Inv held) {pc : ConsumerPc} {buffer : Telegram}
    (hmoved : pc.moved = s.consumer.moved) (hwaited : pc.waited = s.consumer.waited)
    (hfetched : pc.fetched = true → held.head? = some buffer)
    (hloaded : ∀ c, pc = .store c → c = s.queue.count)
    (hapart : s.producer.loaded = true → pc.loaded = false) :
    Inv { s with consumer := pc, buffer := buffer } held :=
  { h with
    fetched := hfetched
    head_eq := by
      show s.queue.head = slot N (s.delivered.length + pc.moved)
      rw [hmoved]
      exact h.head_eq
    sem_eq := by
      show s.queue.sem + pc.waited = held.length
      rw [hwaited]
      exact h.sem_eq
    consumer_loaded := hloaded
    apart := hapart }

/-- **The `sem_wait`** takes a token that one of the telegrams held has left. -/
theorem Inv.take_token (h : s.Inv held) (hc : s.consumer = .wait) {sem : ℕ}
    (hsem : semWait s.queue.sem .acquired = some sem) :
    Inv { s with queue := { s.queue with sem := sem }, consumer := .test } held := by
  have hhead := h.head_eq
  have hold := h.sem_eq
  rw [hc] at hhead hold
  -- The wait went through, so there was a token.
  have hval : s.queue.sem = sem + 1 := by
    unfold semWait at hsem
    by_cases hzero : s.queue.sem = 0
    · simp [hzero] at hsem
    · rw [if_neg hzero] at hsem
      have := Option.some.inj hsem
      omega
  refine { h with
    fetched := fun hf => absurd hf Bool.false_ne_true, head_eq := hhead, sem_eq := ?_
    consumer_loaded := ?_, apart := fun _ => rfl }
  · show sem + 1 = held.length
    rw [← hold, hval]
    rfl
  · intro c hstore
    exact absurd hstore (by simp)

/-- The consumer's copy is the oldest telegram held. -/
theorem Inv.oldest (h : s.Inv held) (hc : s.consumer = .copy) :
    held.head? = some (s.queue.telegram s.queue.head) := by
  obtain ⟨t, rest, rfl⟩ := h.held_of_waited (by rw [hc]; rfl)
  have hstored := h.stored
  rw [List.length_cons, window_pop] at hstored
  have hhead := h.head_eq
  rw [hc] at hhead
  have hslot : s.queue.head = slot N s.delivered.length := hhead
  rw [hslot, (List.cons.inj hstored).1]
  rfl

/-- **The move of `head`.** -/
theorem Inv.move_head (h : s.Inv held) (hc : s.consumer = .head) :
    Inv { s with
      queue := { s.queue with head := s.queue.head + 1 }, consumer := .load } held := by
  have hhead := h.head_eq
  have hsem := h.sem_eq
  have hfetched := h.fetched
  rw [hc] at hhead hsem hfetched
  refine { h with
    fetched := fun _ => hfetched rfl, head_eq := Queue.index_succ _ _ hhead, sem_eq := hsem
    consumer_loaded := ?_, apart := fun _ => rfl }
  · intro c hstore
    exact absurd hstore (by simp)

/-- **The store of the count**: the oldest telegram held is delivered.  No store of the
    producer lies between the load and this. -/
theorem Inv.deliver (h : s.Inv held) {c : ℤ} (hc : s.consumer = .store c) :
    ∃ held', Inv { s with
      queue := { s.queue with count := c - 1 }
      consumer := .wait
      delivered := s.delivered ++ [s.buffer] } held' := by
  obtain ⟨t, rest, rfl⟩ := h.held_of_waited (by rw [hc]; rfl)
  -- The consumer's buffer is the oldest telegram.
  have hbuffer : t = s.buffer := Option.some.inj (h.fetched (by rw [hc]; rfl))
  subst hbuffer
  have hloaded := h.consumer_loaded c hc
  have hhead := h.head_eq
  have hsem := h.sem_eq
  have hstored := h.stored
  rw [hc] at hhead hsem
  rw [List.length_cons, window_pop] at hstored
  have hlen : (s.delivered ++ [s.buffer]).length = s.delivered.length + 1 := by
    rw [List.length_append, List.length_singleton]
  -- One more is delivered and one less is held, so the position behind them is the same.
  have hshift : ∀ k, (s.delivered ++ [s.buffer]).length + rest.length + k
      = s.delivered.length + (s.buffer :: rest).length + k := by
    intro k
    rw [hlen, List.length_cons]
    omega
  refine ⟨rest, { h with
    order := ?_, stored := ?_, written := ?_
    fetched := fun hf => absurd hf Bool.false_ne_true
    tail_eq := ?_, head_eq := ?_, count_eq := ?_, sem_eq := ?_, room := ?_, granted := ?_
    producer_loaded := ?_, consumer_loaded := ?_, apart := fun _ => rfl }⟩
  · show s.accepted = s.delivered ++ [s.buffer] ++ rest
    rw [h.order, List.append_assoc]
    rfl
  · show window s.queue.telegram (s.delivered ++ [s.buffer]).length rest.length = rest
    rw [hlen]
    exact (List.cons.inj hstored).2
  · intro t' ht'
    show s.queue.telegram (slot N ((s.delivered ++ [s.buffer]).length + rest.length)) = t'
    have hslot := hshift 0
    rw [Nat.add_zero, Nat.add_zero] at hslot
    rw [hslot]
    exact h.written t' ht'
  · show s.queue.tail = slot N ((s.delivered ++ [s.buffer]).length + rest.length
      + s.producer.moved)
    rw [hshift]
    exact h.tail_eq
  · show s.queue.head = slot N ((s.delivered ++ [s.buffer]).length + 0)
    rw [hlen]
    exact hhead
  · show c - 1 = (rest.length : ℤ) + s.producer.counted
    rw [hloaded, h.count_eq, List.length_cons]
    push_cast
    omega
  · show s.queue.sem + 0 = rest.length
    rw [List.length_cons] at hsem
    exact Nat.succ.inj hsem
  · have := h.room
    rw [List.length_cons] at this
    omega
  · intro hg
    have := h.granted hg
    rw [List.length_cons] at this
    omega
  · intro t' c' hstore
    have hfree := h.apart (by rw [show s.producer = .store t' c' from hstore]; rfl)
    rw [hc] at hfree
    exact absurd hfree.symm Bool.false_ne_true
  · intro c' hstore
    exact absurd hstore (by simp)

theorem consume_inv (h : s.Inv held) (hsep : Separate s .consumer)
    (hstep : s.consume = some s') : ∃ held', s'.Inv held' := by
  unfold consume at hstep
  cases hc : s.consumer with
  | wait =>
    rw [hc] at hstep
    obtain ⟨sem, hsem, rfl⟩ := Option.map_eq_some_iff.mp hstep
    exact ⟨held, h.take_token hc hsem⟩
  | test =>
    rw [hc] at hstep
    simp only at hstep
    -- the consumer has its token, so the count it tests is not zero
    have hcount : ¬ s.queue.count ≤ 0 := by
      obtain ⟨t, rest, rfl⟩ := h.held_of_waited (by rw [hc]; rfl)
      rw [h.count_eq, List.length_cons]
      omega
    rw [if_neg hcount] at hstep
    cases hstep
    exact ⟨held, h.consumer_at (by rw [hc]; rfl) (by rw [hc]; rfl)
      (fun hf => absurd hf (by decide)) (fun c hs => absurd hs (by simp))
      (fun _ => rfl)⟩
  | copy =>
    rw [hc] at hstep
    cases hstep
    exact ⟨held, h.consumer_at (by rw [hc]; rfl) (by rw [hc]; rfl) (fun _ => h.oldest hc)
      (fun c hs => absurd hs (by simp)) (fun _ => rfl)⟩
  | head =>
    rw [hc] at hstep
    cases hstep
    exact ⟨held, h.move_head hc⟩
  | load =>
    rw [hc] at hstep
    cases hstep
    refine ⟨held, h.consumer_at (by rw [hc]; rfl) (by rw [hc]; rfl)
      (fun _ => h.fetched (by rw [hc]; rfl)) ?_ ?_⟩
    · intro c hs
      cases hs
      rfl
    · intro hl
      -- The producer is not between its load and its store.
      have hfree := hsep (by rw [hc]; rfl)
      rw [hl] at hfree
      exact absurd hfree.symm Bool.false_ne_true
  | store c =>
    rw [hc] at hstep
    cases hstep
    exact h.deliver hc

/-! ### Runs -/

theorem step_inv (h : s.Inv held) {e : Event} (hsep : Separate s e)
    (hstep : s.step e = some s') : ∃ held', s'.Inv held' := by
  cases e with
  | add t => exact add_inv h hstep
  | producer => exact produce_inv h hsep hstep
  | consumer => exact consume_inv h hsep hstep

/-- **The queue works while the loads and stores of `count` do not interleave.**  At the end
    of every such run no `Queue_getNext` has failed; the telegrams accepted and not delivered
    lie in their slots, the others have been delivered in order; and between two calls the
    count and the semaphore both are their number. -/
theorem threads_separate {queue : Queue N} {buffer : Telegram} {es : List Event}
    (h : Run step (start queue buffer) es s) (hsep : Along step Separate (start queue buffer) es) :
    s.failures = 0 ∧
      ∃ held, s.accepted = s.delivered ++ held ∧
        window s.queue.telegram s.delivered.length held.length = held ∧
        (s.producer = .idle → s.consumer = .wait →
          s.queue.Holds held ∧ s.queue.count = s.queue.sem ∧
            s.queue.count = (s.accepted.length : ℤ) - s.delivered.length) := by
  -- By the invariant rule for runs whose steps all meet `Separate`.
  obtain ⟨held, hinv⟩ := h.invariant_along (I := fun s => ∃ held, s.Inv held) hsep
    ⟨[], start_inv queue buffer⟩ fun t e t' ⟨held, ht⟩ hC hstep => step_inv ht hC hstep
  refine ⟨hinv.failures, held, hinv.order, hinv.stored, fun hp hc => ?_⟩
  have htail := hinv.tail_eq
  have hhead := hinv.head_eq
  have hcount := hinv.count_eq
  have hsem := hinv.sem_eq
  rw [hp] at htail hcount
  rw [hc] at hhead hsem
  have hval : s.queue.head.val = s.delivered.length % N := by
    rw [hhead]
    rfl
  have hlen : s.accepted.length = s.delivered.length + held.length := by
    rw [hinv.order, List.length_append]
  change s.queue.count = held.length + (0 : ℕ) at hcount
  change s.queue.sem + 0 = held.length at hsem
  refine ⟨⟨?_, ?_, ?_, hinv.room⟩, ?_, ?_⟩
  · rw [hval, window_mod]
    exact hinv.stored
  · rw [htail, hval]
    ext
    rw [slot_val, slot_val, Nat.mod_add_mod]
    rfl
  · omega
  · omega
  · omega

/-! ### Two runs -/

/-- The accesses of an undisturbed `Queue_add`. -/
def addEvents (telegram : Telegram) : List Event := .add telegram :: List.replicate 6 .producer

/-- The accesses of an undisturbed `Queue_getNext`. -/
def getNextEvents : List Event := List.replicate 6 .consumer

/-- A queue before `Queue_init`. -/
def rawQueue : Queue queueSize := ⟨fun _ => ⟨0, 0, 0, 0⟩, 0, 0, 0, 0⟩

/-- A second call of the producer starts while the consumer takes the first telegram, and has
    not reached its load when the consumer stores. -/
def separateRun : List Event :=
  addEvents ⟨1, 0, 1, 2⟩ ++ [.consumer, .add ⟨1, 0, 3, 4⟩, .consumer, .producer, .consumer,
    .producer, .consumer, .producer, .consumer, .consumer, .producer, .producer, .producer]

theorem threads_separate_sample :
    ∃ s : Threads queueSize, Run step (start rawQueue ⟨0, 0, 0, 0⟩) separateRun s ∧
      (s.producer = .idle ∧ s.consumer = .wait) ∧ s.failures = 0 ∧
      ∃ held, s.accepted = s.delivered ++ held ∧
        window s.queue.telegram s.delivered.length held.length = held ∧
        (s.producer = .idle → s.consumer = .wait →
          s.queue.Holds held ∧ s.queue.count = s.queue.sem ∧
            s.queue.count = (s.accepted.length : ℤ) - s.delivered.length) :=
  ⟨(separateRun.foldlM step (start rawQueue ⟨0, 0, 0, 0⟩)).get (by decide), run_get _ _ _,
    by decide, threads_separate (run_get (start rawQueue ⟨0, 0, 0, 0⟩) separateRun (by decide)) (by decide)⟩

/-- The producer loads `count` for a second telegram, the consumer takes the first one whole,
    and the producer stores. -/
def lostUpdateRun : List Event :=
  addEvents ⟨1, 0, 1, 2⟩ ++ [.add ⟨1, 0, 3, 4⟩, .producer, .producer, .producer, .producer]
    ++ getNextEvents ++ [.producer, .producer]

/-- **A lost update.**  Between two calls one telegram is in the queue and one token in the
    semaphore, but the count says two. -/
theorem threads_lost_update :
    ∃ s : Threads queueSize, Run step (start rawQueue ⟨0, 0, 0, 0⟩) lostUpdateRun s ∧
      (s.producer = .idle ∧ s.consumer = .wait) ∧ s.queue.count = 2 ∧ s.queue.sem = 1 ∧
      s.accepted.length = 2 ∧ s.delivered.length = 1 :=
  ⟨(lostUpdateRun.foldlM step (start rawQueue ⟨0, 0, 0, 0⟩)).get (by decide),
    (Option.some_get _).symm, by decide, by decide, by decide, by decide, by decide⟩

end Threads

end RtTaskTrace
