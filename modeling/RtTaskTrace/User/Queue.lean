import RtTaskTrace.Lib.Ring
import RtTaskTrace.Common.Telegram

namespace RtTaskTrace

open Ring

/-!
# The telegram queue (`TaskTrace/Gateway/Queue`)

The bounded queue between the traced task, which adds, and its gateway thread, which takes.
This file has the two calls as they run undisturbed; `QueueThreads.lean` has them step by
step.  The capacity is a parameter; the program's own is `queueSize`.

* `Queue.add` / `Queue.getNext` — the two calls as the code makes them;
* `Queue.Holds q ts` — the queue stores exactly the telegrams `ts`: indices, count and
  semaphore agree;
* `holds_init`, `add_of_room`, `add_of_full`, `getNext_cons` — the calls on a queue that
  holds a known content.
-/

/-- `QUEUE_SIZE`. -/
abbrev queueSize : ℕ := 1000

instance : NeZero queueSize := ⟨Nat.succ_ne_zero 999⟩

/-- `Queue`: the slots, the two indices, the element count and the semaphore's value. -/
structure Queue (N : ℕ) where
  telegram : Fin N → Telegram
  head : Fin N
  tail : Fin N
  count : ℤ
  sem : ℕ

/-- How a `sem_wait` comes back: with a token, or interrupted without one. -/
inductive WaitOutcome
  | acquired
  | interrupted
  deriving DecidableEq, Repr

/-- `sem_wait` on a semaphore of value `sem`; `none` while the call blocks. -/
def semWait (sem : ℕ) : WaitOutcome → Option ℕ
  | .acquired => if sem = 0 then none else some (sem - 1)
  | .interrupted => some sem

variable {N : ℕ} [NeZero N]

namespace Queue

/-- `Queue_init`. -/
def init (me : Queue N) : Queue N :=
  { me with head := 0, tail := 0, count := 0, sem := 0 }

/-- `Queue_add`: the queue afterwards and the code returned. -/
def add (me : Queue N) (telegram : Telegram) : Queue N × ℤ :=
  if me.count ≥ N then (me, -1)
  else
    ({ me with
        telegram := Function.update me.telegram me.tail telegram
        tail := me.tail + 1
        count := me.count + 1
        sem := me.sem + 1 }, 0)

/-- `Queue_getNext`: the queue afterwards, the caller's telegram buffer and the code
    returned; `none` while `sem_wait` blocks. -/
def getNext (me : Queue N) (wait : WaitOutcome) (telegram : Telegram) :
    Option (Queue N × Telegram × ℤ) :=
  (semWait me.sem wait).map fun sem =>
    if me.count ≤ 0 then ({ me with sem := sem }, telegram, -1)
    else
      ({ me with head := me.head + 1, count := me.count - 1, sem := sem },
        me.telegram me.head, 0)

/-! ### What a queue holds -/

/-- The queue stores exactly `ts`, oldest first: they fill the slots from `head` on, `tail`
    is the slot behind them, and the count is their number. -/
structure Holds (me : Queue N) (ts : List Telegram) : Prop where
  stored : window me.telegram me.head.val ts.length = ts
  tail_eq : me.tail = slot N (me.head.val + ts.length)
  count_eq : me.count = ts.length
  room : ts.length ≤ N

/-- Moving an index circularly is moving a position by one. -/
theorem index_succ (i : Fin N) (p : ℕ) (h : i = slot N p) : i + 1 = slot N (p + 1) := by
  subst h
  ext
  rw [Fin.val_add, slot_val, slot_val]
  -- A queue of one slot has one index only.
  rcases Nat.eq_or_lt_of_le (Nat.one_le_iff_ne_zero.mpr (NeZero.ne N)) with hone | hlt
  · subst hone
    omega
  · have hval : ((1 : Fin N) : ℕ) = 1 := by
      rw [Fin.val_one', Nat.mod_eq_of_lt hlt]
    rw [hval, Nat.mod_add_mod]

theorem slot_of_val (i : Fin N) : slot N i.val = i :=
  Fin.ext (by rw [slot_val, Nat.mod_eq_of_lt i.isLt])

theorem holds_init (me : Queue N) : me.init.Holds [] where
  stored := rfl
  tail_eq := by
    show (0 : Fin N) = slot N (0 + 0)
    exact Fin.ext (by simp)
  count_eq := rfl
  room := Nat.zero_le _

/-- **Adding with room** appends the telegram. -/
theorem add_of_room {me : Queue N} {ts : List Telegram} (h : me.Holds ts)
    (hroom : ts.length < N) (telegram : Telegram) :
    (me.add telegram).2 = 0 ∧ (me.add telegram).1.Holds (ts ++ [telegram])
      ∧ (me.add telegram).1.sem = me.sem + 1 := by
  have hcount : ¬ me.count ≥ (N : ℤ) := by
    rw [h.count_eq]
    omega
  rw [add, if_neg hcount]
  refine ⟨rfl, ⟨?_, ?_, ?_, ?_⟩, rfl⟩
  · -- The telegram goes into the slot behind the window.
    show window (Function.update me.telegram me.tail telegram) me.head.val
      (ts ++ [telegram]).length = ts ++ [telegram]
    rw [List.length_append, List.length_singleton, h.tail_eq, window_push _ _ _ _ hroom,
      h.stored]
  · show me.tail + 1 = slot N (me.head.val + (ts ++ [telegram]).length)
    rw [index_succ _ _ h.tail_eq, List.length_append, List.length_singleton, Nat.add_assoc]
  · show me.count + 1 = ((ts ++ [telegram]).length : ℤ)
    rw [h.count_eq, List.length_append, List.length_singleton]
    rfl
  · rw [List.length_append, List.length_singleton]
    exact hroom

/-- **Adding to a full queue** is refused and changes nothing. -/
theorem add_of_full {me : Queue N} {ts : List Telegram} (h : me.Holds ts)
    (hfull : ts.length = N) (telegram : Telegram) : me.add telegram = (me, -1) := by
  have hcount : me.count ≥ (N : ℤ) := by
    rw [h.count_eq, hfull]
  rw [add, if_pos hcount]

/-- **An add is refused** exactly when the queue is full. -/
theorem add_refused_iff {me : Queue N} {ts : List Telegram} (h : me.Holds ts)
    (telegram : Telegram) : (me.add telegram).2 = -1 ↔ ts.length = N := by
  constructor
  · intro hret
    by_contra hne
    have hroom := lt_of_le_of_ne h.room hne
    rw [(add_of_room h hroom telegram).1] at hret
    exact absurd hret (by decide)
  · intro hfull
    rw [add_of_full h hfull telegram]

/-- **Taking from a queue that holds something** delivers the oldest telegram. -/
theorem getNext_cons {me : Queue N} {t : Telegram} {ts : List Telegram}
    (h : me.Holds (t :: ts)) (wait : WaitOutcome) (buffer : Telegram)
    {q : Queue N} {b : Telegram} {r : ℤ} (hnext : me.getNext wait buffer = some (q, b, r)) :
    r = 0 ∧ b = t ∧ q.Holds ts ∧ semWait me.sem wait = some q.sem := by
  -- The count is the number of telegrams held, so it is positive.
  have hcount : ¬ me.count ≤ 0 := by
    rw [h.count_eq, List.length_cons]
    omega
  obtain ⟨sem, hsem, heq⟩ := Option.map_eq_some_iff.mp hnext
  rw [if_neg hcount] at heq
  cases heq
  -- the window splits into the oldest telegram and the window from the next slot on
  have hwin := h.stored
  rw [List.length_cons, window_pop, slot_of_val] at hwin
  obtain ⟨hb, hrest⟩ := List.cons.inj hwin
  have hhead : me.head + 1 = slot N (me.head.val + 1) :=
    index_succ _ _ (slot_of_val me.head).symm
  refine ⟨rfl, hb, ⟨?_, ?_, ?_, ?_⟩, hsem⟩
  · show window me.telegram (me.head + 1).val ts.length = ts
    rw [hhead, slot_val, window_mod]
    exact hrest
  · show me.tail = slot N ((me.head + 1).val + ts.length)
    rw [h.tail_eq, hhead, List.length_cons]
    ext
    rw [slot_val, slot_val, slot_val, Nat.mod_add_mod]
    congr 1
    omega
  · show me.count - 1 = (ts.length : ℤ)
    rw [h.count_eq, List.length_cons]
    omega
  · have := h.room
    rw [List.length_cons] at this
    omega

/-- **Taking from an empty queue** fails and leaves it empty. -/
theorem getNext_nil {me : Queue N} (h : me.Holds []) (wait : WaitOutcome) (buffer : Telegram)
    {q : Queue N} {b : Telegram} {r : ℤ} (hnext : me.getNext wait buffer = some (q, b, r)) :
    r = -1 ∧ b = buffer ∧ q.Holds [] ∧ semWait me.sem wait = some q.sem := by
  have hcount : me.count ≤ 0 := by
    rw [h.count_eq]
    rfl
  obtain ⟨sem, hsem, heq⟩ := Option.map_eq_some_iff.mp hnext
  rw [if_pos hcount] at heq
  cases heq
  exact ⟨rfl, rfl, ⟨h.stored, h.tail_eq, h.count_eq, h.room⟩, hsem⟩

end Queue

end RtTaskTrace
