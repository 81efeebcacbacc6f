import Mathlib.Data.List.Infix

/-!
# Queues that give up their oldest element

A queue of at most `N` elements, oldest first, that always takes a new one: a full queue gives
up its oldest for it.

* `push N held a` — the queue with `a` behind it;
* `kept N held` — what of the queue it leaves; `push_eq`, `length_kept_lt`;
* `push_suffix`, `tail_suffix` — whatever is pushed and popped, the queue is what was pushed
  last, in that order.
-/

namespace DropOldest

variable {α : Type*} {N : ℕ} {held added : List α}

/-- The queue with a new element. -/
def push (N : ℕ) (held : List α) (a : α) : List α :=
  if held.length < N then held ++ [a] else held.tail ++ [a]

theorem push_of_lt (h : held.length < N) (a : α) : push N held a = held ++ [a] := if_pos h

/-- **A full queue gives up its oldest element**, and no other. -/
theorem push_of_full (h : held.length = N) (a : α) : push N held a = held.tail ++ [a] :=
  if_neg h.not_lt

/-- What a new element leaves of the queue: all but the oldest element of a full one. -/
def kept (N : ℕ) (held : List α) : List α := if held.length < N then held else held.tail

theorem kept_of_lt (h : held.length < N) : kept N held = held := if_pos h

theorem kept_map {β : Type*} (f : α → β) (N : ℕ) (held : List α) :
    (kept N held).map f = kept N (held.map f) := by
  unfold kept
  rw [List.length_map]
  split
  · rfl
  · exact List.map_tail

theorem push_eq (N : ℕ) (held : List α) (a : α) : push N held a = kept N held ++ [a] := by
  unfold push kept
  split <;> rfl

/-- There is room for the new element in it. -/
theorem length_kept_lt (hN : 0 < N) (h : held.length ≤ N) : (kept N held).length < N := by
  unfold kept
  split
  · assumption
  · rw [List.length_tail]
    omega

/-- What is held is what was pushed last. -/
theorem push_suffix (h : held <:+ added) (a : α) : push N held a <:+ added ++ [a] := by
  obtain ⟨before, rfl⟩ := h
  unfold push
  split
  · exact ⟨before, (List.append_assoc _ _ _).symm⟩
  · -- Without its oldest element it still is.
    obtain ⟨oldest, htail⟩ := List.tail_suffix held
    refine ⟨before ++ oldest, ?_⟩
    rw [← List.append_assoc, List.append_assoc before, htail]

theorem tail_suffix (h : held <:+ added) : held.tail <:+ added :=
  (List.tail_suffix held).trans h

end DropOldest
