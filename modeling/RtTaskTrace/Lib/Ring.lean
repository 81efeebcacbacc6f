import Mathlib.Algebra.GroupWithZero.Nat
import Mathlib.Data.Fin.Basic
import Mathlib.Data.List.Range
import Mathlib.Logic.Function.Basic

/-!
# Circular buffers

A circular buffer is an array `buf : Fin N → α` read from a position on, wrapping at `N`.
Positions are absolute: position `p` is slot `p % N`, so a producer that has stored `a`
elements writes next at position `a`, and a consumer that has taken `d` reads next at `d`.

* `window buf start len` — the `len` elements from position `start` on;
* `window_push` / `window_pop` — what writing behind the window and dropping its first
  element do to it: the two ends of a bounded queue;
* `window_push_full` — what writing behind a full window does to it: the step of a buffer that
  keeps the latest `N` elements;
* `Latest buf w` — the buffer has been written round and round with the elements of `w`, so that
  the last `N` are in their slots; `Latest.push`, `Latest.read` say what one more write does and
  what reading a position finds, also when its element has been overwritten;
* `slot_ne_of_lt` — positions less than `N` apart are different slots, which is why a write
  behind a window that is not full overwrites nothing in it.
-/

namespace Ring

variable {α : Type*} {N : ℕ} [NeZero N]

/-- The slot of an absolute position. -/
def slot (N : ℕ) [NeZero N] (p : ℕ) : Fin N := Fin.ofNat N p

@[simp] theorem slot_val (p : ℕ) : (slot N p).val = p % N := rfl

/-- Positions less than `N` apart are different slots. -/
theorem slot_ne_of_lt {p q : ℕ} (hlt : p < q) (h : q < p + N) : slot N p ≠ slot N q := by
  intro heq
  have hmod : q % N = p % N := by simpa using (congrArg Fin.val heq).symm
  have hdvd : N ∣ q - p := Nat.dvd_of_mod_eq_zero (Nat.sub_mod_eq_zero_of_mod_eq hmod)
  have := Nat.le_of_dvd (by omega) hdvd
  omega

/-- The `len` elements of the buffer from position `start` on, in order. -/
def window (buf : Fin N → α) (start len : ℕ) : List α :=
  (List.range len).map fun i => buf (slot N (start + i))

/-- A window only depends on the slots it covers. -/
theorem window_congr {buf buf' : Fin N → α} {start len : ℕ}
    (h : ∀ i < len, buf (slot N (start + i)) = buf' (slot N (start + i))) :
    window buf start len = window buf' start len :=
  List.map_congr_left fun i hi => h i (List.mem_range.mp hi)

/-- A window may be read from the slot of its start. -/
theorem window_mod (buf : Fin N → α) (start len : ℕ) :
    window buf (start % N) len = window buf start len := by
  refine List.map_congr_left fun i _ => congrArg buf (Fin.ext ?_)
  simp

/-- A window only depends on the slot it starts in. -/
theorem window_start_congr {buf : Fin N → α} {start start' : ℕ} (h : start % N = start' % N)
    (len : ℕ) : window buf start len = window buf start' len := by
  rw [← window_mod, h, window_mod]

/-- **Dropping the first element** moves the start by one. -/
theorem window_pop (buf : Fin N → α) (start len : ℕ) :
    window buf start (len + 1) = buf (slot N start) :: window buf (start + 1) len := by
  simp only [window, List.range_succ_eq_map, List.map_cons, List.map_map, Nat.add_zero]
  -- The elements after the first are those of the window one further on.
  refine congrArg _ (List.map_congr_left fun i _ => ?_)
  simp only [Function.comp, Nat.succ_eq_add_one]
  congr 2
  omega

/-- A window is extended by the element behind it. -/
theorem window_concat (buf : Fin N → α) (start len : ℕ) :
    window buf start (len + 1) = window buf start len ++ [buf (slot N (start + len))] := by
  simp [window, List.range_succ]

/-- **Writing behind a window that is not full** appends the element and touches nothing
    else of it. -/
theorem window_push (buf : Fin N → α) (start len : ℕ) (x : α) (h : len < N) :
    window (Function.update buf (slot N (start + len)) x) start (len + 1)
      = window buf start len ++ [x] := by
  rw [window_concat, Function.update_self]
  congr 1
  -- The slot written is none of those the window covers.
  refine window_congr fun i hi => Function.update_of_ne ?_ _ _
  exact slot_ne_of_lt (by omega) (by omega)

/-- **Writing behind a full window** overwrites its first element. -/
theorem window_push_full (buf : Fin N → α) (start : ℕ) (x : α) :
    window (Function.update buf (slot N start) x) (start + 1) N
      = (window buf start N).tail ++ [x] := by
  obtain ⟨n, rfl⟩ : ∃ n, N = n + 1 := Nat.exists_eq_succ_of_ne_zero (NeZero.ne N)
  -- The slot behind the window is the one it starts in.
  have hslot : slot (n + 1) start = slot (n + 1) (start + 1 + n) := by
    ext
    rw [slot_val, slot_val, Nat.add_assoc, Nat.add_comm 1 n, Nat.add_mod_right]
  rw [window_pop buf, List.tail_cons, hslot]
  exact window_push buf (start + 1) n x (Nat.lt_succ_self n)

/-- Positions a multiple of `N` apart are one slot. -/
theorem slot_add_mul (p m : ℕ) : slot N (p + N * m) = slot N p :=
  Fin.ext (by rw [slot_val, slot_val, Nat.add_mul_mod_self_left])

/-- The elements `w` have been written one behind the other: the last `N` are in their slots. -/
def Latest (buf : Fin N → α) (w : List α) : Prop :=
  ∀ p x, w[p]? = some x → w.length ≤ p + N → buf (slot N p) = x

/-- **One more element** goes into the slot of the oldest. -/
theorem Latest.push {buf : Fin N → α} {w : List α} (h : Latest buf w) (x : α) :
    Latest (Function.update buf (slot N w.length) x) (w ++ [x]) := by
  intro p y hy hlen
  rw [List.length_append, List.length_singleton] at hlen
  rcases Nat.lt_trichotomy p w.length with hlt | rfl | hgt
  · -- an element written before, less than `N` positions ago
    rw [List.getElem?_append_left hlt] at hy
    rw [Function.update_of_ne (slot_ne_of_lt hlt (by omega))]
    exact h p y hy (by omega)
  · rw [List.getElem?_concat_length] at hy
    rw [Function.update_self]
    exact Option.some.inj hy
  · rw [List.getElem?_eq_none (by rw [List.length_append, List.length_singleton]; omega)] at hy
    exact absurd hy (by simp)

/-- **What reading a position finds**: the last element written to its slot, which is the
    position's own while less than `N` have been written since. -/
theorem Latest.read {buf : Fin N → α} {w : List α} (h : Latest buf w) {p : ℕ}
    (hp : p < w.length) :
    ∃ m, w[p + N * m]? = some (buf (slot N p)) ∧ (w.length ≤ p + N → m = 0) := by
  have hN : 0 < N := Nat.pos_of_ne_zero (NeZero.ne N)
  -- the last of the positions of the slot that has been written
  obtain ⟨m, hm⟩ : ∃ m, m = (w.length - 1 - p) / N := ⟨_, rfl⟩
  have hle : N * m ≤ w.length - 1 - p := by
    rw [hm]
    exact Nat.mul_div_le _ _
  have hlt : w.length - 1 - p < N * m + N := by
    rw [hm]
    have := Nat.lt_mul_div_succ (w.length - 1 - p) hN
    rwa [Nat.mul_add, Nat.mul_one] at this
  refine ⟨m, ?_, fun hlast => ?_⟩
  · have hidx : p + N * m < w.length := by omega
    rw [List.getElem?_eq_getElem hidx, ← slot_add_mul p m]
    exact congrArg some (h _ _ (List.getElem?_eq_getElem hidx) (by omega)).symm
  · rw [hm, Nat.div_eq_of_lt]
    omega

end Ring
