import Mathlib.Data.Nat.Notation

/-!
# Text buffers of fixed capacity

A text that ends with a zero lies in an array of fixed capacity.  Writing and appending do not
look at the capacity; a text that is too long for it makes them fail here, where a program
overruns the array.  Cutting never fails, but may leave a part of the text out.

* `Buffer` — a text that fits together with its zero;
* `Buffer.write`, `Buffer.append` — the operations that fail;
* `Buffer.write_bind_append` — texts put together piece by piece;
* `Buffer.cut` — the operation that leaves a part out.
-/

namespace Text

/-- A text that fits, with its zero, into an array of `capacity` characters. -/
@[ext]
structure Buffer (capacity : ℕ) where
  text : String
  fits : text.length < capacity
  deriving DecidableEq, Repr

namespace Buffer

variable {capacity : ℕ} {text more : String} {b : Buffer capacity}

/-- Write a text from the start of the array. -/
def write (capacity : ℕ) (text : String) : Option (Buffer capacity) :=
  if h : text.length < capacity then some ⟨text, h⟩ else none

/-- Write a text behind the one that is there. -/
def append (b : Buffer capacity) (more : String) : Option (Buffer capacity) :=
  write capacity (b.text ++ more)

/-- Write as much of a text as there is room for. -/
def cut (capacity : ℕ) (text : String) (h : 0 < capacity) : Buffer capacity where
  text := String.ofList (text.toList.take (capacity - 1))
  fits := by
    rw [String.length_ofList, List.length_take]
    omega

/-- **A write succeeds** when the text is shorter than the array. -/
theorem isSome_write : (write capacity text).isSome = true ↔ text.length < capacity := by
  unfold write
  split
  · rename_i h
    simp [h]
  · rename_i h
    simp [h]

/-- What is written is the text. -/
theorem write_eq_some : write capacity text = some b ↔ b.text = text := by
  unfold write
  split
  · rw [Option.some_inj]
    constructor
    · rintro rfl
      rfl
    · intro h
      exact Buffer.ext h.symm
  · rename_i hlong
    constructor
    · intro h
      cases h
    · rintro rfl
      exact absurd b.fits hlong

/-- **A text put together from two pieces** is written as the whole is: if the first piece does
    not fit, the whole does not either. -/
theorem write_bind_append :
    ((write capacity text).bind fun b => b.append more) = write capacity (text ++ more) := by
  cases hfirst : write capacity text with
  | some b =>
    rw [Option.bind_some, append, write_eq_some.mp hfirst]
  | none =>
    have hlong : ¬ text.length < capacity := by
      rw [← isSome_write, hfirst]
      simp
    rw [Option.bind_none, write, dif_neg]
    rw [String.length_append]
    omega

/-- **Nothing is cut off** exactly when the text fits. -/
theorem cut_text_iff (h : 0 < capacity) :
    (cut capacity text h).text = text ↔ text.length < capacity := by
  constructor
  · intro heq
    rw [← heq]
    exact (cut capacity text h).fits
  · intro hlt
    have htake : text.toList.take (capacity - 1) = text.toList := by
      apply List.take_of_length_le
      rw [String.length_toList]
      omega
    change String.ofList (text.toList.take (capacity - 1)) = text
    rw [htake, String.ofList_toList]

end Buffer

end Text
