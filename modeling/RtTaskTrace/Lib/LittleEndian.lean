import Mathlib.Data.Nat.Basic
import Mathlib.Algebra.Order.Ring.Nat
import Mathlib.Tactic.Ring

/-!
# Numbers as little-endian bytes

How a machine stores an unsigned number in `w` bytes: the least significant byte first.
`leBytes w n` writes it, `leNat` reads it back, and `leNat_leBytes` is the round trip for
numbers that fit.
-/

namespace LittleEndian

/-- The `w` bytes of `n`, least significant first. -/
def leBytes : ℕ → ℕ → List UInt8
  | 0, _ => []
  | w + 1, n => UInt8.ofNat n :: leBytes w (n / 256)

/-- The number stored in a list of bytes. -/
def leNat (bytes : List UInt8) : ℕ :=
  bytes.foldr (fun b n => b.toNat + 256 * n) 0

@[simp] theorem leBytes_length (w n : ℕ) : (leBytes w n).length = w := by
  induction w generalizing n with
  | zero => rfl
  | succ w ih => simp [leBytes, ih]

/-- **Round trip.**  A number that fits in `w` bytes is read back unaltered. -/
theorem leNat_leBytes {w n : ℕ} (h : n < 256 ^ w) : leNat (leBytes w n) = n := by
  induction w generalizing n with
  | zero =>
    have hn : n = 0 := by simpa using h
    rw [hn]
    rfl
  | succ w ih =>
    have hrest : n / 256 < 256 ^ w := by
      rw [Nat.div_lt_iff_lt_mul (by norm_num)]
      rwa [pow_succ] at h
    have hbyte : (UInt8.ofNat n).toNat = n % 256 := by simp
    show (UInt8.ofNat n).toNat + 256 * leNat (leBytes w (n / 256)) = n
    rw [ih hrest, hbyte]
    omega

end LittleEndian
