import Mathlib.Data.List.Basic
import Mathlib.Data.List.Induction
import Mathlib.Data.Int.Notation

/-!
# Decimal numerals

Core has the digits of a number (`Nat.toDigits`) and the number of a row of digits
(`Nat.ofDigitChars`), and that the second undoes the first.  The other way round holds for the
numerals in normal form: digits only, and no leading zero.

* `Numeral ds` — the normal form of a positive number;
* `numeral_toDigits` — the digits of a positive number are one;
* `toDigits_ofDigitChars` — a numeral is the digits of its value;
* `intOfText_toString` — the text of an integer, which may be negative, is read back.
-/

namespace Decimal

/-- Digits without a leading zero. -/
structure Numeral (ds : List Char) : Prop where
  digits : ∀ c ∈ ds, c.isDigit = true
  nonempty : ds ≠ []
  head : ds.head? ≠ some '0'

variable {ds : List Char} {c : Char} {n : ℕ}

/-- The value of a digit. -/
theorem digitChar_of_isDigit (h : c.isDigit = true) :
    c.toNat - '0'.toNat < 10 ∧ (c.toNat - '0'.toNat).digitChar = c := by
  obtain ⟨hlow, hhigh⟩ : '0'.toNat ≤ c.toNat ∧ c.toNat ≤ '9'.toNat := by
    simpa [Char.isDigit, UInt32.le_iff_toNat_le] using h
  have hlt : c.toNat - '0'.toNat < 10 := by
    have h9 : '9'.toNat = '0'.toNat + 9 := rfl
    omega
  refine ⟨hlt, ?_⟩
  apply Char.toNat_inj.mp
  rw [Nat.toNat_digitChar_of_lt_ten hlt]
  have h0 : '0'.toNat = 48 := rfl
  omega

/-- **The digits of a positive number** are a numeral. -/
theorem numeral_toDigits (hn : 0 < n) : Numeral (Nat.toDigits 10 n) := by
  refine ⟨fun c hc => Nat.isDigit_of_mem_toDigits (by decide) (by decide) hc,
    Nat.toDigits_ne_nil, ?_⟩
  -- By induction on the digits: the last one is the first of a number of one digit only.
  induction n using Nat.base_induction 10 (by decide) with
  | single m hm =>
    rw [Nat.toDigits_of_lt_base hm, List.head?_cons, ne_eq, Option.some_inj, Nat.digitChar_eq_zero]
    exact Nat.pos_iff_ne_zero.mp hn
  | digit m k hk hm ih =>
    rw [← Nat.toDigits_append_toDigits (by decide) hm hk,
      List.head?_append_of_ne_nil _ Nat.toDigits_ne_nil]
    exact ih hm

/-- A numeral without its last digit, unless that is its only one. -/
theorem Numeral.init (h : Numeral (ds ++ [c])) (hne : ds ≠ []) : Numeral ds := by
  refine ⟨fun d hd => h.digits d (List.mem_append_left _ hd), hne, ?_⟩
  rw [← List.head?_append_of_ne_nil ds hne]
  exact h.head

/-- **A numeral is the digits of its value.** -/
theorem toDigits_ofDigitChars (h : Numeral ds) :
    Nat.toDigits 10 (Nat.ofDigitChars 10 ds 0) = ds := by
  induction ds using List.reverseRecOn with
  | nil => exact absurd rfl h.nonempty
  | append_singleton ds c ih =>
    obtain ⟨hlt, hchar⟩ := digitChar_of_isDigit
      (h.digits c (List.mem_append_right _ (List.mem_singleton_self c)))
    rw [Nat.ofDigitChars_append, Nat.ofDigitChars_cons, Nat.ofDigitChars_nil]
    by_cases hne : ds = []
    · -- one digit
      subst hne
      rw [Nat.ofDigitChars_nil, Nat.mul_zero, Nat.zero_add, Nat.toDigits_of_lt_base hlt, hchar]
      rfl
    · have hinit := h.init hne
      have hvalue := ih hinit
      have hpos : 0 < Nat.ofDigitChars 10 ds 0 := by
        apply Nat.pos_of_ne_zero
        intro hzero
        rw [hzero, Nat.toDigits_zero] at hvalue
        exact hinit.head (hvalue ▸ rfl)
      rw [← Nat.toDigits_append_toDigits (by decide) hpos hlt, hvalue,
        Nat.toDigits_of_lt_base hlt, hchar]

/-! ### Integers -/

/-- The number a text of digits stands for, with a minus before it or not. -/
def intOfText : List Char → ℤ
  | '-' :: ds => -(Nat.ofDigitChars 10 ds 0 : ℤ)
  | ds => Nat.ofDigitChars 10 ds 0

/-- The text of an integer is its digits, behind a minus if it is negative. -/
theorem toString_toList (n : ℤ) :
    (toString n).toList
      = if 0 ≤ n then Nat.toDigits 10 n.toNat else '-' :: Nat.toDigits 10 (-n).toNat := by
  rw [Int.toString_eq_repr, Int.repr_eq_if]
  split
  · rw [Nat.toList_repr]
  · rw [String.toList_append, Nat.toList_repr]
    rfl

theorem mem_toString {n : ℤ} (h : c ∈ (toString n).toList) : c = '-' ∨ c.isDigit = true := by
  rw [toString_toList] at h
  split at h
  · exact Or.inr (Nat.isDigit_of_mem_toDigits (by decide) (by decide) h)
  · rcases List.mem_cons.mp h with hminus | hmem
    · exact Or.inl hminus
    · exact Or.inr (Nat.isDigit_of_mem_toDigits (by decide) (by decide) hmem)

theorem intOfText_of_digits (h : ∀ c ∈ ds, c.isDigit = true) :
    intOfText ds = Nat.ofDigitChars 10 ds 0 := by
  unfold intOfText
  split
  · exact absurd (h '-' List.mem_cons_self) (by decide)
  · rfl

/-- **The text of an integer is read back.** -/
theorem intOfText_toString (n : ℤ) : intOfText (toString n).toList = n := by
  rw [toString_toList]
  split
  · rename_i hn
    rw [intOfText_of_digits, Nat.ofDigitChars_ten_toDigits]
    · omega
    · intro c hc
      exact Nat.isDigit_of_mem_toDigits (by decide) (by decide) hc
  · rename_i hn
    rw [intOfText, Nat.ofDigitChars_ten_toDigits]
    omega

end Decimal
