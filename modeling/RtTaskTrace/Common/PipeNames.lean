import RtTaskTrace.Common.SharedMem
import RtTaskTrace.Lib.Decimal
import Mathlib.Data.List.DropRight
import Mathlib.Data.List.TakeWhile

namespace RtTaskTrace

open Decimal

/-!
# The names of the pipes

A task prints its pid into the name of its pipe, and the two scans of the supervisor read it back
with `atoi`.  What is printed is read back; but `atoi` also takes blanks, a sign, leading zeros, a
tail that is no number and a number that does not fit, and for such a name the supervisor goes on
with the path of another pipe.

* `atoi` — the library function, with the conversion of its `long` to an `int`;
* `scannedPid` — the pid for which a scan goes on with an entry;
* `pidText_toList`, `atoi_of_digits` — what is printed, and how digits are read;
* `pipe_names_correspond` — which names stand for their own pid.
-/

/-- `isspace`. -/
def isSpace (c : Char) : Bool := c.toNat = 32 || (9 ≤ c.toNat && c.toNat ≤ 13)

/-- The sign a text starts with, if any: whether it is a minus, and the text behind it. -/
def splitSign : List Char → Bool × List Char
  | '-' :: text => (true, text)
  | '+' :: text => (false, text)
  | text => (false, text)

/-- `atoi`: the value `strtol` clamps to the range of a `long`, and of that the low 32 bits. -/
def atoi (name : String) : PidT :=
  let (negative, text) := splitSign (name.toList.dropWhile isSpace)
  let value : ℤ := Nat.ofDigitChars 10 (text.takeWhile Char.isDigit) 0
  Int32.ofInt (max (-2 ^ 63) (min (2 ^ 63 - 1) (if negative then -value else value)))

/-- The pid of a directory entry, unless the scans skip it. -/
def scannedPid (name : String) : Option PidT :=
  let pid := atoi name
  if pid ≤ 0 then none else some pid

/-- What follows the last slash of a path. -/
def lastComponent (path : String) : String :=
  String.ofList (path.toList.rtakeWhile fun c => c ≠ '/')

/-- The decimal text of a number below `2^31`, without a leading zero. -/
def PlainDecimal (name : String) : Prop :=
  (∀ c ∈ name.toList, c.isDigit = true) ∧ name.toList.head? ≠ some '0' ∧
    Nat.ofDigitChars 10 name.toList 0 < 2 ^ 31

instance (name : String) : Decidable (PlainDecimal name) :=
  haveI : Decidable (∀ c ∈ name.toList, c.isDigit = true) := List.decidableBAll _ _
  inferInstanceAs (Decidable (_ ∧ _ ∧ _))

variable {name : String} {pid : PidT}

theorem scannedPid_eq_some (h : scannedPid name = some pid) : pid = atoi name ∧ 0 < pid := by
  unfold scannedPid at h
  simp only at h
  split at h
  · cases h
  · rename_i hpos
    cases h
    exact ⟨rfl, Int32.not_le.mp hpos⟩

/-! ### Printing -/

theorem toInt_pos (h : 0 < pid) : 0 < pid.toInt := by
  rwa [Int32.lt_iff_toInt_lt, Int32.toInt_zero] at h

/-- **What is printed** are the digits of the pid. -/
theorem pidText_toList (h : 0 < pid) :
    (toString pid.toInt).toList = Nat.toDigits 10 pid.toInt.toNat := by
  rw [Int.toString_eq_repr, Int.repr_eq_if, if_pos (toInt_pos h).le, Nat.toList_repr]

/-- The digits of a pid are a numeral. -/
theorem pidText_numeral (h : 0 < pid) : Numeral (toString pid.toInt).toList := by
  rw [pidText_toList h]
  apply numeral_toDigits
  have hpos := toInt_pos h
  omega

/-- **The last component of the path** is the text of the pid. -/
theorem lastComponent_getFinalPath (h : 0 < pid) :
    lastComponent (SharedMem.getFinalPath pid) = toString pid.toInt := by
  have hslash : ∀ c ∈ (toString pid.toInt).toList, c ≠ '/' := by
    intro c hc heq
    have hdigit := (pidText_numeral h).digits c hc
    rw [heq] at hdigit
    exact absurd hdigit (by decide)
  have hpath : (SharedMem.getFinalPath pid).toList
      = SharedMem.defaultPath.toList.dropLast ++ ['/'] ++ (toString pid.toInt).toList := by
    rw [SharedMem.getFinalPath, String.toList_append]
    rfl
  apply String.toList_inj.mp
  rw [lastComponent, String.toList_ofList, hpath, List.rtakeWhile]
  simp only [List.reverse_append, List.append_assoc]
  rw [List.takeWhile_append_of_pos (by simpa using hslash)]
  simp

/-! ### Reading back -/

/-- A digit is neither a blank nor a sign. -/
theorem splitSign_digits {ds : List Char} (h : ∀ c ∈ ds, c.isDigit = true) :
    splitSign (ds.dropWhile isSpace) = (false, ds) := by
  cases ds with
  | nil => rfl
  | cons c ds =>
    have hdigit := h c List.mem_cons_self
    obtain ⟨hlow, hhigh⟩ : 48 ≤ c.toNat ∧ c.toNat ≤ 57 := by
      simpa [Char.isDigit, UInt32.le_iff_toNat_le] using hdigit
    have hspace : isSpace c = false := by
      simp only [isSpace, Bool.or_eq_false_iff, Bool.and_eq_false_iff, decide_eq_false_iff_not]
      omega
    rw [List.dropWhile_cons_of_neg (by simp [hspace])]
    unfold splitSign
    split
    · rename_i heq
      rw [(List.cons.inj heq).1] at hdigit
      exact absurd hdigit (by decide)
    · rename_i heq
      rw [(List.cons.inj heq).1] at hdigit
      exact absurd hdigit (by decide)
    · rfl

/-- **How digits are read**, as long as their value is that of a pid. -/
theorem atoi_of_digits (h : ∀ c ∈ name.toList, c.isDigit = true)
    (hlt : Nat.ofDigitChars 10 name.toList 0 < 2 ^ 31) :
    (atoi name).toInt = Nat.ofDigitChars 10 name.toList 0 := by
  unfold atoi
  simp only [splitSign_digits h, List.takeWhile_eq_self_iff.mpr h, Bool.false_eq_true, if_false]
  generalize Nat.ofDigitChars 10 name.toList 0 = value at hlt ⊢
  rw [min_eq_right (by omega), max_eq_right (by omega)]
  exact Int32.toInt_ofInt_of_le (by omega) (by omega)

/-- **What is printed is read back.** -/
theorem atoi_pidText (h : 0 < pid) : atoi (toString pid.toInt) = pid := by
  have hpos := toInt_pos h
  have hlt := pid.toInt_lt
  have hvalue : Nat.ofDigitChars 10 (toString pid.toInt).toList 0 = pid.toInt.toNat := by
    rw [pidText_toList h, Nat.ofDigitChars_ten_toDigits]
  apply Int32.toInt_inj.mp
  rw [atoi_of_digits (pidText_numeral h).digits (by omega), hvalue]
  omega

/-- **Which names stand for their pid**: those that are its decimal text. -/
theorem pidText_eq_iff (h : scannedPid name = some pid) :
    toString pid.toInt = name ↔ PlainDecimal name := by
  obtain ⟨rfl, hpos⟩ := scannedPid_eq_some h
  have hlt := (atoi name).toInt_lt
  constructor
  · intro heq
    have hnumeral := pidText_numeral hpos
    have hvalue := congrArg (fun text => Nat.ofDigitChars 10 text 0) (pidText_toList hpos)
    simp only [Nat.ofDigitChars_ten_toDigits] at hvalue
    rw [heq] at hnumeral hvalue
    refine ⟨hnumeral.digits, hnumeral.head, ?_⟩
    omega
  · rintro ⟨hdigits, hhead, hsmall⟩
    have hvalue := atoi_of_digits hdigits hsmall
    have hne : name.toList ≠ [] := by
      -- The empty name has the value 0.
      intro hnil
      have hpos' := toInt_pos hpos
      rw [hvalue, hnil, Nat.ofDigitChars_nil] at hpos'
      omega
    apply String.toList_inj.mp
    rw [pidText_toList hpos, hvalue, Int.toNat_natCast,
      toDigits_ofDigitChars ⟨hdigits, hne, hhead⟩]

/-- **Pipe names and pids.**  For every pid the last component of its path is read back by the
    scans as that pid.  An entry for which they go on is the pipe whose path is then built exactly
    when its name is the decimal text, without a leading zero, of a number below `2^31`. -/
theorem pipe_names_correspond :
    (∀ pid : PidT, 0 < pid →
      scannedPid (lastComponent (SharedMem.getFinalPath pid)) = some pid) ∧
    ∀ (name : String) (pid : PidT), scannedPid name = some pid →
      (lastComponent (SharedMem.getFinalPath pid) = name ↔ PlainDecimal name) ∧
      (SharedMem.getFinalPath pid = SharedMem.defaultPath ++ name ↔ PlainDecimal name) := by
  refine ⟨fun pid hpos => ?_, fun name pid h => ?_⟩
  · rw [lastComponent_getFinalPath hpos, scannedPid, atoi_pidText hpos]
    exact if_neg (Int32.not_le.mpr hpos)
  · obtain ⟨-, hpos⟩ := scannedPid_eq_some h
    rw [← pidText_eq_iff h, lastComponent_getFinalPath hpos]
    refine ⟨Iff.rfl, ?_⟩
    rw [SharedMem.getFinalPath, ← String.toList_inj, String.toList_append, String.toList_append,
      List.append_cancel_left_eq, String.toList_inj]

/-- The pid 1234 in both directions. -/
theorem pipe_names_sample :
    scannedPid (lastComponent (SharedMem.getFinalPath 1234)) = some 1234 ∧
      SharedMem.getFinalPath 1234 = SharedMem.defaultPath ++ "1234" :=
  ⟨pipe_names_correspond.1 1234 (by decide),
    (pipe_names_correspond.2 "1234" 1234 (by decide)).2.mpr (by decide)⟩

/-- Names that are taken for the pid 7, none of them the one of its pipe. -/
theorem pipe_names_mismatch :
    ["007", "+7", " 7", "7abc", "4294967303"].map scannedPid = List.replicate 5 (some 7) ∧
      lastComponent (SharedMem.getFinalPath 7) ∉ ["007", "+7", " 7", "7abc", "4294967303"] := by
  decide

end RtTaskTrace
