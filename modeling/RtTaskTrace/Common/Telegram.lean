import RtTaskTrace.Lib.LittleEndian
import Mathlib.Tactic.Common

namespace RtTaskTrace

open LittleEndian

/-!
# The telegram (`Common/Telegram`)

The record a traced task sends to its monitor, and the 24 bytes it is sent as: the struct is
copied into the pipe as it lies in memory (`pid_t`, an enumeration, two `uint64_t`, with no
padding between them, least significant byte first).

The `code` field is kept as the number that is stored, since a byte stream may hold any;
`TelegramCode.ofValue` finds the enumerator it stands for, if there is one.
-/

/-- `pid_t`. -/
abbrev PidT := Int32

/-- `TELEGRAM_PERFMARK_OFFSET`: the code from which the performance markers start. -/
def telegramPerfmarkOffset : UInt32 := 100

/-- The enumerators of `TelegramCode`. -/
inductive TelegramCode
  | startAndStopTime
  | perfMark1Start
  | perfMark1End
  deriving DecidableEq, Repr

/-- The number each enumerator stands for. -/
def TelegramCode.value : TelegramCode → UInt32
  | .startAndStopTime => 0
  | .perfMark1Start => telegramPerfmarkOffset
  | .perfMark1End => telegramPerfmarkOffset + 1

/-- The enumerator a number stands for: the labels of `switch (telegram.code)`. -/
def TelegramCode.ofValue (value : UInt32) : Option TelegramCode :=
  if value = TelegramCode.startAndStopTime.value then some .startAndStopTime
  else if value = TelegramCode.perfMark1Start.value then some .perfMark1Start
  else if value = TelegramCode.perfMark1End.value then some .perfMark1End
  else none

@[simp] theorem TelegramCode.ofValue_value (code : TelegramCode) :
    TelegramCode.ofValue code.value = some code := by
  cases code <;> decide

/-- A number stands for the enumerator found for it, and for no other. -/
theorem TelegramCode.eq_value_of_ofValue {value : UInt32} {code : TelegramCode}
    (h : TelegramCode.ofValue value = some code) : value = code.value := by
  unfold TelegramCode.ofValue at h
  split at h
  · cases h
    assumption
  · split at h
    · cases h
      assumption
    · split at h
      · cases h
        assumption
      · exact absurd h (by simp)

/-- `Telegram`. -/
structure Telegram where
  pid : PidT
  code : UInt32
  t1 : UInt64
  t2 : UInt64
  deriving DecidableEq, Repr, Inhabited

namespace Telegram

/-- `sizeof(Telegram)`. -/
def size : ℕ := 24

/-- The bytes of the struct. -/
def encode (telegram : Telegram) : List UInt8 :=
  leBytes 4 telegram.pid.toUInt32.toNat ++ leBytes 4 telegram.code.toNat
    ++ leBytes 8 telegram.t1.toNat ++ leBytes 8 telegram.t2.toNat

/-- The struct that 24 bytes are. -/
def decode (bytes : List UInt8) : Telegram where
  pid := (UInt32.ofNat (leNat (bytes.take 4))).toInt32
  code := UInt32.ofNat (leNat ((bytes.drop 4).take 4))
  t1 := UInt64.ofNat (leNat ((bytes.drop 8).take 8))
  t2 := UInt64.ofNat (leNat ((bytes.drop 16).take 8))

@[simp] theorem encode_length (telegram : Telegram) : telegram.encode.length = size := by
  simp [encode, size]

/-- **Round trip.**  The bytes of a telegram are read back as that telegram. -/
@[simp] theorem decode_encode (telegram : Telegram) : decode telegram.encode = telegram := by
  obtain ⟨pid, code, t1, t2⟩ := telegram
  have hpid := leNat_leBytes (w := 4) (n := pid.toUInt32.toNat) (by simpa using pid.toUInt32.toNat_lt)
  have hcode := leNat_leBytes (w := 4) (n := code.toNat) (by simpa using code.toNat_lt)
  have ht1 := leNat_leBytes (w := 8) (n := t1.toNat) (by simpa using t1.toNat_lt)
  have ht2 := leNat_leBytes (w := 8) (n := t2.toNat) (by simpa using t2.toNat_lt)
  simp [decode, encode, List.drop_append, List.drop_of_length_le,
    List.take_of_length_le, hpid, hcode, ht1, ht2]

end Telegram

end RtTaskTrace
