import RtTaskTrace.Lib.DropOldest
import RtTaskTrace.Supervisor.LogRing
import Mathlib.Data.List.Induction

namespace RtTaskTrace

open DropOldest

/-!
# The list of points is a queue that drops its oldest

Any sequence of `List_add`, `List_read` and `List_checkIfReadyToLog` calls from `List_init`.  The
unread content is a queue of at most `N` points that gives up its oldest for a new one
(`DropOldest.push`).

* `ListCall`, `PointList.call` — the calls, and what each does to the list;
* `ListCall.content` — what it does to the content;
* `call_holds` — one call keeps the two together;
* `list_refines_dropOldest` — every sequence of calls.
-/

variable {N : ℕ} [NeZero N]

/-- A call on the list. -/
inductive ListCall
  | add (data : Data)
  | read
  | checkIfReadyToLog
  deriving DecidableEq, Repr

/-- What a call makes of the content. -/
def ListCall.content (N : ℕ) (held : List Data) : ListCall → List Data
  | .add data => push N held data
  | .read => held.tail
  | .checkIfReadyToLog => held

/-- The points a call adds. -/
def ListCall.adds : ListCall → List Data
  | .add data => [data]
  | .read => []
  | .checkIfReadyToLog => []

namespace PointList

/-- What a call makes of the list. -/
def call (me : PointList N) : ListCall → PointList N
  | .add data => me.add data
  | .read =>
    match me.read with
    | none => me
    | some (_, me) => me
  | .checkIfReadyToLog => me.checkIfReadyToLog.1

variable {me : PointList N} {held : List Data}

/-- An empty list has nothing to read. -/
theorem read_nil (h : me.Holds []) : me.read = none := if_pos h.level

/-- **Adding** is a push. -/
theorem add_holds (h : me.Holds held) (data : Data) : (me.add data).Holds (push N held data) := by
  rcases h.length_le.lt_or_eq with hroom | hfull
  · rw [push_of_lt hroom]
    exact add_of_room h hroom data
  · rw [push_of_full hfull]
    exact add_of_full h hfull data

/-- **The test** leaves the content as it was. -/
theorem checkIfReadyToLog_holds (h : me.Holds held) : me.checkIfReadyToLog.1.Holds held := by
  unfold checkIfReadyToLog
  split
  · exact ⟨h.stored, h.level⟩
  · exact h

/-- **One call.** -/
theorem call_holds (h : me.Holds held) (c : ListCall) : (me.call c).Holds (c.content N held) := by
  cases c with
  | add data => exact add_holds h data
  | read =>
    cases held with
    | nil =>
      rw [call, read_nil h]
      exact h
    | cons oldest rest =>
      obtain ⟨me', hread, hholds, -⟩ := read_cons h
      rw [call, hread]
      exact hholds
  | checkIfReadyToLog => exact checkIfReadyToLog_holds h

/-- The list after the calls `cs` from `List_init`. -/
def after (data : Data) (cs : List ListCall) : PointList N := cs.foldl call (init data)

/-- Its content. -/
def contentAfter (N : ℕ) (cs : List ListCall) : List Data := cs.foldl (ListCall.content N) []

theorem after_concat (data : Data) (cs : List ListCall) (c : ListCall) :
    (after data (cs ++ [c]) : PointList N) = (after data cs : PointList N).call c :=
  List.foldl_concat _ _ _ _

omit [NeZero N] in
theorem contentAfter_concat (cs : List ListCall) (c : ListCall) :
    contentAfter N (cs ++ [c]) = c.content N (contentAfter N cs) :=
  List.foldl_concat _ _ _ _

theorem after_holds (data : Data) (cs : List ListCall) :
    (after data cs : PointList N).Holds (contentAfter N cs) := by
  induction cs using List.reverseRecOn with
  | nil => exact holds_init data
  | append_singleton cs c ih =>
    rw [after_concat, contentAfter_concat]
    exact call_holds ih c

omit [NeZero N] in
/-- The content is what was added last. -/
theorem contentAfter_suffix (cs : List ListCall) :
    contentAfter N cs <:+ cs.flatMap ListCall.adds := by
  induction cs using List.reverseRecOn with
  | nil => exact List.suffix_refl _
  | append_singleton cs c ih =>
    rw [contentAfter_concat, List.flatMap_append, List.flatMap_singleton]
    cases c with
    | add data => exact push_suffix ih data
    | read =>
      rw [ListCall.adds, List.append_nil]
      exact tail_suffix ih
    | checkIfReadyToLog =>
      rw [ListCall.adds, List.append_nil]
      exact ih

/-- **The list of points refines a queue that drops its oldest.**  After any calls the unread
    content is at most `N` of the points added last; an add appends, and drops exactly the oldest
    of `N`; a read takes the oldest, and fails only when there is none; both array indices are
    slots; and the test leaves the content. -/
theorem list_refines_dropOldest (data : Data) (cs : List ListCall) :
    (after data cs : PointList N).Holds (contentAfter N cs) ∧
    (contentAfter N cs).length ≤ N ∧ contentAfter N cs <:+ cs.flatMap ListCall.adds ∧
    (∀ point,
      ((contentAfter N cs).length < N →
        ((after data cs : PointList N).add point).Holds (contentAfter N cs ++ [point])) ∧
      ((contentAfter N cs).length = N →
        ((after data cs : PointList N).add point).Holds ((contentAfter N cs).tail ++ [point]))) ∧
    (∀ oldest rest, contentAfter N cs = oldest :: rest →
      ∃ me', (after data cs : PointList N).read = some (oldest, me') ∧ me'.Holds rest) ∧
    (contentAfter N cs = [] → (after data cs : PointList N).read = none ∧
      (after data cs : PointList N).call .read = after data cs) ∧
    ((after data cs : PointList N).listIndex.val < N ∧
      0 ≤ (after data cs : PointList N).readPosition ∧
      (after data cs : PointList N).readPosition < N) ∧
    (after data cs : PointList N).checkIfReadyToLog.1.Holds (contentAfter N cs) := by
  have hholds := after_holds (N := N) data cs
  have hsuffix := contentAfter_suffix (N := N) cs
  generalize (after data cs : PointList N) = me at hholds ⊢
  generalize contentAfter N cs = held at hholds hsuffix ⊢
  refine ⟨hholds, hholds.length_le, hsuffix, fun point => ⟨fun hroom => ?_, fun hfull => ?_⟩, ?_, ?_,
    ⟨me.listIndex.isLt, me.readPosition_bounds⟩, checkIfReadyToLog_holds hholds⟩
  · exact add_of_room hholds hroom point
  · exact add_of_full hholds hfull point
  · rintro oldest rest rfl
    obtain ⟨me', hread, hrest, -⟩ := read_cons hholds
    exact ⟨me', hread, hrest⟩
  · rintro rfl
    have hnone := read_nil hholds
    refine ⟨hnone, ?_⟩
    rw [call, hnone]

/-- A point with the given start. -/
def samplePoint (t1 : UInt64) : Data := ⟨⟨1, 0, t1, t1 + 5⟩, MonitorMetrics.zero, false⟩

/-- Three points for two places: the first is given up, the second read. -/
def sampleListCalls : List ListCall :=
  [.add (samplePoint 100), .add (samplePoint 200), .add (samplePoint 300), .read]

theorem list_refines_dropOldest_sample :
    ∃ me', (after (samplePoint 0) sampleListCalls : PointList 2).read
      = some (samplePoint 300, me') ∧ me'.Holds [] :=
  (list_refines_dropOldest (samplePoint 0) sampleListCalls).2.2.2.2.1 (samplePoint 300) []
    (by decide)

end PointList

end RtTaskTrace
