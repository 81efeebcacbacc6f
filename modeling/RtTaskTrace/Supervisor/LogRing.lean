import RtTaskTrace.Lib.Ring
import RtTaskTrace.Supervisor.Log

namespace RtTaskTrace

open Ring

/-!
# The points a log holds

The list of points has no tail index: where its oldest point is follows from the write index
and the fill level.  `PointList.Holds me ds` says that these are the points `ds`, oldest first,
and the operations are stated on a list that holds known points.

* `add_of_room`, `add_of_full` — a point is appended, and replaces the oldest of a full list;
* `read_cons`, `readAll_of_holds` — points are read in the order they were added;
* `generateIfNeeded_ready`, `generateIfNeeded_waiting` — the log's dump, and when there is none.
-/

variable {N : ℕ} [NeZero N]

namespace PointList

/-- The list holds exactly `ds`, oldest first: they fill the slots behind the write index. -/
structure Holds (me : PointList N) (ds : List Data) : Prop where
  stored : window me.dataList (me.listIndex.val + (N - ds.length)) ds.length = ds
  level : me.numberOfDataOnBuffer = ds.length

/-- The points in these slots. -/
def unread (me : PointList N) : List Data :=
  window me.dataList (me.listIndex.val + (N - me.numberOfDataOnBuffer)) me.numberOfDataOnBuffer

/-- Every list holds its unread points. -/
theorem holds_unread (me : PointList N) : me.Holds me.unread := by
  have hlength : me.unread.length = me.numberOfDataOnBuffer := by
    simp [unread, window]
  refine ⟨?_, hlength.symm⟩
  rw [hlength]
  rfl

variable {me : PointList N} {d : Data} {ds : List Data}

theorem Holds.length_le (h : me.Holds ds) : ds.length ≤ N :=
  h.level ▸ me.bounded

theorem holds_init (data : Data) : (init data : PointList N).Holds [] := ⟨rfl, rfl⟩

theorem nextIndex_val (listIndex : Fin N) : (nextIndex listIndex).val = (listIndex.val + 1) % N := by
  have hlt := listIndex.isLt
  unfold nextIndex
  split
  · -- Past the last slot the index starts over.
    rename_i h
    rw [show listIndex.val + 1 = N by omega, Nat.mod_self, Fin.val_zero]
  · rename_i h
    rw [Nat.mod_eq_of_lt (by omega)]

theorem slot_listIndex (me : PointList N) : me.listIndex = slot N me.listIndex.val :=
  Fin.ext (by rw [slot_val, Nat.mod_eq_of_lt me.listIndex.isLt])

/-- **Adding with room** appends the point. -/
theorem add_of_room (h : me.Holds ds) (hroom : ds.length < N) (data : Data) :
    (me.add data).Holds (ds ++ [data]) where
  stored := by
    have hlevel : N - (ds ++ [data]).length = N - ds.length - 1 := by
      rw [List.length_append, List.length_singleton, Nat.sub_add_eq]
    -- The list starts where it did before,
    have hstart : ((nextIndex me.listIndex).val + (N - ds.length - 1)) % N
        = (me.listIndex.val + (N - ds.length)) % N := by
      rw [nextIndex_val, Nat.mod_add_mod]
      congr 1
      omega
    -- and the point goes into the slot behind it.
    have hslot : me.listIndex = slot N (me.listIndex.val + (N - ds.length) + ds.length) := by
      ext
      rw [slot_val, Nat.add_assoc, Nat.sub_add_cancel hroom.le, Nat.add_mod_right,
        Nat.mod_eq_of_lt me.listIndex.isLt]
    have hpush := window_push me.dataList (me.listIndex.val + (N - ds.length)) ds.length data hroom
    rw [← hslot, h.stored] at hpush
    rw [hlevel, List.length_append, List.length_singleton]
    exact (window_start_congr hstart _).trans hpush
  level := by
    show (if me.numberOfDataOnBuffer < N then _ else _) = _
    rw [h.level, if_pos hroom, List.length_append, List.length_singleton]

/-- **Adding to a full list** replaces its oldest point. -/
theorem add_of_full (h : me.Holds ds) (hfull : ds.length = N) (data : Data) :
    (me.add data).Holds (ds.tail ++ [data]) := by
  have hpos : 0 < N := Nat.pos_of_ne_zero (NeZero.ne N)
  have hlength : (ds.tail ++ [data]).length = N := by
    rw [List.length_append, List.length_tail, List.length_singleton, hfull,
      Nat.sub_add_cancel hpos]
  constructor
  · -- The oldest point is in the slot that is written.
    have hstored := h.stored
    rw [hfull, Nat.sub_self, Nat.add_zero] at hstored
    have hpush := window_push_full me.dataList me.listIndex.val data
    rw [← slot_listIndex, hstored] at hpush
    rw [hlength, Nat.sub_self, Nat.add_zero]
    show window (Function.update me.dataList me.listIndex data) (nextIndex me.listIndex).val N = _
    rw [nextIndex_val, window_mod, hpush]
  · rw [hlength]
    show (if me.numberOfDataOnBuffer < N then _ else _) = _
    rw [h.level, hfull, if_neg (lt_irrefl N)]

/-- A point raises the flag if it is an exception, and leaves it otherwise. -/
theorem add_exceptionHappend (me : PointList N) (data : Data) :
    (me.add data).exceptionHappend = (data.isException || me.exceptionHappend) := by
  show (if data.isException then true else me.exceptionHappend) = _
  cases data.isException <;> rfl

/-- **Reading** delivers the oldest point. -/
theorem read_cons (h : me.Holds (d :: ds)) :
    ∃ me', me.read = some (d, me') ∧ me'.Holds ds ∧
      me'.exceptionHappend = me.exceptionHappend := by
  have hlength := h.length_le
  have hlevel := h.level
  have hindex := me.listIndex.isLt
  rw [List.length_cons] at hlength hlevel
  have hstored := h.stored
  rw [List.length_cons, window_pop] at hstored
  obtain ⟨holdest, hrest⟩ := List.cons.inj hstored
  -- The slot the code reads is the one the points start in.
  have hread : me.readIndex = slot N (me.listIndex.val + (N - (ds.length + 1))) := by
    ext
    rw [slot_val]
    show me.readPosition.toNat = _
    simp only [readPosition, hlevel]
    split
    · rw [Nat.mod_eq_of_lt (by omega)]
      omega
    · rw [show me.listIndex.val + (N - (ds.length + 1))
        = me.listIndex.val - (ds.length + 1) + N by omega, Nat.add_mod_right,
        Nat.mod_eq_of_lt (by omega)]
      omega
  refine ⟨{ me with
    numberOfDataOnBuffer := me.numberOfDataOnBuffer - 1
    bounded := le_trans (Nat.sub_le _ _) me.bounded }, ?_, ⟨?_, ?_⟩, rfl⟩
  · rw [read, if_neg (by omega), hread, holdest]
  · show window me.dataList (me.listIndex.val + (N - ds.length)) ds.length = ds
    rw [show me.listIndex.val + (N - ds.length) = me.listIndex.val + (N - (ds.length + 1)) + 1
      by omega]
    exact hrest
  · show me.numberOfDataOnBuffer - 1 = ds.length
    rw [hlevel, Nat.add_sub_cancel]

/-- **Reading on until nothing is left** delivers all points in order. -/
theorem readAll_of_holds (h : me.Holds ds) :
    ∃ me', readAll me.numberOfDataOnBuffer me = (ds, me') ∧ me'.Holds [] ∧
      me'.exceptionHappend = me.exceptionHappend := by
  rw [h.level]
  induction ds generalizing me with
  | nil => exact ⟨me, rfl, h, rfl⟩
  | cons d ds ih =>
    obtain ⟨me₁, hread, hholds, hflag⟩ := read_cons h
    obtain ⟨me₂, hall, hempty, hflag'⟩ := ih hholds
    refine ⟨me₂, ?_, hempty, hflag'.trans hflag⟩
    rw [List.length_cons, readAll, hread]
    simp only [hall]

end PointList

namespace Log

variable {ds : List Data}

/-- **The dump.**  A full list with an exception is written in order and left empty. -/
theorem generateIfNeeded_ready (me : Log N) (henabled : me.enabled = true) (h : me.list.Holds ds)
    (hfull : ds.length = N) (hflag : me.list.exceptionHappend = true) :
    ∃ list, me.generateIfNeeded true = ({ me with list := list }, ds.map Data.row) ∧
      list.Holds [] ∧ list.exceptionHappend = false := by
  have hready : me.list.checkIfReadyToLog
      = ({ me.list with exceptionHappend := false }, true) := by
    rw [PointList.checkIfReadyToLog, if_pos ⟨(h.level.trans hfull).ge, hflag⟩]
  have hholds : ({ me.list with exceptionHappend := false } : PointList N).Holds ds :=
    ⟨h.stored, h.level⟩
  obtain ⟨list, hall, hempty, hlist⟩ := PointList.readAll_of_holds hholds
  refine ⟨list, ?_, hempty, hlist⟩
  simp only [generateIfNeeded, henabled, hready, Bool.true_eq_false, if_false, hall]

/-- A list that is not full, or holds no exception, is not written. -/
theorem generateIfNeeded_waiting (me : Log N) (h : me.list.Holds ds)
    (hwait : ¬ (ds.length = N ∧ me.list.exceptionHappend = true)) (fopen : Bool) :
    me.generateIfNeeded fopen = (me, []) := by
  have hlength := h.length_le
  have hready : me.list.checkIfReadyToLog = (me.list, false) := by
    rw [PointList.checkIfReadyToLog, if_neg]
    rintro ⟨hlevel, hflag⟩
    rw [h.level] at hlevel
    exact hwait ⟨by omega, hflag⟩
  simp only [generateIfNeeded, hready, if_true]
  split <;> rfl

end Log

end RtTaskTrace
