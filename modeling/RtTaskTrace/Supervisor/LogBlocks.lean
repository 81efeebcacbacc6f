import RtTaskTrace.Supervisor.LogRing
import Mathlib.Data.List.Induction

namespace RtTaskTrace

/-!
# What the log writes

The monitor hands every point it logs to `Log_addNewPoint` and calls `Log_generateIfNeeded`
after it (`Log.handlePoint`).  The rows written are whole blocks of the points, each as long as
the list, and every exception is in one of them.

`Written N ds starts list` relates the points so far to the blocks written, by where they start,
and to the list: it holds the latest points, all of them behind the last block, and its flag says
whether one is an exception.  A full list never has the flag up between two points, so the point
it gives up for the next one is no exception.

* `Written.add`, `Written.dump` — the two calls on it;
* `exceptions_logged` — every run of points.
-/

variable {N : ℕ} [NeZero N]

/-- A point as the monitor hands it to `Log_addNewPoint`. -/
structure LogPoint where
  telegram : Telegram
  metrics : MonitorMetrics
  isException : Bool
  deriving DecidableEq, Repr

/-- The point as it is kept and written. -/
def LogPoint.data (point : LogPoint) : Data :=
  Data.fill point.telegram point.metrics point.isException

/-- The block of `N` points that starts with point `s`. -/
def logBlock (N : ℕ) (ds : List Data) (s : ℕ) : List Data := (ds.drop s).take N

namespace Log

/-- What the monitor does with one point. -/
def handlePoint (me : Log N) (fopen : Bool) (point : LogPoint) : Log N × List CsvRow :=
  (me.addNewPoint point.telegram point.metrics point.isException).generateIfNeeded fopen

/-- The points of a run, one after the other: the log left and all rows written. -/
def handlePoints (me : Log N) (fopen : Bool) (points : List LogPoint) : Log N × List CsvRow :=
  points.foldl (fun (me, rows) point =>
    let (me, written) := me.handlePoint fopen point
    (me, rows ++ written)) (me, [])

theorem handlePoints_concat (me : Log N) (fopen : Bool) (points : List LogPoint)
    (point : LogPoint) :
    me.handlePoints fopen (points ++ [point])
      = (((me.handlePoints fopen points).1.handlePoint fopen point).1,
          (me.handlePoints fopen points).2
            ++ ((me.handlePoints fopen points).1.handlePoint fopen point).2) := by
  rw [handlePoints, List.foldl_append]
  rfl

end Log

/-! ### Blocks and the list -/

/-- An element of a list is in the rest of it from any earlier index on. -/
theorem mem_drop_of_getElem? {α : Type*} {xs : List α} {x : α} {i n : ℕ} (h : xs[i]? = some x)
    (hle : n ≤ i) : x ∈ xs.drop n := by
  apply List.mem_iff_getElem?.mpr
  exact ⟨i - n, by rw [List.getElem?_drop, Nat.add_sub_cancel' hle, h]⟩

/-- The blocks of the points `ds` that start at `starts` have been written, and `list` is left. -/
structure Written (N : ℕ) [NeZero N] (ds : List Data) (starts : List ℕ) (list : PointList N) :
    Prop where
  level_le : list.numberOfDataOnBuffer ≤ ds.length
  holds : list.Holds (ds.drop (ds.length - list.numberOfDataOnBuffer))
  apart : starts.Pairwise fun s t => s + N ≤ t
  before : ∀ s ∈ starts, s + N ≤ ds.length - list.numberOfDataOnBuffer
  flag : list.exceptionHappend = true ↔
    ∃ d ∈ ds.drop (ds.length - list.numberOfDataOnBuffer), d.isException = true
  covered : ∀ i d, ds[i]? = some d → d.isException = true →
    (∃ s ∈ starts, s ≤ i ∧ i < s + N) ∨ ds.length - list.numberOfDataOnBuffer ≤ i

namespace Written

variable {ds : List Data} {starts : List ℕ} {list : PointList N}

theorem start (data : Data) : Written N [] [] (PointList.init data) where
  level_le := le_rfl
  holds := PointList.holds_init data
  apart := List.Pairwise.nil
  before := by simp
  flag := by simp [PointList.init]
  covered := by simp

/-- Blocks do not overlap. -/
theorem eq_of_mem_blocks (h : Written N ds starts list) {s t i : ℕ} (hs : s ∈ starts)
    (ht : t ∈ starts) (his : s ≤ i ∧ i < s + N) (hit : t ≤ i ∧ i < t + N) : s = t := by
  have hapart := List.pairwise_iff_getElem.mp h.apart
  obtain ⟨a, ha, rfl⟩ := List.getElem_of_mem hs
  obtain ⟨b, hb, rfl⟩ := List.getElem_of_mem ht
  rcases lt_trichotomy a b with hlt | rfl | hlt
  · have := hapart a b ha hb hlt
    omega
  · rfl
  · have := hapart b a hb ha hlt
    omega

/-- A block already written is not changed by points that come later. -/
theorem logBlock_append (h : Written N ds starts list) (d : Data) {s : ℕ} (hs : s ∈ starts) :
    logBlock N (ds ++ [d]) s = logBlock N ds s := by
  have hbefore := h.before s hs
  have hle : N ≤ (ds.drop s).length := by
    rw [List.length_drop]
    omega
  rw [logBlock, List.drop_append_of_le_length (by omega), List.take_append_of_le_length hle,
    logBlock]

/-- **Adding with room**: the list starts where it did. -/
theorem add_of_room (h : Written N ds starts list) (hroom : list.numberOfDataOnBuffer < N)
    (d : Data) : Written N (ds ++ [d]) starts (list.add d) := by
  have hle := h.level_le
  have hlength : (ds.drop (ds.length - list.numberOfDataOnBuffer)).length
      = list.numberOfDataOnBuffer := h.holds.level.symm
  have hlevel : (list.add d).numberOfDataOnBuffer = list.numberOfDataOnBuffer + 1 := if_pos hroom
  have hsucc : (ds ++ [d]).length = ds.length + 1 := by
    rw [List.length_append, List.length_singleton]
  have hfrom : (ds ++ [d]).length - (list.add d).numberOfDataOnBuffer
      = ds.length - list.numberOfDataOnBuffer := by
    rw [hlevel, hsucc]
    omega
  have hheld : (ds ++ [d]).drop (ds.length - list.numberOfDataOnBuffer)
      = ds.drop (ds.length - list.numberOfDataOnBuffer) ++ [d] :=
    List.drop_append_of_le_length (Nat.sub_le _ _)
  refine ⟨by omega, ?_, h.apart, ?_, ?_, ?_⟩
  · rw [hfrom, hheld]
    exact PointList.add_of_room h.holds (hlength.trans_lt hroom) d
  · rw [hfrom]
    exact h.before
  · rw [hfrom, hheld, PointList.add_exceptionHappend, Bool.or_eq_true, h.flag]
    simp only [List.mem_append, List.mem_singleton, or_and_right, exists_or, exists_eq_left]
    exact or_comm
  · intro i e hi he
    rw [hfrom]
    by_cases hlast : i < ds.length
    · rw [List.getElem?_append_left hlast] at hi
      exact h.covered i e hi he
    · exact .inr (by omega)

/-- A list with the flag down holds no exception. -/
theorem isException_of_flag_down (h : Written N ds starts list)
    (hdown : list.exceptionHappend = false) :
    ∀ d ∈ ds.drop (ds.length - list.numberOfDataOnBuffer), d.isException = false := by
  intro d hd
  rw [Bool.eq_false_iff]
  intro hexc
  have hup := h.flag.mpr ⟨d, hd, hexc⟩
  rw [hdown] at hup
  cases hup

/-- **Adding to a full list**: it gives up its oldest point, which is no exception. -/
theorem add_of_full (h : Written N ds starts list) (hfull : list.numberOfDataOnBuffer = N)
    (hdown : list.exceptionHappend = false) (d : Data) :
    Written N (ds ++ [d]) starts (list.add d) := by
  have hle := h.level_le
  have hlength : (ds.drop (ds.length - list.numberOfDataOnBuffer)).length
      = list.numberOfDataOnBuffer := h.holds.level.symm
  have hpos : 0 < N := Nat.pos_of_ne_zero (NeZero.ne N)
  have hlevel : (list.add d).numberOfDataOnBuffer = list.numberOfDataOnBuffer :=
    if_neg hfull.not_lt
  have hsucc : (ds ++ [d]).length = ds.length + 1 := by
    rw [List.length_append, List.length_singleton]
  have hfrom : (ds ++ [d]).length - (list.add d).numberOfDataOnBuffer
      = ds.length - list.numberOfDataOnBuffer + 1 := by
    rw [hlevel, hsucc]
    omega
  have hheld : (ds ++ [d]).drop (ds.length - list.numberOfDataOnBuffer + 1)
      = (ds.drop (ds.length - list.numberOfDataOnBuffer)).tail ++ [d] := by
    rw [List.drop_append_of_le_length (by omega), List.tail_drop]
  have hnone := h.isException_of_flag_down hdown
  refine ⟨by omega, ?_, h.apart, ?_, ?_, ?_⟩
  · rw [hfrom, hheld]
    exact PointList.add_of_full h.holds (hlength.trans hfull) d
  · rw [hfrom]
    intro s hs
    exact (h.before s hs).trans (Nat.le_succ _)
  · have htail : ¬ ∃ e ∈ (ds.drop (ds.length - list.numberOfDataOnBuffer)).tail,
        e.isException = true := by
      rintro ⟨e, he, hexc⟩
      exact absurd hexc (Bool.eq_false_iff.mp (hnone e (List.mem_of_mem_tail he)))
    rw [hfrom, hheld, PointList.add_exceptionHappend, hdown, Bool.or_false]
    simp only [List.mem_append, List.mem_singleton, or_and_right, exists_or, exists_eq_left,
      htail, false_or]
  · intro i e hi he
    rw [hfrom]
    by_cases hlast : i < ds.length
    · rw [List.getElem?_append_left hlast] at hi
      rcases h.covered i e hi he with hblock | hheldi
      · exact .inl hblock
      · -- The point given up would have raised the flag.
        refine .inr (Nat.lt_of_le_of_ne hheldi fun heq => ?_)
        exact absurd he (Bool.eq_false_iff.mp (hnone e (mem_drop_of_getElem? hi heq.le)))
    · exact .inr (by omega)

/-- **Adding a point** to a list that is not full, or has the flag down. -/
theorem add (h : Written N ds starts list)
    (hfull : list.numberOfDataOnBuffer = N → list.exceptionHappend = false) (d : Data) :
    Written N (ds ++ [d]) starts (list.add d) := by
  by_cases hroom : list.numberOfDataOnBuffer < N
  · exact h.add_of_room hroom d
  · have hlevel := le_antisymm list.bounded (not_lt.mp hroom)
    exact h.add_of_full hlevel (hfull hlevel) d

/-- **Writing the list** adds the block of its points. -/
theorem dump (h : Written N ds starts list) (hfull : list.numberOfDataOnBuffer = N)
    {list' : PointList N} (hempty : list'.Holds []) (hflag : list'.exceptionHappend = false) :
    Written N ds (starts ++ [ds.length - N]) list' := by
  have hle := h.level_le
  have hlevel : list'.numberOfDataOnBuffer = 0 := hempty.level
  have hfrom : ds.length - list'.numberOfDataOnBuffer = ds.length := by
    rw [hlevel, Nat.sub_zero]
  have hnil : ds.drop ds.length = [] := List.drop_length
  refine ⟨by omega, ?_, ?_, ?_, ?_, ?_⟩
  · rw [hfrom, hnil]
    exact hempty
  · rw [List.pairwise_append]
    refine ⟨h.apart, List.pairwise_singleton _ _, fun s hs t ht => ?_⟩
    rw [List.mem_singleton.mp ht, ← hfull]
    have := h.before s hs
    omega
  · intro s hs
    rcases List.mem_append.mp hs with hs | hs
    · have := h.before s hs
      omega
    · rw [List.mem_singleton.mp hs]
      omega
  · rw [hfrom, hnil, hflag]
    simp
  · intro i d hi hd
    have hlt : i < ds.length := (List.getElem?_eq_some_iff.mp hi).1
    rcases h.covered i d hi hd with ⟨s, hs, hin⟩ | hheld
    · exact .inl ⟨s, List.mem_append_left _ hs, hin⟩
    · -- The points that were held are in the new block.
      refine .inl ⟨ds.length - N, List.mem_append_right _ (List.mem_singleton_self _), ?_, ?_⟩ <;>
        omega

end Written

/-! ### Every run of points -/

/-- A log between two points: the blocks that start at `starts` are the rows written, and a full
    list holds no exception. -/
structure Logged (ds : List Data) (starts : List ℕ) (me : Log N) (rows : List CsvRow) : Prop where
  enabled : me.enabled = true
  written : Written N ds starts me.list
  settled : me.list.numberOfDataOnBuffer = N → me.list.exceptionHappend = false
  rows_eq : rows = (starts.flatMap (logBlock N ds)).map Data.row

/-- **One point** is logged, and its list written when it is due. -/
theorem Logged.handlePoint {ds : List Data} {starts : List ℕ} {me : Log N} {rows : List CsvRow}
    (h : Logged ds starts me rows) (point : LogPoint) :
    ∃ starts', Logged (ds ++ [point.data]) starts' (me.handlePoint true point).1
      (rows ++ (me.handlePoint true point).2) := by
  have hadd := h.written.add h.settled point.data
  have hblocks : starts.flatMap (logBlock N (ds ++ [point.data]))
      = starts.flatMap (logBlock N ds) :=
    List.flatMap_congr fun s hs => h.written.logBlock_append point.data hs
  have hlog : me.handlePoint true point
      = ({ me with list := me.list.add point.data } : Log N).generateIfNeeded true := rfl
  have hholds := hadd.holds
  have hlevel := hholds.level
  rw [hlog]
  by_cases hready : (me.list.add point.data).numberOfDataOnBuffer = N ∧
      (me.list.add point.data).exceptionHappend = true
  · -- The list is full with an exception: its points are the next block.
    obtain ⟨list', hdump, hempty, hflag⟩ := Log.generateIfNeeded_ready
      { me with list := me.list.add point.data } h.enabled hholds
      (hlevel.symm.trans hready.1) hready.2
    refine ⟨starts ++ [(ds ++ [point.data]).length - N], ?_⟩
    rw [hdump]
    refine ⟨h.enabled, hadd.dump hready.1 hempty hflag, fun _ => hflag, ?_⟩
    have hlast : logBlock N (ds ++ [point.data]) ((ds ++ [point.data]).length - N)
        = (ds ++ [point.data]).drop ((ds ++ [point.data]).length
            - (me.list.add point.data).numberOfDataOnBuffer) := by
      rw [hready.1] at hlevel ⊢
      apply List.take_of_length_le
      exact hlevel.symm.le
    rw [List.flatMap_append, hblocks, List.map_append, List.flatMap_singleton, hlast, ← h.rows_eq]
  · rw [Log.generateIfNeeded_waiting { me with list := me.list.add point.data } hholds
      (fun hw => hready ⟨hlevel.trans hw.1, hw.2⟩)]
    refine ⟨starts, h.enabled, hadd, fun hN => ?_, ?_⟩
    · exact Bool.eq_false_iff.mpr fun hflag => hready ⟨hN, hflag⟩
    · rw [hblocks, List.append_nil]
      exact h.rows_eq

/-- A log whose list is empty and has the flag down stays `Logged` over every run of points. -/
theorem logged_handlePoints {me : Log N} (data : Data) (henabled : me.enabled = true)
    (hlist : me.list = PointList.init data) (points : List LogPoint) :
    ∃ starts, Logged (points.map LogPoint.data) starts (me.handlePoints true points).1
      (me.handlePoints true points).2 := by
  induction points using List.reverseRecOn with
  | nil =>
    refine ⟨[], henabled, ?_, fun _ => ?_, rfl⟩
    · show Written N [] [] me.list
      rw [hlist]
      exact Written.start data
    · show me.list.exceptionHappend = false
      rw [hlist]
      rfl
  | append_singleton points point ih =>
    obtain ⟨starts, h⟩ := ih
    obtain ⟨starts', h'⟩ := h.handlePoint point
    refine ⟨starts', ?_⟩
    rw [Log.handlePoints_concat, List.map_append]
    exact h'

/-- An exception still in the list has the flag up, so the list is not full. -/
theorem Logged.level_lt {ds : List Data} {starts : List ℕ} {me : Log N} {rows : List CsvRow}
    (h : Logged ds starts me rows) {d : Data}
    (hmem : d ∈ ds.drop (ds.length - me.list.numberOfDataOnBuffer)) (hexc : d.isException = true) :
    me.list.numberOfDataOnBuffer < N := by
  apply lt_of_le_of_ne me.list.bounded
  intro hfull
  have hup := h.written.flag.mpr ⟨d, hmem, hexc⟩
  rw [h.settled hfull] at hup
  exact absurd hup Bool.false_ne_true

/-- **Every exception is written exactly once**, `N - 1` points later at the latest, and what is
    overwritten unwritten is no exception. -/
theorem exceptions_logged (me : Log N) (data : Data) (henabled : me.enabled = true)
    (hlist : me.list = PointList.init data) (points : List LogPoint) :
    ∃ starts : List ℕ,
      -- whole blocks, in the order the points were added
      (me.handlePoints true points).2
          = (starts.flatMap (logBlock N (points.map LogPoint.data))).map Data.row ∧
      starts.Pairwise (fun s t => s + N ≤ t) ∧
      (∀ s ∈ starts, s + N ≤ points.length) ∧
      (∀ i point, points[i]? = some point → point.isException = true →
        i + N ≤ points.length → ∃! s, s ∈ starts ∧ s ≤ i ∧ i < s + N) ∧
      -- the list holds the points from `first` on
      ∃ first ≤ points.length,
        (me.handlePoints true points).1.list.Holds
          ((points.drop first).map LogPoint.data) ∧
        ∀ i < first, ∀ point, points[i]? = some point →
          (∀ s ∈ starts, ¬ (s ≤ i ∧ i < s + N)) → point.isException = false := by
  obtain ⟨starts, hlogged⟩ := logged_handlePoints data henabled hlist points
  have hwritten := hlogged.written
  have hlevel := fun d => hlogged.level_lt (d := d)
  generalize hleft : (me.handlePoints true points).1.list = list at hwritten hlevel ⊢
  have hholds := hwritten.holds
  have hbefore := hwritten.before
  rw [List.length_map] at hholds hbefore hlevel
  have hcovered : ∀ i point, points[i]? = some point → point.isException = true →
      (∃ s ∈ starts, s ≤ i ∧ i < s + N) ∨ points.length - list.numberOfDataOnBuffer ≤ i := by
    intro i point hi hexc
    have hdata : (points.map LogPoint.data)[i]? = some point.data := by
      rw [List.getElem?_map, hi]
      rfl
    have hcov := hwritten.covered i point.data hdata hexc
    rw [List.length_map] at hcov
    exact hcov
  refine ⟨starts, hlogged.rows_eq, hwritten.apart, fun s hs => ?_, ?_, ?_⟩
  · have := hbefore s hs
    omega
  · intro i point hi hexc hlate
    rcases hcovered i point hi hexc with ⟨s, hs, hin⟩ | hheld
    · exact ⟨s, ⟨hs, hin⟩, fun t ht => hwritten.eq_of_mem_blocks ht.1 hs ht.2 hin⟩
    · -- A point so late in a list that is not full is not `N` points old.
      have hmem : point.data ∈
          (points.map LogPoint.data).drop (points.length - list.numberOfDataOnBuffer) := by
        rw [← List.map_drop]
        apply List.mem_map_of_mem
        exact mem_drop_of_getElem? hi hheld
      have := hlevel point.data hmem hexc
      omega
  · refine ⟨points.length - list.numberOfDataOnBuffer, Nat.sub_le _ _, ?_, ?_⟩
    · rw [List.map_drop]
      exact hholds
    · intro i hi point hpoint hnone
      rw [Bool.eq_false_iff]
      intro hexc
      rcases hcovered i point hpoint hexc with ⟨s, hs, hin⟩ | hheld
      · exact hnone s hs hin
      · omega

/-- Three points for a list of two, the first an exception. -/
def samplePoints : List LogPoint :=
  [⟨⟨1, 0, 100, 120⟩, MonitorMetrics.init, true⟩, ⟨⟨1, 0, 200, 205⟩, MonitorMetrics.init, false⟩,
    ⟨⟨1, 0, 300, 305⟩, MonitorMetrics.init, false⟩]

/-- They are written from the first on. -/
theorem exceptions_logged_sample :
    ∃ starts : List ℕ, 0 ∈ starts ∧
      ((⟨PointList.init ⟨⟨0, 0, 0, 0⟩, MonitorMetrics.zero, false⟩, true, "1.csv"⟩ :
          Log 2).handlePoints true samplePoints).2
        = (starts.flatMap (logBlock 2 (samplePoints.map LogPoint.data))).map Data.row := by
  obtain ⟨starts, hrows, -, -, hwritten, -⟩ := exceptions_logged
    (⟨PointList.init ⟨⟨0, 0, 0, 0⟩, MonitorMetrics.zero, false⟩, true, "1.csv"⟩ : Log 2) _ rfl rfl
    samplePoints
  obtain ⟨s, ⟨hs, hle, -⟩, -⟩ := hwritten 0 _ rfl rfl (by decide)
  obtain rfl : s = 0 := Nat.le_zero.mp hle
  exact ⟨starts, hs, hrows⟩

end RtTaskTrace
