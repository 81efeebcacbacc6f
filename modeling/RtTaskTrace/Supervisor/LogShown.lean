import RtTaskTrace.Supervisor.LogBlocks
import RtTaskTrace.Supervisor.LogFailures
import RtTaskTrace.Supervisor.LogQueue

namespace RtTaskTrace

open DropOldest

/-!
# What a log will show of the points it holds

Two logs are given the same points.  A log is written only after another point has been added, so
the oldest point of a full list is never seen again; all the others are, in the next block, and the
flag says when that is.

* `handlePoint_waiting`, `handlePoint_due` — one point, in terms of the points kept for it;
* `Alike` — the kept points have the same rows, and the flags are the same; `Alike.handlePoint`;
* `SameRows` — the logs write the same for each of some points; `kept_of_sameRows` for exceptions,
  `flag_of_sameRows` for other points: enough of both tell two logs apart that are not alike.
-/

variable {N : ℕ} [NeZero N]

namespace PointList

variable {me : PointList N} {ds : List Data}

/-- The unread points that another one leaves. -/
def kept (me : PointList N) : List Data := DropOldest.kept N me.unread

theorem Holds.unread_eq (h : me.Holds ds) : me.unread = ds := by
  unfold unread
  rw [h.level]
  exact h.stored

theorem length_kept_lt (me : PointList N) : me.kept.length < N :=
  DropOldest.length_kept_lt (Nat.pos_of_ne_zero (NeZero.ne N)) me.holds_unread.length_le

/-- A new point goes behind them. -/
theorem unread_add (me : PointList N) (data : Data) : (me.add data).unread = me.kept ++ [data] := by
  rw [(add_holds me.holds_unread data).unread_eq, push_eq]
  rfl

end PointList

namespace Log

variable {me me₁ me₂ : Log N} {point : LogPoint} {points : List LogPoint}

/-- The list is written after this point: it is full with it, and there is an exception. -/
def Due (me : Log N) (point : LogPoint) : Prop :=
  (me.list.kept ++ [point.data]).length = N ∧
    (point.isException || me.list.exceptionHappend) = true

/-- **A point after which nothing is written** goes behind those that are kept. -/
theorem handlePoint_waiting (h : ¬ me.Due point) (fopen : Bool) :
    me.handlePoint fopen point = (me.addNewPoint point.telegram point.metrics point.isException, []) ∧
      (me.handlePoint fopen point).1.list.unread = me.list.kept ++ [point.data] ∧
      (me.handlePoint fopen point).1.list.exceptionHappend
        = (point.isException || me.list.exceptionHappend) := by
  have hunread := me.list.unread_add point.data
  have hflag := me.list.add_exceptionHappend point.data
  have hholds := (me.list.add point.data).holds_unread
  rw [hunread] at hholds
  have hwait : ¬ ((me.list.kept ++ [point.data]).length = N ∧
      (me.list.add point.data).exceptionHappend = true) := by
    rw [hflag]
    exact h
  have hlog : me.handlePoint fopen point
      = (me.addNewPoint point.telegram point.metrics point.isException, []) :=
    generateIfNeeded_waiting { me with list := me.list.add point.data } hholds hwait fopen
  rw [hlog]
  exact ⟨rfl, hunread, hflag⟩

/-- **A point after which the list is written**: with it, the list is empty; if the file cannot be
    opened, it stays as it is, but the flag is down all the same. -/
theorem handlePoint_due (henabled : me.enabled = true) (h : me.Due point) (fopen : Bool) :
    (me.handlePoint fopen point).2
        = (if fopen then (me.list.kept ++ [point.data]).map Data.row else []) ∧
      (me.handlePoint fopen point).1.list.unread
        = (if fopen then [] else me.list.kept ++ [point.data]) ∧
      (me.handlePoint fopen point).1.list.exceptionHappend = false := by
  have hunread := me.list.unread_add point.data
  have hholds := (me.list.add point.data).holds_unread
  have hup : (me.list.add point.data).exceptionHappend = true :=
    (me.list.add_exceptionHappend point.data).trans h.2
  have hlog : me.handlePoint fopen point
      = ({ me with list := me.list.add point.data } : Log N).generateIfNeeded fopen := rfl
  rw [hunread] at hholds
  rw [hlog]
  cases fopen with
  | true =>
    obtain ⟨list, hdump, hempty, hdown⟩ := generateIfNeeded_ready
      { me with list := me.list.add point.data } henabled hholds h.1 hup
    rw [hdump]
    exact ⟨rfl, hempty.unread_eq, hdown⟩
  | false =>
    have hfailed : ({ me with list := me.list.add point.data } : Log N).generateIfNeeded false = _ :=
      generateIfNeeded_failed henabled ⟨(hholds.level.trans h.1).ge, hup⟩
    rw [hfailed]
    exact ⟨rfl, hunread, rfl⟩

/-- Logging stays enabled. -/
theorem handlePoint_enabled (me : Log N) (fopen : Bool) (point : LogPoint) :
    (me.handlePoint fopen point).1.enabled = me.enabled := by
  unfold handlePoint generateIfNeeded
  split
  · rfl
  · simp only
    split
    · rfl
    · split <;> rfl

/-! ### Two logs that show the same -/

/-- The points that are kept have the same rows, and the flags are the same. -/
structure Alike (me₁ me₂ : Log N) : Prop where
  rows : me₁.list.kept.map Data.row = me₂.list.kept.map Data.row
  flag : me₁.list.exceptionHappend = me₂.list.exceptionHappend

/-- Nothing but the lists matters. -/
theorem alike_congr {me₁' me₂' : Log N} (h₁ : me₁.list = me₁'.list) (h₂ : me₂.list = me₂'.list) :
    Alike me₁ me₂ ↔ Alike me₁' me₂' := by
  constructor
  · rintro ⟨hrows, hflag⟩
    rw [h₁, h₂] at hrows hflag
    exact ⟨hrows, hflag⟩
  · rintro ⟨hrows, hflag⟩
    rw [← h₁, ← h₂] at hrows hflag
    exact ⟨hrows, hflag⟩

/-- Lists whose rows are the same leave the same rows to another point. -/
theorem kept_rows_congr (h : me₁.list.unread.map Data.row = me₂.list.unread.map Data.row) :
    me₁.list.kept.map Data.row = me₂.list.kept.map Data.row := by
  unfold PointList.kept
  rw [kept_map, h, kept_map]

/-- **One point** keeps them alike, and both write the same. -/
theorem Alike.handlePoint (h : Alike me₁ me₂) (henabled₁ : me₁.enabled = true)
    (henabled₂ : me₂.enabled = true) (fopen : Bool) (point : LogPoint) :
    (me₁.handlePoint fopen point).2 = (me₂.handlePoint fopen point).2 ∧
      Alike (me₁.handlePoint fopen point).1 (me₂.handlePoint fopen point).1 := by
  have hheld : (me₁.list.kept ++ [point.data]).map Data.row
      = (me₂.list.kept ++ [point.data]).map Data.row := by
    rw [List.map_append, List.map_append, h.rows]
  have hlength : (me₁.list.kept ++ [point.data]).length = (me₂.list.kept ++ [point.data]).length := by
    simpa only [List.length_map] using congrArg List.length hheld
  have hdue : me₁.Due point ↔ me₂.Due point := by
    unfold Due
    rw [hlength, h.flag]
  by_cases hd : me₁.Due point
  · obtain ⟨hrows₁, hunread₁, hflag₁⟩ := handlePoint_due henabled₁ hd fopen
    obtain ⟨hrows₂, hunread₂, hflag₂⟩ := handlePoint_due henabled₂ (hdue.mp hd) fopen
    refine ⟨?_, kept_rows_congr ?_, hflag₁.trans hflag₂.symm⟩
    · rw [hrows₁, hrows₂, hheld]
    · rw [hunread₁, hunread₂]
      cases fopen with
      | true => rfl
      | false => exact hheld
  · obtain ⟨hlog₁, hunread₁, hflag₁⟩ := handlePoint_waiting hd fopen
    obtain ⟨hlog₂, hunread₂, hflag₂⟩ := handlePoint_waiting (fun hd₂ => hd (hdue.mpr hd₂)) fopen
    refine ⟨?_, kept_rows_congr ?_, ?_⟩
    · rw [hlog₁, hlog₂]
    · rw [hunread₁, hunread₂, hheld]
    · rw [hflag₁, hflag₂, h.flag]

/-! ### Two logs that are told apart -/

/-- The logs write the same for each of the points, one after the other. -/
def SameRows : Log N → Log N → List LogPoint → Prop
  | _, _, [] => True
  | me₁, me₂, point :: points =>
    (me₁.handlePoint true point).2 = (me₂.handlePoint true point).2 ∧
      SameRows (me₁.handlePoint true point).1 (me₂.handlePoint true point).1 points

/-- A list that is written has rows. -/
theorem handlePoint_ne_nil (henabled : me.enabled = true) (h : me.Due point) :
    (me.handlePoint true point).2 ≠ [] := by
  rw [(handlePoint_due henabled h true).1]
  simp

/-- While the list is not full, what is held after a point is kept for the next. -/
theorem handlePoint_kept (h : ¬ me.Due point) (hroom : (me.list.kept ++ [point.data]).length ≠ N) :
    (me.handlePoint true point).1.list.kept = me.list.kept ++ [point.data] := by
  have hlt := me.list.length_kept_lt
  rw [PointList.kept, (handlePoint_waiting h true).2.1, kept_of_lt]
  rw [List.length_append, List.length_singleton] at hroom ⊢
  omega

/-- So it has come one point closer to being full. -/
theorem handlePoint_enough (h : ¬ me.Due point) (hroom : (me.list.kept ++ [point.data]).length ≠ N)
    (henough : N ≤ me.list.kept.length + (point :: points).length) :
    N ≤ (me.handlePoint true point).1.list.kept.length + points.length := by
  rw [handlePoint_kept h hroom, List.length_append, List.length_singleton]
  rw [List.length_cons] at henough
  omega

/-- **Exceptions** show the points that are kept: both lists are written when the first of them is
    full. -/
theorem kept_of_sameRows (henabled₁ : me₁.enabled = true) (henabled₂ : me₂.enabled = true)
    (hpoints : ∀ point ∈ points, point.isException = true)
    (henough : N ≤ me₁.list.kept.length + points.length) (h : SameRows me₁ me₂ points) :
    me₁.list.kept.map Data.row = me₂.list.kept.map Data.row := by
  induction points generalizing me₁ me₂ with
  | nil => exact absurd henough me₁.list.length_kept_lt.not_ge
  | cons point points ih =>
    obtain ⟨hexc, hrest⟩ := List.forall_mem_cons.mp hpoints
    obtain ⟨hrows, hsame⟩ := h
    -- An exception is written as soon as the list is full.
    have hdue : ∀ me : Log N, me.Due point ↔ (me.list.kept ++ [point.data]).length = N := by
      intro me
      unfold Due
      rw [hexc, Bool.true_or]
      exact and_iff_left rfl
    have hheld : (me₁.list.kept ++ [point.data]).map Data.row
        = (me₂.list.kept ++ [point.data]).map Data.row := by
      by_cases h₁ : me₁.Due point <;> by_cases h₂ : me₂.Due point
      · rw [(handlePoint_due henabled₁ h₁ true).1, (handlePoint_due henabled₂ h₂ true).1] at hrows
        exact hrows
      · rw [(handlePoint_waiting h₂ true).1] at hrows
        exact absurd hrows (handlePoint_ne_nil henabled₁ h₁)
      · rw [(handlePoint_waiting h₁ true).1] at hrows
        exact absurd hrows.symm (handlePoint_ne_nil henabled₂ h₂)
      · have hroom₁ := mt (hdue me₁).mpr h₁
        have hroom₂ := mt (hdue me₂).mpr h₂
        rw [← handlePoint_kept h₁ hroom₁, ← handlePoint_kept h₂ hroom₂]
        exact ih ((handlePoint_enabled me₁ true point).trans henabled₁)
          ((handlePoint_enabled me₂ true point).trans henabled₂) hrest
          (handlePoint_enough h₁ hroom₁ henough) hsame
    rw [List.map_append, List.map_append] at hheld
    exact List.append_cancel_right hheld

/-- **Other points** show a flag that is up: its list is written when it is full. -/
theorem flag_of_sameRows (henabled₁ : me₁.enabled = true)
    (hpoints : ∀ point ∈ points, point.isException = false)
    (henough : N ≤ me₁.list.kept.length + points.length) (h : SameRows me₁ me₂ points)
    (hflag₁ : me₁.list.exceptionHappend = true) : me₂.list.exceptionHappend = true := by
  induction points generalizing me₁ me₂ with
  | nil => exact absurd henough me₁.list.length_kept_lt.not_ge
  | cons point points ih =>
    obtain ⟨hexc, hrest⟩ := List.forall_mem_cons.mp hpoints
    obtain ⟨hrows, hsame⟩ := h
    by_contra hdown
    -- With the flag down nothing is written, and it stays down.
    have h₂ : ¬ me₂.Due point := by
      unfold Due
      rw [hexc, Bool.false_or]
      exact fun hdue => hdown hdue.2
    obtain ⟨hlog₂, -, hflag₂⟩ := handlePoint_waiting h₂ true
    by_cases h₁ : me₁.Due point
    · rw [hlog₂] at hrows
      exact handlePoint_ne_nil henabled₁ h₁ hrows
    · have hroom : (me₁.list.kept ++ [point.data]).length ≠ N := by
        intro hfull
        exact h₁ ⟨hfull, by rw [hflag₁, Bool.or_true]⟩
      have hflag₁' : (me₁.handlePoint true point).1.list.exceptionHappend = true := by
        rw [(handlePoint_waiting h₁ true).2.2, hflag₁, Bool.or_true]
      have hup := ih ((handlePoint_enabled me₁ true point).trans henabled₁) hrest
        (handlePoint_enough h₁ hroom henough) hsame hflag₁'
      rw [hflag₂, hexc, Bool.false_or] at hup
      exact hdown hup

theorem SameRows.symm (h : SameRows me₁ me₂ points) : SameRows me₂ me₁ points := by
  induction points generalizing me₁ me₂ with
  | nil => trivial
  | cons point points ih => exact ⟨h.1.symm, ih h.2⟩

end Log

end RtTaskTrace
