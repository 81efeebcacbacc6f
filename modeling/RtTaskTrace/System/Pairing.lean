import RtTaskTrace.System.Delivery

namespace RtTaskTrace

open Runs

/-!
# Which start a reported execution carries

The start time of an execution waits in the task's telegram buffer until a stop call sends it.
No call clears the buffer, so what a stop sends is the time of the last start that succeeded,
however long ago that was.

* `TraceEvent`, `Delivery.trace` — the successful starts and the accepted stops of a run, in
  order;
* `step_buffer` — what one step does to the start time in the buffer, against what it adds to the
  trace;
* `reported_start` — every accepted telegram carries the last successful start before it;
* `reported_unmatched` — which need not be one since the telegram accepted before.
-/

/-- A start that succeeded, with the time it read, or a stop that was accepted, with its
    telegram. -/
inductive TraceEvent
  | started (time : UInt64)
  | reported (telegram : Telegram)
  deriving DecidableEq, Repr

/-- The time of a start. -/
def TraceEvent.startTime : TraceEvent → Option UInt64
  | .started time => some time
  | .reported _ => none

/-- The time of the last start of a trace. -/
def lastStart (trace : List TraceEvent) : Option UInt64 :=
  trace.reverse.findSome? TraceEvent.startTime

@[simp] theorem lastStart_started (trace : List TraceEvent) (time : UInt64) :
    lastStart (trace ++ [.started time]) = some time := by
  simp [lastStart, List.findSome?_cons, TraceEvent.startTime]

@[simp] theorem lastStart_reported (trace : List TraceEvent) (telegram : Telegram) :
    lastStart (trace ++ [.reported telegram]) = lastStart trace := by
  simp [lastStart, List.findSome?_cons, TraceEvent.startTime]

/-- The last start of a trace is in every later part of it that has a start. -/
theorem lastStart_mem_of_mem (earlier : List TraceEvent) {later : List TraceEvent} {time : UInt64}
    (h : .started time ∈ later) :
    ∃ last, lastStart (earlier ++ later) = some last ∧ .started last ∈ later := by
  -- The search runs backwards, so it finds one in the later part first.
  have hsome : (later.reverse.findSome? TraceEvent.startTime).isSome = true := by
    rw [List.findSome?_isSome_iff]
    exact ⟨_, List.mem_reverse.mpr h, rfl⟩
  obtain ⟨last, hlast⟩ := Option.isSome_iff_exists.mp hsome
  refine ⟨last, ?_, ?_⟩
  · rw [lastStart, List.reverse_append, List.findSome?_append, hlast]
    rfl
  · obtain ⟨event, hmem, hevent⟩ := List.exists_of_findSome?_eq_some hlast
    cases event with
    | started time =>
      cases hevent
      exact List.mem_reverse.mp hmem
    | reported telegram => cases hevent

/-- The last element of a list is the one split off, or comes after it. -/
theorem concat_eq_append_cons {α : Type*} {xs before after : List α} {x y : α}
    (h : xs ++ [x] = before ++ y :: after) :
    (xs = before ∧ x = y) ∨ ∃ after', xs = before ++ y :: after' := by
  rcases List.eq_nil_or_concat after with rfl | ⟨after', z, rfl⟩
  · obtain ⟨hxs, hx⟩ := List.append_inj' h rfl
    exact .inl ⟨hxs, (List.cons.inj hx).1⟩
  · rw [List.concat_eq_append, ← List.cons_append, ← List.append_assoc] at h
    exact .inr ⟨after', (List.append_inj' h rfl).1⟩

variable {N : ℕ} [NeZero N]

namespace Delivery

/-- What a step adds to the trace. -/
def traced (s : Delivery N) : Event → Delivery N → List TraceEvent
  | .call (.traceExecutionStart (some time)), _ =>
    if (s.task.traceExecutionStart (some time)).2 = 0 then [.started time.nanoseconds] else []
  | .call (.traceExecutionStop clock), s' =>
    if (s.task.traceExecutionStop clock).2 = 0 then [.reported s'.task.telegram] else []
  | _, _ => []

/-- The trace of a run. -/
def trace (s : Delivery N) (es : List Event) : List TraceEvent := records step traced s es

variable {s s' : Delivery N} {pid : PidT} {capacity : ℕ} {es : List Event}

/-! ### The buffer -/

/-- A stop leaves the start time in the buffer, and sends it if it is accepted. -/
theorem stop_buffer (task : TaskTrace N) (clock : Option Timespec) :
    (task.traceExecutionStop clock).1.telegram.t1 = task.telegram.t1 := by
  cases hoff : !task.isInitiallized || !task.isRecording
  · cases clock with
    | none =>
      rw [TaskTrace.traceExecutionStop, if_neg (by simp [hoff])]
      rfl
    | some time =>
      rw [TaskTrace.traceExecutionStop_recorded hoff]
      rfl
  · rw [TaskTrace.traceExecutionStop_refused hoff]

/-- The steps of the gateway and the monitor have no part in the task's buffer. -/
theorem step_telegram {e : Event} (h : s.step e = some s') (hcall : ∀ c, e ≠ .call c) :
    s'.task.telegram = s.task.telegram := by
  cases e with
  | call c => exact absurd rfl (hcall c)
  | fetch wait =>
    obtain ⟨-, gateway, ret, -, rfl⟩ := fetch_eq_some h
    rfl
  | forward fault =>
    obtain ⟨-, rfl⟩ := forward_eq_some h
    rfl
  | read =>
    obtain ⟨⟨bytes, pipe⟩, -, rfl⟩ := Option.map_eq_some_iff.mp h
    rfl

/-- **What a step does to the buffer**: a start that is traced stores its time, a stop that is
    traced sends what is stored, and nothing else touches it. -/
theorem step_buffer {e : Event} (h : s.step e = some s') :
    (s.traced e s' = [] ∧ s'.task.telegram.t1 = s.task.telegram.t1) ∨
    (∃ time, s.traced e s' = [.started time] ∧ s'.task.telegram.t1 = time) ∨
    (∃ telegram, s.traced e s' = [.reported telegram] ∧ telegram.t1 = s.task.telegram.t1 ∧
      s'.task.telegram.t1 = s.task.telegram.t1) := by
  cases e with
  | call c =>
    cases h
    cases c with
    | enableRecording =>
      exact .inl ⟨rfl, congrArg Telegram.t1 s.task.enableRecording_telegram⟩
    | disableRecording =>
      exact .inl ⟨rfl, congrArg Telegram.t1 s.task.disableRecording_telegram⟩
    | traceExecutionStart clock =>
      rcases s.task.traceExecutionStart_cases clock with ⟨time, rfl, hret, hstored⟩ |
        ⟨hret, hsame⟩
      · exact .inr (.inl ⟨_, if_pos hret, hstored⟩)
      · refine .inl ⟨?_, congrArg Telegram.t1 hsame⟩
        cases clock with
        | none => rfl
        | some time => exact if_neg hret
    | traceExecutionStop clock =>
      have hbuffer : (s.call (.traceExecutionStop clock)).task.telegram.t1
          = s.task.telegram.t1 := stop_buffer s.task clock
      by_cases hret : (s.task.traceExecutionStop clock).2 = 0
      · exact .inr (.inr ⟨_, if_pos hret, hbuffer, hbuffer⟩)
      · exact .inl ⟨if_neg hret, hbuffer⟩
  | _ => exact .inl ⟨rfl, congrArg Telegram.t1 (step_telegram h (by simp))⟩

/-! ### Runs -/

/-- After every run the buffer holds the last start, and each telegram reported carries the last
    start before it. -/
theorem run_buffer (h : Run step (start pid capacity : Delivery N) es s) :
    s.task.telegram.t1 = (lastStart (trace (start pid capacity : Delivery N) es)).getD 0 ∧
    ∀ before telegram after,
      trace (start pid capacity : Delivery N) es = before ++ .reported telegram :: after →
        telegram.t1 = (lastStart before).getD 0 := by
  refine h.history_induction (P := fun es s =>
    s.task.telegram.t1 = (lastStart (trace (start pid capacity : Delivery N) es)).getD 0 ∧
    ∀ before telegram after,
      trace (start pid capacity : Delivery N) es = before ++ .reported telegram :: after →
        telegram.t1 = (lastStart before).getD 0) ⟨rfl, ?_⟩ ?_
  · intro before telegram after hsplit
    exact absurd hsplit.symm (List.append_ne_nil_of_right_ne_nil _ (List.cons_ne_nil _ _))
  · rintro es s e s' hes ⟨hlast, hall⟩ hstep
    have htrace : trace (start pid capacity) (es ++ [e])
        = trace (start pid capacity) es ++ s.traced e s' := records_concat hes hstep
    rw [htrace]
    rcases step_buffer hstep with ⟨hnone, hsame⟩ | ⟨time, htime, hstored⟩ |
      ⟨sent, hsent, hcarries, hsame⟩
    · rw [hnone, List.append_nil, hsame]
      exact ⟨hlast, hall⟩
    · rw [htime, hstored, lastStart_started]
      refine ⟨rfl, fun before telegram after hsplit => ?_⟩
      -- A start is not the telegram split off, so that one was there before.
      rcases concat_eq_append_cons hsplit with ⟨-, heq⟩ | ⟨after', hsplit'⟩
      · cases heq
      · exact hall before telegram after' hsplit'
    · rw [hsent, hsame, lastStart_reported]
      refine ⟨hlast, fun before telegram after hsplit => ?_⟩
      rcases concat_eq_append_cons hsplit with ⟨rfl, heq⟩ | ⟨after', hsplit'⟩
      · cases heq
        rw [hcarries, hlast]
      · exact hall before telegram after' hsplit'

/-- **A reported execution carries the last successful start** before its stop, or zero if there
    was none; so it carries one since the telegram accepted before whenever one succeeded since
    then. -/
theorem reported_start (h : Run step (start pid capacity : Delivery N) es s)
    {before after : List TraceEvent} {telegram : Telegram}
    (hsplit : trace (start pid capacity : Delivery N) es = before ++ .reported telegram :: after) :
    telegram.t1 = (lastStart before).getD 0 ∧
    ∀ earlier previous between time, before = earlier ++ .reported previous :: between →
      .started time ∈ between → .started telegram.t1 ∈ between := by
  have hlast := (run_buffer h).2 before telegram after hsplit
  refine ⟨hlast, fun earlier previous between time hbetween htime => ?_⟩
  obtain ⟨last, hfound, hmem⟩ :=
    lastStart_mem_of_mem (earlier ++ [.reported previous]) htime
  rw [List.append_assoc, List.singleton_append, ← hbetween] at hfound
  rw [hlast, hfound]
  exact hmem

/-- The trace of two executions up to the second stop. -/
def sampleTrace : List TraceEvent :=
  [.started 1000000000, .reported ⟨7, 0, 1000000000, 1000000005⟩, .started 2000000000]

/-- The second stop sends its own start, not the first one. -/
theorem reported_start_sample :
    (⟨7, 0, 2000000000, 2000000005⟩ : Telegram).t1 = (lastStart sampleTrace).getD 0 :=
  (reported_start (run_get (start 7 32 : Delivery queueSize) sampleEvents (by decide))
    (show trace (start 7 32 : Delivery queueSize) sampleEvents
      = sampleTrace ++ .reported ⟨7, 0, 2000000000, 2000000005⟩ :: [] from by decide)).1

/-! ### Starts that are missing

The times a clock reads along a run never decrease, and still a stop may be accepted without a
start of its own: the first stop of a task, or one that follows another. -/

/-- The reading of a call. -/
def reading : Event → Option UInt64
  | .call (.traceExecutionStart clock) => clock.map Timespec.nanoseconds
  | .call (.traceExecutionStop clock) => clock.map Timespec.nanoseconds
  | _ => none

/-- Every telegram reported carries a start that succeeded since the one reported before. -/
def Paired (trace : List TraceEvent) : Prop :=
  ∀ before telegram after, trace = before ++ .reported telegram :: after →
    ∃ earlier later, before = earlier ++ .started telegram.t1 :: later ∧
      ∀ previous, .reported previous ∉ later

/-- Two stops after one start, and a start that failed in between. -/
def unpairedEvents : List Event :=
  [.call .enableRecording, .call (.traceExecutionStart (some ⟨1, 0⟩)),
    .call (.traceExecutionStop (some ⟨1, 5⟩)), .call (.traceExecutionStart none),
    .call (.traceExecutionStop (some ⟨9, 0⟩))]

/-- **A reported execution need not have a start of its own.** -/
theorem reported_unmatched :
    ¬ ∀ (es : List Event) (s : Delivery queueSize),
      Run step (start 7 65536 : Delivery queueSize) es s →
      (es.filterMap reading).Pairwise (· ≤ ·) →
      Paired (trace (start 7 65536 : Delivery queueSize) es) := by
  intro hclaim
  have hpaired := hclaim unpairedEvents _ (run_get _ _ (by decide)) (by decide)
  have htrace : trace (start 7 65536 : Delivery queueSize) unpairedEvents
      = [.started 1000000000, .reported ⟨7, 0, 1000000000, 1000000005⟩]
        ++ .reported ⟨7, 0, 1000000000, 9000000000⟩ :: [] := by decide
  obtain ⟨earlier, later, hsplit, hnone⟩ := hpaired _ _ _ htrace
  -- The one start comes before the first report.
  match earlier, hsplit with
  | [], hsplit =>
    obtain ⟨-, rfl⟩ := List.cons.inj hsplit
    exact hnone _ (List.mem_singleton_self _)
  | [_], hsplit => simp at hsplit
  | _ :: _ :: _, hsplit => simp at hsplit

end Delivery

end RtTaskTrace
