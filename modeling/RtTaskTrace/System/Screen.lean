import RtTaskTrace.Supervisor.TerminalInterface
import RtTaskTrace.System.Lifetime

namespace RtTaskTrace

open Runs

/-!
# The supervisor with its screen

The thread of the terminal interface draws while the supervisor's threads work.  It holds the
mutex for one pass and not for a frame, and the checker writes a pid to its slot without it.  A
frame is the list of its `mvprintw` calls, whatever part of it the screen has room for.

* `Tracing.Filled` — a slot without a pid is the one that the checker has reserved;
* `Display` — the supervisor's threads and the screen's, with the mutex;
* `Display.frame_lists` — which lines of a frame are about a task that is monitored: one in each
  block whose policy the kernel answered when it was drawn;
* `Display.screen_sound` — what is never on the screen: two lines of one block about one pid, or
  a line about a pid that no slot holds; a slot reserved without a pid gives a line about pid 0.
-/

variable {M : ℕ}

namespace Tracing

variable {s s' : Tracing M} {w : World}

/-- A slot that is taken holds a pid, or the checker is about to write one to it. -/
def Filled (s : Tracing M) : Prop :=
  ∀ i, s.Taken i → 0 < s.pidAt i ∨ ∃ pid, s.checker = .reserved pid i

theorem start_filled (enableLogging : Bool) : (start enableLogging : Tracing M).Filled :=
  fun _ hi => absurd hi Bool.false_ne_true

theorem check_filled (hok : s.Ok) (h : s.Filled) {e : CheckerEvent} (hstep : s.check e = some s') :
    s'.Filled := by
  have hext := check_extends hok hstep
  intro i hi
  cases e with
  | entry pid =>
    rcases check_entry hstep with ⟨hpc, rfl | ⟨-, -, rfl⟩⟩
    · exact h i hi
    · rcases h i hi with hpos | ⟨pid', hpc'⟩
      · exact .inl hpos
      · rw [hpc] at hpc'
        exact absurd hpc' (by simp)
  | reserve =>
    obtain ⟨pid, hpc, ⟨-, rfl⟩ | ⟨j, -, rfl⟩⟩ := check_reserve hstep
    · exact h i hi
    · rcases taken_update.mp hi with rfl | hold
      · exact .inr ⟨pid, rfl⟩
      · rcases h i hold with hpos | ⟨pid', hpc'⟩
        · exact .inl hpos
        · rw [hpc] at hpc'
          exact absurd hpc' (by simp)
  | store =>
    obtain ⟨pid, j, hpc, rfl⟩ := check_store hstep
    have hpos := (hok.reserved pid j hpc).2.2.1
    by_cases hij : i = j
    · subst hij
      left
      show 0 < ((s.supervisor.storePid i pid).monitor i).pid
      rw [Supervisor.storePid_pid_self]
      exact hpos
    · left
      rcases h i hi with hpos' | ⟨pid', hpc'⟩
      · rw [hext.pids hpos']
        exact hpos'
      · rw [hpc] at hpc'
        exact absurd (CheckerPc.reserved.inj hpc').2.symm hij
  | create ok =>
    obtain ⟨pid, j, hpc, rfl⟩ := check_create hstep
    rcases h i hi with hpos | ⟨pid', hpc'⟩
    · exact .inl hpos
    · rw [hpc] at hpc'
      exact absurd hpc' (by simp)

theorem serve_filled (h : s.Filled) {e : MonitorEvent} (hstep : s.serve w e = some s') :
    s'.Filled := by
  obtain ⟨_, _, _, -, -, rfl, -⟩ := serve_cases hstep
  exact h

/-- No slot that is taken, from a place on, is without a pid. -/
def FilledFrom (s : Tracing M) (k : ℕ) : Prop := ∀ i : Fin M, k ≤ i → s.Taken i → 0 < s.pidAt i

/-- Behind the slot that has been reserved all slots hold a pid. -/
theorem Filled.from_succ (h : s.Filled) {i : Fin M} (hi : s.Taken i) (hpid : s.pidAt i = 0) :
    s.FilledFrom (i + 1) := by
  intro j hij hj
  have hreserved : ∀ k, s.Taken k → ¬ 0 < s.pidAt k → ∃ pid, s.checker = .reserved pid k :=
    fun k hk hnot => (h k hk).resolve_left hnot
  by_contra hnot
  obtain ⟨pid, hpc⟩ := hreserved j hj hnot
  obtain ⟨pid', hpc'⟩ := hreserved i hi (by rw [hpid]; decide)
  have hsame := (CheckerPc.reserved.inj (hpc.symm.trans hpc')).2
  rw [hsame] at hij
  omega

end Tracing

/-! ### The mutex -/

/-- A step takes the mutex of the table.  (The checker does not look an entry up that is no
    pid.) -/
def SupervisionEvent.locks : SupervisionEvent → Bool
  | .checker (.entry pid) => decide (0 < pid)
  | .checker .reserve | .cleaner .checkTraced => true
  | _ => false

namespace Supervision

variable {s s' : Supervision M} {enableLogging : Bool} {es : List SupervisionEvent}

/-- **Without the mutex no slot is taken.** -/
theorem taken_of_not_locks {e : SupervisionEvent} (he : e.locks = false)
    (hstep : s.step e = some s') {i : Fin M} (hi : s'.tracing.Taken i) : s.tracing.Taken i := by
  cases e with
  | task e =>
    obtain ⟨w, -, rfl⟩ := Option.map_eq_some_iff.mp hstep
    exact hi
  | checker e =>
    obtain ⟨tracing, htracing, rfl⟩ := Option.map_eq_some_iff.mp hstep
    cases e with
    | entry pid => rcases Tracing.check_entry htracing with ⟨-, rfl | ⟨-, -, rfl⟩⟩ <;> exact hi
    | reserve => exact absurd (show true = false from he) (by decide)
    | store =>
      obtain ⟨_, _, -, rfl⟩ := Tracing.check_store htracing
      exact hi
    | create ok =>
      obtain ⟨_, _, -, rfl⟩ := Tracing.check_create htracing
      exact hi
  | monitor e =>
    obtain ⟨tracing, htracing, rfl⟩ := Option.map_eq_some_iff.mp hstep
    obtain ⟨_, _, _, -, -, rfl, -⟩ := Tracing.serve_cases htracing
    exact hi
  | cleaner e =>
    rw [(clean_frame hstep).1] at hi
    exact hi

theorem step_filled (hok : s.Ok) (h : s.tracing.Filled) {e : SupervisionEvent}
    (hstep : s.step e = some s') : s'.tracing.Filled := by
  cases e with
  | task e =>
    obtain ⟨w, -, rfl⟩ := Option.map_eq_some_iff.mp hstep
    exact h
  | checker e =>
    obtain ⟨tracing, htracing, rfl⟩ := Option.map_eq_some_iff.mp hstep
    exact Tracing.check_filled hok.tracing h htracing
  | monitor e =>
    obtain ⟨tracing, htracing, rfl⟩ := Option.map_eq_some_iff.mp hstep
    exact Tracing.serve_filled h htracing
  | cleaner e =>
    rw [(clean_frame hstep).1]
    exact h

end Supervision

/-- The supervisor's threads and tasks, and the thread of the terminal interface. -/
structure Display (M : ℕ) where
  supervision : Supervision M
  screen : TerminalInterface M

/-- A step of any of them. -/
inductive DisplayEvent
  | supervision (e : SupervisionEvent)
  | draw (e : DrawEvent)
  deriving DecidableEq, Repr

namespace Display

/-- The start; `schedulerPolicy` is what the screen's thread finds in its buffer. -/
def start (enableLogging : Bool) (schedulerPolicy : String) : Display M :=
  ⟨.start enableLogging, .start schedulerPolicy⟩

/-- The table of the supervisor. -/
def tracing (s : Display M) : Tracing M := s.supervision.tracing

/-- One step.  During a pass nobody else gets the mutex. -/
def step (s : Display M) : DisplayEvent → Option (Display M)
  | .supervision e =>
    if s.screen.pc.locked && e.locks then none
    else (s.supervision.step e).map fun supervision => { s with supervision := supervision }
  | .draw e =>
    (s.screen.draw s.tracing.supervisor e).map fun screen => { s with screen := screen }

variable {s s' : Display M} {es fs : List DisplayEvent} {enableLogging : Bool} {buffer : String}
  {pid : PidT}

/-- **What a step of the supervisor does.**  During a pass it does without the mutex. -/
theorem step_supervision {e : SupervisionEvent} (h : s.step (.supervision e) = some s') :
    ∃ supervision, s.supervision.step e = some supervision ∧
      s' = { s with supervision := supervision } ∧
      (s.screen.pc.locked = true → e.locks = false) := by
  simp only [step] at h
  split at h
  · exact absurd h (by simp)
  · rename_i hfree
    obtain ⟨supervision, hsup, rfl⟩ := Option.map_eq_some_iff.mp h
    refine ⟨supervision, hsup, rfl, fun hlocked => ?_⟩
    rw [hlocked, Bool.true_and] at hfree
    exact Bool.eq_false_iff.mpr hfree

/-- The table is right, and its slots are filled. -/
structure Ok (s : Display M) : Prop where
  supervision : s.supervision.Ok
  filled : s.tracing.Filled

theorem step_ok (h : s.Ok) {e : DisplayEvent} (hstep : s.step e = some s') :
    s'.Ok ∧ s.tracing.Extends s'.tracing := by
  cases e with
  | supervision e =>
    obtain ⟨supervision, hsup, rfl, -⟩ := step_supervision hstep
    exact ⟨⟨Supervision.step_ok h.supervision hsup,
      Supervision.step_filled h.supervision h.filled hsup⟩,
      Supervision.step_extends h.supervision hsup⟩
  | draw e =>
    obtain ⟨screen, -, rfl⟩ := Option.map_eq_some_iff.mp hstep
    exact ⟨⟨h.supervision, h.filled⟩, .refl⟩

theorem ok_run (h : Run step (start enableLogging buffer) es s) : s.Ok := by
  refine h.invariant (I := Ok) ?_ fun _ _ _ hI hstep => (step_ok hI hstep).1
  exact ⟨Supervision.start_ok enableLogging, Tracing.start_filled enableLogging⟩

/-! ### The lines about a task -/

/-- The thread has got past a slot in a block. -/
def past (i : Fin M) : DrawPc M → Block → Bool
  | .asleep, _ => true
  | .locking b, b' => b'.place < b.place
  | .slot b k, b' => b'.place < b.place ∨ b' = b ∧ i < k
  | .answered b k _, b' => b'.place < b.place ∨ b' = b ∧ i < k

/-- The kernel's answers for the policy of a pid, one for each block: whenever the slot asked
    about holds the pid, the answer is that of the block. -/
def Answered (pid : PidT) (answer : Block → ℤ) (s : Display M) : DisplayEvent → Prop
  | .draw (.slot scheduler) => ∀ (b : Block) (i : Fin M), s.screen.pc = .slot b i →
      s.tracing.pidAt i = pid → scheduler = answer b
  | _ => True

/-- What a frame shows about the pid of a slot: a line in each block that the thread has got past
    the slot in, if the block shows the answer. -/
structure Lists (pid : PidT) (i : Fin M) (answer : Block → ℤ) (s : Display M) : Prop where
  ok : s.Ok
  taken : s.tracing.Taken i
  pidAt : s.tracing.pidAt i = pid
  pos : 0 < pid
  lines : ∀ b, linesAbout b pid s.screen.lines
    = (past i s.screen.pc b && b.shows (answer b)).toNat
  shown : s.screen.pc = .asleep → s.screen.shown = s.screen.lines
  answered : ∀ (b : Block) (k : Fin M) (policy : ℤ), s.screen.pc = .answered b k policy →
    s.tracing.Taken k ∧ (k = i → b.shows (answer b) = true)

variable {i : Fin M} {answer : Block → ℤ}

/-- The other threads change nothing about it. -/
theorem Lists.supervision (h : s.Lists pid i answer) {e : SupervisionEvent}
    (hstep : s.step (.supervision e) = some s') : s'.Lists pid i answer := by
  obtain ⟨hok, hext⟩ := step_ok h.ok hstep
  obtain ⟨supervision, -, rfl, -⟩ := step_supervision hstep
  refine ⟨hok, hext.taken i h.taken, ?_, h.pos, h.lines, h.shown, ?_⟩
  · have hpos : 0 < s.tracing.pidAt i := by
      rw [h.pidAt]
      exact h.pos
    exact (hext.pids hpos).trans h.pidAt
  · intro b k policy hpc
    obtain ⟨htaken, hshows⟩ := h.answered b k policy hpc
    exact ⟨hext.taken k htaken, hshows⟩

/-- The slot of the pid is the only one that holds it. -/
theorem Lists.unique (h : s.Lists pid i answer) {k : Fin M} (hk : s.tracing.Taken k)
    (hpid : s.tracing.pidAt k = pid) : k = i := by
  refine h.ok.supervision.tracing.unique k i hk h.taken ?_ (hpid.trans h.pidAt.symm)
  show 0 < s.tracing.pidAt k
  rw [hpid]
  exact h.pos

/-- A turn of the loop that prints no line. -/
theorem past_succ_of_ne {b b' : Block} {k : Fin M} (hne : k ≠ i ∨ b' ≠ b) :
    past i (.slot b (k + 1)) b' = past i (.slot b k) b' := by
  have hlt : b' = b → (i.val < k.val + 1 ↔ i.val < k.val) := by
    intro hb
    have hki : k.val ≠ i.val := fun heq => (hne.resolve_right (not_not_intro hb)) (Fin.ext heq)
    omega
  simp only [past]
  exact decide_eq_decide.mpr (or_congr_right (and_congr_right hlt))

/-- **A turn of the loop** goes past the slot of the pid only with an answer that the block does
    not show. -/
theorem Lists.slot (h : s.Lists pid i answer) {scheduler : ℤ}
    (hanswer : Answered pid answer s (.draw (.slot scheduler)))
    (hstep : s.step (.draw (.slot scheduler)) = some s') : s'.Lists pid i answer := by
  obtain ⟨screen, hdraw, rfl⟩ := Option.map_eq_some_iff.mp hstep
  obtain ⟨b, k, hpc, hcases⟩ := TerminalInterface.draw_slot hdraw
  have hlines : ∀ b', linesAbout b' pid s.screen.lines
      = (past i (.slot b k) b' && b'.shows (answer b')).toNat := by
    intro b'
    rw [h.lines b', hpc]
  -- Past a slot that gives no line the lines are as many as before it.
  have hskip : (k = i → b.shows (answer b) = false) → ∀ b', linesAbout b' pid s.screen.lines
      = (past i (.slot b (k + 1)) b' && b'.shows (answer b')).toNat := by
    intro hnot b'
    rw [hlines b']
    by_cases hne : k ≠ i ∨ b' ≠ b
    · rw [past_succ_of_ne hne]
    · rw [not_or, not_not, not_not] at hne
      obtain ⟨hk, rfl⟩ := hne
      simp [hnot hk]
  have hsame : k = i → scheduler = answer b := by
    rintro rfl
    exact hanswer b k hpc h.pidAt
  rcases hcases with ⟨hfree, rfl⟩ | ⟨htaken, hshows, rfl⟩ | ⟨-, hshows, rfl⟩
  · refine ⟨⟨h.ok.supervision, h.ok.filled⟩, h.taken, h.pidAt, h.pos, hskip ?_, by simp, by simp⟩
    rintro rfl
    exact absurd h.taken (Bool.eq_false_iff.mp hfree)
  · refine ⟨⟨h.ok.supervision, h.ok.filled⟩, h.taken, h.pidAt, h.pos, hlines, by simp, ?_⟩
    intro b' k' policy heq
    obtain ⟨rfl, rfl, rfl⟩ := DrawPc.answered.inj heq
    refine ⟨htaken, fun hk => ?_⟩
    rw [← hsame hk]
    exact hshows
  · refine ⟨⟨h.ok.supervision, h.ok.filled⟩, h.taken, h.pidAt, h.pos, hskip ?_, by simp, by simp⟩
    intro hk
    rw [← hsame hk]
    exact hshows

/-- **A line printed** is about the pid exactly when it is for its slot. -/
theorem Lists.print (h : s.Lists pid i answer) {reads : LineReads}
    (hstep : s.step (.draw (.print reads)) = some s') : s'.Lists pid i answer := by
  obtain ⟨screen, hdraw, rfl⟩ := Option.map_eq_some_iff.mp hstep
  obtain ⟨b, k, policy, hpc, rfl⟩ := TerminalInterface.draw_print hdraw
  obtain ⟨htaken, hshows⟩ := h.answered b k policy hpc
  refine ⟨⟨h.ok.supervision, h.ok.filled⟩, h.taken, h.pidAt, h.pos, ?_, by simp, by simp⟩
  intro b'
  have hbefore := h.lines b'
  rw [hpc] at hbefore
  change linesAbout b' pid s.screen.lines
    = (past i (.slot b k) b' && b'.shows (answer b')).toNat at hbefore
  by_cases hne : k ≠ i ∨ b' ≠ b
  · -- The line is about another pid, or in another block.
    have hother : b ≠ b' ∨ (s.tracing.supervisor.monitor k).pid ≠ pid := by
      rcases hne with hk | hb'
      · exact .inr fun hpid => hk (h.unique htaken hpid)
      · exact .inl hb'.symm
    rw [TerminalInterface.linesAbout_line_of_ne hother, hbefore, past_succ_of_ne hne]
  · rw [not_or, not_not, not_not] at hne
    obtain ⟨rfl, rfl⟩ := hne
    have hpid : (s.tracing.supervisor.monitor k).pid = pid := h.pidAt
    simp only [hpid, TerminalInterface.linesAbout_line_self, hbefore]
    simp [hshows rfl, past]

/-- **The end of a pass** is past every slot. -/
theorem Lists.unlock (h : s.Lists pid i answer)
    (hstep : s.step (.draw .unlock) = some s') : s'.Lists pid i answer := by
  obtain ⟨screen, hdraw, rfl⟩ := Option.map_eq_some_iff.mp hstep
  obtain ⟨b, k, hpc, hk, hcases⟩ := TerminalInterface.draw_unlock hdraw
  have hik : i.val < k := i.isLt.trans_le hk
  have hlines : ∀ b', linesAbout b' pid s.screen.lines
      = (decide (b'.place < b.place ∨ b' = b) && b'.shows (answer b')).toNat := by
    intro b'
    rw [h.lines b', hpc]
    simp [past, hik]
  rcases hcases with ⟨b₂, hnext, rfl⟩ | ⟨hlast, rfl⟩
  · refine ⟨⟨h.ok.supervision, h.ok.filled⟩, h.taken, h.pidAt, h.pos, ?_, by simp, by simp⟩
    intro b'
    simp only [linesAbout_headings, hlines b', past, Block.place_lt_next hnext]
  · refine ⟨⟨h.ok.supervision, h.ok.filled⟩, h.taken, h.pidAt, h.pos, ?_, fun _ => rfl, by simp⟩
    intro b'
    rw [hlines b']
    simp [past, Block.place_le_last hlast]

/-- **Every step of a frame keeps it.** -/
theorem step_lists (h : s.Lists pid i answer) {e : DisplayEvent}
    (hanswer : Answered pid answer s e) (hclear : e ≠ .draw .clear)
    (hstep : s.step e = some s') : s'.Lists pid i answer := by
  cases e with
  | supervision e => exact h.supervision hstep
  | draw e =>
    cases e with
    | clear => exact absurd rfl hclear
    | lock =>
      obtain ⟨screen, hdraw, rfl⟩ := Option.map_eq_some_iff.mp hstep
      obtain ⟨b, hpc, rfl⟩ := TerminalInterface.draw_lock hdraw
      refine ⟨⟨h.ok.supervision, h.ok.filled⟩, h.taken, h.pidAt, h.pos, ?_, by simp, by simp⟩
      intro b'
      have hbefore := h.lines b'
      rw [hpc] at hbefore
      simpa [past] using hbefore
    | slot scheduler => exact h.slot hanswer hstep
    | print reads => exact h.print hstep
    | unlock => exact h.unlock hstep

/-- A frame begins without a line about any task. -/
theorem clear_lists (hok : s.Ok) {m : MonitorRun M} (hm : m ∈ s.tracing.monitors)
    (hstep : s.step (.draw .clear) = some s') :
    s'.Lists (s.tracing.pidOf m) m.slot answer := by
  obtain ⟨screen, hdraw, rfl⟩ := Option.map_eq_some_iff.mp hstep
  obtain ⟨-, rfl⟩ := TerminalInterface.draw_clear hdraw
  obtain ⟨htaken, hpos, -⟩ := hok.supervision.tracing.handed m hm
  refine ⟨⟨hok.supervision, hok.filled⟩, htaken, rfl, hpos, ?_, by simp, by simp⟩
  intro b
  cases b <;> rfl

/-- **What a frame shows of a task.**  In each block a task that is monitored when the frame
    begins has one line, if the block shows the policy that the kernel answered when it was
    drawn, and none if not, whatever the supervisor's other threads do meanwhile.  So a task
    whose policy does not change has one line in the frame. -/
theorem frame_lists (h : Run step (start enableLogging buffer) es s) {m : MonitorRun M}
    (hm : m ∈ s.tracing.monitors) (hframe : Run step s (.draw .clear :: fs) s')
    (honce : .draw .clear ∉ fs) (hdone : s'.screen.pc = .asleep)
    (hanswers : Along step (Answered (s.tracing.pidOf m) answer) s (.draw .clear :: fs)) :
    (∀ b, linesAbout b (s.tracing.pidOf m) s'.screen.shown = (b.shows (answer b)).toNat) ∧
      ((∀ b, answer b = answer .deadline) →
        allLinesAbout (s.tracing.pidOf m) s'.screen.shown = 1) := by
  obtain ⟨t, hclear, hrun⟩ := (run_cons s s' _ fs).mp hframe
  have hafter := hanswers.2 t hclear
  have hone : Along step (fun _ e => e ≠ DisplayEvent.draw .clear) t fs := by
    apply along_of_forall
    rintro e he rfl
    exact honce he
  have hlists : s'.Lists (s.tracing.pidOf m) m.slot answer :=
    hrun.invariant_along (hafter.and hone) (clear_lists (ok_run h) hm hclear)
      fun _ _ _ hI hC hstep => step_lists hI hC.1 hC.2 hstep
  have hshown : ∀ b, linesAbout b (s.tracing.pidOf m) s'.screen.shown
      = (b.shows (answer b)).toNat := by
    intro b
    rw [hlists.shown hdone, hlists.lines b, hdone]
    rfl
  refine ⟨hshown, fun hsame => ?_⟩
  rw [allLinesAbout_eq, hshown, hshown, hshown, hsame .fifo, hsame .other]
  exact Block.shows_once _

/-- The attributes of the task cannot be read. -/
def readsNothing : LineReads := ⟨MonitorMetrics.zero, 6, none, none⟩

/-- A task is monitored, and the checker starts on a second one. -/
def monitoredEvents : List DisplayEvent :=
  (Supervision.taskEvents 0 7 ++ Supervision.traceEvents 7 ++ Supervision.taskEvents 1 9 ++
    [SupervisionEvent.checker (.entry 9)]).map .supervision

def monitoredState : Display 2 := (monitoredEvents.foldlM step (start false "")).get (by decide)

/-- The rest of a frame with a deadline task in the first slot.  The second slot is reserved
    between two passes. -/
def frameEvents : List DisplayEvent :=
  [.draw .lock, .draw (.slot 6), .draw (.print readsNothing), .draw (.slot 6), .draw .unlock,
   .draw .lock, .draw (.slot 6), .supervision (.monitor (.access 0)), .draw (.slot 6),
   .draw .unlock, .supervision (.checker .reserve),
   .draw .lock, .draw (.slot 6), .draw (.slot 6), .draw .unlock]

def frameState : Display 2 :=
  ((.draw .clear :: frameEvents).foldlM step monitoredState).get (by decide)

theorem frame_lists_sample :
    (∀ b, linesAbout b (monitoredState.tracing.pidOf ⟨0, .waiting⟩) frameState.screen.shown
        = (b.shows 6).toNat) ∧
      ((∀ _ : Block, (6 : ℤ) = 6) →
        allLinesAbout (monitoredState.tracing.pidOf ⟨0, .waiting⟩) frameState.screen.shown = 1) := by
  have hanswers : Along step (fun _ e => ∀ scheduler, e = DisplayEvent.draw (.slot scheduler) →
      scheduler = 6) monitoredState (.draw .clear :: frameEvents) :=
    along_of_forall (by simp [frameEvents]) monitoredState
  have hanswered : Along step (Answered (monitoredState.tracing.pidOf ⟨0, .waiting⟩) fun _ => 6)
      monitoredState (.draw .clear :: frameEvents) := by
    refine hanswers.of_invariant (I := fun _ => True) trivial (fun _ _ _ _ _ _ => trivial) ?_
    intro t e _ he
    cases e with
    | supervision e => trivial
    | draw e =>
      cases e with
      | slot scheduler => exact fun _ _ _ _ => he scheduler rfl
      | clear => trivial
      | lock => trivial
      | print reads => trivial
      | unlock => trivial
  exact frame_lists (run_get (start false "") monitoredEvents (by decide)) (by decide)
    (run_get monitoredState (.draw .clear :: frameEvents) (by decide)) (by decide) (by decide)
    hanswered

/-! ### What is never on the screen -/

/-- The block of a pass and the place in the table it has come to. -/
def turn : DrawPc M → Option (Block × ℕ)
  | .slot b k => some (b, k)
  | .answered b i _ => some (b, i)
  | _ => none

/-- The blocks that have not been begun. -/
def ahead : DrawPc M → Block → Bool
  | .asleep, _ => false
  | .locking b, b' => b.place ≤ b'.place
  | .slot b _, b' | .answered b _ _, b' => b.place < b'.place

/-- No slot from a place on can hold the pid any more: the pid is in a slot before it, or it is
    the zero of a slot not yet written, and there is none from there on. -/
def Behind (pid : PidT) (k : ℕ) (t : Tracing M) : Prop :=
  pid = 0 ∧ t.FilledFrom k ∨ 0 < pid ∧ ∃ i : Fin M, i < k ∧ t.Taken i ∧ t.pidAt i = pid

theorem Behind.mono {t : Tracing M} {k l : ℕ} (h : Behind pid k t) (hkl : k ≤ l) :
    Behind pid l t := by
  rcases h with ⟨hpid, hfilled⟩ | ⟨hpos, i, hi, hi'⟩
  · exact .inl ⟨hpid, fun i hi => hfilled i (hkl.trans hi)⟩
  · exact .inr ⟨hpos, i, hi.trans_le hkl, hi'⟩

/-- **A slot that is taken is printed with a pid that no slot before it has been printed with.** -/
theorem not_behind (hok : s.Ok) {i : Fin M} (hi : s.tracing.Taken i) :
    ¬ Behind (s.tracing.pidAt i) i s.tracing := by
  rintro (⟨hzero, hfilled⟩ | ⟨hpos, j, hji, hj, hsame⟩)
  · have hpos := hfilled i le_rfl hi
    rw [hzero] at hpos
    exact absurd hpos (by decide)
  · have hij := hok.supervision.tracing.unique i j hi hj hpos hsame.symm
    rw [hij] at hji
    exact lt_irrefl _ hji

/-- **And no slot behind it will be.** -/
theorem behind_succ (hok : s.Ok) {i : Fin M} (hi : s.tracing.Taken i) :
    Behind (s.tracing.pidAt i) (i + 1) s.tracing := by
  rcases hok.filled i hi with hpos | ⟨pid', hpc⟩
  · exact .inr ⟨hpos, i, Nat.lt_succ_self _, hi, rfl⟩
  · have hzero := (hok.supervision.tracing.reserved pid' i hpc).2.1
    exact .inl ⟨hzero, hok.filled.from_succ hi hzero⟩

/-- What holds of the lines about a pid, in the frame being drawn and in the one shown. -/
structure Sound (pid : PidT) (s : Display M) : Prop where
  ok : s.Ok
  lines : ∀ b, linesAbout b pid s.screen.lines ≤ 1
  shown : ∀ b, linesAbout b pid s.screen.shown ≤ 1
  ahead : ∀ b, ahead s.screen.pc b = true → linesAbout b pid s.screen.lines = 0
  turn : ∀ b k, turn s.screen.pc = some (b, k) →
    linesAbout b pid s.screen.lines = 0 ∨ Behind pid k s.tracing
  answered : ∀ (b : Block) (i : Fin M) (policy : ℤ), s.screen.pc = .answered b i policy →
    s.tracing.Taken i
  traced : ∀ b, 0 < linesAbout b pid s.screen.lines ∨ 0 < linesAbout b pid s.screen.shown →
    pid = 0 ∨ ∃ i, s.tracing.Taken i ∧ s.tracing.pidAt i = pid ∧ 0 < pid

theorem start_sound : (start enableLogging buffer : Display M).Sound pid where
  ok := ok_run ((run_nil _ _).mpr rfl)
  lines := fun _ => Nat.zero_le 1
  shown := fun _ => Nat.zero_le 1
  ahead := fun _ _ => rfl
  turn := by
    intro b k h
    exact absurd h (by simp [start, TerminalInterface.start, Display.turn])
  answered := by
    intro b i policy h
    exact absurd h (by simp [start, TerminalInterface.start])
  traced := by
    rintro b (h | h) <;> exact absurd h (lt_irrefl 0)

/-- **The other threads keep it**: during a pass they take no slot, and a pid they write is one
    that no slot held. -/
theorem Sound.supervision (h : s.Sound pid) {e : SupervisionEvent}
    (hstep : s.step (.supervision e) = some s') : s'.Sound pid := by
  obtain ⟨hok, hext⟩ := step_ok h.ok hstep
  obtain ⟨supervision, hsup, rfl, hlocks⟩ := step_supervision hstep
  have hkept : ∀ i : Fin M, s.tracing.pidAt i = pid → 0 < pid →
      supervision.tracing.pidAt i = pid := by
    rintro i rfl hpos
    exact hext.pids hpos
  refine ⟨hok, h.lines, h.shown, h.ahead, ?_, ?_, ?_⟩
  · intro b k hturn
    refine (h.turn b k hturn).imp_right ?_
    have hfree : e.locks = false := by
      apply hlocks
      cases hpc : s.screen.pc with
      | slot _ _ => rfl
      | answered _ _ _ => rfl
      | asleep =>
        change Display.turn s.screen.pc = _ at hturn
        rw [hpc] at hturn
        exact absurd hturn (by simp [Display.turn])
      | locking b' =>
        change Display.turn s.screen.pc = _ at hturn
        rw [hpc] at hturn
        exact absurd hturn (by simp [Display.turn])
    rintro (⟨hzero, hfilled⟩ | ⟨hpos, i, hi, htaken, hpid⟩)
    · refine .inl ⟨hzero, fun i hi htaken => ?_⟩
      have hbefore := hfilled i hi (Supervision.taken_of_not_locks hfree hsup htaken)
      show 0 < supervision.tracing.pidAt i
      rw [show supervision.tracing.pidAt i = s.tracing.pidAt i from hext.pids hbefore]
      exact hbefore
    · exact .inr ⟨hpos, i, hi, hext.taken i htaken, hkept i hpid hpos⟩
  · intro b i policy hpc
    exact hext.taken i (h.answered b i policy hpc)
  · intro b hline
    rcases h.traced b hline with hzero | ⟨i, htaken, hpid, hpos⟩
    · exact .inl hzero
    · exact .inr ⟨i, hext.taken i htaken, hkept i hpid hpos, hpos⟩

/-- **A line printed** is the first one of its block about its pid. -/
theorem Sound.print (h : s.Sound pid) {reads : LineReads}
    (hstep : s.step (.draw (.print reads)) = some s') : s'.Sound pid := by
  obtain ⟨screen, hdraw, rfl⟩ := Option.map_eq_some_iff.mp hstep
  obtain ⟨b, i, policy, hpc, rfl⟩ := TerminalInterface.draw_print hdraw
  have htaken := h.answered b i policy hpc
  have hturn := h.turn b i (by rw [hpc]; rfl)
  by_cases hpid : (s.tracing.supervisor.monitor i).pid = pid
  · have hpidAt : s.tracing.pidAt i = pid := hpid
    have hnone : linesAbout b pid s.screen.lines = 0 :=
      hturn.resolve_right (hpidAt ▸ not_behind h.ok htaken)
    rw [hpid]
    refine ⟨⟨h.ok.supervision, h.ok.filled⟩, ?_, h.shown, ?_, ?_, by simp, ?_⟩
    · intro b'
      by_cases hb' : b = b'
      · subst hb'
        rw [TerminalInterface.linesAbout_line_self, hnone]
      · rw [TerminalInterface.linesAbout_line_of_ne (.inl hb')]
        exact h.lines b'
    · intro b' hahead
      have hb' : b ≠ b' := by
        rintro rfl
        exact absurd hahead (by simp [Display.ahead])
      rw [TerminalInterface.linesAbout_line_of_ne (.inl hb')]
      apply h.ahead
      rw [hpc]
      exact hahead
    · intro b' k heq
      obtain ⟨rfl, rfl⟩ := Prod.mk.inj (Option.some.inj heq)
      exact .inr (hpidAt ▸ behind_succ h.ok htaken)
    · intro b' _
      rcases h.ok.filled i htaken with hpos | ⟨pid', hreserved⟩
      · exact .inr ⟨i, htaken, hpidAt, hpidAt ▸ hpos⟩
      · exact .inl (hpidAt ▸ (h.ok.supervision.tracing.reserved pid' i hreserved).2.1)
  · have hsame : ∀ b', linesAbout b' pid (s.screen.lines ++ [TerminalInterface.line b
          (s.tracing.supervisor.monitor i).pid
          (TerminalInterface.policyText b policy s.screen.schedulerPolicy) reads])
        = linesAbout b' pid s.screen.lines :=
      fun _ => TerminalInterface.linesAbout_line_of_ne (.inr hpid) _ reads s.screen.lines
    refine ⟨⟨h.ok.supervision, h.ok.filled⟩, ?_, h.shown, ?_, ?_, by simp, ?_⟩
    · intro b'
      rw [hsame b']
      exact h.lines b'
    · intro b' hahead
      rw [hsame b']
      apply h.ahead
      rw [hpc]
      exact hahead
    · intro b' k heq
      obtain ⟨rfl, rfl⟩ := Prod.mk.inj (Option.some.inj heq)
      rw [hsame b]
      exact hturn.imp_right fun hbehind => hbehind.mono (Nat.le_succ _)
    · intro b' hline
      rw [hsame b'] at hline
      exact h.traced b' hline

/-- **A turn of the loop** keeps it. -/
theorem Sound.slot (h : s.Sound pid) {scheduler : ℤ}
    (hstep : s.step (.draw (.slot scheduler)) = some s') : s'.Sound pid := by
  obtain ⟨screen, hdraw, rfl⟩ := Option.map_eq_some_iff.mp hstep
  obtain ⟨b, k, hpc, hcases⟩ := TerminalInterface.draw_slot hdraw
  have hahead : ∀ b', b.place < b'.place → linesAbout b' pid s.screen.lines = 0 := by
    intro b' hb'
    apply h.ahead
    rw [hpc]
    exact decide_eq_true hb'
  have hturn := h.turn b k (by rw [hpc]; rfl)
  have hnext := hturn.imp_right fun hbehind => hbehind.mono (Nat.le_succ k)
  rcases hcases with ⟨-, rfl⟩ | ⟨htaken, -, rfl⟩ | ⟨-, -, rfl⟩
  · refine ⟨⟨h.ok.supervision, h.ok.filled⟩, h.lines, h.shown, ?_, ?_, by simp, h.traced⟩
    · exact fun b' hb' => hahead b' (of_decide_eq_true hb')
    · intro b' l heq
      obtain ⟨rfl, rfl⟩ := Prod.mk.inj (Option.some.inj heq)
      exact hnext
  · refine ⟨⟨h.ok.supervision, h.ok.filled⟩, h.lines, h.shown, ?_, ?_, ?_, h.traced⟩
    · exact fun b' hb' => hahead b' (of_decide_eq_true hb')
    · intro b' l heq
      obtain ⟨rfl, rfl⟩ := Prod.mk.inj (Option.some.inj heq)
      exact hturn
    · intro b' i policy heq
      obtain ⟨rfl, rfl, rfl⟩ := DrawPc.answered.inj heq
      exact htaken
  · refine ⟨⟨h.ok.supervision, h.ok.filled⟩, h.lines, h.shown, ?_, ?_, by simp, h.traced⟩
    · exact fun b' hb' => hahead b' (of_decide_eq_true hb')
    · intro b' l heq
      obtain ⟨rfl, rfl⟩ := Prod.mk.inj (Option.some.inj heq)
      exact hnext

/-- **The end of a pass** keeps it; after the last one the frame is shown. -/
theorem Sound.unlock (h : s.Sound pid) (hstep : s.step (.draw .unlock) = some s') :
    s'.Sound pid := by
  obtain ⟨screen, hdraw, rfl⟩ := Option.map_eq_some_iff.mp hstep
  obtain ⟨b, k, hpc, -, hcases⟩ := TerminalInterface.draw_unlock hdraw
  rcases hcases with ⟨b₂, hnext, rfl⟩ | ⟨-, rfl⟩
  · refine ⟨⟨h.ok.supervision, h.ok.filled⟩, ?_, h.shown, ?_, by simp [Display.turn], by simp, ?_⟩
    · intro b'
      rw [linesAbout_headings]
      exact h.lines b'
    · intro b' hb'
      rw [linesAbout_headings]
      apply h.ahead
      rw [hpc]
      exact decide_eq_true
        ((Block.place_lt_of_next hnext).trans_le (of_decide_eq_true hb'))
    · intro b' hline
      rw [linesAbout_headings] at hline
      exact h.traced b' hline
  · refine ⟨⟨h.ok.supervision, h.ok.filled⟩, h.lines, h.lines, by simp [Display.ahead],
      by simp [Display.turn], by simp, ?_⟩
    intro b' hline
    exact h.traced b' (.inl (hline.elim id id))

/-- **Every step keeps it.** -/
theorem step_sound (h : s.Sound pid) {e : DisplayEvent} (hstep : s.step e = some s') :
    s'.Sound pid := by
  cases e with
  | supervision e => exact h.supervision hstep
  | draw e =>
    cases e with
    | clear =>
      obtain ⟨screen, hdraw, rfl⟩ := Option.map_eq_some_iff.mp hstep
      obtain ⟨-, rfl⟩ := TerminalInterface.draw_clear hdraw
      -- A new frame has lines about no pid.
      have hnone : ∀ b, linesAbout b pid
          (.userInputs s.tracing.supervisor.enableLogging :: Block.deadline.headings) = 0 :=
        fun _ => rfl
      refine ⟨⟨h.ok.supervision, h.ok.filled⟩, fun b => ?_, h.shown, fun b _ => hnone b,
        by simp [Display.turn], by simp, fun b hline => ?_⟩
      · rw [hnone b]
        exact Nat.zero_le 1
      · rcases hline with hline | hline
        · exact absurd hline (by rw [hnone b]; exact lt_irrefl 0)
        · exact h.traced b (.inr hline)
    | lock =>
      obtain ⟨screen, hdraw, rfl⟩ := Option.map_eq_some_iff.mp hstep
      obtain ⟨b, hpc, rfl⟩ := TerminalInterface.draw_lock hdraw
      have hahead : ∀ b', b.place ≤ b'.place → linesAbout b' pid s.screen.lines = 0 := by
        intro b' hb'
        apply h.ahead
        rw [hpc]
        exact decide_eq_true hb'
      refine ⟨⟨h.ok.supervision, h.ok.filled⟩, h.lines, h.shown, ?_, ?_, by simp, h.traced⟩
      · exact fun b' hb' => hahead b' (of_decide_eq_true hb').le
      · intro b' k heq
        obtain ⟨rfl, rfl⟩ := Prod.mk.inj (Option.some.inj heq)
        exact .inl (hahead b le_rfl)
    | slot scheduler => exact h.slot hstep
    | print reads => exact h.print hstep
    | unlock => exact h.unlock hstep

/-- **What is never on the screen.**  However the threads interleave, no block of a frame has two
    lines about one pid, and a line is about a pid that a slot holds, or about pid 0. -/
theorem screen_sound (h : Run step (start enableLogging buffer) es s) (pid : PidT) :
    (∀ b, linesAbout b pid s.screen.shown ≤ 1) ∧
      (0 < allLinesAbout pid s.screen.shown →
        pid = 0 ∨ 0 < pid ∧ s.tracing.supervisor.checkIfTaskIsBeingTraced pid = true) := by
  have hsound : s.Sound pid := h.invariant start_sound fun _ _ _ hI hstep => step_sound hI hstep
  refine ⟨hsound.shown, fun hpos => ?_⟩
  rw [allLinesAbout_eq] at hpos
  have hblock : ∃ b, 0 < linesAbout b pid s.screen.shown := by
    by_contra hnone
    simp only [not_exists, Nat.not_lt, Nat.le_zero] at hnone
    rw [hnone, hnone, hnone] at hpos
    exact absurd hpos (lt_irrefl 0)
  obtain ⟨b, hb⟩ := hblock
  refine (hsound.traced b (.inr hb)).imp_right ?_
  rintro ⟨i, htaken, hpid, hpos⟩
  exact ⟨hpos, Supervisor.checkIfTaskIsBeingTraced_iff.mpr ⟨i, htaken, hpid⟩⟩

/-- A slot is reserved, and its pid is not written before the frame is drawn. -/
def ghostEvents : List DisplayEvent :=
  (Supervision.taskEvents 0 7).map .supervision ++
    [.supervision (.checker (.entry 7)), .supervision (.checker .reserve), .draw .clear,
     .draw .lock, .draw (.slot 0), .draw .unlock, .draw .lock, .draw (.slot 0), .draw .unlock,
     .draw .lock, .draw (.slot 0), .draw (.print readsNothing), .draw .unlock,
     .supervision (.checker .store)]

def ghostState : Display 1 := (ghostEvents.foldlM step (start false "")).get (by decide)

theorem screen_sound_sample :
    linesAbout .other 0 ghostState.screen.shown = 1 ∧
      (∀ b, linesAbout b 0 ghostState.screen.shown ≤ 1) ∧
      (0 < allLinesAbout 0 ghostState.screen.shown → (0 : PidT) = 0 ∨ (0 : PidT) < 0 ∧
        ghostState.tracing.supervisor.checkIfTaskIsBeingTraced 0 = true) :=
  ⟨by decide, screen_sound (run_get (start false "") ghostEvents (by decide)) 0⟩

end Display

end RtTaskTrace
