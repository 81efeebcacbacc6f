import RtTaskTrace.Supervisor.Supervisor

namespace RtTaskTrace

/-!
# The command line (`Supervisor/UserInputs`, `Supervisor/main`)

The supervisor is started with `--log on` or `--log off`.  `UserInputs.read` is the loop over
the words of the command line; `Argument.all` says, without the loop, which of them are options
and which are values of one.

* `UserInputs.read` — what the program makes of its arguments;
* `Argument.all`, `Argument.StatesLog` — the arguments given, and that they state the log
  configuration;
* `UserInputs.read_ret`, `UserInputs.read_enableLogging` — what is accepted, and what the switch
  is then;
* `UserInputs.read_meets_usage_iff` — for which command lines these are the same;
* `Supervisor.main` — the start of the program, up to the supervisor that is running.
-/

/-- `UserInputs`. -/
structure UserInputs where
  enableLogging : Bool
  deriving DecidableEq, Repr

namespace UserInputs

/-- What a call leaves behind: the inputs, the number returned and the lines printed. -/
structure ReadResult where
  me : UserInputs
  ret : ℤ
  printed : List String
  deriving DecidableEq, Repr

/-- The two lines that say how the program is used. -/
def usage : List String :=
  ["Usage: sudo Supervisor --log on\n", "   or: sudo Supervisor --log off\n"]

/-- The loop of `UserInputs_read` over the words from `argv[i]` on. -/
def readFrom (me : UserInputs) : List String → ReadResult
  | [] => ⟨me, 0, []⟩
  | word :: words =>
    if word = "--log" then
      match words with
      | [] => ⟨me, -2, ["Supervisor: missing value for \"--log\"\n"]⟩
      | value :: words =>
        if value = "on" then readFrom { me with enableLogging := true } words
        else if value = "off" then readFrom { me with enableLogging := false } words
        else
          ⟨me, -2, ["Supervisor: Invalid value for \"--log\"\n",
            "Supervisor: Valid values \"on\" and \"off\"\n"]⟩
    else if word = "-h" ∨ word = "--help" then ⟨me, -4, usage⟩
    else readFrom me words

/-- `UserInputs_read`, on all of `argv`, the name of the program included. -/
def read (argv : List String) : ReadResult :=
  let me : UserInputs := ⟨false⟩
  if argv.length < 2 then
    ⟨me, -1,
      "Supervisor: Error, user must pass at least the log configuration.\n" :: usage⟩
  else readFrom me (argv.drop 1)

end UserInputs

/-! ### What the words mean -/

/-- A word of the command line that is no value: the option `--log`, with the word behind it if
    there is one, or any other. -/
inductive Argument
  | log (value : Option String)
  | other (text : String)
  deriving DecidableEq, Repr

namespace Argument

/-- The arguments from left to right; a `--log` takes the word behind it. -/
def all : List String → List Argument
  | [] => []
  | ["--log"] => [.log none]
  | "--log" :: value :: words => .log (some value) :: all words
  | word :: words => .other word :: all words

/-- What follows each `--log`. -/
def values : List Argument → List (Option String)
  | [] => []
  | .log value :: arguments => value :: values arguments
  | .other _ :: arguments => values arguments

/-- The words that are neither a `--log` nor taken by one. -/
def others : List Argument → List String
  | [] => []
  | .log _ :: arguments => others arguments
  | .other text :: arguments => text :: others arguments

/-- Every `--log` is followed by `on` or `off`, and help is not asked for. -/
structure Readable (arguments : List Argument) : Prop where
  valid : ∀ value ∈ values arguments, value = some "on" ∨ value = some "off"
  noHelp : ∀ text ∈ others arguments, ¬ (text = "-h" ∨ text = "--help")

/-- **The log configuration is stated**: and there is a `--log`. -/
structure StatesLog (arguments : List Argument) : Prop extends Readable arguments where
  given : values arguments ≠ []

/-- The last `--log` is followed by `on`. -/
def LastLogOn (arguments : List Argument) : Prop := (values arguments).getLast? = some (some "on")

/-- A switch that every `--log` sets: what the last one says, and the initial value without
    one. -/
def switch (initial : Bool) (arguments : List Argument) : Bool :=
  ((values arguments).getLast?.map fun value => decide (value = some "on")).getD initial

variable {arguments : List Argument} {value : Option String} {text word : String}
  {words : List String}

theorem all_of_ne (h : word ≠ "--log") : all (word :: words) = .other word :: all words := by
  rw [all]
  · intro heq
    exact absurd heq h
  · intro _ _ heq
    exact absurd heq h

theorem readable_nil : Readable [] := ⟨by simp [values], by simp [others]⟩

theorem readable_log :
    Readable (.log value :: arguments) ↔
      (value = some "on" ∨ value = some "off") ∧ Readable arguments := by
  constructor
  · rintro ⟨hvalid, hhelp⟩
    rw [values, List.forall_mem_cons] at hvalid
    exact ⟨hvalid.1, hvalid.2, hhelp⟩
  · rintro ⟨hvalue, hvalid, hhelp⟩
    refine ⟨?_, hhelp⟩
    rw [values, List.forall_mem_cons]
    exact ⟨hvalue, hvalid⟩

theorem readable_other :
    Readable (.other text :: arguments) ↔
      ¬ (text = "-h" ∨ text = "--help") ∧ Readable arguments := by
  constructor
  · rintro ⟨hvalid, hhelp⟩
    rw [others, List.forall_mem_cons] at hhelp
    exact ⟨hhelp.1, hvalid, hhelp.2⟩
  · rintro ⟨htext, hvalid, hhelp⟩
    refine ⟨hvalid, ?_⟩
    rw [others, List.forall_mem_cons]
    exact ⟨htext, hhelp⟩

/-- A `--log` decides only when there is none behind it. -/
theorem switch_log {initial : Bool} :
    switch initial (.log value :: arguments)
      = switch (decide (value = some "on")) arguments := by
  rw [switch, switch, values, List.getLast?_cons]
  cases (values arguments).getLast? <;> rfl

theorem switch_eq_true_iff : switch false arguments = true ↔ LastLogOn arguments := by
  rw [switch, LastLogOn]
  cases (values arguments).getLast? <;> simp

/-- **No option** is found exactly when the word is nowhere: the first one is never a value. -/
theorem values_all_eq_nil : values (all words) = [] ↔ "--log" ∉ words := by
  fun_induction all words with
  | case1 => simp [values]
  | case2 => simp [values]
  | case3 value words ih => simp [values]
  | case4 word words hlast hlog ih =>
    have hne : word ≠ "--log" := by
      intro heq
      cases words with
      | nil => exact hlast heq rfl
      | cons value words => exact hlog value words heq rfl
    rw [values, ih, List.mem_cons, not_or]
    simp [Ne.symm hne]

/-- Without the option every word is one of the others. -/
theorem others_all (h : "--log" ∉ words) : others (all words) = words := by
  induction words with
  | nil => rfl
  | cons word words ih =>
    rw [List.mem_cons, not_or] at h
    rw [all_of_ne (Ne.symm h.1), others, ih h.2]

/-- So without the option only help is not read. -/
theorem readable_iff_of_no_log (h : "--log" ∉ words) :
    Readable (all words) ↔ "-h" ∉ words ∧ "--help" ∉ words := by
  constructor
  · rintro ⟨-, hhelp⟩
    rw [others_all h] at hhelp
    exact ⟨fun hmem => hhelp _ hmem (.inl rfl), fun hmem => hhelp _ hmem (.inr rfl)⟩
  · rintro ⟨hshort, hlong⟩
    refine ⟨by simp [values_all_eq_nil.mpr h], ?_⟩
    rw [others_all h]
    rintro text hmem (rfl | rfl)
    · exact hshort hmem
    · exact hlong hmem

end Argument

/-! ### What the program makes of them -/

open Argument

variable {me : UserInputs} {words argv : List String}

/-- **What the loop accepts.** -/
theorem readFrom_ret : (UserInputs.readFrom me words).ret = 0 ↔ Readable (all words) := by
  fun_induction UserInputs.readFrom me words with
  | case1 => simp [all, readable_nil]
  | case2 =>
    -- no value behind the last word
    simp [all, readable_log]
  | case3 me words ih =>
    rw [ih, all, readable_log]
    simp
  | case4 me words _ ih =>
    rw [ih, all, readable_log]
    simp
  | case5 me value words hon hoff =>
    -- a value that is neither
    rw [all, readable_log]
    simp [hon, hoff]
  | case6 me word words hlog hhelp =>
    rw [all_of_ne hlog, readable_other]
    simp [hhelp]
  | case7 me word words hlog hhelp ih =>
    rw [ih, all_of_ne hlog, readable_other]
    simp [hhelp]

/-- **What the switch is** after a loop that accepts. -/
theorem readFrom_enableLogging (h : (UserInputs.readFrom me words).ret = 0) :
    (UserInputs.readFrom me words).me.enableLogging = switch me.enableLogging (all words) := by
  fun_induction UserInputs.readFrom me words with
  | case1 => rfl
  | case2 => exact absurd h (by simp)
  | case3 me words ih =>
    rw [ih h, all, switch_log]
    rfl
  | case4 me words _ ih =>
    rw [ih h, all, switch_log]
    rfl
  | case5 => exact absurd h (by simp)
  | case6 => exact absurd h (by simp)
  | case7 me word words hlog hhelp ih =>
    rw [ih h, all_of_ne hlog]
    rfl

/-- Nothing is printed by a loop that accepts, and by no other. -/
theorem readFrom_printed :
    (UserInputs.readFrom me words).printed = [] ↔ (UserInputs.readFrom me words).ret = 0 := by
  fun_induction UserInputs.readFrom me words with
  | case1 => simp
  | case2 => simp
  | case3 me words ih => exact ih
  | case4 me words _ ih => exact ih
  | case5 => simp
  | case6 => simp [UserInputs.usage]
  | case7 me word words _ _ ih => exact ih

namespace UserInputs

/-- **What is accepted**: at least one word behind the program's name, and arguments that can
    be read. -/
theorem read_ret : (read argv).ret = 0 ↔ 2 ≤ argv.length ∧ Readable (all (argv.drop 1)) := by
  unfold read
  split
  · rename_i hfew
    simp [hfew]
  · rename_i hmany
    rw [readFrom_ret]
    simp [not_lt.mp hmany]

/-- **The switch of an accepted command line** is what its last `--log` says. -/
theorem read_enableLogging (h : (read argv).ret = 0) :
    (read argv).me.enableLogging = true ↔ LastLogOn (all (argv.drop 1)) := by
  have hmany := (read_ret.mp h).1
  rw [read, if_neg (not_lt.mpr hmany)] at h ⊢
  rw [readFrom_enableLogging h, switch_eq_true_iff]

/-- **A call that fails says why**, and one that succeeds prints nothing. -/
theorem read_printed : (read argv).printed = [] ↔ (read argv).ret = 0 := by
  unfold read
  split
  · simp
  · exact readFrom_printed

/-- **With the option** the call accepts what states the log configuration. -/
theorem read_ret_of_log (h : "--log" ∈ argv.drop 1) :
    (read argv).ret = 0 ↔ StatesLog (all (argv.drop 1)) := by
  have hgiven : values (all (argv.drop 1)) ≠ [] := by
    rw [ne_eq, values_all_eq_nil]
    exact not_not_intro h
  have hmany : 2 ≤ argv.length := by
    have hpos := List.length_pos_of_mem h
    rw [List.length_drop] at hpos
    omega
  rw [read_ret]
  constructor
  · rintro ⟨-, hreadable⟩
    exact ⟨hreadable, hgiven⟩
  · intro hstates
    exact ⟨hmany, hstates.toReadable⟩

/-- **Without the option** it accepts any words but a request for help. -/
theorem read_ret_of_no_log (h : "--log" ∉ argv.drop 1) :
    (read argv).ret = 0 ↔
      ¬ (argv.length < 2 ∨ "-h" ∈ argv.drop 1 ∨ "--help" ∈ argv.drop 1) := by
  rw [read_ret, readable_iff_of_no_log h, not_or, not_or, not_lt]

/-- **The command line.**  What `UserInputs_read` accepts is a command line that states the log
    configuration, and what it makes of that is what the last `--log` says, exactly when there is
    no word at all behind the program's name, or a `--log` among them, or a request for help:
    words without any of these are accepted too. -/
theorem read_meets_usage_iff (argv : List String) :
    (((read argv).ret = 0 ↔ StatesLog (all (argv.drop 1))) ∧
      ((read argv).ret = 0 →
        ((read argv).me.enableLogging = true ↔ LastLogOn (all (argv.drop 1))))) ↔
      argv.length < 2 ∨ "--log" ∈ argv.drop 1 ∨ "-h" ∈ argv.drop 1 ∨ "--help" ∈ argv.drop 1 := by
  rw [and_iff_left read_enableLogging]
  by_cases hlog : "--log" ∈ argv.drop 1
  · exact iff_of_true (read_ret_of_log hlog) (.inr (.inl hlog))
  · -- No configuration is stated, so nothing may be accepted.
    have hnot : ¬ StatesLog (all (argv.drop 1)) := by
      intro h
      exact h.given (values_all_eq_nil.mpr hlog)
    rw [iff_false_right hnot, read_ret_of_no_log hlog, not_not, or_iff_right hlog]

/-- Words, but not the option: the call succeeds, and logging is off without having been said
    to be. -/
theorem read_accepts_unstated :
    read ["Supervisor", "log", "on"] = ⟨⟨false⟩, 0, []⟩ ∧
      ¬ StatesLog (all (["Supervisor", "log", "on"].drop 1)) :=
  ⟨by decide, fun h => absurd h.given (by decide)⟩

end UserInputs

/-! ### The start of the program -/

namespace Supervisor

variable {M : ℕ} {supervisor : Supervisor M}

/-- `main`, run as the effective user `euid`, up to where it waits for the checker thread, which
    never ends: the code it returns before that, or the supervisor that is running then. -/
def main (argv : List String) (euid : ℕ) (outcome : InitOutcome) : Except ℤ (Supervisor M) :=
  let userInputs := UserInputs.read argv
  if userInputs.ret ≠ 0 then .error (-1)
  else
    let (supervisor, ret) := init zero euid outcome userInputs.me.enableLogging
    if ret ≠ 0 then .error (-2) else .ok supervisor

/-- **When `Supervisor_init` succeeds**: for root, if the mutex and both threads are created. -/
theorem init_ret {me : Supervisor M} {euid : ℕ} {outcome : InitOutcome} {enableLogging : Bool} :
    (me.init euid outcome enableLogging).2 = 0 ↔ euid = 0 ∧ outcome = ⟨true, true, true⟩ := by
  obtain ⟨mutexInit, createCleanUp, createCheck⟩ := outcome
  by_cases hroot : euid = 0
  · cases mutexInit <;> cases createCleanUp <;> cases createCheck <;> simp [init, hroot]
  · simp [init, hroot]

/-- **What is running after the start**: the supervisor root has initialised, with a command line
    that is accepted. -/
theorem main_eq_ok {argv : List String} {euid : ℕ} {outcome : InitOutcome} :
    main argv euid outcome = .ok supervisor ↔
      (UserInputs.read argv).ret = 0 ∧ (euid = 0 ∧ outcome = ⟨true, true, true⟩) ∧
        supervisor = (init zero euid outcome (UserInputs.read argv).me.enableLogging).1 := by
  rw [← @init_ret M zero euid outcome (UserInputs.read argv).me.enableLogging, main]
  dsimp only
  split
  · rename_i hread
    simp [hread]
  · rename_i hread
    split
    · rename_i hinit
      simp [hinit]
    · rename_i hinit
      simp [not_not.mp hread, not_not.mp hinit, eq_comm]

/-- **Logging is on** in a supervisor that is running when the last `--log` was followed by
    `on`. -/
theorem main_enableLogging {argv : List String} {euid : ℕ} {outcome : InitOutcome}
    (h : main argv euid outcome = .ok supervisor) :
    supervisor.enableLogging = true ↔ LastLogOn (all (argv.drop 1)) := by
  obtain ⟨hread, ⟨rfl, rfl⟩, rfl⟩ := main_eq_ok.mp h
  rw [← UserInputs.read_enableLogging hread]
  rfl

end Supervisor

end RtTaskTrace
