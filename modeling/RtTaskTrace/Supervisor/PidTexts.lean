import RtTaskTrace.Common.PipeNames
import RtTaskTrace.Lib.TextBuffer
import RtTaskTrace.Supervisor.Supervisor

namespace RtTaskTrace

open Text

/-!
# The texts built from a pid

The supervisor prints the pid of an entry it has found into arrays of fixed size: the cleanup
thread builds the path of the pipe, and the monitor that path, the text of the pid alone and
the name of its CSV file.  Only one of the five is bounded by the call that fills it.  Each
build here fails when its text does not fit; all the texts are ASCII, a byte to a character.

* `SharedMem.writeFinalPath`, `Log.writeFile`, `MonitorThread.pidAsString` — the builds;
* `writeFinalPath_eq`, `writeFile_eq` — what they build is what the functions that never fail
  return;
* `texts_fit_iff` — for which pids they all succeed.
-/

/-! ### The builds -/

namespace SharedMem

/-- `sizeof(defaultPath)`: the zero is counted. -/
def sizeofDefaultPath : ℕ := defaultPath.length + 1

/-- `pidAsString` in `SharedMem_getFinalPath`, filled by `snprintf`. -/
def pidAsString (pid : PidT) : Buffer 20 := Buffer.cut 20 (toString pid.toInt) (by decide)

/-- `SharedMem_getFinalPath` on an array of `capacity` bytes: `memcpy` of the directory, then
    `strcat` of the pid. -/
def writeFinalPath (capacity : ℕ) (pid : PidT) : Option (Buffer capacity) :=
  (Buffer.write capacity defaultPath).bind fun finalPath =>
    finalPath.append (pidAsString pid).text

/-- `sharedMem_Path` in `SharedMem_supervisorInit`. -/
def supervisorInitPath (pid : PidT) : Option (Buffer (sizeofDefaultPath + 20)) :=
  writeFinalPath (sizeofDefaultPath + 20) pid

end SharedMem

/-- `path` in `Supervisor_checkAndCleanUnusedSharedMemThread`. -/
def Supervisor.cleanupPath (pid : PidT) : Option (Buffer 50) := SharedMem.writeFinalPath 50 pid

/-- `me->file` in `Log_init`: `strcpy` of the path, then `strcat` of the name and of the
    extension. -/
def Log.writeFile (path fileName : String) : Option (Buffer 250) :=
  (Buffer.write 250 path).bind fun file =>
    (file.append fileName).bind fun file => file.append ".csv"

/-- `pidAsString` in `Monitor_init`, filled by `sprintf`. -/
def MonitorThread.pidAsString (pid : PidT) : Option (Buffer 10) :=
  Buffer.write 10 (toString pid.toInt)

/-- The name of the file `Monitor_init` has `Log_init` put together. -/
def MonitorThread.writeLogFile (pid : PidT) : Option (Buffer 250) :=
  (pidAsString pid).bind fun pidAsString => Log.writeFile "/tmp/taskTrace/" pidAsString.text

/-- **No build of a text from the pid fails**: the array of each holds the whole text and its
    zero. -/
structure TextsFit (pid : PidT) : Prop where
  monitorPid : (MonitorThread.pidAsString pid).isSome = true
  finalPathPid : (SharedMem.pidAsString pid).text = toString pid.toInt
  supervisorInitPath : (SharedMem.supervisorInitPath pid).isSome = true
  cleanupPath : (Supervisor.cleanupPath pid).isSome = true
  logFile : (MonitorThread.writeLogFile pid).isSome = true

/-! ### Their lengths -/

variable {name : String} {pid : PidT} {capacity k : ℕ}

/-- **The digits of a pid**: at most `k` when it is below `10 ^ k`. -/
theorem length_pidText_le_iff (hpos : 0 < pid) (hk : 0 < k) :
    (toString pid.toInt).length ≤ k ↔ pid.toInt < 10 ^ k := by
  rw [← String.length_toList, pidText_toList hpos, Nat.length_toDigits_le_iff (by decide) hk,
    Int.toNat_lt (toInt_pos hpos).le, Nat.cast_pow, Nat.cast_ofNat]

/-- No pid has more than ten digits. -/
theorem length_pidText_le (hpos : 0 < pid) : (toString pid.toInt).length ≤ 10 := by
  rw [length_pidText_le_iff hpos (by decide)]
  have hlt := pid.toInt_lt
  omega

/-- `snprintf` cuts no pid. -/
theorem pidAsString_text (hpos : 0 < pid) :
    (SharedMem.pidAsString pid).text = toString pid.toInt := by
  rw [SharedMem.pidAsString, Buffer.cut_text_iff]
  have hlength := length_pidText_le hpos
  omega

/-- **The path that is built** in an array is that of `SharedMem.getFinalPath`. -/
theorem writeFinalPath_eq (hpos : 0 < pid) :
    SharedMem.writeFinalPath capacity pid
      = Buffer.write capacity (SharedMem.getFinalPath pid) := by
  rw [SharedMem.writeFinalPath, Buffer.write_bind_append, pidAsString_text hpos,
    SharedMem.getFinalPath]

/-- A path fits into an array with room for ten digits behind the directory. -/
theorem isSome_writeFinalPath (hpos : 0 < pid)
    (h : SharedMem.defaultPath.length + 10 < capacity) :
    (SharedMem.writeFinalPath capacity pid).isSome = true := by
  rw [writeFinalPath_eq hpos, Buffer.isSome_write, SharedMem.getFinalPath, String.length_append]
  have hlength := length_pidText_le hpos
  omega

/-- **The file name that is built** is that of `Log.init`. -/
theorem writeFile_eq {path fileName : String} :
    Log.writeFile path fileName = Buffer.write 250 (path ++ fileName ++ ".csv") := by
  rw [Log.writeFile, ← Option.bind_assoc, Buffer.write_bind_append, Buffer.write_bind_append]

/-- The file name of a monitor is built whenever the text of its pid is. -/
theorem isSome_writeLogFile (hpos : 0 < pid) :
    (MonitorThread.writeLogFile pid).isSome = (MonitorThread.pidAsString pid).isSome := by
  rw [MonitorThread.writeLogFile]
  cases hpid : MonitorThread.pidAsString pid with
  | none => rfl
  | some pidAsString =>
    rw [Option.bind_some, writeFile_eq, Option.isSome_some, Buffer.isSome_write,
      Buffer.write_eq_some.mp hpid, String.length_append, String.length_append]
    have hlength := length_pidText_le hpos
    have hpath : "/tmp/taskTrace/".length = 15 := rfl
    have hextension : ".csv".length = 4 := rfl
    omega

/-- It is the name the monitor's log has after `MonitorThread.init`. -/
theorem writeLogFile_text {me : MonitorThread} {scheduler : ℤ} {file : Buffer 250}
    (h : MonitorThread.writeLogFile me.pid = some file) :
    file.text = (me.init scheduler).log.file := by
  obtain ⟨pidAsString, hpid, hfile⟩ := Option.bind_eq_some_iff.mp h
  rw [writeFile_eq, Buffer.write_eq_some.mp hpid] at hfile
  rw [Buffer.write_eq_some.mp hfile, MonitorThread.init]
  cases me.enableLogging <;> rfl

/-! ### When they all succeed -/

/-- **One array decides**: that of the text of the pid in `Monitor_init`. -/
theorem textsFit_iff (hpos : 0 < pid) :
    TextsFit pid ↔ (MonitorThread.pidAsString pid).isSome = true := by
  constructor
  · intro h
    exact h.monitorPid
  · intro h
    refine ⟨h, pidAsString_text hpos, ?_, ?_, ?_⟩
    · apply isSome_writeFinalPath hpos
      simp only [SharedMem.sizeofDefaultPath]
      omega
    · exact isSome_writeFinalPath hpos (by decide)
    · rw [isSome_writeLogFile hpos]
      exact h

/-- It holds the text of a pid of nine digits. -/
theorem textsFit_iff_lt (hpos : 0 < pid) : TextsFit pid ↔ pid.toInt < 10 ^ 9 := by
  rw [textsFit_iff hpos, MonitorThread.pidAsString, Buffer.isSome_write,
    ← length_pidText_le_iff hpos (by decide)]
  exact Nat.lt_succ_iff

/-- **The texts of a pid.**  For every entry for which a scan goes on, all the texts that are
    then built from its pid fit their arrays exactly when the pid has at most nine digits. -/
theorem texts_fit_iff (h : scannedPid name = some pid) :
    TextsFit pid ↔ pid.toInt < 10 ^ 9 := by
  obtain ⟨-, hpos⟩ := scannedPid_eq_some h
  exact textsFit_iff_lt hpos

/-- A pid of seven digits. -/
theorem texts_fit_sample : TextsFit 4194304 :=
  (texts_fit_iff (show scannedPid "4194304" = some 4194304 by decide)).mpr (by decide)

/-- The entry `1000000000` is the pipe of its pid, whose text takes eleven bytes of ten. -/
theorem texts_overrun :
    scannedPid "1000000000" = some 1000000000 ∧
      SharedMem.getFinalPath 1000000000 = SharedMem.defaultPath ++ "1000000000" ∧
      (toString (1000000000 : PidT).toInt).length + 1 = 11 ∧
      MonitorThread.pidAsString 1000000000 = none ∧ ¬ TextsFit 1000000000 :=
  ⟨by decide, by decide, by decide, by decide, fun h => absurd h.monitorPid (by decide)⟩

end RtTaskTrace
