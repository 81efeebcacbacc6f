import RtTaskTrace.Common.Telegram

namespace RtTaskTrace

/-!
# The shared region (`Common/SharedMem`)

The region a task and its monitor share is a named pipe.  `Pipe` is the kernel's side of it:
a bounded queue of bytes.  A telegram is shorter than `PIPE_BUF`, so a non-blocking write
stores all its bytes or none.
-/

/-- `EAGAIN`. -/
def eagain : ℤ := 11

/-- A named pipe: its capacity and the bytes waiting in it. -/
structure Pipe where
  capacity : ℕ
  bytes : List UInt8
  deriving Repr

/-- What `write` leaves behind: the pipe, the number returned and `errno`. -/
structure SharedMem.WriteResult where
  pipe : Pipe
  ret : ℤ
  errno : ℤ

namespace SharedMem

/-- `defaultPath`: the directory of the pipes. -/
def defaultPath : String := "/tmp/udesc/taskMonitor/"

/-- `SharedMem_getFinalPath`: the pipe of the task `pid`. -/
def getFinalPath (pid : PidT) : String := defaultPath ++ toString pid.toInt

/-- `SharedMem_userWrite`: one `write` of the whole telegram.  `fault` is the `errno` of a
    failure that is not a full pipe, `errno` the value of the variable before the call. -/
def userWrite (pipe : Pipe) (fault : Option ℤ) (errno : ℤ) (telegram : Telegram) : WriteResult :=
  match fault with
  | some e => ⟨pipe, -1, e⟩
  | none =>
    if pipe.bytes.length + Telegram.size ≤ pipe.capacity then
      ⟨{ pipe with bytes := pipe.bytes ++ telegram.encode }, Telegram.size, errno⟩
    else ⟨pipe, -1, eagain⟩

/-- `SharedMem_supervisorRead`: one `read` of at most `sizeof(Telegram)` bytes.  `none` while
    the pipe is empty and the call blocks. -/
def supervisorRead (pipe : Pipe) : Option (List UInt8 × Pipe) :=
  if pipe.bytes = [] then none
  else some (pipe.bytes.take Telegram.size, { pipe with bytes := pipe.bytes.drop Telegram.size })

/-- What the system calls of `SharedMem_userInit` and `Gateway_init` answer. -/
structure InitOutcome where
  mkfifo : Bool
  opened : Bool
  pthreadCreate : Bool

/-- `SharedMem_userInit` on a file system where the task's pipe exists or not: whether the
    pipe exists afterwards, and the code returned. -/
def userInit (pipeExists : Bool) (outcome : InitOutcome) : Bool × ℤ :=
  if pipeExists then (true, -1)
  else if outcome.mkfifo = false then (false, -2)
  else if outcome.opened = false then (true, -3)
  else (true, 0)

end SharedMem

end RtTaskTrace
