import RtTaskTrace.Lib.Runs
import RtTaskTrace.Lib.Extremes
import RtTaskTrace.User.TaskTrace
import RtTaskTrace.Supervisor.Refinement
import RtTaskTrace.Supervisor.Rounds
import RtTaskTrace.Supervisor.DeadlineLoss
import RtTaskTrace.System.Delivery
import RtTaskTrace.Supervisor.Pauses
import RtTaskTrace.System.Recording
import RtTaskTrace.System.Startup
import RtTaskTrace.User.QueueThreads
import RtTaskTrace.Supervisor.Supervisor
import RtTaskTrace.System.Supervision
import RtTaskTrace.System.Slots
import RtTaskTrace.System.Leaks
import RtTaskTrace.System.Cleanup
import RtTaskTrace.Supervisor.LogRing
import RtTaskTrace.Supervisor.LogBlocks
import RtTaskTrace.User.QueueFifo
import RtTaskTrace.System.Pairing
import RtTaskTrace.Supervisor.Conservation
import RtTaskTrace.Supervisor.LoopEnds
import RtTaskTrace.Supervisor.Exactness
import RtTaskTrace.Supervisor.KeptExtremes
import RtTaskTrace.Supervisor.Tracking
import RtTaskTrace.Supervisor.Drift
import RtTaskTrace.Lib.DropOldest
import RtTaskTrace.Supervisor.LogQueue
import RtTaskTrace.Supervisor.LogFailures
import RtTaskTrace.Supervisor.Ending
import RtTaskTrace.System.Forwarding
import RtTaskTrace.User.Retry
import RtTaskTrace.Common.PipeNames
import RtTaskTrace.Supervisor.Marks
import RtTaskTrace.Supervisor.Counters
import RtTaskTrace.Supervisor.Elapsed
import RtTaskTrace.Supervisor.LogShown
import RtTaskTrace.Supervisor.FreshStart
import RtTaskTrace.Lib.TextBuffer
import RtTaskTrace.Supervisor.PidTexts
import RtTaskTrace.Supervisor.UserInputs
import RtTaskTrace.System.Handover
import RtTaskTrace.Supervisor.Gaps
import RtTaskTrace.System.Pipeline
import RtTaskTrace.System.Draining
import RtTaskTrace.Lib.Separated
import RtTaskTrace.Supervisor.CsvText
import RtTaskTrace.System.Lifetime
import RtTaskTrace.System.LogFiles
import RtTaskTrace.Supervisor.TerminalInterface
import RtTaskTrace.System.Screen
import RtTaskTrace.User.QueueRaces
import RtTaskTrace.System.LogTrail
import RtTaskTrace.System.Deployment
import RtTaskTrace.System.WholeRuns
import RtTaskTrace.System.Prospects
import RtTaskTrace.System.Reuse
import RtTaskTrace.System.Program
import RtTaskTrace.User.QueueCalls
