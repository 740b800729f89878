import TokioTfo.Lib.Loop
import TokioTfo.Lib.Transition
import TokioTfo.Lib.HandleTable
import TokioTfo.Base
import TokioTfo.Tokio
import TokioTfo.Sys.Basic
import TokioTfo.Sys.Lazy
import TokioTfo.Sys.Unix
import TokioTfo.Sys.Linux
import TokioTfo.Sys.FreeBsd
import TokioTfo.Sys.MacOs
import TokioTfo.Sys.Windows
import TokioTfo.Stream
import TokioTfo.Handshake
import TokioTfo.Sys.Calls
import TokioTfo.Handshake.Iteration
import TokioTfo.Windows.Iteration
import TokioTfo.Starts
import TokioTfo.Validity
import TokioTfo.ConnectError
import TokioTfo.Opening
import TokioTfo.ByteQueue
import TokioTfo.Delivery
import TokioTfo.Windows.Lifecycle
import TokioTfo.FromSocket
import TokioTfo.Termination
import TokioTfo.Iterations
import TokioTfo.Windows.Accounting
import TokioTfo.Windows.Progress
import TokioTfo.Wakeups
import TokioTfo.Answers
import TokioTfo.WriteContract
import TokioTfo.InFlight
import TokioTfo.Shutdown
import TokioTfo.Handles
import TokioTfo.Fallback
import TokioTfo.Listener
import TokioTfo.Process
import TokioTfo.Agreement
import TokioTfo.Failures
import TokioTfo.WriteLoop
import TokioTfo.Lib.Location
import TokioTfo.Support
import TokioTfo.Panics
import TokioTfo.Windows.Ownership
