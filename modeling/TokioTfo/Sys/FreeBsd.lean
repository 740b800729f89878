/-
  `sys/unix/bsd/freebsd.rs`.
-/
import TokioTfo.Sys.Unix

namespace TokioTfo.FreeBsd

inductive TcpStreamState where
  | established
  | connected
  | fastOpenConnect
  | fastOpenConnecting
  deriving DecidableEq

abbrev TcpStream := LazyTcpStream TcpStreamState

namespace TcpStream

/-- `connect_with_socket`.  On an early return the socket is dropped. -/
def connectWithSocket (env : Env) (socket : TcpSocket) (addr : SocketAddr) (h : Trace) :
    Outcome (Result TcpStream) × Trace :=
  match setsockopt env socket.fd .tcpFastopen h with
  | (.error err, h) => (.returned (.error (.os err)), .handle (.drop socket.fd) :: h)
  | (.ok (), h) => (.returned (.ok ⟨.fastOpenConnect, .connecting socket addr none⟩), h)

/-- `connect`. -/
def connect (env : Env) (addr : SocketAddr) (h : Trace) : Outcome (Result TcpStream) × Trace :=
  match TcpSocket.new env addr h with
  | .ok socket => connectWithSocket env socket addr h
  | .error err => (.returned (.error err), h)

/-- `From<TokioTcpStream>`. -/
def ofTokio (s : TokioTcpStream) : TcpStream := ⟨.connected, .connected s⟩

/-- The errors of a write that are treated as `EAGAIN`: the second `write()` may return
`ENOTCONN | EPIPE` if the socket is still in the connecting state. -/
def retry (err : Error) : Bool :=
  err.kind == .notConnected || err.rawOsError == some .ENOTCONN || err.rawOsError == some .EPIPE

/-- One iteration of `poll_write`. -/
def pollWriteBody (env : Env) (cx : Waker) (buf : Bytes) (x : TcpStream × Trace) :
    Loop.Step (TcpStream × Trace) (Outcome (Poll (Result ℕ))) :=
  match x.1.state with
  | .established => x.1.withConnected x.2 (delegate env cx buf .established)
  | .connected =>
    x.1.withConnected x.2
      (firstWrite env cx buf retry .established .connected .fastOpenConnecting)
  | .fastOpenConnecting =>
    x.1.withConnected x.2 (awaitConnect env cx .fastOpenConnecting .connected)
  | .fastOpenConnect => fastOpenConnect env cx buf 0 .fastOpenConnecting .connected x.1 x.2

end TcpStream

instance : SysTcpStream TcpStream where
  setWritable := LazyTcpStream.setWritable
  pollRead := LazyTcpStream.pollRead
  pollWriteBody := TcpStream.pollWriteBody
  pollFlush := LazyTcpStream.pollFlush
  pollShutdown := LazyTcpStream.pollShutdown
  peerAddr := LazyTcpStream.peerAddr
  asRawFd := LazyTcpStream.asRawFd
  socketApi := LazyTcpStream.callSocketApi

end TokioTfo.FreeBsd
