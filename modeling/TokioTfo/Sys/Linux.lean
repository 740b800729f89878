/-
  `sys/unix/linux.rs`.
-/
import TokioTfo.Sys.Unix

namespace TokioTfo.Linux

inductive TcpStreamState where
  | connected
  | fastOpenConnect
  | fastOpenConnecting
  | fastOpenWrite
  deriving DecidableEq

abbrev TcpStream := LazyTcpStream TcpStreamState

namespace TcpStream

/-- `connect_with_socket`, with the value of the static `SUPPORT_TCP_FASTOPEN_CONNECT` before and
after.  On an early return the socket is dropped. -/
def connectWithSocket (env : Env) (support : Bool) (socket : TcpSocket) (addr : SocketAddr)
    (h : Trace) : Outcome (Result TcpStream) × Bool × Trace :=
  let fallback : TcpStream := ⟨.fastOpenConnect, .connecting socket addr none⟩
  if support then
    match setsockopt env socket.fd .tcpFastopenConnect h with
    | (.error .ENOPROTOOPT, h) => (.returned (.ok fallback), false, h)
    | (.error err, h) => (.returned (.error (.os err)), support, .handle (.drop socket.fd) :: h)
    | (.ok (), h) =>
      match socket.connect env addr h with
      | (.ok s, h) => (.returned (.ok ⟨.fastOpenWrite, .connected s⟩), support, h)
      | (.error err, h) => (err.outcome, support, h)
  else (.returned (.ok fallback), support, h)

/-- `connect`. -/
def connect (env : Env) (support : Bool) (addr : SocketAddr) (h : Trace) :
    Outcome (Result TcpStream) × Bool × Trace :=
  match TcpSocket.new env addr h with
  | .ok socket => connectWithSocket env support socket addr h
  | .error err => (.returned (.error err), support, h)

/-- `From<TokioTcpStream>`. -/
def ofTokio (s : TokioTcpStream) : TcpStream := ⟨.connected, .connected s⟩

/-- One iteration of `poll_write`. -/
def pollWriteBody (env : Env) (cx : Waker) (buf : Bytes) (x : TcpStream × Trace) :
    Loop.Step (TcpStream × Trace) (Outcome (Poll (Result ℕ))) :=
  match x.1.state with
  | .connected => x.1.withConnected x.2 (delegate env cx buf .connected)
  | .fastOpenConnecting =>
    x.1.withConnected x.2 (awaitConnect env cx .fastOpenConnecting .connected)
  | .fastOpenConnect =>
    fastOpenConnect env cx buf msgFastopen .fastOpenConnecting .connected x.1 x.2
  | .fastOpenWrite =>
    x.1.withConnected x.2 (fastOpenWrite env cx buf .fastOpenWrite .fastOpenConnecting .connected)

end TcpStream

instance : SysTcpStream TcpStream where
  setWritable := LazyTcpStream.setWritable
  pollRead := LazyTcpStream.pollRead
  pollWriteBody := TcpStream.pollWriteBody
  pollFlush := LazyTcpStream.pollFlush
  pollShutdown := LazyTcpStream.pollShutdown
  peerAddr := LazyTcpStream.peerAddr
  asRawFd := LazyTcpStream.asRawFd
  socketApi := LazyTcpStream.callSocketApi

end TokioTfo.Linux
