/-
  `sys/unix/bsd/macos.rs`.

  The socket is given to tokio when the stream is made, so there is no
  `TcpStreamOption`; the other methods are those of the tokio stream.
-/
import TokioTfo.Sys.Unix

namespace TokioTfo.MacOs

inductive TcpStreamState where
  | established
  | connected
  | fastOpenConnecting
  | fastOpenWrite
  deriving DecidableEq

structure TcpStream where
  inner : TokioTcpStream
  state : TcpStreamState
  deriving DecidableEq

namespace TcpStream

/-- `connect_with_socket`.  `connectx` with `CONNECT_RESUME_ON_READ_WRITE` sends nothing; a failure
to set `TCP_FASTOPEN_FORCE_ENABLE` is only logged. -/
def connectWithSocket (env : Env) (socket : TcpSocket) (addr : SocketAddr) (h : Trace) :
    Outcome (Result TcpStream) × Trace :=
  let h := (setsockopt env socket.fd .tcpFastopenForceEnable h).2
  let ret := env.connectx h socket.fd addr
  let h := .connectx socket.fd addr ret :: h
  match ret with
  | .error err => (.returned (.error (.os err)), .handle (.drop socket.fd) :: h)
  | .ok () =>
    match LazyTcpStream.registerSocket env socket h with
    | (.ok s, h) => (.returned (.ok ⟨s, .fastOpenWrite⟩), h)
    | (.error err, h) => (err.outcome, h)

/-- `connect`. -/
def connect (env : Env) (addr : SocketAddr) (h : Trace) : Outcome (Result TcpStream) × Trace :=
  match TcpSocket.new env addr h with
  | .ok socket => connectWithSocket env socket addr h
  | .error err => (.returned (.error err), h)

/-- `From<TokioTcpStream>`. -/
def ofTokio (s : TokioTcpStream) : TcpStream := ⟨s, .connected⟩

/-- The errors of a write that are treated as `EAGAIN`: `ENOTCONN` on a socket that was opened
with TFO.  The comment in the source also names `EPIPE`, which is not tested for. -/
def retry (err : Error) : Bool :=
  err.kind == .notConnected || err.rawOsError == some .ENOTCONN

/-- The branch `k` on the inner stream. -/
def withInner (x : TcpStream × Trace) (k : TokioTcpStream → Trace → Branch TcpStreamState) :
    Loop.Step (TcpStream × Trace) (Outcome (Poll (Result ℕ))) :=
  (k x.1.inner x.2).map fun y => (⟨y.1.2, y.1.1⟩, y.2)

/-- One iteration of `poll_write`. -/
def pollWriteBody (env : Env) (cx : Waker) (buf : Bytes) (x : TcpStream × Trace) :
    Loop.Step (TcpStream × Trace) (Outcome (Poll (Result ℕ))) :=
  match x.1.state with
  | .established => withInner x (delegate env cx buf .established)
  | .connected =>
    withInner x (firstWrite env cx buf retry .established .connected .fastOpenConnecting)
  | .fastOpenConnecting => withInner x (awaitConnect env cx .fastOpenConnecting .connected)
  | .fastOpenWrite =>
    withInner x (fastOpenWrite env cx buf .fastOpenWrite .fastOpenConnecting .connected)

end TcpStream

instance : SysTcpStream TcpStream where
  setWritable self := some { self with inner := self.inner.setWritable }
  pollRead env cx room x :=
    let r := x.1.inner.pollRead env cx room x.2
    (.returned r.1, x.1, r.2)
  pollWriteBody := TcpStream.pollWriteBody
  pollFlush env self h := self.inner.pollFlush env h
  pollShutdown env self h := self.inner.pollShutdown env h
  peerAddr env self h :=
    let r := self.inner.peerAddr env h
    (.returned r.1, r.2)
  asRawFd self := .returned self.inner.fd
  socketApi env op self h :=
    let r := socketApi env self.inner.fd op h
    (.returned r.1, r.2)

end TokioTfo.MacOs
