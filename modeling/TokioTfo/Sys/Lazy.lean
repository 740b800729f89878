/-
  The lazily connected streams of Linux, FreeBSD and Windows: a state and a
  `TcpStreamOption`, which holds the socket until the connection is started and
  the tokio stream afterwards.

  The three modules have the same `TcpStreamOption` and the same methods except
  for `poll_write`; they are written here once, for any type of states.
-/
import TokioTfo.Sys.Basic

namespace TokioTfo

/-- `TcpStreamOption`. -/
inductive TcpStreamOption where
  | connected (stream : TokioTcpStream)
  | connecting (socket : TcpSocket) (addr : SocketAddr) (reader : Option Waker)
  | empty
  deriving DecidableEq

/-- A lazily connected `TcpStream` with states `σ`. -/
structure LazyTcpStream (σ : Type) where
  state : σ
  stream : TcpStreamOption
  deriving DecidableEq

namespace LazyTcpStream
variable {σ : Type}

/-- `AsyncRead::poll_read`: while the stream is connecting, the waker is parked. -/
def pollRead (env : Env) (cx : Waker) (room : ℕ) (x : LazyTcpStream σ × Trace) :
    Outcome (Poll (Result Bytes)) × LazyTcpStream σ × Trace :=
  match x.1.stream with
  | .connected s =>
    let r := s.pollRead env cx room x.2
    (.returned r.1, x.1, r.2)
  | .connecting socket addr reader =>
    let h := wakeReader reader cx x.2
    (.returned .pending, { x.1 with stream := .connecting socket addr (some cx) }, h)
  | .empty => (.panicked .unreachable, x)

/-- `AsyncWrite::poll_flush`. -/
def pollFlush (env : Env) (self : LazyTcpStream σ) (h : Trace) : Poll (Result Unit) × Trace :=
  match self.stream with
  | .connected s => s.pollFlush env h
  | _ => (.ready (.ok ()), h)

/-- `AsyncWrite::poll_shutdown`. -/
def pollShutdown (env : Env) (self : LazyTcpStream σ) (h : Trace) : Poll (Result Unit) × Trace :=
  match self.stream with
  | .connected s => s.pollShutdown env h
  | _ => (.ready (.ok ()), h)

/-- `peer_addr`. -/
def peerAddr (env : Env) (self : LazyTcpStream σ) (h : Trace) :
    Outcome (Result SocketAddr) × Trace :=
  match self.stream with
  | .connected s =>
    let r := s.peerAddr env h
    (.returned r.1, r.2)
  | .connecting _ addr _ => (.returned (.ok addr), h)
  | .empty => (.panicked .unreachable, h)

/-- `as_raw_fd`, `as_fd`, `as_raw_socket`, `as_socket`. -/
def asRawFd (self : LazyTcpStream σ) : Outcome Fd :=
  match self.stream with
  | .connected s => .returned s.fd
  | .connecting socket _ _ => .returned socket.fd
  | .empty => .panicked .unreachable

/-- `call_socket_api!`: a getter or setter through a temporary `Socket` over the raw handle.
`local_addr` unwraps the address. -/
def callSocketApi (env : Env) (op : SocketApi) (self : LazyTcpStream σ) (h : Trace) :
    Outcome (Result SocketVal) × Trace :=
  match self.asRawFd with
  | .returned fd =>
    let r := socketApi env fd op (.handle (.fromRawFd fd) :: h)
    let o := match r.1 with
      | .ok (.addr none) => .panicked .unwrap
      | result => .returned result
    (o, .handle (.intoRawFd fd) :: r.2)
  | .panicked p => (.panicked p, h)

/-- A write-readiness event reaches the tokio stream. -/
def setWritable (self : LazyTcpStream σ) : Option (LazyTcpStream σ) :=
  match self.stream with
  | .connected s => some { self with stream := .connected s.setWritable }
  | _ => none

/-- The stream with its state mapped. -/
def mapState {τ : Type} (f : σ → τ) (self : LazyTcpStream σ) : LazyTcpStream τ :=
  ⟨f self.state, self.stream⟩

/-! ## Pieces of `poll_write` -/

/-- `stream.connected()`, and the rest of the iteration on the tokio stream, which leaves the
state it returns. -/
def withConnected (self : LazyTcpStream σ) (h : Trace)
    (k : TokioTcpStream → Trace → Loop.Step ((σ × TokioTcpStream) × Trace)
      (Outcome (Poll (Result ℕ)))) :
    Loop.Step (LazyTcpStream σ × Trace) (Outcome (Poll (Result ℕ))) :=
  match self.stream with
  | .connected s => (k s h).map fun x => (⟨x.1.1, .connected x.1.2⟩, x.2)
  | _ => .done (.panicked .unreachable) (self, h)

/-- `TokioTcpStream::from_std(StdTcpStream::from_raw_fd(socket.into_raw_fd()))`. -/
def registerSocket (env : Env) (socket : TcpSocket) (h : Trace) :
    Except Unregistered TokioTcpStream × Trace :=
  TokioTcpStream.fromStd env socket.fd
    (.handle (.fromRawFd socket.fd) :: .handle (.intoRawFd socket.fd) :: h)

end LazyTcpStream

/-! ## The histories that these pieces leave -/

/-- The history after a socket was handed over to tokio. -/
def registered (fd : Fd) (h : Trace) : Trace :=
  .fromStd fd (.ok ()) :: .handle (.fromRawFd fd) :: .handle (.intoRawFd fd) :: h

/-- The history after tokio has not registered a socket. -/
def notRegistered (fd : Fd) (e : Unregistered) (h : Trace) : Trace :=
  .handle (.drop fd) :: .fromStd fd (.error e) :: .handle (.fromRawFd fd) ::
    .handle (.intoRawFd fd) :: h

/-- The history after `SO_ERROR` was read. -/
def queried (fd : Fd) (r : Result (Option Error)) (h : Trace) : Trace :=
  .handle (.intoRawFd fd) :: .takeError fd r :: .handle (.fromRawFd fd) :: h

theorem registerSocket_cases (env : Env) (socket : TcpSocket) (h : Trace) :
    LazyTcpStream.registerSocket env socket h = (.ok ⟨socket.fd, false⟩, registered socket.fd h) ∨
    ∃ e, (∃ h', env.fromStd h' socket.fd = .error e) ∧ LazyTcpStream.registerSocket env socket h =
      (.error e, notRegistered socket.fd e h) := by
  unfold LazyTcpStream.registerSocket TokioTcpStream.fromStd
  split
  · exact .inl rfl
  · rename_i e he
    exact .inr ⟨e, ⟨_, he⟩, rfl⟩

/-- The answer of an `SO_ERROR` query that `poll_write` returns as the error `e`. -/
def SoReports (r : Result (Option Error)) (e : Error) : Prop :=
  r = .ok (some e) ∨ r = .error e

end TokioTfo
