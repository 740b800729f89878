/-
  The parts of tokio, socket2 and the libc wrappers the crate calls, each of which
  asks the environment and records the answer.

  Of tokio's registration only the cached write readiness is kept; the wakers it holds
  can be read off the history.  A write-readiness event of the reactor sets it; a
  would-block result inside `try_io` or `poll_write` clears it, and nothing else does;
  `from_std` starts without it; and `poll_write_ready` returns `Pending` when it is not
  set.
-/
import TokioTfo.Base
import TokioTfo.Lib.Loop

namespace TokioTfo

/-- `tokio::net::TcpSocket`. -/
structure TcpSocket where
  fd : Fd
  deriving DecidableEq

/-- `tokio::net::TcpStream`: the handle, and the cached write readiness of its registration. -/
structure TokioTcpStream where
  fd : Fd
  writable : Bool
  deriving DecidableEq

/-- The reactor delivers a pending read-readiness event, if any. -/
def deliverRead (env : Env) (h : Trace) : Trace :=
  if env.readEvent h then .readEvent :: h else h

theorem deliverRead_cases (env : Env) (h : Trace) :
    deliverRead env h = h ∨ deliverRead env h = .readEvent :: h := by
  unfold deliverRead
  split
  · exact .inr rfl
  · exact .inl rfl

namespace TokioTcpStream

/-- A write-readiness event reaches the registration. -/
def setWritable (s : TokioTcpStream) : TokioTcpStream := { s with writable := true }

/-- `TcpStream::from_std`.  When it fails, or panics, the handle is closed. -/
def fromStd (env : Env) (fd : Fd) (h : Trace) : Except Unregistered TokioTcpStream × Trace :=
  match env.fromStd h fd with
  | .ok () => (.ok ⟨fd, false⟩, .fromStd fd (.ok ()) :: h)
  | .error e => (.error e, .handle (.drop fd) :: .fromStd fd (.error e) :: h)

/-- `TcpStream::poll_write_ready`. -/
def pollWriteReady (env : Env) (cx : Waker) (s : TokioTcpStream) (h : Trace) :
    Poll (Result Unit) × Trace :=
  let r : Poll (Result Unit) := match env.pollWriteReady h s.fd with
    | .cached => if s.writable then .ready (.ok ()) else .pending
    | .budget => .pending
    | .shutdown e => .ready (.error e)
  (r, .pollWriteReady cx s.fd r :: h)

/-- `TcpStream::try_io(Interest::WRITABLE, f)`: without cached readiness `f` does not run; a
would-block result of `f` clears the cached readiness.  `b` is what `f` captures by reference. -/
def tryIo {α β : Type} (s : TokioTcpStream) (b : β) (f : Trace → Outcome (Result α) × β × Trace)
    (h : Trace) : Outcome (Result α) × β × TokioTcpStream × Trace :=
  if s.writable then
    match f h with
    | (.returned (.error e), b', h') =>
      if e.kind = .wouldBlock then
        (.returned (.error (.simple .wouldBlock)), b', { s with writable := false }, h')
      else (.returned (.error e), b', s, h')
    | (o, b', h') => (o, b', s, h')
  else (.returned (.error (.simple .wouldBlock)), b, s, h)

/-- `AsyncWrite::poll_write`. -/
def pollWrite (env : Env) (cx : Waker) (buf : Bytes) (s : TokioTcpStream) (h : Trace) :
    Poll (Result ℕ) × TokioTcpStream × Trace :=
  match env.pollWrite h s.fd buf with
  | .ready (.ok n) => (.ready (.ok n), s, .pollWrite cx s.fd buf (.ready (.ok n)) :: h)
  | .ready (.error e) => (.ready (.error e), s, .pollWrite cx s.fd buf (.ready (.error e)) :: h)
  | .wouldBlock => (.pending, { s with writable := false }, .pollWrite cx s.fd buf .pending :: h)
  | .budget => (.pending, s, .pollWrite cx s.fd buf .pending :: h)

/-- `AsyncRead::poll_read`, after the reactor has run. -/
def pollRead (env : Env) (cx : Waker) (room : ℕ) (s : TokioTcpStream) (h : Trace) :
    Poll (Result Bytes) × Trace :=
  let h := deliverRead env h
  (env.pollRead h s.fd room, .pollRead cx s.fd (env.pollRead h s.fd room) :: h)

/-- `AsyncWrite::poll_flush`. -/
def pollFlush (env : Env) (s : TokioTcpStream) (h : Trace) : Poll (Result Unit) × Trace :=
  (env.pollFlush h s.fd, .pollFlush s.fd (env.pollFlush h s.fd) :: h)

/-- `AsyncWrite::poll_shutdown`. -/
def pollShutdown (env : Env) (s : TokioTcpStream) (h : Trace) : Poll (Result Unit) × Trace :=
  (env.pollShutdown h s.fd, .pollShutdown s.fd (env.pollShutdown h s.fd) :: h)

/-- `TcpStream::peer_addr`. -/
def peerAddr (env : Env) (s : TokioTcpStream) (h : Trace) : Result SocketAddr × Trace :=
  (env.peerAddr h s.fd, .peerAddr s.fd (env.peerAddr h s.fd) :: h)

/-! ### What the calls can do -/

theorem pollWriteReady_cases (env : Env) (cx : Waker) (s : TokioTcpStream) (h : Trace) :
    s.pollWriteReady env cx h = (.pending, .pollWriteReady cx s.fd .pending :: h) ∨
    (∃ e, s.pollWriteReady env cx h =
      (.ready (.error e), .pollWriteReady cx s.fd (.ready (.error e)) :: h)) ∨
    (s.writable = true ∧ s.pollWriteReady env cx h =
      (.ready (.ok ()), .pollWriteReady cx s.fd (.ready (.ok ())) :: h)) := by
  unfold pollWriteReady
  cases env.pollWriteReady h s.fd with
  | cached => cases hw : s.writable <;> simp
  | budget => exact .inl rfl
  | shutdown e => exact .inr (.inl ⟨e, rfl⟩)

/-- What `poll_write` of `buf` on `s` can return (`r`) and leave (`s'`): only a `Pending` touches
the cached readiness, and a count is the one that the environment has answered. -/
structure Wrote (env : Env) (buf : Bytes) (s : TokioTcpStream) (r : Poll (Result ℕ))
    (s' : TokioTcpStream) : Prop where
  fd : s'.fd = s.fd
  kept : r ≠ .pending → s' = s
  answer : ∀ n, r = .ready (.ok n) → ∃ h, ∃ m : Count buf.length,
    env.pollWrite h s.fd buf = .ready (.ok m) ∧ n = m

theorem Wrote.le {env : Env} {buf : Bytes} {s s' : TokioTcpStream} {r : Poll (Result ℕ)}
    (h : Wrote env buf s r s') {n : ℕ} (hr : r = .ready (.ok n)) : n ≤ buf.length := by
  obtain ⟨-, m, -, rfl⟩ := h.answer n hr
  exact Nat.le_of_lt_succ m.2

theorem pollWrite_spec (env : Env) (cx : Waker) (buf : Bytes) (s : TokioTcpStream) (h : Trace) :
    ∃ r s', s.pollWrite env cx buf h = (r, s', .pollWrite cx s.fd buf r :: h) ∧
      Wrote env buf s r s' := by
  unfold pollWrite
  split
  · rename_i n hn
    exact ⟨_, _, rfl, rfl, fun _ => rfl, fun m hm => by cases hm; exact ⟨h, n, hn, rfl⟩⟩
  · exact ⟨_, _, rfl, rfl, fun _ => rfl, fun m hm => by cases hm⟩
  · exact ⟨_, _, rfl, rfl, fun hne => absurd rfl hne, fun m hm => by cases hm⟩
  · exact ⟨_, _, rfl, rfl, fun hne => absurd rfl hne, fun m hm => by cases hm⟩

end TokioTcpStream

/-- `TcpSocket::new_v4` or `TcpSocket::new_v6`, by the target address. -/
def TcpSocket.new (env : Env) (addr : SocketAddr) (h : Trace) : Result TcpSocket :=
  (env.newSocket h addr).map TcpSocket.mk

/-- `TcpSocket::connect`, awaited to its end. -/
def TcpSocket.connect (env : Env) (socket : TcpSocket) (addr : SocketAddr) (h : Trace) :
    Except Unregistered TokioTcpStream × Trace :=
  match env.connect h socket.fd addr with
  | .ok writable => (.ok ⟨socket.fd, writable⟩, .connect socket.fd addr (.ok ()) :: h)
  | .error e =>
    (.error e, .handle (.drop socket.fd) :: .connect socket.fd addr (.error e) :: h)

/-! ## Kernel calls -/

/-- `libc::sendto` with the target address; a negative result is `last_os_error`. -/
def sendto (env : Env) (fd : Fd) (buf : Bytes) (flags : ℕ) (addr : SocketAddr) (h : Trace) :
    Except Errno (Count buf.length) × Trace :=
  let r := env.sendto h fd buf flags addr
  (r, .sendto fd buf flags addr (r.map Fin.val) :: h)

/-- `libc::send`, without flags. -/
def send (env : Env) (fd : Fd) (buf : Bytes) (h : Trace) :
    Except Errno (Count buf.length) × Trace :=
  let r := env.send h fd buf
  (r, .send fd buf (r.map Fin.val) :: h)

/-- `setsockopt(IPPROTO_TCP, …)`. -/
def setsockopt (env : Env) (fd : Fd) (opt : SockOpt) (h : Trace) : Except Errno Unit × Trace :=
  (env.setsockopt h fd opt, .setsockopt fd opt (env.setsockopt h fd opt) :: h)

/-- `socket_take_error`: `SO_ERROR` read through a temporary `Socket` over the raw handle, which
is given back by `into_raw_fd`. -/
def socketTakeError (env : Env) (fd : Fd) (h : Trace) : Result (Option Error) × Trace :=
  let h₁ := .handle (.fromRawFd fd) :: h
  let result := env.takeError h₁ fd
  (result, .handle (.intoRawFd fd) :: .takeError fd result :: h₁)

/-- The getters and setters of socket2 and of `std`, on the socket itself. -/
def socketApi (env : Env) (fd : Fd) (op : SocketApi) (h : Trace) : Result SocketVal × Trace :=
  (env.socketApi h fd op, .socketApi fd op (env.socketApi h fd op) :: h)

/-! ## Wakers -/

/-- Wake the parked waker, if there is one and it would not wake the task that is polling. -/
def wakeReader (reader : Option Waker) (cx : Waker) (h : Trace) : Trace :=
  match reader with
  | some w => if w.willWake cx then h else .wake w :: h
  | none => h

theorem wakeReader_cases (reader : Option Waker) (cx : Waker) (h : Trace) :
    wakeReader reader cx h = h ∨ ∃ w, wakeReader reader cx h = .wake w :: h := by
  unfold wakeReader
  split
  · split
    · exact .inl rfl
    · exact .inr ⟨_, rfl⟩
  · exact .inl rfl

end TokioTfo
