/-
  What the streams compute with: polls, errors, wakers, the history of a run, and
  the environment that answers the calls into the kernel and into tokio.

  The history (`Trace`) records every call of the crate's public methods with its
  result, every call the crate makes into libc, WinSock, socket2 and tokio with
  its answer, the wake-ups, and the readiness events of the reactor, the newest
  first.  The environment `Env` is a strategy: it chooses each answer from
  the whole history, so that a statement about all environments is one about all
  sequences of results.
-/
import Mathlib.Tactic.Common

namespace TokioTfo

/-! ## Polls, errors, wakers -/

abbrev Bytes := List UInt8

/-- `RawFd`, `RawSocket`. -/
abbrev Fd := ℕ

/-- The address of a boxed `OVERLAPPED`. -/
abbrev Overlapped := ℕ

/-- `std::task::Poll`. -/
inductive Poll (α : Type) where
  | ready (a : α)
  | pending
  deriving DecidableEq

/-- `std::io::ErrorKind`, the kinds the crate looks at. -/
inductive ErrorKind where
  | wouldBlock | notConnected | brokenPipe | other
  deriving DecidableEq

/-- Codes of `last_os_error` and `WSAGetLastError`, those the crate names and the rest.
`EWOULDBLOCK` is `EAGAIN` on every Unix the crate supports. -/
inductive Errno where
  | EINPROGRESS | EAGAIN | ENOTCONN | EPIPE | ENOPROTOOPT
  | WSAEINVAL | WSAEWOULDBLOCK | WSA_IO_PENDING | WSA_IO_INCOMPLETE
  | other (code : ℕ)
  deriving DecidableEq

/-- `std::io::Error`: from a code of the operating system, or from a kind. -/
inductive Error where
  | os (code : Errno)
  | simple (kind : ErrorKind)
  deriving DecidableEq

namespace Error

/-- `io::Error::raw_os_error`. -/
def rawOsError : Error → Option Errno
  | os code => some code
  | simple _ => none

/-- `io::Error::kind`. -/
def kind : Error → ErrorKind
  | os .EAGAIN | os .WSAEWOULDBLOCK => .wouldBlock
  | os .ENOTCONN => .notConnected
  | os .EPIPE => .brokenPipe
  | os _ => .other
  | simple k => k

end Error

/-- `std::io::Result`. -/
abbrev Result (α : Type) := Except Error α

/-- `std::task::Waker`: the data pointer, and the task it wakes. -/
structure Waker where
  task : ℕ
  data : ℕ
  deriving DecidableEq

/-- `Waker::will_wake`. -/
def Waker.willWake (self other : Waker) : Bool := self == other

/-- `std::net::SocketAddr`. -/
inductive SocketAddr where
  | v4 (ip port : ℕ)
  | v6 (ip port : ℕ)
  deriving DecidableEq

/-- Why a call panics. -/
inductive Panic where
  /-- `unreachable!` -/
  | unreachable
  /-- `expect("LPFN_CONNECTEX function doesn't exist …")` -/
  | expect
  /-- `debug_assert!` -/
  | debugAssert
  /-- `unwrap()` -/
  | unwrap
  /-- tokio: "there is no reactor running" -/
  | noRuntime
  deriving DecidableEq

/-- A call returns or panics. -/
inductive Outcome (α : Type) where
  | returned (a : α)
  | panicked (p : Panic)
  deriving DecidableEq

def Outcome.map {α β : Type} (f : α → β) : Outcome α → Outcome β
  | returned a => returned (f a)
  | panicked p => panicked p

@[simp] theorem Outcome.map_returned {α β : Type} (f : α → β) (a : α) :
    (Outcome.returned a).map f = .returned (f a) := rfl

@[simp] theorem Outcome.map_eq_panicked {α β : Type} {f : α → β} {o : Outcome α} {p : Panic} :
    o.map f = .panicked p ↔ o = .panicked p := by
  cases o <;> simp [Outcome.map]

theorem Outcome.map_eq_returned {α β : Type} {f : α → β} {o : Outcome α} {b : β} :
    o.map f = .returned b ↔ ∃ a, o = .returned a ∧ f a = b := by
  cases o <;> simp [Outcome.map]

theorem Outcome.map_ne_returned {α β : Type} {f : α → β} {b : β} (hf : ∀ a, f a ≠ b)
    (o : Outcome α) : o.map f ≠ .returned b := by
  rw [Ne, map_eq_returned]
  rintro ⟨a, -, ha⟩
  exact hf a ha

/-- Why tokio does not register a socket: the registration fails, or the task runs outside of a
runtime with a reactor. -/
inductive Unregistered where
  | failed (err : Error)
  | noRuntime
  deriving DecidableEq

/-- `?` on the result of a registration, which outside of a runtime is not reached. -/
def Unregistered.outcome {α : Type} : Unregistered → Outcome (Result α)
  | failed err => .returned (.error err)
  | noRuntime => .panicked .noRuntime

namespace Unregistered
variable {α : Type} (u : Unregistered)

@[simp] theorem outcome_ne_ok (a : α) : u.outcome ≠ .returned (.ok a) := by
  cases u <;> simp [outcome]

@[simp] theorem ready_ne_pending :
    (u.outcome.map .ready : Outcome (Poll (Result α))) ≠ .returned .pending := by
  cases u <;> simp [outcome, Outcome.map]

@[simp] theorem ready_ne_ok (a : α) :
    (u.outcome.map .ready : Outcome (Poll (Result α))) ≠ .returned (.ready (.ok a)) := by
  cases u <;> simp [outcome, Outcome.map]

end Unregistered

/-! ## The public calls and their results -/

/-- The socket-option getters and setters, and `local_addr`. -/
inductive SocketApi where
  | localAddr | nodelay | setNodelay (nodelay : Bool)
  | linger | setLinger (dur : Option ℕ) | ttl | setTtl (ttl : ℕ)
  deriving DecidableEq

/-- What they return. -/
inductive SocketVal where
  | unit | bool (b : Bool) | duration (dur : Option ℕ) | ttl (ttl : ℕ)
  | addr (addr : Option SocketAddr)
  deriving DecidableEq

/-- A call of a method of the stream. -/
inductive Call where
  | pollRead (cx : Waker) (room : ℕ)
  | pollWrite (cx : Waker) (buf : Bytes)
  | pollWriteVectored (cx : Waker) (bufs : List Bytes)
  | pollFlush (cx : Waker)
  | pollShutdown (cx : Waker)
  | peerAddr
  | asRawFd
  | socketApi (op : SocketApi)
  deriving DecidableEq

/-- What a call returns. -/
inductive Ret where
  | read (r : Poll (Result Bytes))
  | write (r : Poll (Result ℕ))
  | unit (r : Poll (Result Unit))
  | addr (r : Result SocketAddr)
  | fd (fd : Fd)
  | value (r : Result SocketVal)
  deriving DecidableEq

/-! ## The history of a run -/

/-- The options set with `setsockopt` before connecting. -/
inductive SockOpt where
  | tcpFastopenConnect | tcpFastopen | tcpFastopenForceEnable
  deriving DecidableEq

/-- Moves of a handle: `into_raw_fd` releases it from its owner, `from_raw_fd` makes an owner,
`drop` closes it. -/
inductive HandleOp where
  | intoRawFd (fd : Fd)
  | fromRawFd (fd : Fd)
  | drop (fd : Fd)
  deriving DecidableEq

/-- `libc::MSG_FASTOPEN` of Linux. -/
def msgFastopen : ℕ := 0x20000000

inductive Event where
  /-- A call of the stream begins, and ends. -/
  | call (c : Call)
  | ret (c : Call) (o : Outcome Ret)
  /-- The reactor delivers a readiness event. -/
  | readEvent
  | writeEvent
  /-- `Waker::wake`. -/
  | wake (w : Waker)
  | handle (op : HandleOp)
  /-- Setting the socket up. -/
  | setsockopt (fd : Fd) (opt : SockOpt) (r : Except Errno Unit)
  | bind (fd : Fd) (r : Result Unit)
  | connectx (fd : Fd) (addr : SocketAddr) (r : Except Errno Unit)
  | connect (fd : Fd) (addr : SocketAddr) (r : Except Unregistered Unit)
  /-- The opening calls. -/
  | sendto (fd : Fd) (buf : Bytes) (flags : ℕ) (addr : SocketAddr) (r : Except Errno ℕ)
  | send (fd : Fd) (buf : Bytes) (r : Except Errno ℕ)
  | connectEx (fd : Fd) (buf : Bytes) (overlapped : Overlapped) (r : Except Errno ℕ)
  | getOverlappedResult (fd : Fd) (overlapped : Overlapped) (r : Except Errno ℕ)
  | setUpdateConnectContext (fd : Fd) (r : Except Errno Unit)
  | takeError (fd : Fd) (r : Result (Option Error))
  /-- Calls into tokio. -/
  | fromStd (fd : Fd) (r : Except Unregistered Unit)
  | pollWriteReady (cx : Waker) (fd : Fd) (r : Poll (Result Unit))
  | pollWrite (cx : Waker) (fd : Fd) (buf : Bytes) (r : Poll (Result ℕ))
  | pollRead (cx : Waker) (fd : Fd) (r : Poll (Result Bytes))
  | pollFlush (fd : Fd) (r : Poll (Result Unit))
  | pollShutdown (fd : Fd) (r : Poll (Result Unit))
  | peerAddr (fd : Fd) (r : Result SocketAddr)
  | socketApi (fd : Fd) (op : SocketApi) (r : Result SocketVal)
  deriving DecidableEq

/-- A history, the newest event first. -/
abbrev Trace := List Event

/-! ## The environment -/

/-- A number of bytes taken from a buffer of length `n`: nobody reports more bytes than there
are. -/
abbrev Count (n : ℕ) := Fin (n + 1)

/-- The answer of tokio's `poll_write_ready`: it looks at the cached readiness, unless the runtime
is shutting down or the task has used up its cooperative budget. -/
inductive ReadyAnswer where
  | cached
  | budget
  | shutdown (e : Error)
  deriving DecidableEq

/-- The answer of tokio's `poll_write`: a result, or no result because the socket would block or
the task has used up its cooperative budget. -/
inductive IoAnswer (α : Type) where
  | ready (r : Result α)
  | wouldBlock
  | budget
  deriving DecidableEq

/-- The kernel, the reactor and the rest of tokio: an answer to every call, from the history. -/
structure Env where
  /-- Whether the reactor has delivered a readiness event since the last call. -/
  readEvent : Trace → Bool
  writeEvent : Trace → Bool
  newSocket : Trace → SocketAddr → Result Fd
  setsockopt : Trace → Fd → SockOpt → Except Errno Unit
  bind : Trace → Fd → Result Unit
  connectx : Trace → Fd → SocketAddr → Except Errno Unit
  /-- `TcpSocket::connect`, with the readiness the connected stream starts with. -/
  connect : Trace → Fd → SocketAddr → Except Unregistered Bool
  sendto : Trace → Fd → (buf : Bytes) → (flags : ℕ) → SocketAddr →
    Except Errno (Count buf.length)
  send : Trace → Fd → (buf : Bytes) → Except Errno (Count buf.length)
  /-- Whether the extension function `ConnectEx` was found. -/
  hasConnectEx : Bool
  connectEx : Trace → Fd → SocketAddr → (buf : Bytes) → Overlapped →
    Except Errno (Count buf.length)
  getOverlappedResult : Trace → Fd → Overlapped → Except Errno ℕ
  setUpdateConnectContext : Trace → Fd → Except Errno Unit
  takeError : Trace → Fd → Result (Option Error)
  fromStd : Trace → Fd → Except Unregistered Unit
  pollWriteReady : Trace → Fd → ReadyAnswer
  pollWrite : Trace → Fd → (buf : Bytes) → IoAnswer (Count buf.length)
  pollRead : Trace → Fd → ℕ → Poll (Result Bytes)
  pollFlush : Trace → Fd → Poll (Result Unit)
  pollShutdown : Trace → Fd → Poll (Result Unit)
  pollAccept : Trace → Poll (Except Unregistered (Fd × Bool × SocketAddr))
  peerAddr : Trace → Fd → Result SocketAddr
  socketApi : Trace → Fd → SocketApi → Result SocketVal
  /-- Whether the crate is built with debug assertions. -/
  debugAssertions : Bool

/-- The environment in which every call succeeds at once, and nothing is received. -/
instance : Inhabited Env where
  default :=
    { readEvent := fun _ => false
      writeEvent := fun _ => false
      newSocket := fun _ _ => .ok 0
      setsockopt := fun _ _ _ => .ok ()
      bind := fun _ _ => .ok ()
      connectx := fun _ _ _ => .ok ()
      connect := fun _ _ _ => .ok true
      sendto := fun _ _ buf _ _ => .ok (Fin.last buf.length)
      send := fun _ _ buf => .ok (Fin.last buf.length)
      hasConnectEx := true
      connectEx := fun _ _ _ buf _ => .ok (Fin.last buf.length)
      getOverlappedResult := fun _ _ _ => .ok 0
      setUpdateConnectContext := fun _ _ => .ok ()
      takeError := fun _ _ => .ok none
      fromStd := fun _ _ => .ok ()
      pollWriteReady := fun _ _ => .cached
      pollWrite := fun _ _ buf => .ready (.ok (Fin.last buf.length))
      pollRead := fun _ _ _ => .pending
      pollFlush := fun _ _ => .ready (.ok ())
      pollShutdown := fun _ _ => .ready (.ok ())
      pollAccept := fun _ => .pending
      peerAddr := fun _ _ => .ok (.v4 0 0)
      socketApi := fun _ _ _ => .ok .unit
      debugAssertions := true }

/-- `from_std` fails, everything else succeeds at once. -/
def refusing : Env :=
  { (default : Env) with fromStd := fun _ _ => .error (.failed (.simple .other)) }

end TokioTfo
