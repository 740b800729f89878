/-
  The branches of `poll_write` that the Unix modules share, for any type of states.

  Each is the text of the branch with the states it enters as parameters: a branch
  that returns says in which state, and a branch that falls through to the next
  iteration says which one it enters.
-/
import TokioTfo.Sys.Lazy

namespace TokioTfo

/-- The result of a branch on a registered stream: the state it leaves, and the stream. -/
abbrev Branch (σ : Type) :=
  Loop.Step ((σ × TokioTcpStream) × Trace) (Outcome (Poll (Result ℕ)))

section
variable {σ : Type} (env : Env) (cx : Waker) (buf : Bytes)

/-- `return stream.poll_write(cx, buf)`. -/
def delegate (state : σ) (s : TokioTcpStream) (h : Trace) : Branch σ :=
  let r := s.pollWrite env cx buf h
  .done (.returned r.1) ((state, r.2.1), r.2.2)

/-- `Connected` of FreeBSD and macOS: the first ordinary write.  An error that may mean that the
socket is still connecting (`retry`) is treated as `EAGAIN`. -/
def firstWrite (retry : Error → Bool) (established connected connecting : σ)
    (s : TokioTcpStream) (h : Trace) : Branch σ :=
  match s.pollWrite env cx buf h with
  | (.ready (.ok n), s, h) => .done (.returned (.ready (.ok n))) ((established, s), h)
  | (.ready (.error err), s, h) =>
    if retry err then .again ((connecting, s), h)
    else .done (.returned (.ready (.error err))) ((connected, s), h)
  | (.pending, s, h) => .done (.returned .pending) ((connected, s), h)

/-- `FastOpenConnecting`: wait for `connect` to finish, and get `SO_ERROR`. -/
def awaitConnect (connecting connected : σ) (s : TokioTcpStream) (h : Trace) : Branch σ :=
  match s.pollWriteReady env cx h with
  | (.pending, h) => .done (.returned .pending) ((connecting, s), h)
  | (.ready (.error err), h) => .done (.returned (.ready (.error err))) ((connecting, s), h)
  | (.ready (.ok ()), h) =>
    match socketTakeError env s.fd h with
    | (.ok (some err), h) => .done (.returned (.ready (.error err))) ((connecting, s), h)
    | (.error err, h) => .done (.returned (.ready (.error err))) ((connecting, s), h)
    | (.ok none, h) => .again ((connected, s), h)

/-- The closure that `FastOpenWrite` gives to `try_io`.  The second component is the captured
`connecting`; `EINPROGRESS` becomes a would-block so that the cached readiness is cleared. -/
def sendFirst (s : TokioTcpStream) (h : Trace) :
    Outcome (Result ℕ) × Bool × Trace :=
  match send env s.fd buf h with
  | (.ok n, h) => (.returned (.ok n), false, h)
  | (.error .EINPROGRESS, h) => (.returned (.error (.simple .wouldBlock)), true, h)
  | (.error err, h) => (.returned (.error (.os err)), false, h)

/-- `FastOpenWrite` of Linux and macOS: the first `send` starts the handshake. -/
def fastOpenWrite (write connecting connected : σ) (s : TokioTcpStream) (h : Trace) : Branch σ :=
  match s.pollWriteReady env cx h with
  | (.pending, h) => .done (.returned .pending) ((write, s), h)
  | (.ready (.error err), h) => .done (.returned (.ready (.error err))) ((write, s), h)
  | (.ready (.ok ()), h) =>
    match s.tryIo false (sendFirst env buf s) h with
    | (.returned (.ok n), _, s, h) => .done (.returned (.ready (.ok n))) ((connected, s), h)
    | (.returned (.error err), isConnecting, s, h) =>
      if err.kind = .wouldBlock then .again ((if isConnecting then connecting else write, s), h)
      else .done (.returned (.ready (.error err))) ((write, s), h)
    | (.panicked p, _, s, h) => .done (.panicked p) ((write, s), h)

/-- `FastOpenConnect` of Linux and FreeBSD: `sendto` with the target address, and the hand-over of
the socket to tokio.  The modules differ in the flags. -/
def fastOpenConnect (flags : ℕ) (connecting connected : σ) (self : LazyTcpStream σ) (h : Trace) :
    Loop.Step (LazyTcpStream σ × Trace) (Outcome (Poll (Result ℕ))) :=
  match self.stream with
  | .connecting socket addr reader =>
    match sendto env socket.fd buf flags addr h with
    | (.ok ret, h) =>
      -- `mem::replace` leaves `Empty`, which stays when the registration fails or panics
      match LazyTcpStream.registerSocket env socket h with
      | (.ok s, h) =>
        .done (.returned (.ready (.ok ret))) (⟨connected, .connected s⟩, wakeReader reader cx h)
      | (.error err, h) => .done (err.outcome.map .ready) ({ self with stream := .empty }, h)
    | (.error .EINPROGRESS, h) =>
      match LazyTcpStream.registerSocket env socket h with
      | (.ok s, h) => .again (⟨connecting, .connected s⟩, wakeReader reader cx h)
      | (.error err, h) => .done (err.outcome.map .ready) ({ self with stream := .empty }, h)
    | (.error err, h) => .done (.returned (.ready (.error (.os err)))) (self, h)
  | _ => .done (.panicked .unreachable) (self, h)

end

end TokioTfo
