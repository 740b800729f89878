/-
  The interface of `sys::TcpStream`, which the platform modules implement, and one
  call of it.

  `poll_write` is a loop: `pollWriteBody` is its body.  The reactor runs between
  any two iterations and between calls: `deliver` hands a pending write-readiness
  event to the registration of the stream, if it has one, and `iterate` is the
  body after `deliver`.
-/
import TokioTfo.Tokio

namespace TokioTfo

/-- The methods of `sys::TcpStream`. -/
class SysTcpStream (S : Type) where
  /-- A write-readiness event reaches the registration (`none`: not registered). -/
  setWritable : S → Option S
  pollRead : Env → Waker → ℕ → S × Trace → Outcome (Poll (Result Bytes)) × S × Trace
  /-- One iteration of the loop of `poll_write`. -/
  pollWriteBody : Env → Waker → Bytes → S × Trace →
    Loop.Step (S × Trace) (Outcome (Poll (Result ℕ)))
  pollFlush : Env → S → Trace → Poll (Result Unit) × Trace
  pollShutdown : Env → S → Trace → Poll (Result Unit) × Trace
  peerAddr : Env → S → Trace → Outcome (Result SocketAddr) × Trace
  asRawFd : S → Outcome Fd
  socketApi : Env → SocketApi → S → Trace → Outcome (Result SocketVal) × Trace

section
variable {S : Type} [SysTcpStream S] (env : Env)

/-- The reactor delivers the pending write-readiness event, if any. -/
def deliver (x : S × Trace) : S × Trace :=
  match SysTcpStream.setWritable x.1 with
  | some s => if env.writeEvent x.2 then (s, .writeEvent :: x.2) else x
  | none => x

/-- One iteration of the loop of `poll_write`, after the reactor has run. -/
def iterate (cx : Waker) (buf : Bytes) (x : S × Trace) :
    Loop.Step (S × Trace) (Outcome (Poll (Result ℕ))) :=
  SysTcpStream.pollWriteBody env cx buf (deliver env x)

/-- `poll_write`, for `fuel` iterations at most. -/
def pollWrite (cx : Waker) (buf : Bytes) (fuel : ℕ) (x : S × Trace) :
    Loop.Step (S × Trace) (Outcome (Poll (Result ℕ))) :=
  Loop.run (iterate env cx buf) fuel x

/-- `poll_write` returns (or panics with) `o` in the state `x'`. -/
def PollWriteReturns (cx : Waker) (buf : Bytes) (x : S × Trace)
    (o : Outcome (Poll (Result ℕ))) (x' : S × Trace) : Prop :=
  Loop.Returns (iterate env cx buf) x o x'

/-- The default `poll_write_vectored` writes the first slice that is not empty. -/
def firstNonEmpty (bufs : List Bytes) : Bytes :=
  (bufs.find? fun b => !b.isEmpty).getD []

/-- The waker and the bytes that a call gives to `poll_write`. -/
def Call.payload : Call → Option (Waker × Bytes)
  | pollWrite cx buf => some (cx, buf)
  | pollWriteVectored cx bufs => some (cx, firstNonEmpty bufs)
  | _ => none

/-- The call `c` from `x` ends with `o` in the state `x'`. -/
def Performs : Call → S × Trace → Outcome Ret → S × Trace → Prop
  | .pollRead cx room, x, o, x' =>
    let r := SysTcpStream.pollRead env cx room x
    o = r.1.map .read ∧ x' = r.2
  | .pollWrite cx buf, x, o, x' => ∃ r, PollWriteReturns env cx buf x r x' ∧ o = r.map .write
  | .pollWriteVectored cx bufs, x, o, x' =>
    ∃ r, PollWriteReturns env cx (firstNonEmpty bufs) x r x' ∧ o = r.map .write
  | .pollFlush _, x, o, x' =>
    let r := SysTcpStream.pollFlush env x.1 x.2
    o = .returned (.unit r.1) ∧ x' = (x.1, r.2)
  | .pollShutdown _, x, o, x' =>
    let r := SysTcpStream.pollShutdown env x.1 x.2
    o = .returned (.unit r.1) ∧ x' = (x.1, r.2)
  | .peerAddr, x, o, x' =>
    let r := SysTcpStream.peerAddr env x.1 x.2
    o = r.1.map .addr ∧ x' = (x.1, r.2)
  | .asRawFd, x, o, x' => o = (SysTcpStream.asRawFd x.1).map .fd ∧ x' = x
  | .socketApi op, x, o, x' =>
    let r := SysTcpStream.socketApi env op x.1 x.2
    o = r.1.map .value ∧ x' = (x.1, r.2)

end

end TokioTfo
