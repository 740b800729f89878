/-
  `sys/windows/mod.rs`.

  The `OVERLAPPED` that `FastOpenConnect` boxes is named by the length of the
  history, so that no two boxes have the same name.
-/
import TokioTfo.Sys.Unix

namespace TokioTfo.Windows

inductive TcpStreamState where
  | connected
  | fastOpenConnect
  | fastOpenConnecting (overlapped : Overlapped)
  deriving DecidableEq

abbrev TcpStream := LazyTcpStream TcpStreamState

/-- `n as u32`. -/
def asU32 (n : ℕ) : ℕ := n % UInt32.size

/-- What `ConnectEx` is given of the buffer: `buf.len() as u32` bytes from its start. -/
def submitted (buf : Bytes) : Bytes := buf.take (asU32 buf.length)

/-- `connect_ex`; if it does not return `TRUE` the result is `WSAGetLastError`. -/
def connectEx (env : Env) (fd : Fd) (addr : SocketAddr) (buf : Bytes) (overlapped : Overlapped)
    (h : Trace) : Except Errno (Count (submitted buf).length) × Trace :=
  let r := env.connectEx h fd addr (submitted buf) overlapped
  (r, .connectEx fd (submitted buf) overlapped (r.map Fin.val) :: h)

/-- `WSAGetOverlappedResult`, without waiting. -/
def getOverlappedResult (env : Env) (fd : Fd) (overlapped : Overlapped) (h : Trace) :
    Except Errno ℕ × Trace :=
  let r := env.getOverlappedResult h fd overlapped
  (r, .getOverlappedResult fd overlapped r :: h)

/-- `set_update_connect_context`. -/
def setUpdateConnectContext (env : Env) (fd : Fd) (h : Trace) : Except Errno Unit × Trace :=
  let r := env.setUpdateConnectContext h fd
  (r, .setUpdateConnectContext fd r :: h)

/-- `debug_assert!(bytes_sent as usize <= buf.len())` fails. -/
def debugAssertFails (env : Env) (bytesSent : ℕ) (buf : Bytes) : Bool :=
  env.debugAssertions && !decide (bytesSent ≤ buf.length)

namespace TcpStream

/-- `connect_with_socket`: binding fails with `WSAEINVAL` if the socket is bound already.  On an
early return the socket is dropped. -/
def connectWithSocket (env : Env) (socket : TcpSocket) (addr : SocketAddr) (h : Trace) :
    Outcome (Result TcpStream) × Trace :=
  match setsockopt env socket.fd .tcpFastopen h with
  | (.error err, h) => (.returned (.error (.os err)), .handle (.drop socket.fd) :: h)
  | (.ok (), h) =>
    let result := env.bind h socket.fd
    let h := .bind socket.fd result :: h
    let stream : TcpStream := ⟨.fastOpenConnect, .connecting socket addr none⟩
    match result with
    | .ok () => (.returned (.ok stream), h)
    | .error err =>
      if err.rawOsError = some .WSAEINVAL then (.returned (.ok stream), h)
      else (.returned (.error err), .handle (.drop socket.fd) :: h)

/-- `connect`. -/
def connect (env : Env) (addr : SocketAddr) (h : Trace) : Outcome (Result TcpStream) × Trace :=
  match TcpSocket.new env addr h with
  | .ok socket => connectWithSocket env socket addr h
  | .error err => (.returned (.error err), h)

/-- `From<TokioTcpStream>`. -/
def ofTokio (s : TokioTcpStream) : TcpStream := ⟨.connected, .connected s⟩

section
variable (env : Env) (cx : Waker) (buf : Bytes)

/-- `FastOpenConnect`. -/
def fastOpenConnect (self : TcpStream) (h : Trace) :
    Loop.Step (TcpStream × Trace) (Outcome (Poll (Result ℕ))) :=
  if !env.hasConnectEx then .done (.panicked .expect) (self, h) else
  let overlapped : Overlapped := h.length
  match self.stream with
  | .connecting socket addr reader =>
    match connectEx env socket.fd addr buf overlapped h with
    | (.ok bytesSent, h) =>
      if debugAssertFails env bytesSent buf then .done (.panicked .debugAssert) (self, h) else
      -- `mem::replace` leaves `Empty`, which stays when one of the two calls fails
      match setUpdateConnectContext env socket.fd h with
      | (.error err, h) =>
        .done (.returned (.ready (.error (.os err))))
          ({ self with stream := .empty }, .handle (.drop socket.fd) :: h)
      | (.ok (), h) =>
        match LazyTcpStream.registerSocket env socket h with
        | (.ok s, h) =>
          .done (.returned (.ready (.ok bytesSent)))
            (⟨.connected, .connected s⟩, wakeReader reader cx h)
        | (.error err, h) => .done (err.outcome.map .ready) ({ self with stream := .empty }, h)
    | (.error .WSA_IO_PENDING, h) =>
      match LazyTcpStream.registerSocket env socket h with
      | (.ok s, h) =>
        .again (⟨.fastOpenConnecting overlapped, .connected s⟩, wakeReader reader cx h)
      | (.error err, h) => .done (err.outcome.map .ready) ({ self with stream := .empty }, h)
    | (.error err, h) => .done (.returned (.ready (.error (.os err)))) (self, h)
  | _ => .done (.panicked .unreachable) (self, h)

/-- The closure that `FastOpenConnecting` gives to `try_io`. -/
def fetchResult (overlapped : Overlapped) (s : TokioTcpStream) (h : Trace) :
    Outcome (Result ℕ) × Unit × Trace :=
  match getOverlappedResult env s.fd overlapped h with
  | (.ok bytesSent, h) =>
    match setUpdateConnectContext env s.fd h with
    | (.error err, h) => (.returned (.error (.os err)), (), h)
    | (.ok (), h) =>
      if debugAssertFails env bytesSent buf then (.panicked .debugAssert, (), h)
      else (.returned (.ok bytesSent), (), h)
  | (.error .WSA_IO_INCOMPLETE, h) => (.returned (.error (.simple .wouldBlock)), (), h)
  | (.error err, h) => (.returned (.error (.os err)), (), h)

/-- `FastOpenConnecting`: fetch the result of the pending `ConnectEx`.  An error that `SO_ERROR`
holds is dropped, only a failure of the query is returned. -/
def fastOpenConnecting (overlapped : Overlapped) (s : TokioTcpStream) (h : Trace) :
    Branch TcpStreamState :=
  match s.pollWriteReady env cx h with
  | (.pending, h) => .done (.returned .pending) ((.fastOpenConnecting overlapped, s), h)
  | (.ready (.error err), h) =>
    .done (.returned (.ready (.error err))) ((.fastOpenConnecting overlapped, s), h)
  | (.ready (.ok ()), h) =>
    match s.tryIo () (fetchResult env buf overlapped s) h with
    | (.returned (.ok n), _, s, h) =>
      match socketTakeError env s.fd h with
      | (.error err, h) =>
        .done (.returned (.ready (.error err))) ((.fastOpenConnecting overlapped, s), h)
      | (.ok _, h) => .done (.returned (.ready (.ok n))) ((.connected, s), h)
    | (.returned (.error err), _, s, h) =>
      if err.kind = .wouldBlock then .again ((.fastOpenConnecting overlapped, s), h)
      else .done (.returned (.ready (.error err))) ((.fastOpenConnecting overlapped, s), h)
    | (.panicked p, _, s, h) => .done (.panicked p) ((.fastOpenConnecting overlapped, s), h)

/-- One iteration of `poll_write`. -/
def pollWriteBody (x : TcpStream × Trace) :
    Loop.Step (TcpStream × Trace) (Outcome (Poll (Result ℕ))) :=
  match x.1.state with
  | .connected => x.1.withConnected x.2 (delegate env cx buf .connected)
  | .fastOpenConnect => fastOpenConnect env cx buf x.1 x.2
  | .fastOpenConnecting overlapped =>
    x.1.withConnected x.2 (fastOpenConnecting env cx buf overlapped)

end

end TcpStream

instance : SysTcpStream TcpStream where
  setWritable := LazyTcpStream.setWritable
  pollRead := LazyTcpStream.pollRead
  pollWriteBody := TcpStream.pollWriteBody
  pollFlush := LazyTcpStream.pollFlush
  pollShutdown := LazyTcpStream.pollShutdown
  peerAddr := LazyTcpStream.peerAddr
  asRawFd := LazyTcpStream.asRawFd
  socketApi := LazyTcpStream.callSocketApi

end TokioTfo.Windows
