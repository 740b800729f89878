/-
  What one iteration of `poll_write` can do on Windows: one rule for each way
  through the loop body (`Iter`, `body_iter`).

  `ConnectEx` never reports more bytes than it was given, so the assertion after it
  does not fail; the one after `WSAGetOverlappedResult` compares with the buffer of
  a later call, and can.
-/
import TokioTfo.Sys.Calls

namespace TokioTfo.Windows

theorem length_submitted_le (buf : Bytes) : (submitted buf).length ≤ buf.length := by
  rw [submitted, List.length_take]
  exact Nat.min_le_right _ _

/-- The rules of one iteration. -/
inductive Iter (env : Env) (cx : Waker) (buf : Bytes) : TcpStream × Trace →
    Loop.Step (TcpStream × Trace) (Outcome (Poll (Result ℕ))) → Prop
  | write {s s' : TokioTcpStream} {h : Trace} {r : Poll (Result ℕ)} : s.Wrote env buf r s' →
      Iter env cx buf (⟨.connected, .connected s⟩, h)
        (.done (.returned r) (⟨.connected, .connected s'⟩, .pollWrite cx s.fd buf r :: h))
  /-- `fastOpenConnect`: `ConnectEx`, and the hand-over. -/
  | noConnectEx {o : TcpStreamOption} {h : Trace} : env.hasConnectEx = false →
      Iter env cx buf (⟨.fastOpenConnect, o⟩, h)
        (.done (.panicked .expect) (⟨.fastOpenConnect, o⟩, h))
  | openError {socket : TcpSocket} {addr : SocketAddr} {reader : Option Waker} {h : Trace}
      {e : Errno} : e ≠ .WSA_IO_PENDING →
      Iter env cx buf (⟨.fastOpenConnect, .connecting socket addr reader⟩, h)
        (.done (.returned (.ready (.error (.os e))))
          (⟨.fastOpenConnect, .connecting socket addr reader⟩,
            .connectEx socket.fd (submitted buf) h.length (.error e) :: h))
  | openCount {socket : TcpSocket} {addr : SocketAddr} {reader : Option Waker} {h : Trace}
      {n : Count (submitted buf).length} :
      env.connectEx h socket.fd addr (submitted buf) h.length = .ok n →
      Iter env cx buf (⟨.fastOpenConnect, .connecting socket addr reader⟩, h)
        (.done (.returned (.ready (.ok n)))
          (⟨.connected, .connected ⟨socket.fd, false⟩⟩, wakeReader reader cx
            (registered socket.fd (.setUpdateConnectContext socket.fd (.ok ()) ::
              .connectEx socket.fd (submitted buf) h.length (.ok n) :: h))))
  | openContextLost {socket : TcpSocket} {addr : SocketAddr} {reader : Option Waker} {h : Trace}
      {n : Count (submitted buf).length} {e : Errno} :
      Iter env cx buf (⟨.fastOpenConnect, .connecting socket addr reader⟩, h)
        (.done (.returned (.ready (.error (.os e))))
          (⟨.fastOpenConnect, .empty⟩, .handle (.drop socket.fd) ::
            .setUpdateConnectContext socket.fd (.error e) ::
            .connectEx socket.fd (submitted buf) h.length (.ok n) :: h))
  | openCountLost {socket : TcpSocket} {addr : SocketAddr} {reader : Option Waker} {h : Trace}
      {n : Count (submitted buf).length} {e : Unregistered} :
      (∃ h', env.fromStd h' socket.fd = .error e) →
      Iter env cx buf (⟨.fastOpenConnect, .connecting socket addr reader⟩, h)
        (.done (e.outcome.map .ready)
          (⟨.fastOpenConnect, .empty⟩, notRegistered socket.fd e
            (.setUpdateConnectContext socket.fd (.ok ()) ::
              .connectEx socket.fd (submitted buf) h.length (.ok n) :: h)))
  | openPending {socket : TcpSocket} {addr : SocketAddr} {reader : Option Waker} {h : Trace} :
      Iter env cx buf (⟨.fastOpenConnect, .connecting socket addr reader⟩, h)
        (.again (⟨.fastOpenConnecting h.length, .connected ⟨socket.fd, false⟩⟩,
          wakeReader reader cx (registered socket.fd
            (.connectEx socket.fd (submitted buf) h.length (.error .WSA_IO_PENDING) :: h))))
  | openPendingLost {socket : TcpSocket} {addr : SocketAddr} {reader : Option Waker} {h : Trace}
      {e : Unregistered} : (∃ h', env.fromStd h' socket.fd = .error e) →
      Iter env cx buf (⟨.fastOpenConnect, .connecting socket addr reader⟩, h)
        (.done (e.outcome.map .ready)
          (⟨.fastOpenConnect, .empty⟩, notRegistered socket.fd e
            (.connectEx socket.fd (submitted buf) h.length (.error .WSA_IO_PENDING) :: h)))
  /-- `fastOpenConnecting`: wait for the socket to be writable. -/
  | wait {ov : Overlapped} {s : TokioTcpStream} {h : Trace} :
      Iter env cx buf (⟨.fastOpenConnecting ov, .connected s⟩, h)
        (.done (.returned .pending)
          (⟨.fastOpenConnecting ov, .connected s⟩, .pollWriteReady cx s.fd .pending :: h))
  | waitError {ov : Overlapped} {s : TokioTcpStream} {h : Trace} {e : Error} :
      Iter env cx buf (⟨.fastOpenConnecting ov, .connected s⟩, h)
        (.done (.returned (.ready (.error e)))
          (⟨.fastOpenConnecting ov, .connected s⟩,
            .pollWriteReady cx s.fd (.ready (.error e)) :: h))
  /-- `WSAGetOverlappedResult` has no result: `WSA_IO_INCOMPLETE`, or another would-block. -/
  | incomplete {ov : Overlapped} {s : TokioTcpStream} {h : Trace} {e : Errno} :
      s.writable = true → e = .WSA_IO_INCOMPLETE ∨ (Error.os e).kind = .wouldBlock →
      env.getOverlappedResult (.pollWriteReady cx s.fd (.ready (.ok ())) :: h) s.fd ov = .error e →
      Iter env cx buf (⟨.fastOpenConnecting ov, .connected s⟩, h)
        (.again (⟨.fastOpenConnecting ov, .connected { s with writable := false }⟩,
          .getOverlappedResult s.fd ov (.error e) ::
            .pollWriteReady cx s.fd (.ready (.ok ())) :: h))
  | resultError {ov : Overlapped} {s : TokioTcpStream} {h : Trace} {e : Errno} :
      s.writable = true → e ≠ .WSA_IO_INCOMPLETE → (Error.os e).kind ≠ .wouldBlock →
      env.getOverlappedResult (.pollWriteReady cx s.fd (.ready (.ok ())) :: h) s.fd ov = .error e →
      Iter env cx buf (⟨.fastOpenConnecting ov, .connected s⟩, h)
        (.done (.returned (.ready (.error (.os e))))
          (⟨.fastOpenConnecting ov, .connected s⟩, .getOverlappedResult s.fd ov (.error e) ::
            .pollWriteReady cx s.fd (.ready (.ok ())) :: h))
  /-- `ConnectEx` has sent `n` bytes, and the context update fails. -/
  | contextBlocked {ov : Overlapped} {s : TokioTcpStream} {h : Trace} {n : ℕ} {e : Errno} :
      s.writable = true → (Error.os e).kind = .wouldBlock →
      env.getOverlappedResult (.pollWriteReady cx s.fd (.ready (.ok ())) :: h) s.fd ov = .ok n →
      Iter env cx buf (⟨.fastOpenConnecting ov, .connected s⟩, h)
        (.again (⟨.fastOpenConnecting ov, .connected { s with writable := false }⟩,
          .setUpdateConnectContext s.fd (.error e) :: .getOverlappedResult s.fd ov (.ok n) ::
            .pollWriteReady cx s.fd (.ready (.ok ())) :: h))
  | contextError {ov : Overlapped} {s : TokioTcpStream} {h : Trace} {n : ℕ} {e : Errno} :
      s.writable = true → (Error.os e).kind ≠ .wouldBlock →
      env.getOverlappedResult (.pollWriteReady cx s.fd (.ready (.ok ())) :: h) s.fd ov = .ok n →
      Iter env cx buf (⟨.fastOpenConnecting ov, .connected s⟩, h)
        (.done (.returned (.ready (.error (.os e))))
          (⟨.fastOpenConnecting ov, .connected s⟩,
            .setUpdateConnectContext s.fd (.error e) :: .getOverlappedResult s.fd ov (.ok n) ::
              .pollWriteReady cx s.fd (.ready (.ok ())) :: h))
  /-- The context is updated. -/
  | assertFails {ov : Overlapped} {s : TokioTcpStream} {h : Trace} {n : ℕ} :
      s.writable = true → buf.length < n →
      env.getOverlappedResult (.pollWriteReady cx s.fd (.ready (.ok ())) :: h) s.fd ov = .ok n →
      Iter env cx buf (⟨.fastOpenConnecting ov, .connected s⟩, h)
        (.done (.panicked .debugAssert)
          (⟨.fastOpenConnecting ov, .connected s⟩,
            .setUpdateConnectContext s.fd (.ok ()) :: .getOverlappedResult s.fd ov (.ok n) ::
              .pollWriteReady cx s.fd (.ready (.ok ())) :: h))
  | soError {ov : Overlapped} {s : TokioTcpStream} {h : Trace} {n : ℕ} {e : Error} :
      s.writable = true →
      env.getOverlappedResult (.pollWriteReady cx s.fd (.ready (.ok ())) :: h) s.fd ov = .ok n →
      Iter env cx buf (⟨.fastOpenConnecting ov, .connected s⟩, h)
        (.done (.returned (.ready (.error e)))
          (⟨.fastOpenConnecting ov, .connected s⟩, queried s.fd (.error e)
            (.setUpdateConnectContext s.fd (.ok ()) :: .getOverlappedResult s.fd ov (.ok n) ::
              .pollWriteReady cx s.fd (.ready (.ok ())) :: h)))
  | complete {ov : Overlapped} {s : TokioTcpStream} {h : Trace} {n : ℕ} {o : Option Error} :
      s.writable = true →
      env.getOverlappedResult (.pollWriteReady cx s.fd (.ready (.ok ())) :: h) s.fd ov = .ok n →
      Iter env cx buf (⟨.fastOpenConnecting ov, .connected s⟩, h)
        (.done (.returned (.ready (.ok n)))
          (⟨.connected, .connected s⟩, queried s.fd (.ok o)
            (.setUpdateConnectContext s.fd (.ok ()) :: .getOverlappedResult s.fd ov (.ok n) ::
              .pollWriteReady cx s.fd (.ready (.ok ())) :: h)))
  /-- The state and the stream option do not fit together. -/
  | unreachable {x : TcpStream} {h : Trace} :
      (x.state = .fastOpenConnect ∧
        ∀ socket addr reader, x.stream ≠ .connecting socket addr reader) ∨
        (x.state ≠ .fastOpenConnect ∧ ∀ s, x.stream ≠ .connected s) →
      Iter env cx buf (x, h) (.done (.panicked .unreachable) (x, h))

section
variable (env : Env) (cx : Waker) (buf : Bytes)

theorem Iter.of_fastOpenConnect (socket : TcpSocket) (addr : SocketAddr) (reader : Option Waker)
    (h : Trace) (hx : env.hasConnectEx = true) :
    Iter env cx buf (⟨.fastOpenConnect, .connecting socket addr reader⟩, h)
      (TcpStream.fastOpenConnect env cx buf
        ⟨.fastOpenConnect, .connecting socket addr reader⟩ h) := by
  simp only [TcpStream.fastOpenConnect, hx, Bool.not_true, Bool.false_eq_true, if_false, connectEx]
  rcases hr : env.connectEx h socket.fd addr (submitted buf) h.length with e | n
  · by_cases he : e = .WSA_IO_PENDING
    · subst he
      simp only [Except.map]
      rcases registerSocket_cases env socket
          (.connectEx socket.fd (submitted buf) h.length (.error .WSA_IO_PENDING) :: h) with
        hr | ⟨e, he, hr⟩
      · rw [hr]; exact .openPending
      · rw [hr]; exact .openPendingLost he
    · simp only [Except.map]
      exact .openError he
  · have hn : n.val ≤ buf.length :=
      Nat.le_trans (Nat.le_of_lt_succ n.2) (length_submitted_le buf)
    simp only [Except.map, debugAssertFails, hn, decide_true, Bool.not_true, Bool.and_false,
      Bool.false_eq_true, if_false, setUpdateConnectContext]
    rcases hu : env.setUpdateConnectContext
        (.connectEx socket.fd (submitted buf) h.length (.ok n.val) :: h) socket.fd with e | -
    · exact .openContextLost
    · simp only
      rcases registerSocket_cases env socket (.setUpdateConnectContext socket.fd (.ok ()) ::
          .connectEx socket.fd (submitted buf) h.length (.ok n.val) :: h) with hr' | ⟨e, he, hr'⟩
      · rw [hr']; exact .openCount hr
      · rw [hr']; exact .openCountLost he

theorem Iter.of_fastOpenConnecting (ov : Overlapped) (s : TokioTcpStream) (h : Trace) :
    Iter env cx buf (⟨.fastOpenConnecting ov, .connected s⟩, h)
      ((LazyTcpStream.mk (TcpStreamState.fastOpenConnecting ov) (.connected s)).withConnected h
        (TcpStream.fastOpenConnecting env cx buf ov)) := by
  simp only [LazyTcpStream.withConnected, TcpStream.fastOpenConnecting]
  rcases s.pollWriteReady_cases env cx h with hr | ⟨e, hr⟩ | ⟨hw, hr⟩
  · rw [hr]; exact .wait
  · rw [hr]; exact .waitError
  · rw [hr]
    simp only [TokioTcpStream.tryIo, hw, if_true, TcpStream.fetchResult, getOverlappedResult]
    rcases hg : env.getOverlappedResult (.pollWriteReady cx s.fd (.ready (.ok ())) :: h) s.fd ov
      with e | n
    · by_cases he : e = .WSA_IO_INCOMPLETE
      · subst he; exact .incomplete hw (.inl rfl) hg
      · by_cases hk : (Error.os e).kind = .wouldBlock
        · simp only [hk, if_true]
          exact .incomplete hw (.inr hk) hg
        · simp only [hk, if_false]
          exact .resultError hw he hk hg
    · simp only [setUpdateConnectContext]
      rcases env.setUpdateConnectContext (.getOverlappedResult s.fd ov (.ok n) ::
          .pollWriteReady cx s.fd (.ready (.ok ())) :: h) s.fd with e | -
      · by_cases hk : (Error.os e).kind = .wouldBlock
        · simp only [hk, if_true]
          exact .contextBlocked hw hk hg
        · simp only [hk, if_false]
          exact .contextError hw hk hg
      · by_cases ha : debugAssertFails env n buf = true
        · simp only [ha, if_true]
          have hn : buf.length < n := by
            simp only [debugAssertFails, Bool.and_eq_true, Bool.not_eq_true',
              decide_eq_false_iff_not]
              at ha
            omega
          exact .assertFails hw hn hg
        · simp only [ha, Bool.false_eq_true, if_false, socketTakeError]
          rcases env.takeError (.handle (.fromRawFd s.fd) ::
              .setUpdateConnectContext s.fd (.ok ()) :: .getOverlappedResult s.fd ov (.ok n) ::
              .pollWriteReady cx s.fd (.ready (.ok ())) :: h) s.fd with e | o
          · exact .soError hw hg
          · exact .complete hw hg

/-- **Every iteration follows one of the rules.** -/
theorem body_iter (x : TcpStream × Trace) :
    Iter env cx buf x (TcpStream.pollWriteBody env cx buf x) := by
  obtain ⟨⟨st, o⟩, h⟩ := x
  cases st with
  | connected =>
    cases o with
    | connected s =>
      obtain ⟨r, s', hr, hw⟩ := s.pollWrite_spec env cx buf h
      simp only [TcpStream.pollWriteBody, LazyTcpStream.withConnected, delegate, hr,
        Loop.Step.map_done]
      exact .write hw
    | connecting | empty => exact .unreachable (.inr ⟨by simp, by simp⟩)
  | fastOpenConnect =>
    cases hx : env.hasConnectEx with
    | false =>
      simp only [TcpStream.pollWriteBody, TcpStream.fastOpenConnect, hx, Bool.not_false, if_true]
      exact .noConnectEx hx
    | true =>
      cases o with
      | connecting socket addr reader =>
        exact Iter.of_fastOpenConnect env cx buf socket addr reader h hx
      | connected | empty =>
        simp only [TcpStream.pollWriteBody, TcpStream.fastOpenConnect, hx, Bool.not_true,
          Bool.false_eq_true, if_false]
        exact .unreachable (.inl ⟨rfl, by simp⟩)
  | fastOpenConnecting ov =>
    cases o with
    | connected s => exact Iter.of_fastOpenConnecting env cx buf ov s h
    | connecting | empty => exact .unreachable (.inr ⟨by simp, by simp⟩)

variable {env cx buf}

/-- What the loop body has computed follows one of the rules. -/
theorem Iter.of_body {x : TcpStream × Trace}
    {y : Loop.Step (TcpStream × Trace) (Outcome (Poll (Result ℕ)))}
    (hb : SysTcpStream.pollWriteBody env cx buf x = y) : Iter env cx buf x y := by
  subst hb
  exact body_iter env cx buf x

end

end TokioTfo.Windows
