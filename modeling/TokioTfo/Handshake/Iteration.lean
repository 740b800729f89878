/-
  What one iteration of the handshake machine can do.

  `Iter env cx buf x y` has one rule for each way through the loop body, with the
  events it records and the answers it depends on; `body_iter` says that the body
  takes one of them.  Everything proved about the machine is proved from these
  rules.
-/
import TokioTfo.Sys.Calls

namespace TokioTfo

namespace Handshake
variable {p : Profile}

/-- The rules of one iteration. -/
inductive Iter (env : Env) (cx : Waker) (buf : Bytes) : Handshake p × Trace →
    Loop.Step (Handshake p × Trace) (Outcome (Poll (Result ℕ))) → Prop
  /-- `established`, and `connected` where it does not settle: an ordinary write. -/
  | write {ph : Phase p} {s s' : TokioTcpStream} {h : Trace} {r : Poll (Result ℕ)} :
      ph = .established ∨ ph = .connected ∧ p.settles = false → s.Wrote env buf r s' →
      Iter env cx buf (⟨ph, .connected s⟩, h)
        (.done (.returned r) (⟨ph, .connected s'⟩, .pollWrite cx s.fd buf r :: h))
  /-- `connected`, where it settles. -/
  | settle {s : TokioTcpStream} {h : Trace} {n : ℕ} : p.settles = true → n ≤ buf.length →
      Iter env cx buf (⟨.connected, .connected s⟩, h)
        (.done (.returned (.ready (.ok n)))
          (⟨.established, .connected s⟩, .pollWrite cx s.fd buf (.ready (.ok n)) :: h))
  | blocked {s s' : TokioTcpStream} {h : Trace} : p.settles = true → s'.fd = s.fd →
      Iter env cx buf (⟨.connected, .connected s⟩, h)
        (.done (.returned .pending)
          (⟨.connected, .connected s'⟩, .pollWrite cx s.fd buf .pending :: h))
  | failed {s : TokioTcpStream} {h : Trace} {e : Error} : p.settles = true → p.retry e = false →
      Iter env cx buf (⟨.connected, .connected s⟩, h)
        (.done (.returned (.ready (.error e)))
          (⟨.connected, .connected s⟩, .pollWrite cx s.fd buf (.ready (.error e)) :: h))
  | retry {s : TokioTcpStream} {h : Trace} {e : Error} : p.settles = true → p.retry e = true →
      Iter env cx buf (⟨.connected, .connected s⟩, h)
        (.again (⟨.fastOpenConnecting, .connected s⟩,
          .pollWrite cx s.fd buf (.ready (.error e)) :: h))
  /-- `fastOpenConnecting` and `fastOpenWrite` wait for the socket to be writable. -/
  | wait {ph : Phase p} {s : TokioTcpStream} {h : Trace} :
      ph = .fastOpenConnecting ∨ ph = .fastOpenWrite →
      Iter env cx buf (⟨ph, .connected s⟩, h)
        (.done (.returned .pending)
          (⟨ph, .connected s⟩, .pollWriteReady cx s.fd .pending :: h))
  | waitError {ph : Phase p} {s : TokioTcpStream} {h : Trace} {e : Error} :
      ph = .fastOpenConnecting ∨ ph = .fastOpenWrite →
      Iter env cx buf (⟨ph, .connected s⟩, h)
        (.done (.returned (.ready (.error e)))
          (⟨ph, .connected s⟩, .pollWriteReady cx s.fd (.ready (.error e)) :: h))
  /-- `fastOpenConnecting`: `SO_ERROR`. -/
  | soError {s : TokioTcpStream} {h : Trace} {r : Result (Option Error)} {e : Error} :
      s.writable = true → SoReports r e →
      env.takeError (.handle (.fromRawFd s.fd) :: .pollWriteReady cx s.fd (.ready (.ok ())) :: h)
        s.fd = r →
      Iter env cx buf (⟨.fastOpenConnecting, .connected s⟩, h)
        (.done (.returned (.ready (.error e)))
          (⟨.fastOpenConnecting, .connected s⟩,
            queried s.fd r (.pollWriteReady cx s.fd (.ready (.ok ())) :: h)))
  | soNone {s : TokioTcpStream} {h : Trace} :
      s.writable = true →
      env.takeError (.handle (.fromRawFd s.fd) :: .pollWriteReady cx s.fd (.ready (.ok ())) :: h)
        s.fd = .ok none →
      Iter env cx buf (⟨.fastOpenConnecting, .connected s⟩, h)
        (.again (⟨.connected, .connected s⟩,
          queried s.fd (.ok none) (.pollWriteReady cx s.fd (.ready (.ok ())) :: h)))
  /-- `fastOpenWrite`: the first `send`. -/
  | sendCount {s : TokioTcpStream} {h : Trace} {n : ℕ} : s.writable = true → n ≤ buf.length →
      Iter env cx buf (⟨.fastOpenWrite, .connected s⟩, h)
        (.done (.returned (.ready (.ok n)))
          (⟨.connected, .connected s⟩,
            .send s.fd buf (.ok n) :: .pollWriteReady cx s.fd (.ready (.ok ())) :: h))
  | sendProgress {s : TokioTcpStream} {h : Trace} : s.writable = true →
      Iter env cx buf (⟨.fastOpenWrite, .connected s⟩, h)
        (.again (⟨.fastOpenConnecting, .connected { s with writable := false }⟩,
          .send s.fd buf (.error .EINPROGRESS) ::
            .pollWriteReady cx s.fd (.ready (.ok ())) :: h))
  | sendBlocked {s : TokioTcpStream} {h : Trace} {e : Errno} : s.writable = true →
      e ≠ .EINPROGRESS → (Error.os e).kind = .wouldBlock →
      Iter env cx buf (⟨.fastOpenWrite, .connected s⟩, h)
        (.again (⟨.fastOpenWrite, .connected { s with writable := false }⟩,
          .send s.fd buf (.error e) :: .pollWriteReady cx s.fd (.ready (.ok ())) :: h))
  | sendError {s : TokioTcpStream} {h : Trace} {e : Errno} : s.writable = true →
      e ≠ .EINPROGRESS → (Error.os e).kind ≠ .wouldBlock →
      Iter env cx buf (⟨.fastOpenWrite, .connected s⟩, h)
        (.done (.returned (.ready (.error (.os e))))
          (⟨.fastOpenWrite, .connected s⟩,
            .send s.fd buf (.error e) :: .pollWriteReady cx s.fd (.ready (.ok ())) :: h))
  /-- `fastOpenConnect`: `sendto`, and the hand-over. -/
  | openCount {socket : TcpSocket} {addr : SocketAddr} {reader : Option Waker} {h : Trace} {n : ℕ} :
      n ≤ buf.length →
      Iter env cx buf (⟨.fastOpenConnect, .connecting socket addr reader⟩, h)
        (.done (.returned (.ready (.ok n)))
          (⟨.connected, .connected ⟨socket.fd, false⟩⟩, wakeReader reader cx
            (registered socket.fd (.sendto socket.fd buf p.flags addr (.ok n) :: h))))
  | openCountLost {socket : TcpSocket} {addr : SocketAddr} {reader : Option Waker} {h : Trace}
      {n : ℕ} {e : Unregistered} : n ≤ buf.length →
      Iter env cx buf (⟨.fastOpenConnect, .connecting socket addr reader⟩, h)
        (.done (e.outcome.map .ready)
          (⟨.fastOpenConnect, .empty⟩,
            notRegistered socket.fd e (.sendto socket.fd buf p.flags addr (.ok n) :: h)))
  | openProgress {socket : TcpSocket} {addr : SocketAddr} {reader : Option Waker} {h : Trace} :
      Iter env cx buf (⟨.fastOpenConnect, .connecting socket addr reader⟩, h)
        (.again (⟨.fastOpenConnecting, .connected ⟨socket.fd, false⟩⟩, wakeReader reader cx
          (registered socket.fd (.sendto socket.fd buf p.flags addr (.error .EINPROGRESS) :: h))))
  | openProgressLost {socket : TcpSocket} {addr : SocketAddr} {reader : Option Waker} {h : Trace}
      {e : Unregistered} :
      Iter env cx buf (⟨.fastOpenConnect, .connecting socket addr reader⟩, h)
        (.done (e.outcome.map .ready)
          (⟨.fastOpenConnect, .empty⟩,
            notRegistered socket.fd e
              (.sendto socket.fd buf p.flags addr (.error .EINPROGRESS) :: h)))
  | openError {socket : TcpSocket} {addr : SocketAddr} {reader : Option Waker} {h : Trace}
      {e : Errno} : e ≠ .EINPROGRESS →
      Iter env cx buf (⟨.fastOpenConnect, .connecting socket addr reader⟩, h)
        (.done (.returned (.ready (.error (.os e))))
          (⟨.fastOpenConnect, .connecting socket addr reader⟩,
            .sendto socket.fd buf p.flags addr (.error e) :: h))
  /-- The state and the stream option do not fit together. -/
  | unreachable {x : Handshake p} {h : Trace} :
      (x.state = .fastOpenConnect ∧
        ∀ socket addr reader, x.stream ≠ .connecting socket addr reader) ∨
        (x.state ≠ .fastOpenConnect ∧ ∀ s, x.stream ≠ .connected s) →
      Iter env cx buf (x, h) (.done (.panicked .unreachable) (x, h))

section
variable (env : Env) (cx : Waker) (buf : Bytes)

theorem Iter.of_delegate {ph : Phase p}
    (hph : ph = .established ∨ ph = .connected ∧ p.settles = false) (s : TokioTcpStream)
    (h : Trace) :
    Iter env cx buf (⟨ph, .connected s⟩, h)
      ((LazyTcpStream.mk ph (.connected s)).withConnected h (delegate env cx buf ph)) := by
  obtain ⟨r, s', hr, hw⟩ := s.pollWrite_spec env cx buf h
  simp only [LazyTcpStream.withConnected, delegate, hr, Loop.Step.map_done]
  exact .write hph hw

theorem Iter.of_firstWrite (hp : p.settles = true) (s : TokioTcpStream) (h : Trace) :
    Iter env cx buf (⟨.connected, .connected s⟩, h)
      ((LazyTcpStream.mk (.connected : Phase p) (.connected s)).withConnected h
        (firstWrite env cx buf p.retry .established .connected .fastOpenConnecting)) := by
  obtain ⟨r, s', hr, hw⟩ := s.pollWrite_spec env cx buf h
  simp only [LazyTcpStream.withConnected, firstWrite, hr]
  rcases r with (e | n) | _
  · obtain rfl := hw.kept (by simp)
    cases he : p.retry e
    · simp only [he, Bool.false_eq_true, if_false]
      exact .failed hp he
    · simp only [he, if_true]
      exact .retry hp he
  · obtain rfl := hw.kept (by simp)
    exact .settle hp (hw.le rfl)
  · exact .blocked hp hw.fd

theorem Iter.of_awaitConnect (s : TokioTcpStream) (h : Trace) :
    Iter env cx buf (⟨.fastOpenConnecting, .connected s⟩, h)
      ((LazyTcpStream.mk (.fastOpenConnecting : Phase p) (.connected s)).withConnected h
        (awaitConnect env cx .fastOpenConnecting .connected)) := by
  simp only [LazyTcpStream.withConnected, awaitConnect]
  rcases s.pollWriteReady_cases env cx h with hr | ⟨e, hr⟩ | ⟨hw, hr⟩
  · rw [hr]; exact .wait (.inl rfl)
  · rw [hr]; exact .waitError (.inl rfl)
  · rw [hr]
    simp only [socketTakeError]
    rcases hq : env.takeError (.handle (.fromRawFd s.fd) ::
        .pollWriteReady cx s.fd (.ready (.ok ())) :: h) s.fd with e | _ | e
    · exact .soError hw (.inr rfl) hq
    · exact .soNone hw hq
    · exact .soError hw (.inl rfl) hq

theorem Iter.of_fastOpenWrite (s : TokioTcpStream) (h : Trace) :
    Iter env cx buf (⟨.fastOpenWrite, .connected s⟩, h)
      ((LazyTcpStream.mk (.fastOpenWrite : Phase p) (.connected s)).withConnected h
        (fastOpenWrite env cx buf .fastOpenWrite .fastOpenConnecting .connected)) := by
  simp only [LazyTcpStream.withConnected, fastOpenWrite]
  rcases s.pollWriteReady_cases env cx h with hr | ⟨e, hr⟩ | ⟨hw, hr⟩
  · rw [hr]; exact .wait (.inr rfl)
  · rw [hr]; exact .waitError (.inr rfl)
  · rw [hr]
    simp only [TokioTcpStream.tryIo, hw, if_true, sendFirst, send]
    rcases env.send (.pollWriteReady cx s.fd (.ready (.ok ())) :: h) s.fd buf with e | n
    · by_cases he : e = .EINPROGRESS
      · subst he; exact .sendProgress hw
      · by_cases hk : (Error.os e).kind = .wouldBlock
        · simp only [Except.map, hk, if_true]
          exact .sendBlocked hw he hk
        · simp only [Except.map, hk, if_false]
          exact .sendError hw he hk
    · exact .sendCount hw (Nat.le_of_lt_succ n.2)

theorem Iter.of_fastOpenConnect (socket : TcpSocket) (addr : SocketAddr) (reader : Option Waker)
    (h : Trace) :
    Iter (p := p) env cx buf (⟨.fastOpenConnect, .connecting socket addr reader⟩, h)
      (fastOpenConnect env cx buf p.flags .fastOpenConnecting .connected
        ⟨.fastOpenConnect, .connecting socket addr reader⟩ h) := by
  simp only [fastOpenConnect, sendto]
  rcases env.sendto h socket.fd buf p.flags addr with e | n
  · by_cases he : e = .EINPROGRESS
    · subst he
      simp only [Except.map]
      rcases registerSocket_cases env socket
          (.sendto socket.fd buf p.flags addr (.error .EINPROGRESS) :: h) with hr | ⟨e, -, hr⟩
      · rw [hr]; exact .openProgress
      · rw [hr]; exact .openProgressLost
    · simp only [Except.map]
      exact .openError he
  · simp only [Except.map]
    rcases registerSocket_cases env socket
        (.sendto socket.fd buf p.flags addr (.ok n.val) :: h) with hr | ⟨e, -, hr⟩
    · rw [hr]; exact .openCount (Nat.le_of_lt_succ n.2)
    · rw [hr]; exact .openCountLost (Nat.le_of_lt_succ n.2)

/-- **Every iteration follows one of the rules.** -/
theorem body_iter (x : Handshake p × Trace) : Iter env cx buf x (pollWriteBody env cx buf x) := by
  obtain ⟨⟨ph, o⟩, h⟩ := x
  cases o with
  | connected s =>
    cases ph with
    | fastOpenConnect => exact .unreachable (.inl ⟨rfl, by simp⟩)
    | fastOpenWrite => exact Iter.of_fastOpenWrite env cx buf s h
    | fastOpenConnecting => exact Iter.of_awaitConnect env cx buf s h
    | connected =>
      cases hp : p.settles
      · simp only [pollWriteBody, hp, Bool.false_eq_true, if_false]
        exact Iter.of_delegate env cx buf (.inr ⟨rfl, hp⟩) s h
      · simp only [pollWriteBody, hp, if_true]
        exact Iter.of_firstWrite env cx buf hp s h
    | established => exact Iter.of_delegate env cx buf (.inl rfl) s h
  | connecting socket addr reader =>
    cases ph with
    | fastOpenConnect => exact Iter.of_fastOpenConnect env cx buf socket addr reader h
    | connected =>
      simp only [pollWriteBody, LazyTcpStream.withConnected, ite_self]
      exact .unreachable (.inr ⟨by simp, by simp⟩)
    | _ => exact .unreachable (.inr ⟨by simp, by simp⟩)
  | empty =>
    cases ph with
    | fastOpenConnect => exact .unreachable (.inl ⟨rfl, by simp⟩)
    | connected =>
      simp only [pollWriteBody, LazyTcpStream.withConnected, ite_self]
      exact .unreachable (.inr ⟨by simp, by simp⟩)
    | _ => exact .unreachable (.inr ⟨by simp, by simp⟩)

variable {env cx buf}

/-- What the loop body has computed follows one of the rules. -/
theorem Iter.of_body {x : Handshake p × Trace}
    {y : Loop.Step (Handshake p × Trace) (Outcome (Poll (Result ℕ)))}
    (hb : SysTcpStream.pollWriteBody env cx buf x = y) : Iter env cx buf x y := by
  subst hb
  exact body_iter env cx buf x

end

end Handshake

end TokioTfo
