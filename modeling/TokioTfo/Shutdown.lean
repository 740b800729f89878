/-
  Writes after a `poll_shutdown` that has returned `Ok`.

  A connected stream passes `poll_shutdown` on to tokio, and then the kernel refuses
  every write; a stream that is still connecting returns `Ok` and does nothing, so that
  a later write opens the connection.  `closed_iff_refused`: after a shutdown no write
  opens the connection, queues a byte or returns a positive count, iff the kernel
  refuses the opening call of every write polled on a stream that is still connecting,
  and, on Windows, no result of a `ConnectEx` is collected that reports bytes.
-/
import TokioTfo.Answers
import TokioTfo.Wakeups
import TokioTfo.Windows.Accounting

namespace TokioTfo

/-! ## What a write may not do -/

/-- A call of `poll_shutdown` has returned `Ok`. -/
def shutDown : Trace → Bool
  | [] => false
  | .ret (.pollShutdown _) (.returned (.unit (.ready (.ok ())))) :: _ => true
  | _ :: h => shutDown h

/-- An opening call starts a connection: it sends data, or is in progress. -/
def Event.starts : Event → Bool
  | sendto _ _ _ _ (.ok _) | send _ _ (.ok _) | connectEx _ _ _ (.ok _) => true
  | sendto _ _ _ _ (.error e) | send _ _ (.error e) => e == .EINPROGRESS
  | connectEx _ _ _ (.error e) => e == .WSA_IO_PENDING
  | _ => false

/-- The number of the opening calls that start a connection. -/
def started (h : Trace) : ℕ := h.countP Event.starts

/-- The bytes that the kernel has queued at once, oldest first. -/
def queuedAtOnce : Trace → Bytes
  | [] => []
  | .sendto _ buf _ _ (.ok n) :: h | .send _ buf (.ok n) :: h | .connectEx _ buf _ (.ok n) :: h
  | .pollWrite _ _ buf (.ready (.ok n)) :: h => queuedAtOnce h ++ buf.take n
  | _ :: h => queuedAtOnce h

/-- The bytes that a write has reported from the result of a pending `ConnectEx`: after the result
is collected, the write returns it if `SO_ERROR` can be queried. -/
def reportedLate : Trace → ℕ
  | [] => 0
  | .takeError _ (.ok _) :: h => reportedLate h + Windows.collected h
  | _ :: h => reportedLate h

/-- A call that puts nothing into the kernel, and reports nothing. -/
structure Closed {S : Type} (y : Lts.Taken (TfoStream S × Trace) Done) : Prop where
  starts : started y.post.2 = started y.pre.2
  queues : queuedAtOnce y.post.2 = queuedAtOnce y.pre.2
  reports : ∀ n, y.label.outcome = .returned (.write (.ready (.ok n))) → n = 0

/-- Once tokio has shut down a socket, sends on it fail. -/
structure ShutdownCloses (env : Env) : Prop where
  pollWrite : ∀ h fd buf n, .pollShutdown fd (.ready (.ok ())) ∈ h →
    env.pollWrite h fd buf ≠ .ready (.ok n)
  send : ∀ h fd buf, .pollShutdown fd (.ready (.ok ())) ∈ h →
    ∃ e, env.send h fd buf = .error e ∧ e ≠ .EINPROGRESS

@[simp] theorem started_cons (e : Event) (h : Trace) :
    started (e :: h) = started h + if e.starts then 1 else 0 := by
  simp [started, List.countP_cons]

theorem started_idle : IgnoresIdle started := by
  intro e h he
  cases e <;> first | rfl | exact he.elim

theorem queuedAtOnce_idle : IgnoresIdle queuedAtOnce := by
  intro e h he
  cases e <;> first | rfl | exact he.elim

theorem reportedLate_idle : IgnoresIdle reportedLate := by
  intro e h he
  cases e <;> first | rfl | exact he.elim

theorem started_le {h h' : Trace} (hh : Extends h h') : started h ≤ started h' := by
  obtain ⟨es, -, rfl⟩ := hh
  simp [started, List.countP_append]

theorem Extends.mem {h h' : Trace} (hh : Extends h h') {e : Event} (he : e ∈ h) : e ∈ h' := by
  obtain ⟨es, -, rfl⟩ := hh
  exact List.mem_append_right _ he

/-! ## One iteration -/

/-- What the writes of a module do after a shutdown.  `refuses` says of a write that is polled on a
stream that is still connecting, that the kernel refuses its opening call; `late` counts the bytes
reported late. -/
structure Shuts (env : Env) (σ : Type) [SysTcpStream (LazyTcpStream σ)]
    (refuses : LazyTcpStream σ → Bytes → Trace → Prop) (late : Trace → ℕ) : Prop where
  idle : IgnoresIdle late
  event : ∀ h, late (.writeEvent :: h) = late h
  answered : ∀ cx buf (x : LazyTcpStream σ × Trace), Answered env x.2 →
    Answered env (SysTcpStream.pollWriteBody env cx buf x).state.2
  turns : Turns σ env
  refuses_connected : ∀ st s buf h, refuses ⟨st, .connected s⟩ buf h
  /-- Before the hand-over an iteration is refused, or it starts the connection. -/
  unconnected : ∀ cx buf (x : LazyTcpStream σ × Trace) z,
    SysTcpStream.pollWriteBody env cx buf x = z →
    (∀ s, x.1.stream ≠ .connected s) → Answered env z.state.2 →
      (refuses x.1 buf x.2 ∧ ∃ r h', z = .done r (x.1, h') ∧ started h' = started x.2 ∧
        queuedAtOnce h' = queuedAtOnce x.2 ∧ late h' = late x.2 ∧
        ∀ n, r ≠ .returned (.ready (.ok n))) ∨
      (¬refuses x.1 buf x.2 ∧ started x.2 < started z.state.2)
  /-- On a socket that is shut down nothing is sent. -/
  connected : ∀ cx buf (x : LazyTcpStream σ × Trace) z,
    SysTcpStream.pollWriteBody env cx buf x = z →
    ∀ s, x.1.stream = .connected s → .pollShutdown s.fd (.ready (.ok ())) ∈ x.2 →
      Answered env z.state.2 → (∃ s', z.state.1.stream = .connected s' ∧ s'.fd = s.fd) ∧
        started z.state.2 = started x.2 ∧ queuedAtOnce z.state.2 = queuedAtOnce x.2 ∧
        (∀ y, z = .again y → late y.2 = late x.2) ∧
        ∀ r y, z = .done r y →
          ((∀ n, r = .returned (.ready (.ok n)) → n = 0) ↔ late y.2 = late x.2)

/-- A write of a Unix module on a stream that is still connecting is refused by `sendto`. -/
def Handshake.Refuses {p : Profile} (env : Env) (x : Handshake p) (buf : Bytes) (h : Trace) :
    Prop :=
  ∀ socket addr reader, x = ⟨.fastOpenConnect, .connecting socket addr reader⟩ →
    ∃ e, env.sendto h socket.fd buf p.flags addr = .error e ∧ e ≠ .EINPROGRESS

/-- On Windows it is refused by `ConnectEx`, if there is one. -/
def Windows.Refuses (env : Env) (x : TcpStream) (buf : Bytes) (h : Trace) : Prop :=
  ∀ socket addr reader, x = ⟨.fastOpenConnect, .connecting socket addr reader⟩ →
    env.hasConnectEx = false ∨ ∃ e, env.connectEx h socket.fd addr (submitted buf) h.length =
      .error e ∧ e ≠ .WSA_IO_PENDING

theorem Except.map_eq_error {ε α β : Type} {f : α → β} {x : Except ε α} {e : ε}
    (h : x.map f = .error e) : x = .error e := by
  cases x with
  | error e' => cases h; rfl
  | ok a => cases h

theorem Except.of_map_ok {ε α β : Type} {f : α → β} {x : Except ε α} {b : β} (h : x.map f = .ok b)
    (e : ε) : x ≠ .error e := by
  cases x with
  | error e' => cases h
  | ok a => simp

theorem ShutdownCloses.of_poll {env : Env} (hc : ShutdownCloses env) {h : Trace} {fd : Fd}
    {buf : Bytes} (hs : .pollShutdown fd (.ready (.ok ())) ∈ h) (n : ℕ) :
    (env.pollWrite h fd buf).poll ≠ .ready (.ok n) := by
  intro ha
  cases hr : env.pollWrite h fd buf with
  | ready r =>
    rw [hr] at ha
    cases r with
    | error e => cases ha
    | ok m => exact hc.pollWrite h fd buf m hs hr
  | wouldBlock | budget => rw [hr] at ha; cases ha

namespace Handshake
variable {p : Profile} {env : Env} {cx : Waker} {buf : Bytes}

section
variable {socket : TcpSocket} {addr : SocketAddr} {reader : Option Waker} {h : Trace}

/-- A `sendto` that has sent something does not refuse the write, -/
theorem not_refuses_of_count {n : ℕ}
    (ha : (env.sendto h socket.fd buf p.flags addr).map Fin.val = .ok n) :
    ¬Refuses env (⟨.fastOpenConnect, .connecting socket addr reader⟩ : Handshake p) buf h := by
  intro hr
  obtain ⟨e, he, -⟩ := hr _ _ _ rfl
  exact Except.of_map_ok ha e he

/-- and neither does one that is in progress. -/
theorem not_refuses_of_progress
    (ha : (env.sendto h socket.fd buf p.flags addr).map Fin.val = .error .EINPROGRESS) :
    ¬Refuses env (⟨.fastOpenConnect, .connecting socket addr reader⟩ : Handshake p) buf h := by
  intro hr
  obtain ⟨e, he, hne⟩ := hr _ _ _ rfl
  rw [Except.map_eq_error ha] at he
  cases he
  exact hne rfl

end

theorem Iter.unconnected {x : Handshake p × Trace}
    {z : Loop.Step (Handshake p × Trace) (Outcome (Poll (Result ℕ)))} (h : Iter env cx buf x z)
    (hx : ∀ s, x.1.stream ≠ .connected s) (ha : Answered env z.state.2) :
    (Refuses env x.1 buf x.2 ∧ ∃ r h', z = .done r (x.1, h') ∧ started h' = started x.2 ∧
      queuedAtOnce h' = queuedAtOnce x.2 ∧ ∀ n, r ≠ .returned (.ready (.ok n))) ∨
    (¬Refuses env x.1 buf x.2 ∧ started x.2 < started z.state.2) := by
  cases h with
  | openCount =>
    simp only [Loop.Step.state_done, answered_idle.wakeReader, answered_idle.registered] at ha
    exact .inr ⟨not_refuses_of_count ha.1,
      by simp [started_idle.wakeReader, started_idle.registered, Event.starts]⟩
  | openCountLost =>
    exact .inr ⟨not_refuses_of_count ha.2.2.2.2.1, by simp [notRegistered, Event.starts]⟩
  | openProgress =>
    simp only [Loop.Step.state_again, answered_idle.wakeReader, answered_idle.registered] at ha
    exact .inr ⟨not_refuses_of_progress ha.1,
      by simp [started_idle.wakeReader, started_idle.registered, Event.starts]⟩
  | openProgressLost =>
    exact .inr ⟨not_refuses_of_progress ha.2.2.2.2.1, by simp [notRegistered, Event.starts]⟩
  | openError hne =>
    refine .inl ⟨?_, _, _, rfl, by simp [Event.starts, hne], rfl, by simp⟩
    rintro socket addr reader he
    cases he
    exact ⟨_, Except.map_eq_error ha.1, hne⟩
  | unreachable hu =>
    refine .inl ⟨?_, _, _, rfl, rfl, rfl, by simp⟩
    rintro socket addr reader rfl
    rcases hu with ⟨-, hu⟩ | ⟨hu, -⟩
    · exact absurd rfl (hu socket addr reader)
    · exact absurd rfl hu
  | _ => exact absurd rfl (hx _)

theorem Iter.connected (hc : ShutdownCloses env) {x : Handshake p × Trace}
    {z : Loop.Step (Handshake p × Trace) (Outcome (Poll (Result ℕ)))} (hi : Iter env cx buf x z)
    {s : TokioTcpStream} (hx : x.1.stream = .connected s)
    (hs : .pollShutdown s.fd (.ready (.ok ())) ∈ x.2) (ha : Answered env z.state.2) :
    (∃ s', z.state.1.stream = .connected s' ∧ s'.fd = s.fd) ∧
      started z.state.2 = started x.2 ∧ queuedAtOnce z.state.2 = queuedAtOnce x.2 ∧
      ∀ n y, z ≠ .done (.returned (.ready (.ok n))) y := by
  cases hi with
  | @write _ _ _ _ r _ hw =>
    cases hx
    have hr : ∀ n, r ≠ .ready (.ok n) := fun n hr => hc.of_poll hs n (ha.1.trans hr)
    refine ⟨⟨_, rfl, hw.fd⟩, by simp [Event.starts], ?_, ?_⟩
    · rcases r with (e | n) | _
      · rfl
      · exact absurd rfl (hr n)
      · rfl
    · rintro n y he
      cases he
      exact hr n rfl
  | settle =>
    cases hx
    exact absurd ha.1 (hc.of_poll hs _)
  | blocked _ hfd =>
    cases hx
    exact ⟨⟨_, rfl, hfd⟩, by simp [Event.starts], rfl, by simp⟩
  | sendCount =>
    cases hx
    obtain ⟨e, he, -⟩ := hc.send _ s.fd buf (List.mem_cons_of_mem _ hs)
    exact absurd he (Except.of_map_ok ha.1 e)
  | sendProgress =>
    cases hx
    obtain ⟨e, he, hne⟩ := hc.send _ s.fd buf (List.mem_cons_of_mem _ hs)
    rw [Except.map_eq_error ha.1] at he
    cases he
    exact absurd rfl hne
  | sendBlocked _ hne | sendError _ hne =>
    cases hx
    exact ⟨⟨_, rfl, rfl⟩, by simp [Event.starts, hne], rfl, by simp⟩
  | unreachable => exact ⟨⟨_, hx, rfl⟩, rfl, rfl, by simp⟩
  | openCount | openCountLost | openProgress | openProgressLost | openError => cases hx
  | _ =>
    cases hx
    exact ⟨⟨_, rfl, rfl⟩, by simp [queried, Event.starts], rfl, by simp⟩

theorem shuts (hc : ShutdownCloses env) : Shuts env (Phase p) (Refuses env) fun _ => 0 where
  idle _ _ _ := rfl
  event _ := rfl
  answered _ _ := answered_body _ _
  turns := fun cx buf x => (body_iter env cx buf x).turn
  refuses_connected st s buf h := by
    rintro socket addr reader he
    cases he
  unconnected cx buf x z hb hx ha := by
    rcases (Iter.of_body hb).unconnected hx ha with ⟨h₁, r, h', h₂, h₃, h₄, h₅⟩ | h
    · exact .inl ⟨h₁, r, h', h₂, h₃, h₄, rfl, h₅⟩
    · exact .inr h
  connected cx buf x z hb s hx hs ha := by
    obtain ⟨h₁, h₂, h₃, h₄⟩ := (Iter.of_body hb).connected hc hx hs ha
    refine ⟨h₁, h₂, h₃, fun _ _ => rfl, fun r y hy => ⟨fun _ => rfl, fun _ n hn => ?_⟩⟩
    subst hn
    exact absurd hy (h₄ n y)

end Handshake

namespace Windows
variable {env : Env} {cx : Waker} {buf : Bytes}

/-- The answer of `ConnectEx` is recorded before anything else. -/
theorem extends_connectEx (hx : env.hasConnectEx = true) (socket : TcpSocket) (addr : SocketAddr)
    (reader : Option Waker) (h : Trace) :
    Extends (.connectEx socket.fd (submitted buf) h.length
        ((env.connectEx h socket.fd addr (submitted buf) h.length).map Fin.val) :: h)
      (TcpStream.pollWriteBody env cx buf
        (⟨.fastOpenConnect, .connecting socket addr reader⟩, h)).state.2 := by
  have hreg : ∀ h', Extends h' (wakeReader reader cx (registered socket.fd h')) :=
    fun h' => (Extends.registered _ _).trans (.wakeReader _ _ _)
  have hlost : ∀ e h', Extends h' (notRegistered socket.fd e h') :=
    fun e h' => ⟨[_, _, _, _], by simp, rfl⟩
  have hcons : ∀ fd (r : Except Errno Unit) h', Extends h' (.setUpdateConnectContext fd r :: h') :=
    fun fd r h' => .cons (by simp) (by simp) h'
  simp only [TcpStream.pollWriteBody, TcpStream.fastOpenConnect, hx, Bool.not_true,
    Bool.false_eq_true, if_false, connectEx, setUpdateConnectContext]
  rcases env.connectEx h socket.fd addr (submitted buf) h.length with e | n
  · by_cases he : e = .WSA_IO_PENDING
    · subst he
      simp only [Except.map]
      rcases registerSocket_cases env socket
          (.connectEx socket.fd (submitted buf) h.length (.error .WSA_IO_PENDING) :: h) with
        hr | ⟨e, -, hr⟩
      · rw [hr]
        exact hreg _
      · rw [hr]
        exact hlost e _
    · simp only [Except.map]
      exact .refl _
  · have hn : n.val ≤ buf.length :=
      Nat.le_trans (Nat.le_of_lt_succ n.2) (length_submitted_le buf)
    simp only [Except.map, debugAssertFails, hn, decide_true, Bool.not_true, Bool.and_false,
      Bool.false_eq_true, if_false]
    rcases env.setUpdateConnectContext
        (.connectEx socket.fd (submitted buf) h.length (.ok n.val) :: h) socket.fd with e | -
    · exact (hcons _ _ _).trans (.cons (by simp) (by simp) _)
    · rcases registerSocket_cases env socket (.setUpdateConnectContext socket.fd (.ok ()) ::
          .connectEx socket.fd (submitted buf) h.length (.ok n.val) :: h) with hr | ⟨e, -, hr⟩
      · simp only [hr]
        exact (hcons _ _ _).trans (hreg _)
      · simp only [hr]
        exact (hcons _ _ _).trans (hlost e _)

theorem Iter.unconnected {x : TcpStream × Trace}
    {z : Loop.Step (TcpStream × Trace) (Outcome (Poll (Result ℕ)))}
    (hb : TcpStream.pollWriteBody env cx buf x = z) (hx : ∀ s, x.1.stream ≠ .connected s) :
    (Refuses env x.1 buf x.2 ∧ ∃ r h', z = .done r (x.1, h') ∧ started h' = started x.2 ∧
      queuedAtOnce h' = queuedAtOnce x.2 ∧ reportedLate h' = reportedLate x.2 ∧
      ∀ n, r ≠ .returned (.ready (.ok n))) ∨
    (¬Refuses env x.1 buf x.2 ∧ started x.2 < started z.state.2) := by
  by_cases hc : ∃ socket addr reader, x.1 = ⟨.fastOpenConnect, .connecting socket addr reader⟩
  · obtain ⟨socket, addr, reader, he⟩ := hc
    obtain ⟨s, h⟩ := x
    obtain rfl : s = _ := he
    cases hce : env.hasConnectEx with
    | false =>
      refine .inl ⟨fun _ _ _ _ => .inl hce, .panicked .expect, h, ?_, rfl, rfl, rfl, by simp⟩
      rw [← hb]
      simp [TcpStream.pollWriteBody, TcpStream.fastOpenConnect, hce]
    | true =>
      have hext := started_le (@extends_connectEx env cx buf hce socket addr reader h)
      rw [hb] at hext
      cases hr : env.connectEx h socket.fd addr (submitted buf) h.length with
      | error e =>
        by_cases he : e = .WSA_IO_PENDING
        · subst he
          refine .inr ⟨fun hrf => ?_, ?_⟩
          · rcases hrf _ _ _ rfl with hf | ⟨e, hf, hne⟩
            · rw [hce] at hf
              cases hf
            · rw [hr] at hf
              cases hf
              exact hne rfl
          · simp only [hr, Except.map, started_cons, Event.starts, beq_self_eq_true,
              if_true] at hext
            exact hext
        · refine .inl ⟨?_, .returned (.ready (.error (.os e))),
            .connectEx socket.fd (submitted buf) h.length (.error e) :: h, ?_,
            by simp [Event.starts, he], rfl, rfl, by simp⟩
          · rintro _ _ _ hs
            cases hs
            exact .inr ⟨e, hr, he⟩
          · rw [← hb]
            simp [TcpStream.pollWriteBody, TcpStream.fastOpenConnect, hce, connectEx, hr,
              Except.map]
      | ok n =>
        refine .inr ⟨fun hrf => ?_, ?_⟩
        · rcases hrf _ _ _ rfl with hf | ⟨e, hf, -⟩
          · rw [hce] at hf
            cases hf
          · rw [hr] at hf
            cases hf
        · simp only [hr, Except.map, started_cons, Event.starts, if_true] at hext
          exact hext
  · refine .inl ⟨fun socket addr reader he => absurd ⟨_, _, _, he⟩ hc, ?_⟩
    cases Iter.of_body hb with
    | noConnectEx | unreachable => exact ⟨_, _, rfl, rfl, rfl, rfl, by simp⟩
    | openError | openCount | openContextLost | openCountLost | openPending | openPendingLost =>
      exact absurd ⟨_, _, _, rfl⟩ hc
    | _ => exact absurd rfl (hx _)

theorem Iter.connected (hc : ShutdownCloses env) {x : TcpStream × Trace}
    {z : Loop.Step (TcpStream × Trace) (Outcome (Poll (Result ℕ)))} (hi : Iter env cx buf x z)
    {s : TokioTcpStream} (hx : x.1.stream = .connected s)
    (hs : .pollShutdown s.fd (.ready (.ok ())) ∈ x.2) (ha : Answered env z.state.2) :
    (∃ s', z.state.1.stream = .connected s' ∧ s'.fd = s.fd) ∧
      started z.state.2 = started x.2 ∧ queuedAtOnce z.state.2 = queuedAtOnce x.2 ∧
      (∀ y, z = .again y → reportedLate y.2 = reportedLate x.2) ∧
      ∀ r y, z = .done r y →
        ((∀ n, r = .returned (.ready (.ok n)) → n = 0) ↔ reportedLate y.2 = reportedLate x.2) := by
  cases hi with
  | @write _ _ _ r hw =>
    cases hx
    have hr : ∀ n, r ≠ .ready (.ok n) := fun n hr => hc.of_poll hs n (ha.1.trans hr)
    refine ⟨⟨_, rfl, hw.fd⟩, by simp [Event.starts], ?_, by simp, ?_⟩
    · rcases r with (e | n) | _
      · rfl
      · exact absurd rfl (hr n)
      · rfl
    · rintro r' y he
      cases he
      refine ⟨fun _ => rfl, fun _ n hn => ?_⟩
      cases hn
      exact absurd rfl (hr n)
  | noConnectEx | unreachable =>
    exact ⟨⟨_, hx, rfl⟩, rfl, rfl, by simp, by rintro r y he; cases he; simp⟩
  | complete =>
    cases hx
    refine ⟨⟨_, rfl, rfl⟩, by simp [queried, Event.starts], rfl, by simp, ?_⟩
    rintro r y he
    cases he
    simp [queried, reportedLate, collected]
  | openCount | openContextLost | openCountLost | openPending | openPendingLost | openError =>
    cases hx
  | _ =>
    cases hx
    refine ⟨⟨_, rfl, rfl⟩, by simp [queried, Event.starts], rfl, ?_, ?_⟩
    · rintro y he
      cases he <;> rfl
    · rintro r y he
      cases he <;> simp [queried, reportedLate]

theorem shuts (hc : ShutdownCloses env) :
    Shuts env TcpStreamState (Refuses env) reportedLate where
  idle := reportedLate_idle
  event _ := rfl
  answered _ _ := answered_body
  turns := Windows.turns env
  refuses_connected st s buf h := by
    rintro socket addr reader he
    cases he
  unconnected cx buf x z hb hx _ := Iter.unconnected hb hx
  connected cx buf x z hb s hx hs ha := (Iter.of_body hb).connected hc hx hs ha

end Windows

/-! ## Calls -/

/-- The socket of a connected stream is shut down. -/
def SocketShut {σ : Type} (x : LazyTcpStream σ × Trace) : Prop :=
  ∀ s, x.1.stream = .connected s → .pollShutdown s.fd (.ready (.ok ())) ∈ x.2

namespace Shuts
variable {σ : Type} [SysTcpStream (LazyTcpStream σ)] [LazyModule σ] {env : Env}
  {refuses : LazyTcpStream σ → Bytes → Trace → Prop} {late : Trace → ℕ} {cx : Waker} {buf : Bytes}
  {x x' : LazyTcpStream σ × Trace} {r : Outcome (Poll (Result ℕ))}

/-- A write on a stream that is connected to a socket that is shut down. -/
theorem write_connected (hm : Shuts env σ refuses late) (hx : Answered env x.2)
    (hc : ∃ s, x.1.stream = .connected s) (hs : SocketShut x)
    (h : PollWriteReturns env cx buf x r x') :
    started x'.2 = started x.2 ∧ queuedAtOnce x'.2 = queuedAtOnce x.2 ∧
      ((∀ n, r = .returned (.ready (.ok n)) → n = 0) ↔ late x'.2 = late x.2) ∧ SocketShut x' := by
  refine pollWrite_post
    (I := fun y => Answered env y.2 ∧ (∃ s, y.1.stream = .connected s) ∧ SocketShut y ∧
      started y.2 = started x.2 ∧ queuedAtOnce y.2 = queuedAtOnce x.2 ∧ late y.2 = late x.2)
    (Q := fun r y => started y.2 = started x.2 ∧ queuedAtOnce y.2 = queuedAtOnce x.2 ∧
      ((∀ n, r = .returned (.ready (.ok n)) → n = 0) ↔ late y.2 = late x.2) ∧ SocketShut y)
    ?_ ?_ ?_ ⟨hx, hc, hs, rfl, rfl, rfl⟩ h
  · rintro st s t ⟨h₁, -, h₂, h₃, h₄, h₅⟩
    refine ⟨⟨trivial, h₁⟩, ⟨_, rfl⟩, ?_, h₃, h₄, (hm.event t).trans h₅⟩
    rintro s' he
    cases he
    exact List.mem_cons_of_mem _ (h₂ s rfl)
  · rintro y z ⟨h₁, ⟨s, h₂⟩, h₃, h₄, h₅, h₆⟩ hb
    have ha := hm.answered cx buf y h₁
    rw [hb] at ha
    obtain ⟨⟨s', h₇, hfd⟩, h₈, h₉, h₁₀, -⟩ := hm.connected cx buf y _ hb s h₂ (h₃ s h₂) ha
    refine ⟨ha, ⟨s', h₇⟩, ?_, h₈.trans h₄, h₉.trans h₅, (h₁₀ z rfl).trans h₆⟩
    intro s'' he
    obtain rfl := TcpStreamOption.connected.inj (h₇.symm.trans he)
    exact hfd ▸ (hm.turns.of_body hb).extends.mem (h₃ s h₂)
  · rintro y r z ⟨h₁, ⟨s, h₂⟩, h₃, h₄, h₅, h₆⟩ hb
    have ha := hm.answered cx buf y h₁
    rw [hb] at ha
    obtain ⟨⟨s', h₇, hfd⟩, h₈, h₉, -, h₁₀⟩ := hm.connected cx buf y _ hb s h₂ (h₃ s h₂) ha
    refine ⟨h₈.trans h₄, h₉.trans h₅, h₆ ▸ h₁₀ r z rfl, ?_⟩
    intro s'' he
    obtain rfl := TcpStreamOption.connected.inj (h₇.symm.trans he)
    exact hfd ▸ (hm.turns.of_body hb).extends.mem (h₃ s h₂)

/-- A write before the hand-over: it is refused and changes nothing, or it starts the connection. -/
theorem write_unconnected (hm : Shuts env σ refuses late) (hx : Answered env x.2)
    (hc : ∀ s, x.1.stream ≠ .connected s) (h : PollWriteReturns env cx buf x r x') :
    (refuses x.1 buf x.2 ∧ x'.1 = x.1 ∧ started x'.2 = started x.2 ∧
      queuedAtOnce x'.2 = queuedAtOnce x.2 ∧ late x'.2 = late x.2 ∧
      ∀ n, r ≠ .returned (.ready (.ok n))) ∨
    (¬refuses x.1 buf x.2 ∧ started x.2 < started x'.2) := by
  refine pollWrite_post
    (I := fun y => y = x ∨ (¬refuses x.1 buf x.2 ∧ started x.2 < started y.2))
    (Q := fun r y => (refuses x.1 buf x.2 ∧ y.1 = x.1 ∧ started y.2 = started x.2 ∧
        queuedAtOnce y.2 = queuedAtOnce x.2 ∧ late y.2 = late x.2 ∧
        ∀ n, r ≠ .returned (.ready (.ok n))) ∨
      (¬refuses x.1 buf x.2 ∧ started x.2 < started y.2))
    ?_ ?_ ?_ (.inl rfl) h
  · rintro st s t (rfl | hy)
    · exact absurd rfl (hc s)
    · exact .inr hy
  · rintro y z (rfl | ⟨hr, hy⟩) hb
    · have ha := hm.answered cx buf y hx
      rw [hb] at ha
      rcases hm.unconnected cx buf y _ hb hc ha with ⟨-, r, h', he, -⟩ | hy
      · cases he
      · exact .inr hy
    · exact .inr ⟨hr, Nat.lt_of_lt_of_le hy (started_le (hm.turns.of_body hb).extends)⟩
  · rintro y r z (rfl | ⟨hr, hy⟩) hb
    · have ha := hm.answered cx buf y hx
      rw [hb] at ha
      rcases hm.unconnected cx buf y _ hb hc ha with ⟨h₁, r, h', he, h₂, h₃, h₄, h₅⟩ | hy
      · cases he
        exact .inl ⟨h₁, rfl, h₂, h₃, h₄, h₅⟩
      · exact .inr hy
    · exact .inr ⟨hr, Nat.lt_of_lt_of_le hy (started_le (hm.turns.of_body hb).extends)⟩

/-- **A write after a shutdown** keeps the stream closed iff it is refused and reports nothing late,
and a write that is refused leaves the socket shut down. -/
theorem write (hm : Shuts env σ refuses late) (hx : Answered env x.2) (hs : SocketShut x)
    (h : PollWriteReturns env cx buf x r x') :
    ((started x'.2 = started x.2 ∧ queuedAtOnce x'.2 = queuedAtOnce x.2 ∧
        ∀ n, r = .returned (.ready (.ok n)) → n = 0) ↔
      refuses x.1 buf x.2 ∧ late x'.2 = late x.2) ∧
    (refuses x.1 buf x.2 → SocketShut x') := by
  by_cases hc : ∃ s, x.1.stream = .connected s
  · obtain ⟨h₁, h₂, h₃, h₄⟩ := hm.write_connected hx hc hs h
    obtain ⟨⟨st, o⟩, t⟩ := x
    obtain ⟨s, rfl⟩ := hc
    exact ⟨⟨fun hy => ⟨hm.refuses_connected _ _ _ _, h₃.1 hy.2.2⟩, fun hy => ⟨h₁, h₂, h₃.2 hy.2⟩⟩,
      fun _ => h₄⟩
  · have hc' : ∀ s, x.1.stream ≠ .connected s := fun s he => hc ⟨s, he⟩
    rcases hm.write_unconnected hx hc' h with ⟨h₁, h₂, h₃, h₄, h₅, h₆⟩ | ⟨h₁, h₂⟩
    · refine ⟨⟨fun _ => ⟨h₁, h₅⟩, fun _ => ⟨h₃, h₄, fun n hn => absurd hn (h₆ n)⟩⟩,
        fun _ s he => ?_⟩
      rw [h₂] at he
      exact absurd he (hc' s)
    · refine ⟨⟨fun hy => ?_, fun hy => absurd hy.1 h₁⟩, fun hr => absurd hr h₁⟩
      omega

end Shuts

/-! ## Runs -/

theorem shutDown_extends {h h' : Trace} (hh : Extends h h') : shutDown h' = shutDown h := by
  obtain ⟨es, hes, rfl⟩ := hh
  induction es with
  | nil => rfl
  | cons e es ih =>
    rw [← ih fun e' he' => hes e' (List.mem_cons_of_mem _ he')]
    obtain ⟨-, hr⟩ := hes e (List.mem_cons_self ..)
    cases e with
    | ret c o => exact absurd rfl (hr c o)
    | _ => rfl

theorem shutDown_ret {c : Call} {o : Outcome Ret} {h : Trace}
    (hs : shutDown (.ret c o :: h) = true) :
    (∃ cx, c = .pollShutdown cx ∧ o = .returned (.unit (.ready (.ok ())))) ∨ shutDown h = true := by
  unfold shutDown at hs
  split at hs <;> simp_all

theorem Other.extends {σ : Type} {env : Env} {c : Call} {x x' : LazyTcpStream σ × Trace}
    {o : Outcome Ret} (h : Other env c x o x') : Extends x.2 x'.2 := by
  cases h with
  | read => exact (Extends.deliverRead env _).trans (.cons (by simp) (by simp) _)
  | park => exact .wakeReader _ _ _
  | readEmpty => exact .refl _
  | quiet es _ _ hes => exact .quiet hes _

theorem Other.socketShut {σ : Type} {env : Env} {c : Call} {x x' : LazyTcpStream σ × Trace}
    {o : Outcome Ret} (h : Other env c x o x') (hs : SocketShut x) : SocketShut x' := by
  intro s he
  refine h.extends.mem (hs s ?_)
  cases h with
  | park => cases he
  | _ => exact he

/-- A write after a shutdown leaves the stream closed. -/
def StaysClosed {S : Type} (y : Lts.Taken (TfoStream S × Trace) Done) : Prop :=
  shutDown y.pre.2 = true → y.label.call.payload ≠ none → Closed y

/-- A write after a shutdown is refused, if it is polled on a stream that is still connecting, and
reports nothing late. -/
def Refused {S : Type} (refuses : S → Bytes → Trace → Prop) (late : Trace → ℕ)
    (y : Lts.Taken (TfoStream S × Trace) Done) : Prop :=
  shutDown y.pre.2 = true → ∀ cx buf, y.label.call.payload = some (cx, buf) →
    refuses y.pre.1.inner buf (.call y.label.call :: y.pre.2) ∧ late y.post.2 = late y.pre.2

namespace Shuts
variable {σ : Type} [SysTcpStream (LazyTcpStream σ)] [LazyModule σ] {env : Env}
  {refuses : LazyTcpStream σ → Bytes → Trace → Prop} {late : Trace → ℕ}
  {x x' : TfoStream (LazyTcpStream σ) × Trace} {l : Done}

theorem step_iff (hm : Shuts env σ refuses late) (hx : Answered env x.2)
    (hs : shutDown x.2 = true → SocketShut (x.1.inner, x.2))
    (h : (system (LazyTcpStream σ) env).step x l x') :
    StaysClosed ⟨x, l, x'⟩ ↔ Refused refuses late ⟨x, l, x'⟩ := by
  obtain ⟨h, hp, hx'⟩ := h
  refine forall_congr' fun hd => ?_
  rcases performs_cases hp with ⟨cx, buf, r, hc, hr, ho⟩ | ho
  · have hw := (hm.write (x := (x.1.inner, .call l.call :: x.2)) ⟨trivial, hx⟩
      (fun s he => List.mem_cons_of_mem _ (hs hd s he)) hr).1
    simp only [started_idle.call, queuedAtOnce_idle.call, hm.idle.call] at hw
    have hcl : Closed ⟨x, l, x'⟩ ↔ started h = started x.2 ∧ queuedAtOnce h = queuedAtOnce x.2 ∧
        ∀ n, r = .returned (.ready (.ok n)) → n = 0 := by
      have hn : (∀ n, l.outcome = .returned (.write (.ready (.ok n))) → n = 0) ↔
          ∀ n, r = .returned (.ready (.ok n)) → n = 0 := by
        rw [ho]
        rcases r with ((e | n) | _) | q <;> simp [Outcome.map]
      rw [← hn]
      constructor
      · rintro ⟨h₁, h₂, h₃⟩
        simp only [hx', started_idle.ret, queuedAtOnce_idle.ret] at h₁ h₂
        exact ⟨h₁, h₂, h₃⟩
      · rintro ⟨h₁, h₂, h₃⟩
        exact ⟨by simp only [hx', started_idle.ret, h₁],
          by simp only [hx', queuedAtOnce_idle.ret, h₂], h₃⟩
    rw [hcl, hw, hx', hm.idle.ret]
    constructor
    · intro hall cx' buf' hc'
      obtain ⟨rfl, rfl⟩ := Prod.mk.inj (Option.some.inj (hc.symm.trans hc'))
      exact hall (by simp [hc])
    · exact fun hall _ => hall cx buf hc
  · have hc := ho.payload
    simp [hc]

theorem step_socketShut (hm : Shuts env σ refuses late) (hx : Answered env x.2)
    (hs : shutDown x.2 = true → SocketShut (x.1.inner, x.2))
    (h : (system (LazyTcpStream σ) env).step x l x') (hr : Refused refuses late ⟨x, l, x'⟩) :
    shutDown x'.2 = true → SocketShut (x'.1.inner, x'.2) := by
  obtain ⟨c, o⟩ := l
  obtain ⟨h, hp, hx'⟩ := h
  have hcall : shutDown (.call c :: x.2) = shutDown x.2 := rfl
  rw [hx']
  intro hd
  suffices hsh : SocketShut (x'.1.inner, h) from fun s he => List.mem_cons_of_mem _ (hsh s he)
  rcases shutDown_ret hd with ⟨cx, rfl, rfl⟩ | hd
  · -- the socket is shut down by this call
    obtain ⟨ho, he⟩ := hp
    intro s hst
    obtain ⟨hi, rfl⟩ := Prod.mk.inj he
    simp only at hi hst
    rw [LazyModule.pollShutdown_eq] at ho ⊢
    rw [hi] at hst
    simp only [LazyTcpStream.pollShutdown, hst, TokioTcpStream.pollShutdown] at ho ⊢
    simp only [Outcome.returned.injEq, Ret.unit.injEq] at ho
    simp [← ho]
  · rcases performs_cases hp with ⟨cx, buf, r, hc, hpw, -⟩ | ho
    · rw [shutDown_extends (pollWrite_extends hm.turns hpw), hcall] at hd
      exact (hm.write (x := (x.1.inner, .call c :: x.2)) ⟨trivial, hx⟩
        (fun s he => List.mem_cons_of_mem _ (hs hd s he)) hpw).2 (hr hd cx buf hc).1
    · rw [shutDown_extends ho.extends, hcall] at hd
      exact ho.socketShut fun s he => List.mem_cons_of_mem _ (hs hd s he)

/-- **A run stays closed** after every shutdown iff its writes are refused. -/
theorem run_iff (hm : Shuts env σ refuses late) {x₀ x : TfoStream (LazyTcpStream σ) × Trace}
    {t : List (Lts.Taken (TfoStream (LazyTcpStream σ) × Trace) Done)}
    (ha : Answered env x₀.2) (hd : shutDown x₀.2 = false)
    (hI : Invariant env fun x : LazyTcpStream σ × Trace => Answered env x.2)
    (h : (system (LazyTcpStream σ) env).Run x₀ t x) :
    (∀ y ∈ t, StaysClosed y) ↔ ∀ y ∈ t, Refused refuses late y := by
  refine h.forall_iff (I := fun x => Answered env x.2 ∧
      (shutDown x.2 = true → SocketShut (x.1.inner, x.2))) (D := fun _ => True)
    ⟨ha, fun hd' => absurd hd' (by simp [hd])⟩ ?_ ?_ fun _ _ => trivial
  · rintro y l y' ⟨h₁, h₂⟩ hs hr
    exact ⟨hI.step h₁ hs, hm.step_socketShut h₁ h₂ hs hr⟩
  · rintro y l y' ⟨h₁, h₂⟩ hs -
    exact hm.step_iff h₁ h₂ hs

end Shuts

/-- No constructor shuts a stream down. -/
theorem shutDown_setup {h : Trace} (hh : ∀ e ∈ h, e.Setup) : shutDown h = false := by
  have hext : Extends [] h := by
    refine ⟨h, fun e he => ?_, by simp⟩
    have hs := hh e he
    constructor
    · rintro c rfl
      exact hs
    · rintro c o rfl
      exact hs
  exact shutDown_extends hext

/-- On a Unix module no write after a shutdown is polled on a stream that is still connecting,
unless `sendto` refuses it. -/
def Unix.Refused {S : Type} [SysTcpStream S] [UnixTcpStream S] (env : Env)
    (y : Lts.Taken (TfoStream S × Trace) Done) : Prop :=
  shutDown y.pre.2 = true → ∀ cx buf, y.label.call.payload = some (cx, buf) →
    Handshake.Refuses env (UnixTcpStream.view y.pre.1.inner) buf (.call y.label.call :: y.pre.2)

/-- On Windows none is, unless `ConnectEx` refuses it, and none reports bytes late. -/
def Windows.Refused (env : Env) (y : Lts.Taken (TfoStream TcpStream × Trace) Done) : Prop :=
  TokioTfo.Refused (Refuses env) reportedLate y

/-- The runs of a module in which every write after a shutdown leaves the stream closed. -/
def StaysClosedIff (env : Env) (S : Type) [SysTcpStream S] [SysConnect S]
    (refused : Lts.Taken (TfoStream S × Trace) Done → Prop) : Prop :=
  ∀ (x₀ x : TfoStream S × Trace) (t : List (Lts.Taken (TfoStream S × Trace) Done)),
    Started env x₀ → (system S env).Run x₀ t x →
      ((∀ y ∈ t, StaysClosed y) ↔ ∀ y ∈ t, refused y)

theorem Unix.staysClosed_iff {S : Type} [SysTcpStream S] [SysConnect S] [UnixTcpStream S]
    [UnixConnect S] {env : Env} (hc : ShutdownCloses env) :
    StaysClosedIff env S (Unix.Refused env) := by
  intro x₀ x t hx₀ h
  have hd : shutDown x₀.2 = false := by
    rcases hx₀ with hx₀ | ⟨s, rfl⟩
    · exact shutDown_setup (UnixConnect.opening hx₀).setup
    · rfl
  have hr := (Handshake.shuts hc).run_iff ((started_unix answered_idle hx₀).mpr trivial) hd
    Handshake.answered_invariant (UnixTcpStream.run_view env h)
  have hm : ∀ y : Lts.Taken (TfoStream S × Trace) Done,
      StaysClosed (y.map UnixTcpStream.viewTfo) ↔ StaysClosed y :=
    fun y => ⟨fun h hd hp => ⟨(h hd hp).1, (h hd hp).2, (h hd hp).3⟩,
      fun h hd hp => ⟨(h hd hp).1, (h hd hp).2, (h hd hp).3⟩⟩
  simp only [List.forall_mem_map, hm] at hr
  rw [hr]
  simp only [TokioTfo.Refused, and_true]
  rfl

theorem Windows.staysClosed_iff {env : Env} (hc : ShutdownCloses env) :
    StaysClosedIff env TcpStream (Windows.Refused env) := by
  intro x₀ x t hx₀ h
  have hd : shutDown x₀.2 = false := by
    rcases hx₀ with hx₀ | ⟨s, rfl⟩
    · obtain ⟨_, _, _, hh⟩ := Windows.opening hx₀
      exact shutDown_setup hh
    · rfl
  exact (Windows.shuts hc).run_iff ((started_windows answered_idle hx₀).mpr trivial) hd
    Windows.answered_invariant h

/-- **Shutdown closes the write side** on the runs in which no later write opens the connection of a
stream that was still connecting, or reports what a pending `ConnectEx` has sent, and on no
others. -/
theorem closed_iff_refused (env : Env) (hc : ShutdownCloses env) :
    StaysClosedIff env Linux.TcpStream (Unix.Refused env) ∧
    StaysClosedIff env FreeBsd.TcpStream (Unix.Refused env) ∧
    StaysClosedIff env Windows.TcpStream (Windows.Refused env) :=
  ⟨Unix.staysClosed_iff hc, Unix.staysClosed_iff hc, Windows.staysClosed_iff hc⟩

/-- Every call succeeds at once, but for sends on a socket that is shut down. -/
def closing : Env :=
  { (default : Env) with
    pollWrite := fun h fd buf => .ready <|
      if .pollShutdown fd (.ready (.ok ())) ∈ h then .error (.os .EPIPE)
      else .ok (Fin.last buf.length)
    send := fun h fd buf =>
      if .pollShutdown fd (.ready (.ok ())) ∈ h then .error .EPIPE else .ok (Fin.last buf.length) }

theorem shutdownCloses_closing : ShutdownCloses closing where
  pollWrite h fd buf n hs := by simp [closing, hs]
  send h fd buf hs := ⟨.EPIPE, by simp [closing, hs], by simp⟩

/-- After a first write the shutdown closes the stream: the second write fails. -/
theorem closed_after_write :
    let cs : List Call := [.pollWrite ⟨1, 1⟩ [7], .pollShutdown ⟨1, 1⟩, .pollWrite ⟨1, 1⟩ [8]]
    (∀ y ∈ (runOf closing 2 cs Linux.client).1, StaysClosed y) ∧
    (∀ y ∈ (runOf closing 2 cs FreeBsd.client).1, StaysClosed y) ∧
    ∀ y ∈ (runOf closing 2 cs Windows.client).1, StaysClosed y := by
  intro cs
  have h := closed_iff_refused closing shutdownCloses_closing
  refine ⟨(h.1 _ _ _ (.inl Linux.client_connects) (run_runOf closing 2 cs _)).2 ?_,
    (h.2.1 _ _ _ (.inl (FreeBsd.client_connects rfl)) (run_runOf closing 2 cs _)).2 ?_,
    (h.2.2 _ _ _ (.inl (Windows.client_connects rfl rfl)) (run_runOf closing 2 cs _)).2 ?_⟩
  · show ∀ y ∈ [_, _, _], Unix.Refused (S := Linux.TcpStream) closing y
    rintro y (_ | ⟨_, _ | ⟨_, _ | ⟨_, ⟨⟩⟩⟩⟩)
    · exact fun _ _ _ _ _ _ _ he => (by cases he)
    · exact fun hd => (by cases hd)
    · exact fun hd => (by cases hd)
  · show ∀ y ∈ [_, _, _], Unix.Refused (S := FreeBsd.TcpStream) closing y
    rintro y (_ | ⟨_, _ | ⟨_, _ | ⟨_, ⟨⟩⟩⟩⟩)
    · exact fun _ _ _ _ _ _ _ he => (by cases he)
    · exact fun hd => (by cases hd)
    · exact fun hd => (by cases hd)
  · show ∀ y ∈ [_, _, _], Windows.Refused closing y
    rintro y (_ | ⟨_, _ | ⟨_, _ | ⟨_, ⟨⟩⟩⟩⟩)
    · exact fun _ _ _ _ => ⟨fun _ _ _ he => (by cases he), rfl⟩
    · exact fun hd => (by cases hd)
    · exact fun hd => (by cases hd)

/-- What a module promises: a shutdown closes the stream. -/
def ShutdownIsFinal (S : Type) [SysTcpStream S] [SysConnect S] : Prop :=
  ∀ (env : Env) (x₀ x : TfoStream S × Trace) (t : List (Lts.Taken (TfoStream S × Trace) Done)),
    ShutdownCloses env → Started env x₀ → (system S env).Run x₀ t x → ∀ y ∈ t, StaysClosed y

/-- A shutdown before the first write returns `Ok`, and the write opens the connection. -/
theorem not_shutdownIsFinal : ¬ShutdownIsFinal Linux.TcpStream ∧
    ¬ShutdownIsFinal FreeBsd.TcpStream ∧ ¬ShutdownIsFinal Windows.TcpStream := by
  let cs : List Call := [.pollShutdown ⟨1, 1⟩, .pollWrite ⟨1, 1⟩ [7]]
  refine ⟨fun h => ?_, fun h => ?_, fun h => ?_⟩
  · have hm := h closing _ _ _ shutdownCloses_closing (.inl Linux.client_connects)
      (run_runOf closing 1 cs Linux.client) _ (List.mem_cons_self ..)
    exact absurd ((hm rfl (by decide)).reports 1 rfl) (by decide)
  · have hm := h closing _ _ _ shutdownCloses_closing (.inl (FreeBsd.client_connects rfl))
      (run_runOf closing 1 cs FreeBsd.client) _ (List.mem_cons_self ..)
    exact absurd ((hm rfl (by decide)).reports 1 rfl) (by decide)
  · have hm := h closing _ _ _ shutdownCloses_closing (.inl (Windows.client_connects rfl rfl))
      (run_runOf closing 1 cs Windows.client) _ (List.mem_cons_self ..)
    exact absurd ((hm rfl (by decide)).reports 1 rfl) (by decide)

end TokioTfo
