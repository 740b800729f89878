/-
  `listener.rs`: how a listener with TFO enabled is made.

  The platforms differ in what `cfg!` selects; the kernel and tokio are an environment
  of their own (`ListenEnv`), which answers each call from the calls before it.

  `listener_enabled`: on every platform, and whatever the answers are, each option is
  set in a state of the socket in which the platform takes it; a listener that is
  returned listens, with the option set; and a constructor stops at the first call that
  is refused, drops the socket it has made or was given, and returns the error, or, in a
  task outside of a runtime, panics where tokio does.
-/
import TokioTfo.Stream

namespace TokioTfo

/-- The platforms that `cfg!` tells apart. -/
inductive Platform where
  | linux | freeBsd | macOs | windows
  deriving DecidableEq

/-- A call that a constructor makes, with its answer, and the drop of a socket. -/
inductive ListenEvent where
  | newSocket (addr : SocketAddr) (r : Result Fd)
  | setReuseaddr (fd : Fd) (r : Result Unit)
  | setsockopt (fd : Fd) (opt : SockOpt) (value : ℕ) (r : Except Errno Unit)
  | bind (fd : Fd) (addr : SocketAddr) (r : Result Unit)
  | listen (fd : Fd) (backlog : ℕ) (r : Except Unregistered Unit)
  | setNonblocking (fd : Fd) (r : Result Unit)
  | fromStd (fd : Fd) (r : Except Unregistered Unit)
  | drop (fd : Fd)
  deriving DecidableEq

/-- The calls made so far, the newest first. -/
abbrev ListenTrace := List ListenEvent

/-- The answers of the kernel and of tokio. -/
structure ListenEnv where
  newSocket : ListenTrace → SocketAddr → Result Fd
  setReuseaddr : ListenTrace → Fd → Result Unit
  setsockopt : ListenTrace → Fd → SockOpt → Except Errno Unit
  bind : ListenTrace → Fd → SocketAddr → Result Unit
  listen : ListenTrace → Fd → ℕ → Except Unregistered Unit
  setNonblocking : ListenTrace → Fd → Result Unit
  fromStd : ListenTrace → Fd → Except Unregistered Unit

/-! ## The calls

Each may fail, and those in which tokio registers the socket panic outside of a runtime. -/

namespace Listen
variable (env : ListenEnv) (fd : Fd) (h : ListenTrace)

/-- `TcpSocket::new_v4` or `TcpSocket::new_v6`, by the address. -/
def newSocket (addr : SocketAddr) : Result Fd × ListenTrace :=
  (env.newSocket h addr, .newSocket addr (env.newSocket h addr) :: h)

/-- `TcpSocket::set_reuseaddr(true)`. -/
def setReuseaddr : Except Unregistered Unit × ListenTrace :=
  ((env.setReuseaddr h fd).mapError .failed, .setReuseaddr fd (env.setReuseaddr h fd) :: h)

/-- `TcpSocket::bind`. -/
def bind (addr : SocketAddr) : Except Unregistered Unit × ListenTrace :=
  ((env.bind h fd addr).mapError .failed, .bind fd addr (env.bind h fd addr) :: h)

/-- `TcpSocket::listen`. -/
def listen (backlog : ℕ) : Except Unregistered Unit × ListenTrace :=
  (env.listen h fd backlog, .listen fd backlog (env.listen h fd backlog) :: h)

/-- `std::net::TcpListener::set_nonblocking(true)`. -/
def setNonblocking : Except Unregistered Unit × ListenTrace :=
  ((env.setNonblocking h fd).mapError .failed, .setNonblocking fd (env.setNonblocking h fd) :: h)

/-- `tokio::net::TcpListener::from_std`. -/
def fromStd : Except Unregistered Unit × ListenTrace :=
  (env.fromStd h fd, .fromStd fd (env.fromStd h fd) :: h)

/-- `setsockopt(IPPROTO_TCP, opt, value)`, a failure as `last_os_error`. -/
def setTcpOption (opt : SockOpt) (value : ℕ) : Except Unregistered Unit × ListenTrace :=
  let r := env.setsockopt h fd opt
  (r.mapError (.failed <| .os ·), .setsockopt fd opt value r :: h)

end Listen

/-- What `set_tcp_fastopen` sets `TCP_FASTOPEN` to: on Linux the length of the queue of pending TFO
requests, elsewhere `enable`. -/
def Platform.fastopenValue : Platform → ℕ
  | linux => 1024
  | freeBsd | macOs | windows => 1

/-- `set_tcp_fastopen`. -/
def setTcpFastopen (p : Platform) (env : ListenEnv) (fd : Fd) (h : ListenTrace) :
    Except Unregistered Unit × ListenTrace :=
  Listen.setTcpOption env fd h .tcpFastopen p.fastopenValue

/-- `set_tcp_fastopen_force_enable`, macOS only. -/
def setTcpFastopenForceEnable (env : ListenEnv) (fd : Fd) (h : ListenTrace) :
    Except Unregistered Unit × ListenTrace :=
  Listen.setTcpOption env fd h .tcpFastopenForceEnable 1

/-! ## The constructors -/

/-- `TfoListener`: the tokio listener it wraps. -/
structure TfoListener where
  fd : Fd
  deriving DecidableEq

/-- `call?` by the owner of the socket `fd`: if the call fails, or panics, the socket is dropped. -/
def orDrop {α : Type} (fd : Fd) (x : Except Unregistered Unit × ListenTrace)
    (k : ListenTrace → Outcome (Result α) × ListenTrace) : Outcome (Result α) × ListenTrace :=
  match x with
  | (.ok (), h) => k h
  | (.error err, h) => (err.outcome, .drop fd :: h)

namespace TfoListener
variable (p : Platform) (env : ListenEnv)

/-- `TfoListener::bind`. -/
def bind (addr : SocketAddr) (h : ListenTrace) : Outcome (Result TfoListener) × ListenTrace :=
  match Listen.newSocket env h addr with
  | (.error err, h) => (.returned (.error err), h)
  | (.ok fd, h) =>
    orDrop fd (if p = .windows then (.ok (), h) else Listen.setReuseaddr env fd h) fun h =>
    -- that `TCP_FASTOPEN_FORCE_ENABLE` was refused is only logged
    orDrop fd (if p = .macOs then (.ok (), (setTcpFastopenForceEnable env fd h).2)
      else setTcpFastopen p env fd h) fun h =>
    orDrop fd (Listen.bind env fd h addr) fun h =>
    orDrop fd (Listen.listen env fd h 1024) fun h =>
    orDrop fd (if p = .macOs then setTcpFastopen p env fd h else (.ok (), h)) fun h =>
    (.returned (.ok ⟨fd⟩), h)

/-- `TfoListener::from_tokio`. -/
def fromTokio (fd : Fd) (h : ListenTrace) : Outcome (Result TfoListener) × ListenTrace :=
  orDrop fd (setTcpFastopen p env fd h) fun h => (.returned (.ok ⟨fd⟩), h)

/-- `TfoListener::from_std`. -/
def fromStd (fd : Fd) (h : ListenTrace) : Outcome (Result TfoListener) × ListenTrace :=
  orDrop fd (Listen.setNonblocking env fd h) fun h =>
  orDrop fd (Listen.fromStd env fd h) fun h =>
  fromTokio p env fd h

end TfoListener

/-! ## The state of the socket -/

/-- The states of a socket that the comment in `bind` names. -/
inductive SockPhase where
  /-- `TCPS_CLOSED` -/
  | closed
  | bound
  /-- `TCPS_LISTEN` -/
  | listening
  deriving DecidableEq

/-- The state of the socket after the calls. -/
def sockPhase (start : SockPhase) : ListenTrace → SockPhase
  | [] => start
  | .bind _ _ (.ok ()) :: _ => .bound
  | .listen _ _ (.ok ()) :: _ => .listening
  | _ :: h => sockPhase start h

/-- Whether the platform takes an option in a state: `TCP_FASTOPEN` at any time, but on macOS only
in `TCPS_LISTEN`, and there `TCP_FASTOPEN_FORCE_ENABLE` in `TCPS_CLOSED`. -/
def Platform.takes : Platform → SockPhase → SockOpt → Bool
  | macOs, ph, .tcpFastopen => ph == .listening
  | macOs, ph, .tcpFastopenForceEnable => ph == .closed
  | _, _, .tcpFastopen => true
  | _, _, _ => false

/-- Every option was set in a state in which the platform takes it. -/
def setInOrder (p : Platform) (start : SockPhase) : ListenTrace → Bool
  | [] => true
  | .setsockopt _ opt _ _ :: h => p.takes (sockPhase start h) opt && setInOrder p start h
  | _ :: h => setInOrder p start h

/-- What `TCP_FASTOPEN` is set to. -/
def fastopen : ListenTrace → Option ℕ
  | [] => none
  | .setsockopt _ .tcpFastopen value (.ok ()) :: _ => some value
  | _ :: h => fastopen h

/-- How a call was refused; `TCP_FASTOPEN_FORCE_ENABLE` is not insisted on. -/
def ListenEvent.refusal : ListenEvent → Option Unregistered
  | newSocket _ (.error e) | setReuseaddr _ (.error e) | bind _ _ (.error e)
  | setNonblocking _ (.error e) => some (.failed e)
  | setsockopt _ .tcpFastopen _ (.error e) => some (.failed (.os e))
  | listen _ _ (.error e) | fromStd _ (.error e) => some e
  | _ => none

/-- The calls that were refused. -/
def refusals (h : ListenTrace) : List Unregistered := h.filterMap ListenEvent.refusal

/-- The socket on which a call is made. -/
def ListenEvent.on : ListenEvent → Option Fd
  | newSocket .. | drop _ => none
  | setReuseaddr fd _ | setsockopt fd .. | bind fd .. | listen fd .. | setNonblocking fd _
  | fromStd fd _ => some fd

/-- The socket of a constructor: the one it was `given`, or the one it has made. -/
def socketOf (given : Option Fd) : ListenTrace → Option Fd
  | [] => given
  | .newSocket _ (.ok fd) :: _ => some fd
  | _ :: h => socketOf given h

/-- Every call is made on the socket of the constructor. -/
def OnSocket (given : Option Fd) (h : ListenTrace) : Prop :=
  ∀ c ∈ h, ∀ fd, c.on = some fd → socketOf given h = some fd

/-- The sockets dropped, the last one first. -/
def dropped (h : ListenTrace) : List Fd :=
  h.filterMap fun
    | .drop fd => some fd
    | _ => none

/-- What a constructor promises of the socket it was given in the state `start`, or has made. -/
structure Enables (p : Platform) (start : SockPhase) (given : Option Fd)
    (x : Outcome (Result TfoListener) × ListenTrace) : Prop where
  inOrder : setInOrder p start x.2 = true
  onSocket : OnSocket given x.2
  enabled : ∀ l, x.1 = .returned (.ok l) → socketOf given x.2 = some l.fd ∧
    sockPhase start x.2 = .listening ∧ fastopen x.2 = some p.fastopenValue
  refused : refusals x.2 = match x.1 with
    | .returned (.ok _) => []
    | .returned (.error e) => [.failed e]
    | .panicked _ => [.noRuntime]
  drops : dropped x.2 = match x.1 with
    | .returned (.ok _) => []
    | .returned (.error _) | .panicked _ => (socketOf given x.2).toList
  stops : (∀ l, x.1 ≠ .returned (.ok l)) → ∃ u c h, x.1 = u.outcome ∧ c.refusal = some u ∧
    x.2 = (socketOf given x.2).toList.map .drop ++ c :: h

/-! ## What a call leaves -/

/-- Nothing was refused so far, and the socket `fd` is in this state, with this option set. -/
structure Prepared (p : Platform) (start : SockPhase) (given : Option Fd) (fd : Fd)
    (ph : SockPhase) (fo : Option ℕ) (h : ListenTrace) : Prop where
  inOrder : setInOrder p start h = true
  socket : socketOf given h = some fd
  onSocket : OnSocket given h
  phase : sockPhase start h = ph
  fastopen : fastopen h = fo
  refusals : refusals h = []
  dropped : dropped h = []

/-- A call on the socket `fd` leads to `P`, or is the first to be refused. -/
structure Leads (p : Platform) (start : SockPhase) (given : Option Fd) (fd : Fd)
    (x : Except Unregistered Unit × ListenTrace) (P : ListenTrace → Prop) : Prop where
  ok : x.1 = .ok () → P x.2
  inOrder : setInOrder p start x.2 = true
  socket : socketOf given x.2 = some fd
  onSocket : OnSocket given x.2
  dropped : dropped x.2 = []
  error : ∀ e, x.1 = .error e → refusals x.2 = [e] ∧ ∃ c h, x.2 = c :: h ∧ c.refusal = some e

section
variable {p : Platform} {env : ListenEnv} {start ph : SockPhase} {given : Option Fd} {fo : Option ℕ}
  {fd : Fd} {h : ListenTrace}

/-- The rest of a constructor after a call, or its end. -/
theorem Enables.orDrop {x : Except Unregistered Unit × ListenTrace}
    {k : ListenTrace → Outcome (Result TfoListener) × ListenTrace} {P : ListenTrace → Prop}
    (hx : Leads p start given fd x P) (hk : ∀ h, P h → Enables p start given (k h)) :
    Enables p start given (orDrop fd x k) := by
  obtain ⟨e | ⟨⟩, h⟩ := x
  · obtain ⟨hr, c, h, rfl, hc⟩ := hx.error e rfl
    have hs : socketOf given (.drop fd :: c :: h) = some fd := hx.socket
    have hd : dropped (.drop fd :: c :: h) = (socketOf given (.drop fd :: c :: h)).toList := by
      rw [hs]
      exact congrArg (fd :: ·) hx.dropped
    refine ⟨hx.inOrder, ?_, by simp [TokioTfo.orDrop], ?_, ?_, fun _ => ?_⟩
    · intro c' hc' fd' hon
      rcases List.mem_cons.1 hc' with rfl | hc'
      · cases hon
      · exact hx.onSocket c' hc' fd' hon
    · cases e <;> exact hr
    · cases e <;> exact hd
    · refine ⟨e, c, h, rfl, hc, ?_⟩
      show .drop fd :: c :: h = (socketOf given (.drop fd :: c :: h)).toList.map .drop ++ c :: h
      rw [hs]
      rfl
  · exact hk h (hx.ok rfl)

/-- A call on the socket that records `e`, answered with `r`. -/
theorem Prepared.leads {e : ListenEvent} {r : Except Unregistered Unit} {ph' : SockPhase}
    {fo' : Option ℕ}
    (hh : Prepared p start given fd ph fo h) (hon : e.on = some fd)
    (ho : setInOrder p start (e :: h) = setInOrder p start h)
    (hr : e.refusal = match r with | .ok () => none | .error e => some e)
    (hph : r = .ok () → sockPhase start (e :: h) = ph')
    (hfo : r = .ok () → TokioTfo.fastopen (e :: h) = fo') :
    Leads p start given fd (r, e :: h) (Prepared p start given fd ph' fo') := by
  have hl : TokioTfo.refusals (e :: h) = (e.refusal.toList ++ TokioTfo.refusals h) := by
    rw [TokioTfo.refusals, List.filterMap_cons]
    cases e.refusal <;> rfl
  rw [hr, hh.refusals] at hl
  have hsock : socketOf given (e :: h) = some fd := by
    cases e <;> first | exact hh.socket | cases hon
  have hdrop : TokioTfo.dropped (e :: h) = [] := by
    cases e <;> first | exact hh.dropped | cases hon
  have hsame : OnSocket given (e :: h) := by
    intro c hc fd' hfd
    rcases List.mem_cons.1 hc with rfl | hc
    · rw [hsock, ← hon, hfd]
    · rw [hsock, ← hh.socket, hh.onSocket c hc fd' hfd]
  refine ⟨fun hok => ?_, ho.trans hh.inOrder, hsock, hsame, hdrop, fun e he => ?_⟩
  · obtain rfl : r = .ok () := hok
    exact ⟨ho.trans hh.inOrder, hsock, hsame, hph rfl, hfo rfl, hl, hdrop⟩
  · obtain rfl : r = .error e := he
    exact ⟨hl, _, _, rfl, hr⟩

theorem Prepared.skip (hh : Prepared p start given fd ph fo h) :
    Leads p start given fd (.ok (), h) (Prepared p start given fd ph fo) :=
  ⟨fun _ => hh, hh.inOrder, hh.socket, hh.onSocket, hh.dropped, by simp⟩

theorem Prepared.setReuseaddr (hh : Prepared p start given fd ph fo h) :
    Leads p start given fd (Listen.setReuseaddr env fd h) (Prepared p start given fd ph fo) :=
  hh.leads rfl rfl (by cases env.setReuseaddr h fd <;> rfl) (fun _ => hh.phase)
    fun _ => hh.fastopen

theorem Prepared.bind {addr : SocketAddr} (hh : Prepared p start given fd ph fo h) :
    Leads p start given fd (Listen.bind env fd h addr) (Prepared p start given fd .bound fo) := by
  refine hh.leads rfl rfl ?_ (fun hr => ?_) fun _ => hh.fastopen
  · cases env.bind h fd addr <;> rfl
  · cases hb : env.bind h fd addr with
    | error e => rw [hb] at hr; cases hr
    | ok => rfl

theorem Prepared.listen {backlog : ℕ} (hh : Prepared p start given fd ph fo h) :
    Leads p start given fd (Listen.listen env fd h backlog)
      (Prepared p start given fd .listening fo) :=
  hh.leads rfl rfl (by cases env.listen h fd backlog <;> rfl) (fun hr => by rw [hr]; rfl)
    fun _ => hh.fastopen

theorem Prepared.setNonblocking (hh : Prepared p start given fd ph fo h) :
    Leads p start given fd (Listen.setNonblocking env fd h) (Prepared p start given fd ph fo) :=
  hh.leads rfl rfl (by cases env.setNonblocking h fd <;> rfl) (fun _ => hh.phase)
    fun _ => hh.fastopen

theorem Prepared.fromStd (hh : Prepared p start given fd ph fo h) :
    Leads p start given fd (Listen.fromStd env fd h) (Prepared p start given fd ph fo) :=
  hh.leads rfl rfl (by cases env.fromStd h fd <;> rfl) (fun _ => hh.phase) fun _ => hh.fastopen

theorem Prepared.setTcpFastopen (hh : Prepared p start given fd ph fo h)
    (ht : p.takes ph .tcpFastopen = true) :
    Leads p start given fd (setTcpFastopen p env fd h)
      (Prepared p start given fd ph (some p.fastopenValue)) := by
  refine hh.leads rfl ?_ ?_ (fun _ => hh.phase) fun hr => ?_
  · rw [setInOrder, hh.phase, ht, Bool.true_and]
  · cases env.setsockopt h fd .tcpFastopen <;> rfl
  · cases hs : env.setsockopt h fd .tcpFastopen with
    | error e => rw [hs] at hr; cases hr
    | ok => rfl

/-- A refusal of `TCP_FASTOPEN_FORCE_ENABLE` is no refusal. -/
theorem Prepared.setTcpFastopenForceEnable (hh : Prepared p start given fd ph fo h)
    (ht : p.takes ph .tcpFastopenForceEnable = true) :
    Prepared p start given fd ph fo (setTcpFastopenForceEnable env fd h).2 := by
  have ho : setInOrder p start (.setsockopt fd .tcpFastopenForceEnable 1
      (env.setsockopt h fd .tcpFastopenForceEnable) :: h) = setInOrder p start h := by
    rw [setInOrder, hh.phase, ht, Bool.true_and]
  exact (hh.leads (r := .ok ()) rfl ho rfl (fun _ => hh.phase) fun _ => hh.fastopen).ok rfl

/-! ## The constructors -/

theorem Enables.done (hh : Prepared p start given fd .listening (some p.fastopenValue) h) :
    Enables p start given (.returned (.ok ⟨fd⟩), h) where
  inOrder := hh.inOrder
  onSocket := hh.onSocket
  enabled l hl := by
    cases hl
    exact ⟨hh.socket, hh.phase, hh.fastopen⟩
  refused := hh.refusals
  drops := hh.dropped
  stops hn := absurd rfl (hn _)

theorem Enables.fromTokio (hh : Prepared p start given fd .listening fo h) :
    Enables p start given (TfoListener.fromTokio p env fd h) :=
  .orDrop (hh.setTcpFastopen (by cases p <;> rfl)) fun _ => .done

theorem Enables.fromStd (hh : Prepared p start given fd .listening fo h) :
    Enables p start given (TfoListener.fromStd p env fd h) :=
  .orDrop hh.setNonblocking fun _ hh => .orDrop hh.fromStd fun _ hh => .fromTokio hh

/-- On macOS `TCP_FASTOPEN` is set after `listen`, elsewhere before `bind`. -/
theorem Enables.bind (addr : SocketAddr) :
    Enables p .closed none (TfoListener.bind p env addr []) := by
  unfold TfoListener.bind Listen.newSocket
  cases hr : env.newSocket [] addr with
  | error e =>
    refine ⟨rfl, by simp [OnSocket, ListenEvent.on], by simp, rfl, rfl, fun _ => ?_⟩
    exact ⟨.failed e, _, _, rfl, rfl, rfl⟩
  | ok fd =>
    have h₀ : Prepared p .closed none fd .closed none [.newSocket addr (.ok fd)] :=
      ⟨rfl, rfl, by simp [OnSocket, ListenEvent.on], rfl, rfl, rfl, rfl⟩
    refine .orDrop (P := Prepared p .closed none fd .closed none) ?_ fun h₁ hh₁ => ?_
    · split
      · exact h₀.skip
      · exact h₀.setReuseaddr
    by_cases hp : p = .macOs
    · subst hp
      refine .orDrop (hh₁.setTcpFastopenForceEnable rfl).skip fun h₂ hh₂ => ?_
      refine .orDrop hh₂.bind fun h₃ hh₃ => .orDrop hh₃.listen fun h₄ hh₄ => ?_
      exact .orDrop (hh₄.setTcpFastopen rfl) fun _ => .done
    · simp only [if_neg hp]
      have ht : p.takes .closed .tcpFastopen = true := by
        cases p <;> first | rfl | exact absurd rfl hp
      refine .orDrop (hh₁.setTcpFastopen ht) fun h₂ hh₂ => ?_
      refine .orDrop hh₂.bind fun h₃ hh₃ => .orDrop hh₃.listen fun h₄ hh₄ => ?_
      exact .orDrop hh₄.skip fun _ => .done

end

/-- **A listener is made with TFO enabled, or not at all**, on every platform and with any
answers. -/
theorem listener_enabled (p : Platform) (env : ListenEnv) :
    (∀ addr, Enables p .closed none (TfoListener.bind p env addr [])) ∧
    (∀ fd, Enables p .listening (some fd) (TfoListener.fromStd p env fd [])) ∧
    ∀ fd, Enables p .listening (some fd) (TfoListener.fromTokio p env fd []) := by
  have h₀ : ∀ fd, Prepared p .listening (some fd) fd .listening none [] :=
    fun fd => ⟨rfl, rfl, by simp [OnSocket], rfl, rfl, rfl, rfl⟩
  exact ⟨.bind, fun fd => .fromStd (h₀ fd), fun fd => .fromTokio (h₀ fd)⟩

end TokioTfo
