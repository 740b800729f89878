/-
  The streams a run starts with: the clients made by `connect_with_socket`, and the
  streams made from a tokio stream.

  The Unix modules start in the same two ways (`Handshake.Opening`): before
  `sendto`, with the socket not registered yet, or before the first `send`, with
  the socket registered.
-/
import TokioTfo.Sys.Calls

namespace TokioTfo

/-- The constructors of a module. -/
class SysConnect (S : Type) where
  /-- `connect_with_socket` has returned the stream, and made the calls in the history. -/
  Connects : Env → S × Trace → Prop
  /-- `From<TokioTcpStream>`. -/
  ofTokio : TokioTcpStream → S

section
variable {S : Type} [SysConnect S]

/-- A client stream, as `connect_with_socket` returns it. -/
def Client (env : Env) (x : TfoStream S × Trace) : Prop :=
  SysConnect.Connects env (x.1.inner, x.2)

/-- A stream made from the tokio stream `s`. -/
def FromTokio (s : TokioTcpStream) (x : TfoStream S × Trace) : Prop :=
  x = (.ofTokio SysConnect.ofTokio s, [])

/-- A stream as one of the constructors returns it. -/
def Started (env : Env) (x : TfoStream S × Trace) : Prop :=
  Client env x ∨ ∃ s, FromTokio s x

end

instance : SysConnect Linux.TcpStream where
  Connects env y := ∃ support socket addr support',
    Linux.TcpStream.connectWithSocket env support socket addr [] =
      (.returned (.ok y.1), support', y.2)
  ofTokio := Linux.TcpStream.ofTokio

instance : SysConnect FreeBsd.TcpStream where
  Connects env y := ∃ socket addr,
    FreeBsd.TcpStream.connectWithSocket env socket addr [] = (.returned (.ok y.1), y.2)
  ofTokio := FreeBsd.TcpStream.ofTokio

instance : SysConnect MacOs.TcpStream where
  Connects env y := ∃ socket addr,
    MacOs.TcpStream.connectWithSocket env socket addr [] = (.returned (.ok y.1), y.2)
  ofTokio := MacOs.TcpStream.ofTokio

instance : SysConnect Windows.TcpStream where
  Connects env y := ∃ socket addr,
    Windows.TcpStream.connectWithSocket env socket addr [] = (.returned (.ok y.1), y.2)
  ofTokio := Windows.TcpStream.ofTokio

/-! ## What the constructors have done -/

namespace Handshake
variable {p : Profile}

/-- A client stream of the handshake machine. -/
inductive Opening : Handshake p × Trace → Prop
  | fastOpenConnect {socket : TcpSocket} {addr : SocketAddr} {h : Trace} : (∀ e ∈ h, e.Setup) →
      Opening (⟨.fastOpenConnect, .connecting socket addr none⟩, h)
  | fastOpenWrite {s : TokioTcpStream} {h : Trace} : (∀ e ∈ h, e.Setup) →
      Opening (⟨.fastOpenWrite, .connected s⟩, h)

theorem Opening.setup {x : Handshake p × Trace} (h : Opening x) : ∀ e ∈ x.2, e.Setup := by
  cases h with
  | fastOpenConnect hh | fastOpenWrite hh => exact hh

end Handshake

/-- The constructors of a Unix module, seen in the handshake machine. -/
class UnixConnect (S : Type) [SysTcpStream S] [SysConnect S] [UnixTcpStream S] : Prop where
  opening {env : Env} {x : TfoStream S × Trace} (h : Client env x) :
    Handshake.Opening (UnixTcpStream.view x.1.inner, x.2)
  ofTokio (s : TokioTcpStream) :
    UnixTcpStream.view (SysConnect.ofTokio s : S) = ⟨.connected, .connected s⟩

instance : UnixConnect Linux.TcpStream where
  opening {env x} h := by
    obtain ⟨⟨s⟩, t⟩ := x
    obtain ⟨support, socket, addr, support', h⟩ := h
    simp only [Linux.TcpStream.connectWithSocket, setsockopt, TcpSocket.connect] at h
    cases support with
    | false => cases h; exact .fastOpenConnect (by simp)
    | true =>
      cases hs : env.setsockopt [] socket.fd .tcpFastopenConnect with
      | error e =>
        rw [hs] at h
        by_cases he : e = .ENOPROTOOPT
        · subst he
          cases h
          exact .fastOpenConnect (by simp [Event.Setup])
        · simp at h
      | ok =>
        rw [hs] at h
        simp only [if_true] at h
        split at h
        · rename_i hc
          split at hc
          · cases hc; cases h
            exact .fastOpenWrite (by simp [Event.Setup])
          · cases hc
        · exact absurd (Prod.mk.inj h).1 (Unregistered.outcome_ne_ok _ _)
  ofTokio _ := rfl

instance : UnixConnect FreeBsd.TcpStream where
  opening {env x} h := by
    obtain ⟨⟨s⟩, t⟩ := x
    obtain ⟨socket, addr, h⟩ := h
    simp only [FreeBsd.TcpStream.connectWithSocket, setsockopt] at h
    cases hs : env.setsockopt [] socket.fd .tcpFastopen with
    | error e => rw [hs] at h; cases h
    | ok =>
      rw [hs] at h
      cases h
      exact .fastOpenConnect (by simp [Event.Setup])
  ofTokio _ := rfl

instance : UnixConnect MacOs.TcpStream where
  opening {env x} h := by
    obtain ⟨⟨s⟩, t⟩ := x
    obtain ⟨socket, addr, h⟩ := h
    simp only [MacOs.TcpStream.connectWithSocket, setsockopt] at h
    split at h
    · cases h
    · rename_i hc
      rw [hc] at h
      rcases registerSocket_cases env socket (.connectx socket.fd addr (.ok ()) ::
          [.setsockopt socket.fd .tcpFastopenForceEnable
            (env.setsockopt [] socket.fd .tcpFastopenForceEnable)]) with hr | ⟨e, -, hr⟩
      · rw [hr] at h
        cases h
        exact .fastOpenWrite (by simp [registered, Event.Setup])
      · rw [hr] at h
        exact absurd (Prod.mk.inj h).1 (Unregistered.outcome_ne_ok _ _)
  ofTokio _ := rfl

theorem Windows.opening {env : Env} {x : TfoStream Windows.TcpStream × Trace} (h : Client env x) :
    ∃ socket addr, x.1.inner = ⟨.fastOpenConnect, .connecting socket addr none⟩ ∧
      ∀ e ∈ x.2, e.Setup := by
  obtain ⟨⟨s⟩, t⟩ := x
  obtain ⟨socket, addr, h⟩ := h
  refine ⟨socket, addr, ?_⟩
  simp only [TcpStream.connectWithSocket, setsockopt] at h
  cases hs : env.setsockopt [] socket.fd .tcpFastopen with
  | error e => rw [hs] at h; cases h
  | ok =>
    rw [hs] at h
    simp only at h
    split at h
    · cases h
      exact ⟨rfl, by simp [Event.Setup]⟩
    · split at h
      · cases h
        exact ⟨rfl, by simp [Event.Setup]⟩
      · cases h

/-! ## The history at the start -/

section
variable {α : Type} {f : Trace → α} {env : Env}

theorem started_unix {S : Type} [SysTcpStream S] [SysConnect S] [UnixTcpStream S] [UnixConnect S]
    (hf : IgnoresIdle f) {x : TfoStream S × Trace} (h : Started env x) : f x.2 = f [] := by
  rcases h with h | ⟨s, rfl⟩
  · exact hf.setup (UnixConnect.opening h).setup
  · rfl

theorem started_windows (hf : IgnoresIdle f) {x : TfoStream Windows.TcpStream × Trace}
    (h : Started env x) : f x.2 = f [] := by
  rcases h with h | ⟨s, rfl⟩
  · obtain ⟨_, _, _, hh⟩ := Windows.opening h
    exact hf.setup hh
  · rfl

end

/-! ## A client of each module

Each is connecting the socket `0` to the address `0.0.0.0:0`; nothing has been answered yet but the
calls of the constructor, all with success. -/

section
variable {env : Env}

/-- A client that falls back to `sendto`. -/
def Linux.client : TfoStream Linux.TcpStream × Trace :=
  (⟨⟨.fastOpenConnect, .connecting ⟨0⟩ (.v4 0 0) none⟩⟩, [])

theorem Linux.client_connects : Client env Linux.client :=
  ⟨false, ⟨0⟩, .v4 0 0, false, rfl⟩

/-- A client whose socket is registered, and ready for the first `send`. -/
def Linux.fastClient : TfoStream Linux.TcpStream × Trace :=
  (⟨⟨.fastOpenWrite, .connected ⟨0, true⟩⟩⟩, [.connect 0 (.v4 0 0) (.ok ()),
    .setsockopt 0 .tcpFastopenConnect (.ok ())])

theorem Linux.fastClient_connects (h₁ : env.setsockopt = (default : Env).setsockopt)
    (h₂ : env.connect = (default : Env).connect) : Client env Linux.fastClient :=
  ⟨true, ⟨0⟩, .v4 0 0, true, by
    simp only [TcpStream.connectWithSocket, setsockopt, TcpSocket.connect, h₁, h₂]; rfl⟩

def FreeBsd.client : TfoStream FreeBsd.TcpStream × Trace :=
  (⟨⟨.fastOpenConnect, .connecting ⟨0⟩ (.v4 0 0) none⟩⟩, [.setsockopt 0 .tcpFastopen (.ok ())])

theorem FreeBsd.client_connects (h : env.setsockopt = (default : Env).setsockopt) :
    Client env FreeBsd.client :=
  ⟨⟨0⟩, .v4 0 0, by simp only [TcpStream.connectWithSocket, setsockopt, h]; rfl⟩

def MacOs.client : TfoStream MacOs.TcpStream × Trace :=
  (⟨⟨⟨0, false⟩, .fastOpenWrite⟩⟩, registered 0 [.connectx 0 (.v4 0 0) (.ok ()),
    .setsockopt 0 .tcpFastopenForceEnable (.ok ())])

theorem MacOs.client_connects (h₁ : env.setsockopt = (default : Env).setsockopt)
    (h₂ : env.connectx = (default : Env).connectx) (h₃ : env.fromStd = (default : Env).fromStd) :
    Client env MacOs.client :=
  ⟨⟨0⟩, .v4 0 0, by
    simp only [TcpStream.connectWithSocket, setsockopt, LazyTcpStream.registerSocket,
      TokioTcpStream.fromStd, h₁, h₂, h₃]; rfl⟩

def Windows.client : TfoStream Windows.TcpStream × Trace :=
  (⟨⟨.fastOpenConnect, .connecting ⟨0⟩ (.v4 0 0) none⟩⟩,
    [.bind 0 (.ok ()), .setsockopt 0 .tcpFastopen (.ok ())])

theorem Windows.client_connects (h₁ : env.setsockopt = (default : Env).setsockopt)
    (h₂ : env.bind = (default : Env).bind) : Client env Windows.client :=
  ⟨⟨0⟩, .v4 0 0, by simp only [TcpStream.connectWithSocket, setsockopt, h₁, h₂]; rfl⟩

end

/-- The opening call is in progress, and the socket becomes writable when the next call begins. -/
def slowHandshake : Env :=
  { (default : Env) with
    writeEvent := fun h => match h with
      | .call _ :: _ => true
      | _ => false
    sendto := fun _ _ _ _ _ => .error .EINPROGRESS
    send := fun _ _ _ => .error .EINPROGRESS
    connectEx := fun _ _ _ _ _ => .error .WSA_IO_PENDING
    getOverlappedResult := fun _ _ _ => .ok 3 }

/-- A write, and the same again when it has been woken. -/
def twoWrites : List Call := [.pollWrite ⟨1, 1⟩ [1, 2, 3], .pollWrite ⟨1, 1⟩ [1, 2, 3]]

end TokioTfo
