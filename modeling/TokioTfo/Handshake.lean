/-
  The handshake machine: one machine for the three Unix modules.

  The modules differ in which opening state they start in and in what `Connected`
  means (`Profile`).  The machine has all five phases of the three modules on the
  stream option of the lazily connected ones, and each module is mapped into it by
  a `view` that commutes with every method (`UnixTcpStream`).  Runs of a module
  are therefore runs of the machine with the same history (`UnixTcpStream.run_view`).
-/
import TokioTfo.Sys.Linux
import TokioTfo.Sys.FreeBsd
import TokioTfo.Sys.MacOs
import TokioTfo.Stream

namespace TokioTfo

/-- What a Unix module decides. -/
structure Profile where
  /-- The errors of a write in `Connected` that send it back to `FastOpenConnecting`. -/
  retry : Error → Bool
  /-- `Connected` is left for `Established` by the first successful write. -/
  settles : Bool
  /-- The socket options are read through a temporary `Socket`. -/
  wraps : Bool
  /-- The flags of the opening `sendto`. -/
  flags : ℕ

inductive Phase (p : Profile) where
  | fastOpenConnect
  | fastOpenWrite
  | fastOpenConnecting
  | connected
  | established
  deriving DecidableEq

/-- Nothing has been sent yet. -/
def Phase.Opening {p : Profile} (ph : Phase p) : Prop := ph = .fastOpenConnect ∨ ph = .fastOpenWrite

/-- The handshake counts as completed. -/
def Phase.Completed {p : Profile} (ph : Phase p) : Prop := ph = .connected ∨ ph = .established

/-- The handshake machine. -/
abbrev Handshake (p : Profile) := LazyTcpStream (Phase p)

namespace Handshake

/-- One iteration of `poll_write`. -/
def pollWriteBody {p : Profile} (env : Env) (cx : Waker) (buf : Bytes)
    (x : Handshake p × Trace) :
    Loop.Step (Handshake p × Trace) (Outcome (Poll (Result ℕ))) :=
  match x.1.state with
  | .fastOpenConnect =>
    fastOpenConnect env cx buf p.flags .fastOpenConnecting .connected x.1 x.2
  | .fastOpenWrite =>
    x.1.withConnected x.2 (fastOpenWrite env cx buf .fastOpenWrite .fastOpenConnecting .connected)
  | .fastOpenConnecting =>
    x.1.withConnected x.2 (awaitConnect env cx .fastOpenConnecting .connected)
  | .connected =>
    if p.settles then
      x.1.withConnected x.2
        (firstWrite env cx buf p.retry .established .connected .fastOpenConnecting)
    else x.1.withConnected x.2 (delegate env cx buf .connected)
  | .established => x.1.withConnected x.2 (delegate env cx buf .established)

/-- The socket options, through a temporary `Socket` or on the tokio stream. -/
def socketApi {p : Profile} (env : Env) (op : SocketApi) (self : Handshake p) (h : Trace) :
    Outcome (Result SocketVal) × Trace :=
  if p.wraps then self.callSocketApi env op h else
  match self.asRawFd with
  | .returned fd =>
    let r := TokioTfo.socketApi env fd op h
    (.returned r.1, r.2)
  | .panicked q => (.panicked q, h)

end Handshake

instance (p : Profile) : SysTcpStream (Handshake p) where
  setWritable := LazyTcpStream.setWritable
  pollRead := LazyTcpStream.pollRead
  pollWriteBody := Handshake.pollWriteBody
  pollFlush := LazyTcpStream.pollFlush
  pollShutdown := LazyTcpStream.pollShutdown
  peerAddr := LazyTcpStream.peerAddr
  asRawFd := LazyTcpStream.asRawFd
  socketApi := Handshake.socketApi

/-! ## Modules that are views of the machine -/

/-- A Unix module: its profile, and a view of its streams that commutes with every method. -/
class UnixTcpStream (S : Type) [SysTcpStream S] where
  profile : Profile
  view : S → Handshake profile
  setWritable_view (s : S) :
    SysTcpStream.setWritable (view s) = (SysTcpStream.setWritable s).map view
  pollRead_view (env : Env) (cx : Waker) (room : ℕ) (x : S × Trace) :
    SysTcpStream.pollRead env cx room (Prod.map view id x) =
      ((SysTcpStream.pollRead env cx room x).1,
        Prod.map view id (SysTcpStream.pollRead env cx room x).2)
  body_view (env : Env) (cx : Waker) (buf : Bytes) (x : S × Trace) :
    SysTcpStream.pollWriteBody env cx buf (Prod.map view id x) =
      (SysTcpStream.pollWriteBody env cx buf x).map (Prod.map view id)
  pollFlush_view (env : Env) (s : S) :
    SysTcpStream.pollFlush env (view s) = SysTcpStream.pollFlush env s
  pollShutdown_view (env : Env) (s : S) :
    SysTcpStream.pollShutdown env (view s) = SysTcpStream.pollShutdown env s
  peerAddr_view (env : Env) (s : S) :
    SysTcpStream.peerAddr env (view s) = SysTcpStream.peerAddr env s
  asRawFd_view (s : S) : SysTcpStream.asRawFd (view s) = SysTcpStream.asRawFd s
  socketApi_view (env : Env) (op : SocketApi) (s : S) :
    SysTcpStream.socketApi env op (view s) = SysTcpStream.socketApi env op s

namespace UnixTcpStream

/-- The view of a public stream with its history. -/
def viewTfo {S : Type} [SysTcpStream S] [UnixTcpStream S] (x : TfoStream S × Trace) :
    TfoStream (Handshake (profile S)) × Trace :=
  (⟨view x.1.inner⟩, x.2)

variable {S : Type} [SysTcpStream S] [UnixTcpStream S] (env : Env)

theorem deliver_view (x : S × Trace) :
    deliver env (Prod.map view id x) = Prod.map view id (deliver env x) := by
  obtain ⟨s, h⟩ := x
  simp only [deliver, Prod.map_apply, id_eq, setWritable_view]
  cases SysTcpStream.setWritable s with
  | none => rfl
  | some s' => simp only [Option.map_some]; split <;> rfl

/-- **The loop bodies agree**: an iteration of the machine on the view is the view of an
iteration. -/
theorem iterate_view (cx : Waker) (buf : Bytes) (x : S × Trace) :
    iterate env cx buf (Prod.map view id x) = (iterate env cx buf x).map (Prod.map view id) := by
  rw [iterate, deliver_view]
  exact body_view env cx buf _

theorem performs_view_iff {c : Call} {x : S × Trace} {o : Outcome Ret}
    {y : Handshake (profile S) × Trace} : Performs env c (Prod.map view id x) o y ↔
      ∃ x', Performs env c x o x' ∧ Prod.map view id x' = y := by
  cases c with
  | pollWrite cx buf | pollWriteVectored cx bufs =>
    constructor
    · rintro ⟨r, hr, ho⟩
      obtain ⟨x', hr', rfl⟩ := (Loop.returns_map (iterate_view env _ _)).1 hr
      exact ⟨x', ⟨r, hr', ho⟩, rfl⟩
    · rintro ⟨x', ⟨r, hr, ho⟩, rfl⟩
      exact ⟨r, (Loop.returns_map (iterate_view env _ _)).2 ⟨x', hr, rfl⟩, ho⟩
  | pollRead cx room => simp [Performs, pollRead_view, and_assoc, eq_comm]
  | pollFlush cx => simp [Performs, pollFlush_view, and_assoc, eq_comm]
  | pollShutdown cx => simp [Performs, pollShutdown_view, and_assoc, eq_comm]
  | peerAddr => simp [Performs, peerAddr_view, and_assoc, eq_comm]
  | asRawFd => simp [Performs, asRawFd_view, and_assoc, eq_comm]
  | socketApi op => simp [Performs, socketApi_view, and_assoc, eq_comm]

theorem performs_view {c : Call} {x x' : S × Trace} {o : Outcome Ret} (h : Performs env c x o x') :
    Performs env c (Prod.map view id x) o (Prod.map view id x') :=
  (performs_view_iff env).2 ⟨x', h, rfl⟩

theorem step_view {x x' : TfoStream S × Trace} {l : Done} (h : (system S env).step x l x') :
    (system (Handshake (profile S)) env).step (viewTfo x) l (viewTfo x') := by
  obtain ⟨t, hp, hx'⟩ := h
  exact ⟨t, performs_view env hp, hx'⟩

/-- A step of the machine from the view of a stream is the view of a step. -/
theorem step_lift {x : TfoStream S × Trace} {l : Done}
    {y : TfoStream (Handshake (profile S)) × Trace}
    (h : (system (Handshake (profile S)) env).step (viewTfo x) l y) :
    ∃ x', (system S env).step x l x' ∧ viewTfo x' = y := by
  obtain ⟨t, hp, hy⟩ := h
  obtain ⟨⟨s, t'⟩, hp', he⟩ := (performs_view_iff env (x := (x.1.inner, _))).1 hp
  obtain ⟨hs, ht⟩ := Prod.mk.inj he
  refine ⟨(⟨s⟩, .ret l.call l.outcome :: t'), ⟨t', hp', rfl⟩, ?_⟩
  obtain ⟨⟨i⟩, u⟩ := y
  simp only at hs ht hy
  subst hs hy
  rw [viewTfo, show t' = t from ht]

/-- **A run of a module is a run of the machine** with the same calls, results and history. -/
theorem run_view {x₀ x : TfoStream S × Trace}
    {t : List (Lts.Taken (TfoStream S × Trace) Done)} (h : (system S env).Run x₀ t x) :
    (system (Handshake (profile S)) env).Run (viewTfo x₀) (t.map (Lts.Taken.map viewTfo))
      (viewTfo x) :=
  h.map fun _ _ _ => step_view env

/-- A call in progress is seen in progress, after the same number of iterations. -/
theorem midWrite_view {c : Call} {x : TfoStream S × Trace} {n : ℕ} {y : S × Trace}
    (h : MidWrite env c x n y) : MidWrite env c (viewTfo x) n (Prod.map view id y) := by
  obtain ⟨cx, buf, hc, h⟩ := h
  have hr := Loop.run_map (iterate_view env cx buf) n (x.1.inner, .call c :: x.2)
  rw [pollWrite] at h
  rw [h] at hr
  exact ⟨cx, buf, hc, hr⟩

theorem reached_view {x₀ : TfoStream S × Trace} {y : S × Trace} (h : Reached env x₀ y) :
    Reached env (viewTfo x₀) (Prod.map view id y) := by
  cases h with
  | between h => exact .between (run_view env h)
  | within h hm => exact .within (run_view env h) (midWrite_view env hm)

theorem moves_view {x y : S × Trace} (h : Moves env x y) :
    Moves env (Prod.map view id x) (Prod.map view id y) := by
  cases h with
  | @iterate cx buf x =>
    have hi := iterate_view env cx buf x
    have hs : Prod.map view id (iterate env cx buf x).state =
        (iterate env cx buf (Prod.map view id x)).state := by
      rw [hi]
      cases iterate env cx buf x <;> rfl
    rw [hs]
    exact .iterate
  | call hc hp => exact .call hc (performs_view env hp)

/-- The phase of a stream. -/
def phase (s : S) : Phase (profile S) := (view s).state

end UnixTcpStream

/-! ## Mapped states and histories

The branches do not look at the states they are given, and only ask the environment about the
history. -/

/-- The events that every Unix module records in the same way. -/
def Event.Plain : Event → Prop
  | sendto .. | socketApi .. => False
  | _ => True

/-- `env'` answers a history that `tr` has renamed as `env` answers the history itself. -/
structure Renames (env env' : Env) (tr : Trace → Trace) : Prop where
  cons : ∀ e h, e.Plain → tr (e :: h) = e :: tr h
  readEvent : ∀ h, env'.readEvent (tr h) = env.readEvent h
  writeEvent : ∀ h, env'.writeEvent (tr h) = env.writeEvent h
  send : ∀ h fd buf, env'.send (tr h) fd buf = env.send h fd buf
  takeError : ∀ h fd, env'.takeError (tr h) fd = env.takeError h fd
  fromStd : ∀ h fd, env'.fromStd (tr h) fd = env.fromStd h fd
  pollWriteReady : ∀ h fd, env'.pollWriteReady (tr h) fd = env.pollWriteReady h fd
  pollWrite : ∀ h fd buf, env'.pollWrite (tr h) fd buf = env.pollWrite h fd buf
  pollRead : ∀ h fd room, env'.pollRead (tr h) fd room = env.pollRead h fd room
  pollFlush : ∀ h fd, env'.pollFlush (tr h) fd = env.pollFlush h fd
  pollShutdown : ∀ h fd, env'.pollShutdown (tr h) fd = env.pollShutdown h fd
  peerAddr : ∀ h fd, env'.peerAddr (tr h) fd = env.peerAddr h fd

/-- The same for the opening `sendto`, of which `tr` changes the flags. -/
structure RenamesSendto (env env' : Env) (tr : Trace → Trace) (flags flags' : ℕ) : Prop where
  cons : ∀ fd buf addr r h,
    tr (.sendto fd buf flags addr r :: h) = .sendto fd buf flags' addr r :: tr h
  sendto : ∀ h fd buf addr, env'.sendto (tr h) fd buf flags' addr = env.sendto h fd buf flags addr

/-- A branch with its states and its histories mapped. -/
def Branch.rename {σ τ : Type} (f : σ → τ) (tr : Trace → Trace) (b : Branch σ) : Branch τ :=
  b.map fun x => ((f x.1.1, x.1.2), tr x.2)

namespace Renames
variable {σ τ : Type} {env env' : Env} {tr : Trace → Trace} (hr : Renames env env' tr) (cx : Waker)
  (buf : Bytes)

theorem refl (env : Env) : Renames env env id := by
  constructor <;> intros <;> rfl

include hr

theorem poll_write (s : TokioTcpStream) (h : Trace) :
    s.pollWrite env' cx buf (tr h) =
      Prod.map id (Prod.map id tr) (s.pollWrite env cx buf h) := by
  rw [TokioTcpStream.pollWrite, hr.pollWrite, TokioTcpStream.pollWrite]
  split <;> exact congrArg (fun t => (_, _, t)) (hr.cons (.pollWrite ..) h trivial).symm

theorem poll_write_ready (s : TokioTcpStream) (h : Trace) :
    s.pollWriteReady env' cx (tr h) = Prod.map id tr (s.pollWriteReady env cx h) := by
  simp only [TokioTcpStream.pollWriteReady, hr.pollWriteReady]
  exact congrArg (Prod.mk _) (hr.cons (.pollWriteReady ..) h trivial).symm

theorem queried (fd : Fd) (r : Result (Option Error)) (h : Trace) :
    tr (queried fd r h) = queried fd r (tr h) := by
  rw [TokioTfo.queried, hr.cons (.handle _) _ trivial, hr.cons (.takeError ..) _ trivial,
    hr.cons (.handle _) _ trivial]
  rfl

theorem socketTakeError (fd : Fd) (h : Trace) :
    socketTakeError env' fd (tr h) = Prod.map id tr (socketTakeError env fd h) := by
  have hq : env'.takeError (.handle (.fromRawFd fd) :: tr h) fd =
      env.takeError (.handle (.fromRawFd fd) :: h) fd := by
    rw [← hr.cons (.handle _) h trivial, hr.takeError]
  simp only [TokioTfo.socketTakeError, hq]
  exact congrArg (Prod.mk _) (hr.queried fd _ h).symm

theorem registered (fd : Fd) (h : Trace) : tr (registered fd h) = registered fd (tr h) := by
  rw [TokioTfo.registered, hr.cons (.fromStd ..) _ trivial, hr.cons (.handle _) _ trivial,
    hr.cons (.handle _) _ trivial]
  rfl

theorem notRegistered (fd : Fd) (e : Unregistered) (h : Trace) :
    tr (notRegistered fd e h) = notRegistered fd e (tr h) := by
  rw [TokioTfo.notRegistered, hr.cons (.handle _) _ trivial, hr.cons (.fromStd ..) _ trivial,
    hr.cons (.handle _) _ trivial, hr.cons (.handle _) _ trivial]
  rfl

theorem registerSocket (socket : TcpSocket) (h : Trace) :
    LazyTcpStream.registerSocket env' socket (tr h) =
      Prod.map id tr (LazyTcpStream.registerSocket env socket h) := by
  have hq :
      env'.fromStd (.handle (.fromRawFd socket.fd) :: .handle (.intoRawFd socket.fd) :: tr h)
        socket.fd =
      env.fromStd (.handle (.fromRawFd socket.fd) :: .handle (.intoRawFd socket.fd) :: h)
        socket.fd := by
    rw [← hr.cons (.handle _) h trivial, ← hr.cons (.handle _) _ trivial, hr.fromStd]
  rw [LazyTcpStream.registerSocket, TokioTcpStream.fromStd, hq, LazyTcpStream.registerSocket,
    TokioTcpStream.fromStd]
  split
  · exact congrArg (Prod.mk _) (hr.registered socket.fd h).symm
  · exact congrArg (Prod.mk _) (hr.notRegistered socket.fd _ h).symm

theorem wakeReader (reader : Option Waker) (h : Trace) :
    wakeReader reader cx (tr h) = tr (wakeReader reader cx h) := by
  unfold TokioTfo.wakeReader
  split
  · split
    · rfl
    · rw [hr.cons (.wake _) _ trivial]
  · rfl

theorem sendFirst (s : TokioTcpStream) (h : Trace) :
    sendFirst env' buf s (tr h) = Prod.map id (Prod.map id tr) (sendFirst env buf s h) := by
  simp only [TokioTfo.sendFirst, TokioTfo.send, hr.send, ← hr.cons (.send ..) _ trivial]
  cases env.send h s.fd buf with
  | ok n => rfl
  | error e => cases e <;> rfl

theorem tryIo (s : TokioTcpStream) (h : Trace) :
    s.tryIo false (TokioTfo.sendFirst env' buf s) (tr h) =
      Prod.map id (Prod.map id (Prod.map id tr))
        (s.tryIo false (TokioTfo.sendFirst env buf s) h) := by
  simp only [TokioTcpStream.tryIo, hr.sendFirst]
  split
  · obtain ⟨(e | n) | p, b, t⟩ := TokioTfo.sendFirst env buf s h
    · simp only [Prod.map_apply, id_eq]
      split <;> rfl
    · rfl
    · rfl
  · rfl

variable (f : σ → τ)

theorem delegate (a : σ) (s : TokioTcpStream) (h : Trace) :
    delegate env' cx buf (f a) s (tr h) = (delegate env cx buf a s h).rename f tr := by
  simp [TokioTfo.delegate, hr.poll_write, Branch.rename]

theorem firstWrite (retry : Error → Bool) (a b c : σ) (s : TokioTcpStream) (h : Trace) :
    firstWrite env' cx buf retry (f a) (f b) (f c) s (tr h) =
      (firstWrite env cx buf retry a b c s h).rename f tr := by
  rw [TokioTfo.firstWrite, hr.poll_write, TokioTfo.firstWrite]
  obtain ⟨(e | n) | _, s', t⟩ := s.pollWrite env cx buf h
  · simp only [Prod.map_apply, id_eq]
    split <;> rfl
  · rfl
  · rfl

theorem awaitConnect (a b : σ) (s : TokioTcpStream) (h : Trace) :
    awaitConnect env' cx (f a) (f b) s (tr h) = (awaitConnect env cx a b s h).rename f tr := by
  rw [TokioTfo.awaitConnect, hr.poll_write_ready, TokioTfo.awaitConnect]
  obtain ⟨(e | _) | _, t⟩ := s.pollWriteReady env cx h
  · rfl
  · simp only [Prod.map_apply, id_eq, hr.socketTakeError]
    obtain ⟨e | (_ | e), t⟩ := TokioTfo.socketTakeError env s.fd t <;> rfl
  · rfl

theorem fastOpenWrite (a b c : σ) (s : TokioTcpStream) (h : Trace) :
    fastOpenWrite env' cx buf (f a) (f b) (f c) s (tr h) =
      (fastOpenWrite env cx buf a b c s h).rename f tr := by
  rw [TokioTfo.fastOpenWrite, hr.poll_write_ready, TokioTfo.fastOpenWrite]
  obtain ⟨(e | _) | _, t⟩ := s.pollWriteReady env cx h
  · rfl
  · simp only [Prod.map_apply, id_eq, hr.tryIo]
    obtain ⟨(e | n) | p, isConnecting, s', t⟩ := s.tryIo false (TokioTfo.sendFirst env buf s) t
    · simp only [Prod.map_apply, id_eq]
      split
      · cases isConnecting <;> rfl
      · rfl
    · rfl
    · rfl
  · rfl

theorem fastOpenConnect {flags flags' : ℕ} (hs : RenamesSendto env env' tr flags flags') (a b : σ)
    (self : LazyTcpStream σ) (h : Trace) :
    fastOpenConnect env' cx buf flags' (f a) (f b) (self.mapState f) (tr h) =
      (fastOpenConnect env cx buf flags a b self h).map
        (Prod.map (LazyTcpStream.mapState f) tr) := by
  obtain ⟨st, o⟩ := self
  cases o with
  | connected s => rfl
  | empty => rfl
  | connecting socket addr reader =>
    have hsend : sendto env' socket.fd buf flags' addr (tr h) =
        Prod.map id tr (sendto env socket.fd buf flags addr h) := by
      rw [TokioTfo.sendto, hs.sendto, ← hs.cons]
      rfl
    simp only [TokioTfo.fastOpenConnect, LazyTcpStream.mapState, hsend]
    obtain ⟨e | n, t⟩ := sendto env socket.fd buf flags addr h
    · cases e with
      | EINPROGRESS =>
        simp only [Prod.map_apply, id_eq, hr.registerSocket]
        obtain ⟨e | s, t⟩ := LazyTcpStream.registerSocket env socket t
        · rfl
        · simp only [Prod.map_apply, id_eq, hr.wakeReader]
          rfl
      | _ => rfl
    · simp only [Prod.map_apply, id_eq, hr.registerSocket]
      obtain ⟨e | s, t⟩ := LazyTcpStream.registerSocket env socket t
      · rfl
      · simp only [Prod.map_apply, id_eq, hr.wakeReader]
        rfl

end Renames

theorem withConnected_rename {σ τ : Type} {tr : Trace → Trace} (f : σ → τ)
    (self : LazyTcpStream σ) (h : Trace)
    (k : TokioTcpStream → Trace → Branch σ) (k' : TokioTcpStream → Trace → Branch τ)
    (hk : ∀ s h, k' s (tr h) = (k s h).rename f tr) :
    (self.mapState f).withConnected (tr h) k' =
      (self.withConnected h k).map (Prod.map (LazyTcpStream.mapState f) tr) := by
  obtain ⟨st, o⟩ := self
  cases o with
  | connected s =>
    simp only [LazyTcpStream.withConnected, LazyTcpStream.mapState, hk, Branch.rename]
    cases k s h <;> rfl
  | connecting | empty => rfl

theorem RenamesSendto.refl (env : Env) (flags : ℕ) : RenamesSendto env env id flags flags :=
  ⟨fun _ _ _ _ _ => rfl, fun _ _ _ _ => rfl⟩

/-! ## The three modules -/

namespace Linux

def profile : Profile := ⟨fun _ => false, false, true, msgFastopen⟩

def phase : TcpStreamState → Phase profile
  | .connected => .connected
  | .fastOpenConnect => .fastOpenConnect
  | .fastOpenConnecting => .fastOpenConnecting
  | .fastOpenWrite => .fastOpenWrite

instance : UnixTcpStream TcpStream where
  profile := profile
  view := LazyTcpStream.mapState phase
  setWritable_view s := by obtain ⟨st, o⟩ := s; cases o <;> rfl
  pollRead_view env cx room x := by obtain ⟨⟨st, o⟩, h⟩ := x; cases o <;> rfl
  body_view env cx buf x := by
    obtain ⟨⟨st, o⟩, h⟩ := x
    cases st with
    | connected =>
      exact withConnected_rename phase ⟨.connected, o⟩ h _ _
        ((Renames.refl env).delegate cx buf phase .connected)
    | fastOpenConnect =>
      exact (Renames.refl env).fastOpenConnect cx buf phase (.refl env msgFastopen)
        .fastOpenConnecting .connected ⟨.fastOpenConnect, o⟩ h
    | fastOpenConnecting =>
      exact withConnected_rename phase ⟨.fastOpenConnecting, o⟩ h _ _
        ((Renames.refl env).awaitConnect cx phase .fastOpenConnecting .connected)
    | fastOpenWrite =>
      exact withConnected_rename phase ⟨.fastOpenWrite, o⟩ h _ _
        ((Renames.refl env).fastOpenWrite cx buf phase .fastOpenWrite .fastOpenConnecting
          .connected)
  pollFlush_view _ _ := rfl
  pollShutdown_view _ _ := rfl
  peerAddr_view _ _ := rfl
  asRawFd_view _ := rfl
  socketApi_view _ _ _ := rfl

end Linux

namespace FreeBsd

def profile : Profile := ⟨TcpStream.retry, true, true, 0⟩

def phase : TcpStreamState → Phase profile
  | .established => .established
  | .connected => .connected
  | .fastOpenConnect => .fastOpenConnect
  | .fastOpenConnecting => .fastOpenConnecting

instance : UnixTcpStream TcpStream where
  profile := profile
  view := LazyTcpStream.mapState phase
  setWritable_view s := by obtain ⟨st, o⟩ := s; cases o <;> rfl
  pollRead_view env cx room x := by obtain ⟨⟨st, o⟩, h⟩ := x; cases o <;> rfl
  body_view env cx buf x := by
    obtain ⟨⟨st, o⟩, h⟩ := x
    cases st with
    | established =>
      exact withConnected_rename phase ⟨.established, o⟩ h _ _
        ((Renames.refl env).delegate cx buf phase .established)
    | connected =>
      exact withConnected_rename phase ⟨.connected, o⟩ h _ _
        ((Renames.refl env).firstWrite cx buf phase TcpStream.retry .established .connected
          .fastOpenConnecting)
    | fastOpenConnect =>
      exact (Renames.refl env).fastOpenConnect cx buf phase (.refl env 0) .fastOpenConnecting
        .connected ⟨.fastOpenConnect, o⟩ h
    | fastOpenConnecting =>
      exact withConnected_rename phase ⟨.fastOpenConnecting, o⟩ h _ _
        ((Renames.refl env).awaitConnect cx phase .fastOpenConnecting .connected)
  pollFlush_view _ _ := rfl
  pollShutdown_view _ _ := rfl
  peerAddr_view _ _ := rfl
  asRawFd_view _ := rfl
  socketApi_view _ _ _ := rfl

end FreeBsd

namespace MacOs

/-- macOS does not call `sendto`. -/
def profile : Profile := ⟨TcpStream.retry, true, false, 0⟩

def phase : TcpStreamState → Phase profile
  | .established => .established
  | .connected => .connected
  | .fastOpenConnecting => .fastOpenConnecting
  | .fastOpenWrite => .fastOpenWrite

/-- A macOS stream is always connected to its tokio stream. -/
def view (self : TcpStream) : Handshake profile := ⟨phase self.state, .connected self.inner⟩

theorem withInner_view (s : TcpStream) (h : Trace)
    (k : TokioTcpStream → Trace → Branch TcpStreamState)
    (k' : TokioTcpStream → Trace → Branch (Phase profile))
    (hk : ∀ s h, k' s h = (k s h).rename phase id) :
    (view s).withConnected h k' = (TcpStream.withInner (s, h) k).map (Prod.map view id) := by
  simp only [LazyTcpStream.withConnected, view, hk, Branch.rename, TcpStream.withInner]
  cases k s.inner h <;> rfl

instance : UnixTcpStream TcpStream where
  profile := profile
  view := view
  setWritable_view _ := rfl
  pollRead_view _ _ _ _ := rfl
  body_view env cx buf x := by
    obtain ⟨⟨i, st⟩, h⟩ := x
    cases st with
    | established =>
      exact withInner_view ⟨i, .established⟩ h _ _
        ((Renames.refl env).delegate cx buf phase .established)
    | connected =>
      exact withInner_view ⟨i, .connected⟩ h _ _
        ((Renames.refl env).firstWrite cx buf phase TcpStream.retry .established .connected
          .fastOpenConnecting)
    | fastOpenConnecting =>
      exact withInner_view ⟨i, .fastOpenConnecting⟩ h _ _
        ((Renames.refl env).awaitConnect cx phase .fastOpenConnecting .connected)
    | fastOpenWrite =>
      exact withInner_view ⟨i, .fastOpenWrite⟩ h _ _
        ((Renames.refl env).fastOpenWrite cx buf phase .fastOpenWrite .fastOpenConnecting
          .connected)
  pollFlush_view _ _ := rfl
  pollShutdown_view _ _ := rfl
  peerAddr_view _ _ := rfl
  asRawFd_view _ := rfl
  socketApi_view _ _ _ := rfl

end MacOs

end TokioTfo
