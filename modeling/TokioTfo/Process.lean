/-
  A process with any number of listeners and streams.

  A step is one call, on one of the live objects or to make one, in any order; each is
  answered by an environment of its own choice, so the steps range over all answers.
  The log of a process is the list of the moves of handles.  Of the kernel it is
  assumed that it issues no handle that is open.

  `process_handles`: the log can be replayed, so no handle is used or closed after it
  was closed, or closed under another owner; and in every state the open handles are
  those of the live objects, each of which has its own.
-/
import TokioTfo.FromSocket
import TokioTfo.Listener
import TokioTfo.Handles

namespace TokioTfo

/-! ## The listeners -/

/-- The move that a call of a constructor makes. -/
def ListenEvent.handleMove : ListenEvent → Option (HandleTable.Move Fd)
  | newSocket _ (.ok fd) => some (.issue fd)
  | newSocket _ (.error _) => none
  | drop fd => some (.close fd)
  | setReuseaddr fd _ | setsockopt fd .. | bind fd .. | listen fd .. | setNonblocking fd _
  | fromStd fd _ => some (.use fd)

/-- The same for the calls that make a listener. -/
abbrev ListenMoved (x y : Option Fd × ListenTrace) : Prop :=
  HandleTable.Logged ListenEvent.handleMove x y

/-- The handle that a listener, if one was made, owns. -/
def listenOwner : Outcome (Result TfoListener) → Option Fd
  | .returned (.ok l) => some l.fd
  | .returned (.error _) | .panicked _ => none

theorem listenOwner_outcome (u : Unregistered) : listenOwner u.outcome = none := by
  cases u <;> rfl

section
variable {p : Platform} {env : ListenEnv} {fd : Fd} {h h' : ListenTrace}

/-- The rest of a constructor after a call that uses the socket, or its end. -/
theorem ListenMoved.orDrop {x : Except Unregistered Unit × ListenTrace}
    {k : ListenTrace → Outcome (Result TfoListener) × ListenTrace}
    (hx : ListenMoved (some fd, h) (some fd, x.2))
    (hk : ∀ h', ListenMoved (some fd, h) (some fd, h') →
      ListenMoved (some fd, h) (listenOwner (k h').1, (k h').2)) :
    ListenMoved (some fd, h) (listenOwner (orDrop fd x k).1, (orDrop fd x k).2) := by
  obtain ⟨u | ⟨⟩, h'⟩ := x
  · show ListenMoved (some fd, h) (listenOwner u.outcome, .drop fd :: h')
    rw [listenOwner_outcome]
    exact hx.trans (.close rfl)
  · exact hk h' hx

theorem ListenMoved.use (hh : ListenMoved (some fd, h) (some fd, h')) {e : ListenEvent}
    (he : e.handleMove = some (.use fd)) : ListenMoved (some fd, h) (some fd, e :: h') :=
  hh.trans (.use he)

variable (p env)

theorem ListenMoved.fromTokio (hh : ListenMoved (some fd, h) (some fd, h')) :
    ListenMoved (some fd, h) (listenOwner (TfoListener.fromTokio p env fd h').1,
      (TfoListener.fromTokio p env fd h').2) :=
  .orDrop (hh.use rfl) fun _ hh => hh

theorem ListenMoved.fromStd (hh : ListenMoved (some fd, h) (some fd, h')) :
    ListenMoved (some fd, h) (listenOwner (TfoListener.fromStd p env fd h').1,
      (TfoListener.fromStd p env fd h').2) :=
  .orDrop (hh.use rfl) fun _ hh => .orDrop (hh.use rfl) fun _ hh => .fromTokio p env hh

/-- `bind` closes the socket it has made, or gives it to the listener. -/
theorem ListenMoved.bind (addr : SocketAddr) :
    match env.newSocket [] addr with
    | .ok fd => ListenMoved (some fd, [.newSocket addr (.ok fd)])
      (listenOwner (TfoListener.bind p env addr []).1, (TfoListener.bind p env addr []).2)
    | .error e => TfoListener.bind p env addr [] =
      (.returned (.error e), [.newSocket addr (.error e)]) := by
  unfold TfoListener.bind Listen.newSocket
  cases hr : env.newSocket [] addr with
  | error e => rfl
  | ok fd =>
    refine .orDrop ?_ fun h₁ hh₁ => .orDrop ?_ fun h₂ hh₂ => .orDrop (hh₂.use rfl) fun h₃ hh₃ =>
      .orDrop (hh₃.use rfl) fun h₄ hh₄ => .orDrop ?_ fun _ hh => hh
    · split
      · exact .refl _
      · exact ListenMoved.use (.refl _) rfl
    · split
      · exact hh₁.use rfl
      · exact hh₁.use rfl
    · split
      · exact hh₄.use rfl
      · exact hh₄

end

/-! ## The sockets that `connect` makes -/

/-- The `connect` of a module. -/
class SysConnectTo (S : Type) [SysHandles S] where
  /-- `connect` has returned the result and made the calls in the history. -/
  ConnectsTo : Env → SocketAddr → Outcome (Result S) → Trace → Prop
  /-- It is `connect_with_socket` on a new socket, unless there is none. -/
  connectsTo {env : Env} {addr : SocketAddr} {r : Outcome (Result S)} {h : Trace} :
    ConnectsTo env addr r h → match env.newSocket [] addr with
      | .ok fd => SysHandles.Constructs env fd r h
      | .error e => r = .returned (.error e) ∧ h = []

instance : SysConnectTo Linux.TcpStream where
  ConnectsTo env addr r h := ∃ support support',
    Linux.TcpStream.connect env support addr [] = (r, support', h)
  connectsTo {env addr r h} hc := by
    obtain ⟨support, support', hc⟩ := hc
    rw [Linux.TcpStream.connect, TcpSocket.new] at hc
    cases hs : env.newSocket [] addr with
    | error e =>
      rw [hs] at hc
      cases hc
      exact ⟨rfl, rfl⟩
    | ok fd =>
      rw [hs] at hc
      exact ⟨support, addr, support', hc⟩

/-- `connect` is `k` on a new socket. -/
theorem connect_cases {S : Type} {env : Env} {addr : SocketAddr} {r : Outcome (Result S)}
    {h : Trace} {k : TcpSocket → Outcome (Result S) × Trace} {P : Fd → Prop}
    (hc : (match TcpSocket.new env addr [] with
      | .ok socket => k socket
      | .error err => (.returned (.error err), [])) = (r, h))
    (hk : ∀ socket, k socket = (r, h) → P socket.fd) :
    match env.newSocket [] addr with
    | .ok fd => P fd
    | .error e => r = .returned (.error e) ∧ h = [] := by
  rw [TcpSocket.new] at hc
  cases hs : env.newSocket [] addr with
  | error e =>
    rw [hs] at hc
    cases hc
    exact ⟨rfl, rfl⟩
  | ok fd =>
    rw [hs] at hc
    exact hk ⟨fd⟩ hc

instance : SysConnectTo FreeBsd.TcpStream where
  ConnectsTo env addr r h := FreeBsd.TcpStream.connect env addr [] = (r, h)
  connectsTo hc := connect_cases hc fun _ hk => ⟨_, hk⟩

instance : SysConnectTo MacOs.TcpStream where
  ConnectsTo env addr r h := MacOs.TcpStream.connect env addr [] = (r, h)
  connectsTo hc := connect_cases hc fun _ hk => ⟨_, hk⟩

instance : SysConnectTo Windows.TcpStream where
  ConnectsTo env addr r h := Windows.TcpStream.connect env addr [] = (r, h)
  connectsTo hc := connect_cases hc fun _ hk => ⟨_, hk⟩

/-! ## The process -/

/-- What a process holds: listeners, and streams with their histories. -/
inductive Object (S : Type) where
  | listener (l : TfoListener)
  | stream (x : TfoStream S × Trace)

/-- The handle that an object owns. -/
def Object.handle {S : Type} [SysHandles S] : Object S → Option Fd
  | listener l => some l.fd
  | stream x => SysHandles.handle x.1.inner

/-- The objects that live, and the moves of handles so far, the newest first. -/
structure Process (S : Type) where
  live : List (Object S)
  log : List (HandleTable.Move Fd)

/-- A call of the process, with its result. -/
inductive Op (S : Type) where
  | bind (addr : SocketAddr) (r : Outcome (Result TfoListener))
  | fromStd (r : Outcome (Result TfoListener))
  | fromTokio (r : Outcome (Result TfoListener))
  | connect (addr : SocketAddr) (r : Outcome (Result S))
  | connectWithSocket (r : Outcome (Result S))
  | ofTokio (s : TokioTcpStream)
  | accept (r : Outcome (Poll (Result (TfoStream S × SocketAddr))))
  | call (l : Done)
  | drop

namespace Process
variable {S : Type}

/-- The process before its first call. -/
def start : Process S := ⟨[], []⟩

/-- The kernel's table of handles, from which the log is replayed. -/
def table (x : Process S) : Option (HandleTable Fd) := HandleTable.replay (fun _ => none) x.log

/-- The kernel can issue the handle: it is not open. -/
def Free (x : Process S) (fd : Fd) : Prop := ∃ t, x.table = some t ∧ t fd = none

variable [SysTcpStream S] [SysConnect S] [SysHandles S]

/-- The listener that a constructor has made, if it has. -/
def listeners : Outcome (Result TfoListener) → List (Object S)
  | .returned (.ok l) => [.listener l]
  | .returned (.error _) | .panicked _ => []

/-- The stream that a constructor has made, with the calls it has made. -/
def streams (h : Trace) : Outcome (Result S) → List (Object S)
  | .returned (.ok s) => [.stream (⟨s⟩, h)]
  | .returned (.error _) | .panicked _ => []

variable [SysConnectTo S]

/-- One call of the process. -/
inductive Step (p : Platform) : Process S → Op S → Process S → Prop
  /-- `TfoListener::bind`, with its own socket. -/
  | bind {x : Process S} {env : ListenEnv} {addr : SocketAddr} :
      (∀ fd, env.newSocket [] addr = .ok fd → x.Free fd) →
      Step p x (.bind addr (TfoListener.bind p env addr []).1)
        ⟨listeners (TfoListener.bind p env addr []).1 ++ x.live,
          (TfoListener.bind p env addr []).2.filterMap ListenEvent.handleMove ++ x.log⟩
  /-- `TfoListener::from_std` and `from_tokio`, given a listener of the user's. -/
  | fromStd {x : Process S} {env : ListenEnv} {fd : Fd} : x.Free fd →
      Step p x (.fromStd (TfoListener.fromStd p env fd []).1)
        ⟨listeners (TfoListener.fromStd p env fd []).1 ++ x.live,
          (TfoListener.fromStd p env fd []).2.filterMap ListenEvent.handleMove ++
            .issue fd :: x.log⟩
  | fromTokio {x : Process S} {env : ListenEnv} {fd : Fd} : x.Free fd →
      Step p x (.fromTokio (TfoListener.fromTokio p env fd []).1)
        ⟨listeners (TfoListener.fromTokio p env fd []).1 ++ x.live,
          (TfoListener.fromTokio p env fd []).2.filterMap ListenEvent.handleMove ++
            .issue fd :: x.log⟩
  /-- `TfoStream::connect`, with its own socket. -/
  | connect {x : Process S} {env : Env} {addr : SocketAddr} {r : Outcome (Result S)} {h : Trace} :
      (∀ fd, env.newSocket [] addr = .ok fd → x.Free fd) →
      SysConnectTo.ConnectsTo env addr r h →
      Step p x (.connect addr r)
        ⟨streams h r ++ x.live, h.filterMap Event.handleMove ++
          ((env.newSocket [] addr).toOption.toList.map .issue ++ x.log)⟩
  /-- `TfoStream::connect_with_socket`, given a socket. -/
  | connectWithSocket {x : Process S} {env : Env} {fd : Fd} {r : Outcome (Result S)} {h : Trace} :
      x.Free fd → SysHandles.Constructs env fd r h →
      Step p x (.connectWithSocket r)
        ⟨streams h r ++ x.live, h.filterMap Event.handleMove ++ .issue fd :: x.log⟩
  /-- `From<TokioTcpStream>`. -/
  | ofTokio {x : Process S} {s : TokioTcpStream} : x.Free s.fd →
      Step p x (.ofTokio s)
        ⟨.stream (.ofTokio SysConnect.ofTokio s, []) :: x.live, .issue s.fd :: x.log⟩
  /-- `TfoListener::poll_accept`, that of one of the listeners. -/
  | accept {x : Process S} {l : TfoListener} {env : Env} {h : Trace} {s : TfoStream S}
      {peer : SocketAddr} : .listener l ∈ x.live →
      TfoListener.pollAccept SysConnect.ofTokio env h = .returned (.ready (.ok (s, peer))) →
      (∀ fd ∈ SysHandles.handle s.inner, x.Free fd) →
      Step p x (.accept (.returned (.ready (.ok (s, peer)))))
        ⟨.stream (s, []) :: x.live,
          (SysHandles.handle s.inner).toList.map .issue ++ .use l.fd :: x.log⟩
  | acceptNone {x : Process S} {l : TfoListener} {env : Env} {h : Trace}
      {r : Outcome (Poll (Result (TfoStream S × SocketAddr)))} : .listener l ∈ x.live →
      TfoListener.pollAccept SysConnect.ofTokio env h = r →
      (∀ a, r ≠ .returned (.ready (.ok a))) →
      Step p x (.accept r) ⟨x.live, .use l.fd :: x.log⟩
  /-- A call of one of the streams. -/
  | call {pre post : List (Object S)} {log : List (HandleTable.Move Fd)} {env : Env}
      {y y' : TfoStream S × Trace} {es : Trace} {l : Done} :
      (system S env).step y l y' → y'.2 = es ++ y.2 →
      Step p ⟨pre ++ .stream y :: post, log⟩ (.call l)
        ⟨pre ++ .stream y' :: post, es.filterMap Event.handleMove ++ log⟩
  /-- An object is dropped: what it owns is closed. -/
  | drop {pre post : List (Object S)} {log : List (HandleTable.Move Fd)} {o : Object S} :
      Step p ⟨pre ++ o :: post, log⟩ .drop ⟨pre ++ post, o.handle.toList.map .close ++ log⟩

/-- The process, as a system. -/
def lts (S : Type) [SysTcpStream S] [SysConnect S] [SysHandles S] [SysConnectTo S] (p : Platform) :
    Lts (Process S) (Op S) := ⟨Step p⟩

/-! ## Handles -/

/-- The handles of the live objects. -/
def handles (live : List (Object S)) : List Fd := live.filterMap Object.handle

/-- The open handles are those of the live objects, each of which has its own. -/
structure Sound (x : Process S) : Prop where
  table : x.table = some (HandleTable.owned (handles x.live))
  nodup : (handles x.live).Nodup

section
omit [SysTcpStream S] [SysConnect S] [SysConnectTo S]
open HandleTable (Transfers)

theorem handles_perm (pre post : List (Object S)) (o : Object S) :
    (handles (pre ++ o :: post)).Perm (o.handle.toList ++ handles (pre ++ post)) := by
  have : handles (pre ++ o :: post) = handles pre ++ (o.handle.toList ++ handles post) := by
    rw [handles, List.filterMap_append, List.filterMap_cons]
    cases o.handle <;> rfl
  have hrest : handles (pre ++ post) = handles pre ++ handles post := List.filterMap_append
  rw [this, hrest, ← List.append_assoc, ← List.append_assoc]
  exact List.perm_append_comm.append_right _

theorem Sound.not_mem {x : Process S} (hx : Sound x) {fd : Fd} (hf : x.Free fd) :
    fd ∉ handles x.live := by
  obtain ⟨t, ht, hn⟩ := hf
  rw [hx.table] at ht
  cases ht
  simpa [HandleTable.owned] using hn

variable {live live' : List (Object S)} {log ms : List (HandleTable.Move Fd)} {o o' : Option Fd}

/-- The moves of one of the owners. -/
theorem Sound.owner {rest : List Fd} (hx : Sound ⟨live, log⟩)
    (hl : (handles live).Perm (o.toList ++ rest)) (hl' : (handles live').Perm (o'.toList ++ rest))
    (ht : Transfers o o' ms) : Sound ⟨live', ms ++ log⟩ := by
  obtain ⟨hr, hn⟩ := HandleTable.replay_owned (hl.nodup_iff.1 hx.nodup) ht
  refine ⟨?_, hl'.nodup_iff.2 hn⟩
  have hlog : HandleTable.replay (fun _ => none) log = some (HandleTable.owned (handles live)) :=
    hx.table
  rw [Process.table, HandleTable.replay_append, hlog, Option.bind_some,
    HandleTable.owned_perm hl, hr, HandleTable.owned_perm hl']

/-- A new owner. -/
theorem Sound.issued {fd : Fd} (hx : Sound ⟨live, log⟩) (hf : fd ∉ handles live)
    (hl' : (handles live').Perm (o'.toList ++ handles live)) (ht : Transfers (some fd) o' ms) :
    Sound ⟨live', ms ++ .issue fd :: log⟩ := by
  obtain ⟨hr, hn⟩ := HandleTable.replay_issued hf hx.nodup ht
  refine ⟨?_, hl'.nodup_iff.2 hn⟩
  have hlog : HandleTable.replay (fun _ => none) log = some (HandleTable.owned (handles live)) :=
    hx.table
  rw [Process.table, List.append_cons, HandleTable.replay_append, hlog, Option.bind_some, hr,
    HandleTable.owned_perm hl']

theorem handles_listeners (r : Outcome (Result TfoListener)) (live : List (Object S)) :
    handles (listeners r ++ live) = (listenOwner r).toList ++ handles live := by
  rcases r with (e | l) | q <;> rfl

theorem handles_streams (h : Trace) (r : Outcome (Result S)) (live : List (Object S)) :
    handles (streams h r ++ live) = (owner r).toList ++ handles live := by
  rcases r with (e | s) | q
  · rfl
  · have ho : (Object.stream (⟨s⟩, h)).handle = SysHandles.handle s := rfl
    rw [handles, streams, List.singleton_append, List.filterMap_cons, ho, owner]
    cases SysHandles.handle s <;> rfl
  · rfl

theorem handles_stream (x : TfoStream S × Trace) (live : List (Object S)) :
    handles (.stream x :: live) = (SysHandles.handle x.1.inner).toList ++ handles live :=
  handles_streams x.2 (.returned (.ok x.1.inner)) live

/-- A listener is asked. -/
theorem Sound.ask {x : Process S} (hx : Sound x) {l : TfoListener} (hl : .listener l ∈ x.live) :
    Sound ⟨x.live, .use l.fd :: x.log⟩ := by
  obtain ⟨pre, post, hs⟩ := List.append_of_mem hl
  have hp : (handles x.live).Perm ((some l.fd).toList ++ handles (pre ++ post)) := by
    rw [hs]
    exact handles_perm pre post (.listener l)
  exact hx.owner hp hp (.keep HandleTable.Takes.nil.use)

end

variable [MovesHandles S] {p : Platform}

/-- **Every call of the process** keeps it sound. -/
theorem Sound.step {x y : Process S} {l : Op S} (hx : Sound x) (h : Step p x l y) : Sound y := by
  cases h with
  | @bind _ env addr hf =>
    have hm := ListenMoved.bind p env addr
    cases hr : env.newSocket [] addr with
    | error e =>
      rw [hr] at hm
      rw [hm]
      exact hx
    | ok fd =>
      rw [hr] at hm
      obtain ⟨es, he, ht⟩ := hm
      rw [he, List.filterMap_append, List.append_assoc]
      refine hx.issued (hx.not_mem (hf fd hr)) ?_ ht
      rw [handles_listeners]
  | @fromStd _ env fd hf =>
    obtain ⟨es, he, ht⟩ := ListenMoved.fromStd p env (.refl (some fd, []))
    rw [he, List.append_nil]
    refine hx.issued (hx.not_mem hf) ?_ ht
    rw [handles_listeners]
  | @fromTokio _ env fd hf =>
    obtain ⟨es, he, ht⟩ := ListenMoved.fromTokio p env (.refl (some fd, []))
    rw [he, List.append_nil]
    refine hx.issued (hx.not_mem hf) ?_ ht
    rw [handles_listeners]
  | @connect _ env addr r h hf hc =>
    have hm := SysConnectTo.connectsTo hc
    cases hr : env.newSocket [] addr with
    | error e =>
      rw [hr] at hm
      obtain ⟨rfl, rfl⟩ := hm
      exact hx
    | ok fd =>
      rw [hr] at hm
      obtain ⟨es, rfl, ht⟩ := MovesHandles.constructs hm
      rw [List.append_nil]
      refine hx.issued (hx.not_mem (hf fd hr)) ?_ ht
      rw [handles_streams]
  | connectWithSocket hf hc =>
    obtain ⟨es, rfl, ht⟩ := MovesHandles.constructs hc
    rw [List.append_nil]
    refine hx.issued (hx.not_mem hf) ?_ ht
    rw [handles_streams]
  | @ofTokio _ s hf =>
    refine hx.issued (hx.not_mem hf) ?_ (HandleTable.Transfers.refl (some s.fd))
    rw [handles_stream]
    show ((SysHandles.handle (SysConnect.ofTokio s : S)).toList ++ _).Perm _
    rw [MovesHandles.ofTokio]
  | @accept _ l env h s peer hl ha hf =>
    obtain ⟨⟨fd, writable⟩, rfl⟩ := accepted_ofTokio ha
    have hs : SysHandles.handle (TfoStream.ofTokio (SysConnect.ofTokio : TokioTcpStream → S)
      ⟨fd, writable⟩).inner = some fd := MovesHandles.ofTokio _
    rw [hs] at hf ⊢
    refine (hx.ask hl).issued (hx.not_mem (hf fd rfl)) ?_ (HandleTable.Transfers.refl (some fd))
    rw [handles_stream, hs]
  | acceptNone hl => exact hx.ask hl
  | @call pre post log env y y' es l hs he =>
    obtain ⟨es', he', ht⟩ := MovesHandles.reached (.between (.snoc .nil hs))
    obtain rfl : es' = es := List.append_cancel_right (he'.symm.trans he)
    exact hx.owner (handles_perm pre post (.stream y)) (handles_perm pre post (.stream y')) ht
  | @drop pre post log o =>
    have ht : HandleTable.Transfers o.handle none (o.handle.toList.map .close) := by
      cases o.handle with
      | none => exact .refl _
      | some fd => exact .lose HandleTable.Takes.nil.close
    exact hx.owner (handles_perm pre post o) (List.Perm.refl _) ht

end Process

/-- What a module promises of a process: in every run the log can be replayed, and the open handles
are those of the live objects, which have one each. -/
def OwnsProcess (S : Type) [SysTcpStream S] [SysConnect S] [SysHandles S] [SysConnectTo S]
    (p : Platform) : Prop :=
  ∀ (t : List (Lts.Taken (Process S) (Op S))) (x : Process S),
    (Process.lts S p).Run .start t x → ∃ table, x.table = some table ∧
      (Process.handles x.live).Nodup ∧
      ∀ fd, table fd = if fd ∈ Process.handles x.live then some 1 else none

theorem Process.ownsProcess (S : Type) [SysTcpStream S] [SysConnect S] [SysHandles S]
    [SysConnectTo S] [MovesHandles S] (p : Platform) : OwnsProcess S p := by
  intro t x h
  have hx : Sound x := h.inv' ⟨rfl, List.nodup_nil⟩ fun x l y hx hs => hx.step hs
  exact ⟨_, hx.table, hx.nodup, fun _ => rfl⟩

/-- **The handles of a process**, on all four platforms. -/
theorem process_handles :
    OwnsProcess Linux.TcpStream .linux ∧ OwnsProcess FreeBsd.TcpStream .freeBsd ∧
      OwnsProcess MacOs.TcpStream .macOs ∧ OwnsProcess Windows.TcpStream .windows :=
  ⟨Process.ownsProcess _ _, Process.ownsProcess _ _, Process.ownsProcess _ _,
    Process.ownsProcess _ _⟩

end TokioTfo
