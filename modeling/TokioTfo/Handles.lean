/-
  The moves of handles that a stream makes, and who owns its handle.

  Every call into the kernel or tokio uses the handle it names, `from_raw_fd` and
  `into_raw_fd` make and release an owner, and `drop` closes.

  * `MovesHandles`: a stream keeps its handle through any call or closes it, and never
    touches another one; a constructor gives the handle to the stream it returns or
    closes it.
  * `handles_closed_once`: in every reached state the stream is the only owner of the
    handle, which is open, or the stream is empty and the handle was closed once;
    dropping the stream, or the error return of the constructor, leaves it closed
    exactly once.
-/
import TokioTfo.Starts
import TokioTfo.Handshake.Iteration
import TokioTfo.Windows.Iteration
import TokioTfo.Lib.HandleTable

namespace TokioTfo

open HandleTable (Logged)

/-! ## The moves of events -/

/-- The move that an event makes. -/
def Event.handleMove : Event → Option (HandleTable.Move Fd)
  | call _ | ret .. | readEvent | writeEvent | wake _ => none
  | handle (.intoRawFd fd) => some (.release fd)
  | handle (.fromRawFd fd) => some (.acquire fd)
  | handle (.drop fd) => some (.close fd)
  | setsockopt fd .. | bind fd _ | connectx fd .. | connect fd .. | sendto fd .. | send fd ..
  | connectEx fd .. | getOverlappedResult fd .. | setUpdateConnectContext fd _ | takeError fd _
  | fromStd fd _ | pollWriteReady _ fd _ | pollWrite _ fd .. | pollRead _ fd _ | pollFlush fd _
  | pollShutdown fd _ | peerAddr fd _ | socketApi fd .. => some (.use fd)

/-- From an owner with a history to an owner with a longer one: what was added are its moves. -/
abbrev Moved (x y : Option Fd × Trace) : Prop := HandleTable.Logged Event.handleMove x y

namespace Moved
variable {o : Option Fd} {fd : Fd} {h : Trace}

/-- The owner uses its handle. -/
theorem use {e : Event} (he : e.handleMove = some (.use fd)) :
    Moved (some fd, h) (some fd, e :: h) := Logged.use he

/-- It closes its handle. -/
theorem close : Moved (some fd, h) (none, .handle (.drop fd) :: h) := Logged.close rfl

/-- It hands its handle over. -/
theorem handOver :
    Moved (some fd, h) (some fd, .handle (.fromRawFd fd) :: .handle (.intoRawFd fd) :: h) :=
  Logged.handOver rfl rfl

/-- A temporary `Socket` uses the handle once. -/
theorem borrow {e : Event} (he : e.handleMove = some (.use fd)) :
    Moved (some fd, h) (some fd, .handle (.intoRawFd fd) :: e :: .handle (.fromRawFd fd) :: h) :=
  Logged.borrow rfl he rfl

theorem wakeReader (reader : Option Waker) (cx : Waker) :
    Moved (o, h) (o, wakeReader reader cx h) := by
  rcases wakeReader_cases reader cx h with hw | ⟨w, hw⟩ <;> rw [hw]
  · exact .refl _
  · exact .silent rfl

theorem deliverRead (env : Env) : Moved (o, h) (o, deliverRead env h) := by
  rcases deliverRead_cases env h with hd | hd <;> rw [hd]
  · exact .refl _
  · exact .silent rfl

theorem registered : Moved (some fd, h) (some fd, registered fd h) :=
  handOver.trans (Moved.use rfl)

theorem notRegistered {e : Unregistered} : Moved (some fd, h) (none, notRegistered fd e h) :=
  (handOver.trans (Moved.use rfl)).trans Moved.close

end Moved

/-! ## What a stream owns -/

/-- The handle that a stream option owns. -/
def TcpStreamOption.handle : TcpStreamOption → Option Fd
  | connected s => some s.fd
  | connecting socket _ _ => some socket.fd
  | empty => none

/-- The ownership of handles in a module. -/
class SysHandles (S : Type) where
  /-- The handle that a stream owns. -/
  handle : S → Option Fd
  /-- `connect_with_socket`, given the socket `fd`, has returned the result and made the calls in
  the history. -/
  Constructs : Env → Fd → Outcome (Result S) → Trace → Prop

/-- `drop` of a stream: what it owns is dropped. -/
def dropStream {S : Type} [SysHandles S] (self : S) (h : Trace) : Trace :=
  match SysHandles.handle self with
  | some fd => .handle (.drop fd) :: h
  | none => h

instance : SysHandles Linux.TcpStream where
  handle self := self.stream.handle
  Constructs env fd r h := ∃ support addr support',
    Linux.TcpStream.connectWithSocket env support ⟨fd⟩ addr [] = (r, support', h)

instance : SysHandles FreeBsd.TcpStream where
  handle self := self.stream.handle
  Constructs env fd r h := ∃ addr, FreeBsd.TcpStream.connectWithSocket env ⟨fd⟩ addr [] = (r, h)

instance : SysHandles MacOs.TcpStream where
  handle self := some self.inner.fd
  Constructs env fd r h := ∃ addr, MacOs.TcpStream.connectWithSocket env ⟨fd⟩ addr [] = (r, h)

instance : SysHandles Windows.TcpStream where
  handle self := self.stream.handle
  Constructs env fd r h := ∃ addr, Windows.TcpStream.connectWithSocket env ⟨fd⟩ addr [] = (r, h)

/-! ## One iteration -/

/-- The handle of a stream, with its history. -/
def held {σ : Type} (x : LazyTcpStream σ × Trace) : Option Fd × Trace := (x.1.stream.handle, x.2)

theorem Handshake.Iter.moved {p : Profile} {env : Env} {cx : Waker} {buf : Bytes}
    {x : Handshake p × Trace} {y : Loop.Step (Handshake p × Trace) (Outcome (Poll (Result ℕ)))}
    (h : Iter env cx buf x y) : Moved (held x) (held y.state) := by
  cases h with
  | unreachable => exact .refl _
  | @write ph s s' h r _ hw =>
    show Moved (some s.fd, h) (some s'.fd, _)
    rw [hw.fd]
    exact Moved.use rfl
  | @blocked s s' h _ hf =>
    show Moved (some s.fd, h) (some s'.fd, _)
    rw [hf]
    exact Moved.use rfl
  | settle | failed | retry => exact Moved.use rfl
  | wait | waitError => exact Moved.use rfl
  | soError | soNone => exact (Moved.use rfl).trans (Moved.borrow rfl)
  | sendCount | sendProgress | sendBlocked | sendError =>
    exact (Moved.use rfl).trans (Moved.use rfl)
  | openCount | openProgress =>
    exact ((Moved.use rfl).trans Moved.registered).trans (Moved.wakeReader _ _)
  | openCountLost | openProgressLost => exact (Moved.use rfl).trans Moved.notRegistered
  | openError => exact Moved.use rfl

theorem Windows.Iter.moved {env : Env} {cx : Waker} {buf : Bytes}
    {x : TcpStream × Trace} {y : Loop.Step (TcpStream × Trace) (Outcome (Poll (Result ℕ)))}
    (h : Iter env cx buf x y) : Moved (held x) (held y.state) := by
  cases h with
  | unreachable | noConnectEx => exact .refl _
  | @write s s' h r hw =>
    show Moved (some s.fd, h) (some s'.fd, _)
    rw [hw.fd]
    exact Moved.use rfl
  | wait | waitError => exact Moved.use rfl
  | incomplete | resultError => exact (Moved.use rfl).trans (Moved.use rfl)
  | contextBlocked | contextError | assertFails =>
    exact ((Moved.use rfl).trans (Moved.use rfl)).trans (Moved.use rfl)
  | soError | complete =>
    exact (((Moved.use rfl).trans (Moved.use rfl)).trans (Moved.use rfl)).trans (Moved.borrow rfl)
  | openError => exact Moved.use rfl
  | openCount =>
    exact (((Moved.use rfl).trans (Moved.use rfl)).trans Moved.registered).trans
      (Moved.wakeReader _ _)
  | openPending => exact ((Moved.use rfl).trans Moved.registered).trans (Moved.wakeReader _ _)
  | openContextLost => exact ((Moved.use rfl).trans (Moved.use rfl)).trans Moved.close
  | openCountLost => exact ((Moved.use rfl).trans (Moved.use rfl)).trans Moved.notRegistered
  | openPendingLost => exact (Moved.use rfl).trans Moved.notRegistered

/-! ## One call -/

section
variable {σ : Type} {env : Env}

theorem moved_callSocketApi (op : SocketApi) (self : LazyTcpStream σ) (h : Trace) :
    Moved (self.stream.handle, h) (self.stream.handle, (self.callSocketApi env op h).2) := by
  obtain ⟨st, s | ⟨socket, addr, reader⟩ | _⟩ := self
  · exact Moved.borrow rfl
  · exact Moved.borrow rfl
  · exact .refl _

theorem Handshake.moved_socketApi {p : Profile} (op : SocketApi) (self : Handshake p) (h : Trace) :
    Moved (self.stream.handle, h) (self.stream.handle, (self.socketApi env op h).2) := by
  unfold Handshake.socketApi
  split
  · exact moved_callSocketApi op self h
  · obtain ⟨st, s | ⟨socket, addr, reader⟩ | _⟩ := self
    · exact Moved.use rfl
    · exact Moved.use rfl
    · exact .refl _

variable [SysTcpStream (LazyTcpStream σ)] [LazyModule σ]

/-- What a module has to show of its writes and of its getters and setters. -/
structure KeepsHandle (env : Env) (σ : Type) [SysTcpStream (LazyTcpStream σ)] : Prop where
  body : ∀ cx buf (x : LazyTcpStream σ × Trace),
    Moved (held x) (held (SysTcpStream.pollWriteBody env cx buf x).state)
  socketApi : ∀ op (self : LazyTcpStream σ) h, Moved (self.stream.handle, h)
    (self.stream.handle, (SysTcpStream.socketApi env op self h).2)

theorem Handshake.keepsHandle (env : Env) (p : Profile) : KeepsHandle env (Phase p) where
  body cx buf x := (body_iter env cx buf x).moved
  socketApi op self h := moved_socketApi op self h

theorem Windows.keepsHandle (env : Env) : KeepsHandle env TcpStreamState where
  body cx buf x := (body_iter env cx buf x).moved
  socketApi op self h := moved_callSocketApi op self h

/-- A call that is not a write. -/
theorem moved_other {c : Call} {x x' : LazyTcpStream σ × Trace} {o : Outcome Ret}
    (hk : KeepsHandle env σ) (hc : c.payload = none) (h : Performs env c x o x') :
    Moved (held x) (held x') := by
  cases c with
  | pollWrite | pollWriteVectored => cases hc
  | pollRead cx room =>
    obtain ⟨-, rfl⟩ := h
    rw [LazyModule.pollRead_eq]
    obtain ⟨⟨st, s | ⟨socket, addr, reader⟩ | _⟩, h⟩ := x
    · exact (Moved.deliverRead env).trans (Moved.use rfl)
    · exact Moved.wakeReader _ _
    · exact .refl _
  | pollFlush cx =>
    obtain ⟨-, rfl⟩ := h
    rw [LazyModule.pollFlush_eq]
    obtain ⟨⟨st, s | _ | _⟩, h⟩ := x
    · exact Moved.use rfl
    · exact .refl _
    · exact .refl _
  | pollShutdown cx =>
    obtain ⟨-, rfl⟩ := h
    rw [LazyModule.pollShutdown_eq]
    obtain ⟨⟨st, s | _ | _⟩, h⟩ := x
    · exact Moved.use rfl
    · exact .refl _
    · exact .refl _
  | peerAddr =>
    obtain ⟨-, rfl⟩ := h
    rw [LazyModule.peerAddr_eq]
    obtain ⟨⟨st, s | _ | _⟩, h⟩ := x
    · exact Moved.use rfl
    · exact .refl _
    · exact .refl _
  | asRawFd =>
    obtain ⟨-, rfl⟩ := h
    exact .refl _
  | socketApi op =>
    obtain ⟨-, rfl⟩ := h
    exact hk.socketApi op x.1 x.2

omit [LazyModule σ] in
theorem KeepsHandle.of_body (hk : KeepsHandle env σ) {z : Option Fd × Trace} {cx : Waker}
    {buf : Bytes} {x : LazyTcpStream σ × Trace}
    {y : Loop.Step (LazyTcpStream σ × Trace) (Outcome (Poll (Result ℕ)))} (hx : Moved z (held x))
    (hb : SysTcpStream.pollWriteBody env cx buf x = y) : Moved z (held y.state) := by
  subst hb
  exact hx.trans (hk.body cx buf x)

/-- **A call** keeps the handle or closes it, and touches no other. -/
theorem moved_step {x x' : TfoStream (LazyTcpStream σ) × Trace} {l : Done}
    (hk : KeepsHandle env σ) (hs : (system (LazyTcpStream σ) env).step x l x') :
    Moved (held (x.1.inner, x.2)) (held (x'.1.inner, x'.2)) := by
  obtain ⟨c, o⟩ := l
  obtain ⟨h, hp, hx'⟩ := hs
  have hcall : Moved (held (x.1.inner, x.2)) (held (x.1.inner, .call c :: x.2)) := .silent rfl
  rw [hx']
  refine Logged.trans ?_ (.silent (e := Event.ret c o) rfl)
  rcases performs_cases hp with ⟨cx, buf, r, -, hr, -⟩ | ho
  · refine pollWrite_post (I := fun y => Moved (held (x.1.inner, x.2)) (held y))
      (Q := fun _ y => Moved (held (x.1.inner, x.2)) (held y))
      (fun st s h hy => hy.trans (.silent rfl)) ?_ ?_ hcall hr
    · intro y z hy hb
      exact hk.of_body hy hb
    · intro y r z hy hb
      exact hk.of_body hy hb
  · exact hcall.trans (moved_other hk ho.payload hp)

/-- **A run** does so in every state it reaches. -/
theorem moved_reached {x₀ : TfoStream (LazyTcpStream σ) × Trace} {y : LazyTcpStream σ × Trace}
    (hk : KeepsHandle env σ) (h : Reached env x₀ y) :
    Moved (held (x₀.1.inner, x₀.2)) (held y) := by
  have hrun : ∀ {t x}, (system (LazyTcpStream σ) env).Run x₀ t x →
      Moved (held (x₀.1.inner, x₀.2)) (held (x.1.inner, x.2)) :=
    fun hr => hr.inv' (I := fun x => Moved (held (x₀.1.inner, x₀.2)) (held (x.1.inner, x.2)))
      (.refl _) fun _ _ _ hx hs => hx.trans (moved_step hk hs)
  cases h with
  | between hr => exact hrun hr
  | within hr hm =>
    refine midWrite_post (I := fun y => Moved (held (x₀.1.inner, x₀.2)) (held y))
      (fun _ _ _ hy => hy.trans (.silent rfl)) ?_ ((hrun hr).trans (.silent rfl)) hm
    intro cx buf y z _ hy hb
    exact hk.of_body hy hb

end

/-! ## The modules -/

/-- The handle that the result of a constructor owns. -/
def owner {S : Type} [SysHandles S] : Outcome (Result S) → Option Fd
  | .returned (.ok s) => SysHandles.handle s
  | .returned (.error _) | .panicked _ => none

theorem owner_outcome {S : Type} [SysHandles S] (u : Unregistered) :
    owner (u.outcome : Outcome (Result S)) = none := by
  cases u <;> rfl

/-- A module whose streams own their handles: a stream keeps its handle through any run or closes
it, and a constructor gives it to the stream it returns or closes it. -/
class MovesHandles (S : Type) [SysTcpStream S] [SysConnect S] [SysHandles S] : Prop where
  reached {env : Env} {x₀ : TfoStream S × Trace} {y : S × Trace} : Reached env x₀ y →
    Moved (SysHandles.handle x₀.1.inner, x₀.2) (SysHandles.handle y.1, y.2)
  constructs {env : Env} {fd : Fd} {r : Outcome (Result S)} {h : Trace} :
    SysHandles.Constructs env fd r h → Moved (some fd, []) (owner r, h)
  ofTokio (s : TokioTcpStream) : SysHandles.handle (SysConnect.ofTokio s : S) = some s.fd

theorem Unix.moved_reached {S : Type} [SysTcpStream S] [UnixTcpStream S] [SysHandles S]
    (hv : ∀ s : S, (UnixTcpStream.view s).stream.handle = SysHandles.handle s) {env : Env}
    {x₀ : TfoStream S × Trace} {y : S × Trace} (h : Reached env x₀ y) :
    Moved (SysHandles.handle x₀.1.inner, x₀.2) (SysHandles.handle y.1, y.2) := by
  rw [← hv, ← hv]
  exact TokioTfo.moved_reached (Handshake.keepsHandle env _) (UnixTcpStream.reached_view env h)

instance : MovesHandles Linux.TcpStream where
  reached := Unix.moved_reached fun _ => rfl
  constructs {env fd r h} hc := by
    obtain ⟨support, addr, support', hc⟩ := hc
    simp only [Linux.TcpStream.connectWithSocket, setsockopt, TcpSocket.connect] at hc
    cases support with
    | false =>
      cases hc
      exact .refl _
    | true =>
      cases hs : env.setsockopt [] fd .tcpFastopenConnect with
      | error e =>
        rw [hs] at hc
        by_cases he : e = .ENOPROTOOPT
        · subst he
          cases hc
          exact Moved.use rfl
        · obtain ⟨rfl, -, rfl⟩ : .returned (.error (.os e)) = r ∧ true = support' ∧ _ = h := by
            simpa [he] using hc
          exact (Moved.use rfl).trans Moved.close
      | ok =>
        rw [hs] at hc
        simp only [if_true] at hc
        cases ht : env.connect [.setsockopt fd .tcpFastopenConnect (.ok ())] fd addr with
        | error e =>
          rw [ht] at hc
          cases hc
          rw [owner_outcome]
          exact ((Moved.use rfl).trans (Moved.use rfl)).trans Moved.close
        | ok =>
          rw [ht] at hc
          cases hc
          exact (Moved.use rfl).trans (Moved.use rfl)
  ofTokio _ := rfl

instance : MovesHandles FreeBsd.TcpStream where
  reached := Unix.moved_reached fun _ => rfl
  constructs {env fd r h} hc := by
    obtain ⟨addr, hc⟩ := hc
    simp only [FreeBsd.TcpStream.connectWithSocket, setsockopt] at hc
    cases hs : env.setsockopt [] fd .tcpFastopen with
    | error e =>
      rw [hs] at hc
      cases hc
      exact (Moved.use rfl).trans Moved.close
    | ok =>
      rw [hs] at hc
      cases hc
      exact Moved.use rfl
  ofTokio _ := rfl

instance : MovesHandles MacOs.TcpStream where
  reached := Unix.moved_reached fun _ => rfl
  constructs {env fd r h} hc := by
    obtain ⟨addr, hc⟩ := hc
    simp only [MacOs.TcpStream.connectWithSocket, setsockopt] at hc
    have hopt : Moved (some fd, []) (some fd, [.setsockopt fd .tcpFastopenForceEnable
        (env.setsockopt [] fd .tcpFastopenForceEnable)]) := .use rfl
    split at hc
    · cases hc
      exact (hopt.trans (Moved.use rfl)).trans Moved.close
    · rename_i hret
      rw [hret] at hc
      rcases registerSocket_cases env ⟨fd⟩ (.connectx fd addr (.ok ()) ::
          [.setsockopt fd .tcpFastopenForceEnable (env.setsockopt [] fd .tcpFastopenForceEnable)])
        with hr | ⟨e, -, hr⟩
      · rw [hr] at hc
        cases hc
        exact (hopt.trans (Moved.use rfl)).trans Moved.registered
      · rw [hr] at hc
        cases hc
        rw [owner_outcome]
        exact (hopt.trans (Moved.use rfl)).trans Moved.notRegistered
  ofTokio _ := rfl

instance : MovesHandles Windows.TcpStream where
  reached := moved_reached (Windows.keepsHandle _)
  constructs {env fd r h} hc := by
    obtain ⟨addr, hc⟩ := hc
    simp only [Windows.TcpStream.connectWithSocket, setsockopt] at hc
    cases hs : env.setsockopt [] fd .tcpFastopen with
    | error e =>
      rw [hs] at hc
      cases hc
      exact (Moved.use rfl).trans Moved.close
    | ok =>
      rw [hs] at hc
      simp only at hc
      split at hc
      · cases hc
        exact (Moved.use rfl).trans (Moved.use rfl)
      · split at hc
        · cases hc
          exact (Moved.use rfl).trans (Moved.use rfl)
        · cases hc
          exact ((Moved.use rfl).trans (Moved.use rfl)).trans Moved.close
  ofTokio _ := rfl

/-! ## The handle of a run -/

/-- The table of handles after the history, if at the start `fd` is open and has one owner; `none`
if a handle was used, given up or closed that was not open, or closed under another owner. -/
def table (fd : Fd) (h : Trace) : Option (HandleTable Fd) :=
  HandleTable.replay (HandleTable.owned [fd]) (h.filterMap Event.handleMove)

/-- How often `fd` was closed. -/
def closes (fd : Fd) (h : Trace) : ℕ := (h.filterMap Event.handleMove).count (.close fd)

/-- The handle `fd` has one owner, and was not closed; no other handle was touched. -/
structure Held (fd : Fd) (h : Trace) : Prop where
  table : table fd h = some (HandleTable.owned [fd])
  closes : closes fd h = 0

/-- The handle `fd` has no owner, and was closed once; no other handle was touched. -/
structure ClosedOnce (fd : Fd) (h : Trace) : Prop where
  table : table fd h = some (HandleTable.owned [])
  closes : closes fd h = 1

/-- The stream option owns `fd` and nobody else does, or `fd` was closed. -/
def Custody (fd : Fd) : Option Fd → Trace → Prop
  | some fd', h => fd' = fd ∧ Held fd h
  | none, h => ClosedOnce fd h

/-- No event of a stream opens a handle. -/
theorem not_issue (h : Trace) (fd : Fd) : .issue fd ∉ h.filterMap Event.handleMove := by
  intro hm
  obtain ⟨e, -, he⟩ := List.mem_filterMap.1 hm
  cases e with
  | handle op => cases op <;> cases he
  | _ => cases he

/-- Who has made the moves of the one owner of `fd` has custody of it. -/
theorem Moved.custody {fd : Fd} {o : Option Fd} {h : Trace} (hm : Moved (some fd, []) (o, h)) :
    Custody fd o h := by
  obtain ⟨es, he, ht⟩ := hm
  obtain rfl : h = es := he.trans (List.append_nil _)
  obtain ⟨hr, -⟩ : HandleTable.replay (HandleTable.owned [fd]) _ =
      some (HandleTable.owned (o.toList ++ [])) ∧ _ :=
    HandleTable.replay_owned (by simp) ht
  rw [List.append_nil] at hr
  have hc := HandleTable.replay_closes (not_issue h fd) hr
  cases o with
  | none => exact ⟨hr, by simpa [closes, HandleTable.owned] using hc⟩
  | some fd' =>
    obtain rfl : fd' = fd := ht.1 fd' rfl
    exact ⟨rfl, hr, by simpa [closes, HandleTable.owned] using hc⟩

theorem moved_dropStream {S : Type} [SysHandles S] (self : S) (h : Trace) :
    Moved (SysHandles.handle self, h) (none, dropStream self h) := by
  unfold dropStream
  split
  · rename_i fd he
    rw [he]
    exact Moved.close
  · rename_i he
    rw [he]
    exact .refl _

/-- A run starts with the handle `fd`: `connect_with_socket` was given a socket that owns it, or
`From` a tokio stream. -/
def StartsWith {S : Type} [SysConnect S] [SysHandles S] (env : Env) (fd : Fd)
    (x : TfoStream S × Trace) : Prop :=
  SysHandles.Constructs env fd (.returned (.ok x.1.inner)) x.2 ∨
    ∃ writable, FromTokio ⟨fd, writable⟩ x

/-- What a module promises of the handles: a constructor that returns an error, or panics, has
closed the handle exactly once; as long as the stream can use it, the handle is its own, has no
other owner and is open; and dropping the stream leaves it closed exactly once. -/
structure OwnsHandles (env : Env) (S : Type) [SysTcpStream S] [SysConnect S] [SysHandles S] :
    Prop where
  refused : ∀ fd (r : Outcome (Result S)) h, SysHandles.Constructs env fd r h →
    (∀ s, r ≠ .returned (.ok s)) → ClosedOnce fd h
  custody : ∀ fd (x₀ : TfoStream S × Trace), StartsWith env fd x₀ → ∀ y, Reached env x₀ y →
    Custody fd (SysHandles.handle y.1) y.2
  dropped : ∀ fd (x₀ : TfoStream S × Trace), StartsWith env fd x₀ → ∀ y, Reached env x₀ y →
    ClosedOnce fd (dropStream y.1 y.2)

theorem MovesHandles.ownsHandles (env : Env) (S : Type) [SysTcpStream S] [SysConnect S]
    [SysHandles S] [MovesHandles S] : OwnsHandles env S := by
  have hreached : ∀ fd (x₀ : TfoStream S × Trace), StartsWith env fd x₀ → ∀ y, Reached env x₀ y →
      Moved (some fd, []) (SysHandles.handle y.1, y.2) := by
    rintro fd x₀ (h | ⟨writable, rfl⟩) y hy
    · exact (MovesHandles.constructs h).trans (MovesHandles.reached hy)
    · have hstart : SysHandles.handle (SysConnect.ofTokio ⟨fd, writable⟩ : S) = some fd :=
        MovesHandles.ofTokio _
      rw [← hstart]
      exact MovesHandles.reached hy
  constructor
  · intro fd r h hc hr
    have hm := MovesHandles.constructs hc
    rcases r with (e | s) | q
    · exact hm.custody
    · exact absurd rfl (hr s)
    · exact hm.custody
  · intro fd x₀ hs y hy
    exact (hreached fd x₀ hs y hy).custody
  · intro fd x₀ hs y hy
    have hm : Moved (some fd, []) (none, dropStream y.1 y.2) :=
      (hreached fd x₀ hs y hy).trans (moved_dropStream y.1 y.2)
    exact hm.custody

/-- **The handle is owned and closed exactly once**, on all four platforms. -/
theorem handles_closed_once (env : Env) :
    OwnsHandles env Linux.TcpStream ∧ OwnsHandles env FreeBsd.TcpStream ∧
      OwnsHandles env MacOs.TcpStream ∧ OwnsHandles env Windows.TcpStream :=
  ⟨MovesHandles.ownsHandles _ _, MovesHandles.ownsHandles _ _, MovesHandles.ownsHandles _ _,
    MovesHandles.ownsHandles _ _⟩

end TokioTfo
