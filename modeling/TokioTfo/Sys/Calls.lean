/-
  What a call can do, for the lazily connected streams and the handshake machine.

  A call either runs the loop of `poll_write` on its payload, or it is one of the
  other methods, which read (`read`, `park`) or leave the stream as it is (`quiet`).

  * `pollWrite_post` and `performs_post`: the invariant rules for one call of
    `poll_write` and for any call, shown for the reactor and for the loop body.
  * `Invariant.reached`: the invariant rule for whole runs.
-/
import TokioTfo.Stream
import TokioTfo.Sys.Windows
import TokioTfo.Handshake

namespace TokioTfo

/-- Events of the calls that leave the stream as it is. -/
def Event.Quiet : Event → Prop
  | handle (.fromRawFd _) | handle (.intoRawFd _) => True
  | pollFlush .. | pollShutdown .. | peerAddr .. | socketApi .. => True
  | _ => False

/-- Events of the constructors. -/
def Event.Setup : Event → Prop
  | handle (.fromRawFd _) | handle (.intoRawFd _) | fromStd _ (.ok ()) => True
  | setsockopt .. | bind .. | connectx .. | connect .. => True
  | _ => False

/-- Events that do not affect the connection. -/
def Event.Idle : Event → Prop
  | call _ | ret .. | wake _ | readEvent | pollRead .. => True
  | handle (.fromRawFd _) | handle (.intoRawFd _) | fromStd _ (.ok ()) => True
  | pollFlush .. | pollShutdown .. | peerAddr .. | socketApi .. => True
  | setsockopt .. | bind .. | connectx .. | connect .. => True
  | _ => False

theorem Event.Quiet.idle {e : Event} (h : e.Quiet) : e.Idle := by
  cases e with
  | handle op => cases op <;> exact h
  | _ => trivial

theorem Event.Setup.idle {e : Event} (h : e.Setup) : e.Idle := by
  cases e with
  | handle op => cases op <;> exact h
  | fromStd fd r => cases r <;> exact h
  | _ => trivial

/-- A function of the history that ignores the idle events. -/
def IgnoresIdle {α : Type} (f : Trace → α) : Prop := ∀ e h, e.Idle → f (e :: h) = f h

namespace IgnoresIdle
variable {α : Type} {f : Trace → α}

theorem append (hf : IgnoresIdle f) {es : Trace} (hes : ∀ e ∈ es, e.Idle) (h : Trace) :
    f (es ++ h) = f h := by
  induction es with
  | nil => rfl
  | cons e es ih =>
    rw [List.cons_append, hf e _ (hes e (List.mem_cons_self ..))]
    exact ih fun e' he' => hes e' (List.mem_cons_of_mem _ he')

theorem quiet (hf : IgnoresIdle f) {es : Trace} (hes : ∀ e ∈ es, e.Quiet) (h : Trace) :
    f (es ++ h) = f h :=
  hf.append (fun e he => (hes e he).idle) h

theorem call (hf : IgnoresIdle f) (c : Call) (h : Trace) : f (.call c :: h) = f h :=
  hf _ _ trivial

theorem ret (hf : IgnoresIdle f) (c : Call) (o : Outcome Ret) (h : Trace) :
    f (.ret c o :: h) = f h :=
  hf _ _ trivial

theorem setup (hf : IgnoresIdle f) {h : Trace} (hh : ∀ e ∈ h, e.Setup) : f h = f [] := by
  have := hf.append (fun e he => (hh e he).idle) []
  rwa [List.append_nil] at this

theorem wakeReader (hf : IgnoresIdle f) (reader : Option Waker) (cx : Waker) (h : Trace) :
    f (wakeReader reader cx h) = f h := by
  rcases wakeReader_cases reader cx h with hw | ⟨w, hw⟩ <;> rw [hw]
  exact hf _ _ trivial

theorem deliverRead (hf : IgnoresIdle f) (env : Env) (h : Trace) :
    f (deliverRead env h) = f h := by
  rcases deliverRead_cases env h with hd | hd <;> rw [hd]
  exact hf _ _ trivial

theorem registered (hf : IgnoresIdle f) (fd : Fd) (h : Trace) : f (registered fd h) = f h :=
  have hes : ∀ e ∈ [Event.fromStd fd (.ok ()), .handle (.fromRawFd fd), .handle (.intoRawFd fd)],
      e.Idle := by simp [Event.Idle]
  hf.append hes h

end IgnoresIdle

/-- The calls other than the writes. -/
inductive Other (env : Env) {σ : Type} : Call → LazyTcpStream σ × Trace → Outcome Ret →
    LazyTcpStream σ × Trace → Prop
  | read {st : σ} {s : TokioTcpStream} {h : Trace} {cx : Waker} {room : ℕ}
      {r : Poll (Result Bytes)} :
      Other env (.pollRead cx room) (⟨st, .connected s⟩, h) (.returned (.read r))
        (⟨st, .connected s⟩, .pollRead cx s.fd r :: deliverRead env h)
  | park {st : σ} {socket : TcpSocket} {addr : SocketAddr} {reader : Option Waker} {h : Trace}
      {cx : Waker} {room : ℕ} :
      Other env (.pollRead cx room) (⟨st, .connecting socket addr reader⟩, h)
        (.returned (.read .pending))
        (⟨st, .connecting socket addr (some cx)⟩, wakeReader reader cx h)
  | readEmpty {st : σ} {h : Trace} {cx : Waker} {room : ℕ} :
      Other env (.pollRead cx room) (⟨st, .empty⟩, h) (.panicked .unreachable) (⟨st, .empty⟩, h)
  | quiet {c : Call} {x : LazyTcpStream σ} {h : Trace} {o : Outcome Ret} (es : Trace) :
      c.payload = none → (∀ cx room, c ≠ .pollRead cx room) → (∀ e ∈ es, e.Quiet) →
      (∀ r, o ≠ .returned (.write r)) → (o = .panicked .unreachable → x.stream = .empty) →
      Other env c (x, h) o (x, es ++ h)

section
variable {σ : Type} {env : Env}

/-- The other calls make idle events only. -/
theorem Other.ignored {α : Type} {f : Trace → α} (hf : IgnoresIdle f) {c : Call}
    {x x' : LazyTcpStream σ × Trace} {o : Outcome Ret} (h : Other env c x o x') :
    f x'.2 = f x.2 := by
  cases h with
  | read => exact (hf (.pollRead ..) _ trivial).trans (hf.deliverRead env _)
  | park => exact hf.wakeReader _ _ _
  | readEmpty => rfl
  | quiet es _ _ hes => exact hf.quiet hes _

theorem Other.payload {c : Call} {x x' : LazyTcpStream σ × Trace} {o : Outcome Ret}
    (h : Other env c x o x') : c.payload = none := by
  cases h with
  | quiet _ hc => exact hc
  | _ => rfl

/-- They do not return from a write. -/
theorem Other.ne_write {c : Call} {x x' : LazyTcpStream σ × Trace} {o : Outcome Ret}
    (h : Other env c x o x') : ∀ r, o ≠ .returned (.write r) := by
  cases h with
  | quiet _ _ _ _ hw => exact hw
  | _ => simp

theorem Other.of_pollRead (cx : Waker) (room : ℕ) (x : LazyTcpStream σ × Trace) :
    Other env (.pollRead cx room) x ((LazyTcpStream.pollRead env cx room x).1.map .read)
      (LazyTcpStream.pollRead env cx room x).2 := by
  obtain ⟨⟨st, _ | _ | _⟩, h⟩ := x
  exacts [.read, .park, .readEmpty]

theorem Other.of_pollFlush (cx : Waker) (x : LazyTcpStream σ × Trace) :
    Other env (.pollFlush cx) x (.returned (.unit (x.1.pollFlush env x.2).1))
      (x.1, (x.1.pollFlush env x.2).2) := by
  obtain ⟨⟨st, s | _ | _⟩, h⟩ := x
  · exact .quiet [.pollFlush s.fd _] rfl (by simp) (by simp [Event.Quiet]) (by simp) (by simp)
  all_goals exact .quiet [] rfl (by simp) (by simp) (by simp) (by simp)

theorem Other.of_pollShutdown (cx : Waker) (x : LazyTcpStream σ × Trace) :
    Other env (.pollShutdown cx) x (.returned (.unit (x.1.pollShutdown env x.2).1))
      (x.1, (x.1.pollShutdown env x.2).2) := by
  obtain ⟨⟨st, s | _ | _⟩, h⟩ := x
  · exact .quiet [.pollShutdown s.fd _] rfl (by simp) (by simp [Event.Quiet]) (by simp) (by simp)
  all_goals exact .quiet [] rfl (by simp) (by simp) (by simp) (by simp)

theorem Other.of_peerAddr (x : LazyTcpStream σ × Trace) :
    Other env .peerAddr x ((x.1.peerAddr env x.2).1.map .addr) (x.1, (x.1.peerAddr env x.2).2) := by
  have hw : ∀ (o : Outcome (Result SocketAddr)) r, o.map Ret.addr ≠ .returned (.write r) :=
    fun o r => o.map_ne_returned (by simp)
  obtain ⟨⟨st, s | _ | _⟩, h⟩ := x
  · exact .quiet [.peerAddr s.fd _] rfl (by simp) (by simp [Event.Quiet]) (hw _)
      (by simp [LazyTcpStream.peerAddr])
  · exact .quiet [] rfl (by simp) (by simp) (hw _) (by simp [LazyTcpStream.peerAddr])
  · exact .quiet [] rfl (by simp) (by simp) (hw _) fun _ => rfl

theorem Other.of_asRawFd (x : LazyTcpStream σ × Trace) :
    Other env .asRawFd x (x.1.asRawFd.map .fd) x := by
  have hw : ∀ (o : Outcome Fd) r, o.map Ret.fd ≠ .returned (.write r) :=
    fun o r => o.map_ne_returned (by simp)
  obtain ⟨⟨st, s | _ | _⟩, h⟩ := x
  · exact .quiet [] rfl (by simp) (by simp) (hw _) (by simp [LazyTcpStream.asRawFd])
  · exact .quiet [] rfl (by simp) (by simp) (hw _) (by simp [LazyTcpStream.asRawFd])
  · exact .quiet [] rfl (by simp) (by simp) (hw _) fun _ => rfl

theorem value_ne (o : Outcome (Result SocketVal)) (r : Poll (Result ℕ)) :
    o.map Ret.value ≠ .returned (.write r) :=
  o.map_ne_returned (by simp)

/-- Only a lost socket makes a getter or setter unreachable. -/
theorem empty_of_callSocketApi {x : LazyTcpStream σ} {h : Trace} {op : SocketApi}
    (hu : (x.callSocketApi env op h).1.map Ret.value = .panicked .unreachable) :
    x.stream = .empty := by
  obtain ⟨st, s | _ | _⟩ := x
  · simp only [LazyTcpStream.callSocketApi, LazyTcpStream.asRawFd] at hu
    split at hu <;> simp [Outcome.map] at hu
  · simp only [LazyTcpStream.callSocketApi, LazyTcpStream.asRawFd] at hu
    split at hu <;> simp [Outcome.map] at hu
  · rfl

theorem Other.of_callSocketApi (op : SocketApi) (x : LazyTcpStream σ × Trace) :
    Other env (.socketApi op) x ((x.1.callSocketApi env op x.2).1.map .value)
      (x.1, (x.1.callSocketApi env op x.2).2) := by
  have hq : ∀ fd r, ∀ e ∈ [Event.handle (.intoRawFd fd), .socketApi fd op r,
      .handle (.fromRawFd fd)], e.Quiet := by simp [Event.Quiet]
  obtain ⟨⟨st, s | _ | _⟩, h⟩ := x
  · exact .quiet _ rfl (by simp) (hq s.fd _) (value_ne _) empty_of_callSocketApi
  · rename_i socket _ _
    exact .quiet _ rfl (by simp) (hq socket.fd _) (value_ne _) empty_of_callSocketApi
  · exact .quiet [] rfl (by simp) (by simp) (value_ne _) fun _ => rfl

theorem Other.of_socketApi {p : Profile} (op : SocketApi) (x : Handshake p × Trace) :
    Other env (.socketApi op) x ((x.1.socketApi env op x.2).1.map .value)
      (x.1, (x.1.socketApi env op x.2).2) := by
  unfold Handshake.socketApi
  split
  · exact Other.of_callSocketApi op x
  · obtain ⟨⟨st, s | _ | _⟩, h⟩ := x
    · exact .quiet [.socketApi s.fd op _] rfl (by simp) (by simp [Event.Quiet]) (value_ne _)
        (by simp [LazyTcpStream.asRawFd])
    · rename_i socket _ _
      exact .quiet [.socketApi socket.fd op _] rfl (by simp) (by simp [Event.Quiet]) (value_ne _)
        (by simp [LazyTcpStream.asRawFd])
    · exact .quiet [] rfl (by simp) (by simp) (value_ne _) fun _ => rfl

end

/-! ## The lazily connected modules -/

/-- A module with the shared methods. -/
class LazyModule (σ : Type) [SysTcpStream (LazyTcpStream σ)] : Prop where
  setWritable_eq (s : LazyTcpStream σ) : SysTcpStream.setWritable s = s.setWritable
  pollRead_eq (env : Env) (cx : Waker) (room : ℕ) (x : LazyTcpStream σ × Trace) :
    SysTcpStream.pollRead env cx room x = LazyTcpStream.pollRead env cx room x
  pollFlush_eq (env : Env) (s : LazyTcpStream σ) : SysTcpStream.pollFlush env s = s.pollFlush env
  pollShutdown_eq (env : Env) (s : LazyTcpStream σ) :
    SysTcpStream.pollShutdown env s = s.pollShutdown env
  peerAddr_eq (env : Env) (s : LazyTcpStream σ) : SysTcpStream.peerAddr env s = s.peerAddr env
  asRawFd_eq (s : LazyTcpStream σ) : SysTcpStream.asRawFd s = s.asRawFd
  socketApi_other (env : Env) (op : SocketApi) (x : LazyTcpStream σ × Trace) :
    Other env (.socketApi op) x ((SysTcpStream.socketApi env op x.1 x.2).1.map .value)
      (x.1, (SysTcpStream.socketApi env op x.1 x.2).2)

instance : LazyModule Linux.TcpStreamState :=
  ⟨fun _ => rfl, fun _ _ _ _ => rfl, fun _ _ => rfl, fun _ _ => rfl, fun _ _ => rfl, fun _ => rfl,
    fun _ => Other.of_callSocketApi⟩

instance : LazyModule FreeBsd.TcpStreamState :=
  ⟨fun _ => rfl, fun _ _ _ _ => rfl, fun _ _ => rfl, fun _ _ => rfl, fun _ _ => rfl, fun _ => rfl,
    fun _ => Other.of_callSocketApi⟩

instance : LazyModule Windows.TcpStreamState :=
  ⟨fun _ => rfl, fun _ _ _ _ => rfl, fun _ _ => rfl, fun _ _ => rfl, fun _ _ => rfl, fun _ => rfl,
    fun _ => Other.of_callSocketApi⟩

instance (p : Profile) : LazyModule (Phase p) :=
  ⟨fun _ => rfl, fun _ _ _ _ => rfl, fun _ _ => rfl, fun _ _ => rfl, fun _ _ => rfl, fun _ => rfl,
    fun _ => Other.of_socketApi⟩

section
variable {σ : Type} [SysTcpStream (LazyTcpStream σ)] [LazyModule σ] {env : Env}

/-- **A call is a write or one of the other methods.** -/
theorem performs_cases {c : Call} {x x' : LazyTcpStream σ × Trace} {o : Outcome Ret}
    (h : Performs env c x o x') :
    (∃ cx buf r, c.payload = some (cx, buf) ∧ PollWriteReturns env cx buf x r x' ∧
      o = r.map .write) ∨ Other env c x o x' := by
  cases c with
  | pollWrite cx buf =>
    obtain ⟨r, hr, ho⟩ := h
    exact .inl ⟨cx, buf, r, rfl, hr, ho⟩
  | pollWriteVectored cx bufs =>
    obtain ⟨r, hr, ho⟩ := h
    exact .inl ⟨cx, firstNonEmpty bufs, r, rfl, hr, ho⟩
  | pollRead cx room =>
    obtain ⟨rfl, rfl⟩ := h
    rw [LazyModule.pollRead_eq]; exact .inr (.of_pollRead cx room x)
  | pollFlush cx =>
    obtain ⟨rfl, rfl⟩ := h
    rw [LazyModule.pollFlush_eq]; exact .inr (.of_pollFlush cx x)
  | pollShutdown cx =>
    obtain ⟨rfl, rfl⟩ := h
    rw [LazyModule.pollShutdown_eq]; exact .inr (.of_pollShutdown cx x)
  | peerAddr =>
    obtain ⟨rfl, rfl⟩ := h
    rw [LazyModule.peerAddr_eq]; exact .inr (.of_peerAddr x)
  | asRawFd =>
    obtain ⟨rfl, rfl⟩ := h
    rw [LazyModule.asRawFd_eq]; exact .inr (.of_asRawFd _)
  | socketApi op =>
    obtain ⟨rfl, rfl⟩ := h
    exact .inr (LazyModule.socketApi_other env op x)

/-- The reactor only sets the cached readiness of a connected stream. -/
theorem deliver_cases (x : LazyTcpStream σ × Trace) :
    deliver env x = x ∨ ∃ st s h, x = (⟨st, .connected s⟩, h) ∧
      deliver env x = (⟨st, .connected s.setWritable⟩, .writeEvent :: h) := by
  obtain ⟨⟨st, s | _ | _⟩, h⟩ := x
  · simp only [deliver, LazyModule.setWritable_eq, LazyTcpStream.setWritable]
    split
    · exact .inr ⟨st, s, h, rfl, rfl⟩
    · exact .inl rfl
  all_goals exact .inl (by simp [deliver, LazyModule.setWritable_eq, LazyTcpStream.setWritable])

theorem deliver_inv {I : LazyTcpStream σ × Trace → Prop}
    (hev : ∀ st s h, I (⟨st, .connected s⟩, h) →
      I (⟨st, .connected s.setWritable⟩, .writeEvent :: h)) {x : LazyTcpStream σ × Trace}
    (hI : I x) : I (deliver env x) := by
  rcases @deliver_cases σ _ _ env x with hd | ⟨st, s, t, rfl, hd⟩
  · rw [hd]; exact hI
  · rw [hd]; exact hev st s t hI

/-- **Invariant rule for a call of `poll_write`.** -/
theorem pollWrite_post {I : LazyTcpStream σ × Trace → Prop}
    {Q : Outcome (Poll (Result ℕ)) → LazyTcpStream σ × Trace → Prop} {cx : Waker} {buf : Bytes}
    (hev : ∀ st s h, I (⟨st, .connected s⟩, h) →
      I (⟨st, .connected s.setWritable⟩, .writeEvent :: h))
    (hagain : ∀ x y, I x → SysTcpStream.pollWriteBody env cx buf x = .again y → I y)
    (hdone : ∀ x r y, I x → SysTcpStream.pollWriteBody env cx buf x = .done r y → Q r y)
    {x x' : LazyTcpStream σ × Trace} {r : Outcome (Poll (Result ℕ))} (hI : I x)
    (h : PollWriteReturns env cx buf x r x') : Q r x' :=
  h.post (fun _ z hy => hagain _ z (deliver_inv hev hy))
    (fun _ r z hy => hdone _ r z (deliver_inv hev hy)) hI

/-- The same for a call in progress. -/
theorem midWrite_post {I : LazyTcpStream σ × Trace → Prop} {c : Call}
    (hev : ∀ st s h, I (⟨st, .connected s⟩, h) →
      I (⟨st, .connected s.setWritable⟩, .writeEvent :: h))
    (hagain : ∀ cx buf x y, c.payload = some (cx, buf) → I x →
      SysTcpStream.pollWriteBody env cx buf x = .again y → I y)
    {x : TfoStream (LazyTcpStream σ) × Trace} {n : ℕ} {y : LazyTcpStream σ × Trace}
    (hI : I (x.1.inner, .call c :: x.2)) (h : MidWrite env c x n y) : I y := by
  obtain ⟨cx, buf, hc, h⟩ := h
  exact Loop.run_again_inv (fun _ z hy => hagain cx buf _ z hc (deliver_inv hev hy)) hI h

/-- **Rule for a call**, whatever it is. -/
theorem performs_post {c : Call} {I : LazyTcpStream σ × Trace → Prop}
    {Q : Outcome Ret → LazyTcpStream σ × Trace → Prop}
    (hev : ∀ st s h, I (⟨st, .connected s⟩, h) →
      I (⟨st, .connected s.setWritable⟩, .writeEvent :: h))
    (hagain : ∀ cx buf x y, c.payload = some (cx, buf) → I x →
      SysTcpStream.pollWriteBody env cx buf x = .again y → I y)
    (hdone : ∀ cx buf x r y, c.payload = some (cx, buf) → I x →
      SysTcpStream.pollWriteBody env cx buf x = .done r y → Q (r.map .write) y)
    (hother : ∀ x o x', I x → Other env c x o x' → Q o x')
    {x x' : LazyTcpStream σ × Trace} {o : Outcome Ret} (hI : I x)
    (h : Performs env c x o x') : Q o x' := by
  rcases performs_cases h with ⟨cx, buf, r, hc, hr, rfl⟩ | ho
  · exact pollWrite_post (Q := fun r y => Q (r.map .write) y) hev
      (fun y z => hagain cx buf y z hc) (fun y r z => hdone cx buf y r z hc) hI hr
  · exact hother _ _ _ hI ho

/-- An invariant of the stream and its history: what every event of a run preserves. -/
structure Invariant (env : Env) (I : LazyTcpStream σ × Trace → Prop) : Prop where
  call : ∀ s h c, I (s, h) → I (s, .call c :: h)
  ret : ∀ s h c o, I (s, h) → I (s, .ret c o :: h)
  event : ∀ st s h, I (⟨st, .connected s⟩, h) →
    I (⟨st, .connected s.setWritable⟩, .writeEvent :: h)
  body : ∀ cx buf x, I x → I (SysTcpStream.pollWriteBody env cx buf x).state
  other : ∀ c x o x', I x → Other env c x o x' → I x'

namespace Invariant
variable {I : LazyTcpStream σ × Trace → Prop}

omit [LazyModule σ] in
/-- An invariant that ignores idle events, and the parked waker, holds if the reactor and the loop
body preserve it. -/
theorem of_idle (hI : ∀ s, IgnoresIdle fun h => I (s, h))
    (park : ∀ st socket addr reader reader' h, I (⟨st, .connecting socket addr reader⟩, h) →
      I (⟨st, .connecting socket addr reader'⟩, h))
    (event : ∀ st s h, I (⟨st, .connected s⟩, h) →
      I (⟨st, .connected s.setWritable⟩, .writeEvent :: h))
    (body : ∀ cx buf x, I x → I (SysTcpStream.pollWriteBody env cx buf x).state) :
    Invariant env I where
  call s h c hx := ((hI s).call c h).mpr hx
  ret s h c o hx := ((hI s).ret c o h).mpr hx
  event := event
  body := body
  other c x o x' hx ho := by
    refine (ho.ignored (hI x'.1)).mpr ?_
    cases ho with
    | park => exact park _ _ _ _ _ _ hx
    | _ => exact hx

omit [LazyModule σ] in
theorem again (hi : Invariant env I) {cx : Waker} {buf : Bytes} {x y : LazyTcpStream σ × Trace}
    (hx : I x) (hb : SysTcpStream.pollWriteBody env cx buf x = .again y) : I y := by
  have := hi.body cx buf x hx
  rwa [hb] at this

omit [LazyModule σ] in
theorem done (hi : Invariant env I) {cx : Waker} {buf : Bytes} {x y : LazyTcpStream σ × Trace}
    {r : Outcome (Poll (Result ℕ))} (hx : I x)
    (hb : SysTcpStream.pollWriteBody env cx buf x = .done r y) : I y := by
  have := hi.body cx buf x hx
  rwa [hb] at this

/-- A step preserves an invariant, whatever the call is. -/
theorem step (hi : Invariant env I) {x x' : TfoStream (LazyTcpStream σ) × Trace} {l : Done}
    (hx : I (x.1.inner, x.2)) (hs : (system (LazyTcpStream σ) env).step x l x') :
    I (x'.1.inner, x'.2) := by
  obtain ⟨h, hp, hx'⟩ := hs
  rw [hx']
  exact hi.ret _ _ _ _ (performs_post (Q := fun _ y => I y) hi.event
    (fun cx buf y z _ hy hb => hi.again hy hb) (fun cx buf y r z _ hy hb => hi.done hy hb)
    (hi.other l.call) (hi.call _ _ l.call hx) hp)

/-- **Invariant rule.**  An invariant that holds at the start holds in every reached state. -/
theorem reached (hi : Invariant env I) {x₀ : TfoStream (LazyTcpStream σ) × Trace}
    (hx₀ : I (x₀.1.inner, x₀.2)) {y : LazyTcpStream σ × Trace} (h : Reached env x₀ y) : I y := by
  have hrun : ∀ {t x}, (system (LazyTcpStream σ) env).Run x₀ t x → I (x.1.inner, x.2) :=
    fun hr => hr.inv' (I := fun x => I (x.1.inner, x.2)) hx₀ fun _ _ _ hx hs => hi.step hx hs
  cases h with
  | between hr => exact hrun hr
  | within hr hm =>
    exact midWrite_post hi.event (fun cx buf y z _ hy hb => hi.again hy hb)
      (hi.call _ _ _ (hrun hr)) hm

end Invariant

end

end TokioTfo
