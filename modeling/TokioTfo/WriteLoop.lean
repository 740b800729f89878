/-
  A task that writes: it polls a write again when it has been woken.

  * `pending_le_waits`: a write that finds the socket unregistered, or its readiness
    cached, returns `Pending` only after an answer that told it to wait in the same
    call.  So over a run of such writes there are no more `Pending` than there are
    answers of this kind, and no wake-up is spent for nothing.
  * `write_all_finishes`: on the Unix modules a loop that presents the unsent rest of a
    buffer never has more accepted than there is.  If the kernel takes something of what
    it is offered, and the loop writes when it has been woken, it has made no more writes
    than there are bytes accepted and answers to wait; and the next one returns, unless
    the kernel lets it spin.
-/
import TokioTfo.Answers
import TokioTfo.Delivery
import TokioTfo.Failures
import TokioTfo.Panics
import TokioTfo.Termination

namespace TokioTfo

/-! ## The answers to wait -/

/-- The answer tells `poll_write` to wait, or to write again once the socket is connected. -/
def Event.waits (masked : Error → Trace → Bool) (h : Trace) : Event → Bool
  | sendto _ _ _ _ (.error e) => e == .EINPROGRESS
  | send _ _ (.error e) => e == .EINPROGRESS || e.blocks
  | connectEx _ _ _ (.error e) => e == .WSA_IO_PENDING
  | getOverlappedResult _ _ (.error e) => e == .WSA_IO_INCOMPLETE || e.blocks
  | setUpdateConnectContext _ (.error e) => e.blocks && !connectedAtOnce h
  | pollWrite _ _ _ .pending => true
  | pollWrite _ _ _ (.ready (.error e)) => masked e h
  | _ => false

/-- The number of the answers to wait. -/
def waits (masked : Error → Trace → Bool) : Trace → ℕ
  | [] => 0
  | e :: h => waits masked h + if e.waits masked h then 1 else 0

section
variable {masked : Error → Trace → Bool}

@[simp] theorem waits_cons (e : Event) (h : Trace) :
    waits masked (e :: h) = waits masked h + if e.waits masked h then 1 else 0 := rfl

theorem waits_idle : IgnoresIdle (waits masked) := by
  intro e h he
  have : e.waits masked h = false := by
    cases e <;> first | rfl | exact he.elim
  rw [waits_cons, this]
  rfl

theorem waits_le_cons (e : Event) (h : Trace) : waits masked h ≤ waits masked (e :: h) :=
  Nat.le_add_right _ _

end

/-- The socket is not registered, or its readiness is cached. -/
def LazyTcpStream.Ready {σ : Type} (x : LazyTcpStream σ) : Prop :=
  ∀ s, x.stream = .connected s → s.writable = true

instance {σ : Type} (x : LazyTcpStream σ) : Decidable x.Ready :=
  match hx : x.stream with
  | .connected s => decidable_of_iff (s.writable = true)
    ⟨fun hs _ he => TcpStreamOption.connected.inj (hx.symm.trans he) ▸ hs, fun hr => hr s hx⟩
  | .connecting .. | .empty => .isTrue fun s he => by rw [hx] at he; cases he

/-- The task has budget left whenever it waits for the socket to be writable. -/
def Unlimited (env : Env) : Prop := ∀ h fd, env.pollWriteReady h fd ≠ .budget

theorem pollWriteReady_pending {env : Env} (hu : Unlimited env) {cx : Waker} {s : TokioTcpStream}
    {h : Trace} (hr : (s.pollWriteReady env cx h).1 = .pending) : s.writable = false := by
  cases hw : s.writable with
  | false => rfl
  | true =>
    simp only [TokioTcpStream.pollWriteReady, hw, if_true] at hr
    have := hu h s.fd
    cases hb : env.pollWriteReady h s.fd <;> simp_all

/-! ## One iteration -/

/-- An iteration from `x` that goes round again has been told to wait, or leaves the readiness
cached; one that returns `Pending` has been told to wait, or has found no readiness. -/
def WaitsForReason {σ : Type} (masked : Error → Trace → Bool) (x : LazyTcpStream σ × Trace) :
    Loop.Step (LazyTcpStream σ × Trace) (Outcome (Poll (Result ℕ))) → Prop
  | .again y =>
    waits masked x.2 < waits masked y.2 ∨ waits masked x.2 ≤ waits masked y.2 ∧ y.1.Ready
  | .done r y => waits masked x.2 ≤ waits masked y.2 ∧
      (r = .returned .pending → waits masked x.2 < waits masked y.2 ∨ ¬x.1.Ready)

section
variable {env : Env} (hu : Unlimited env) {cx : Waker} {buf : Bytes} {s : TokioTcpStream}
  {h : Trace}
include hu

/-- With the readiness cached, the machine does not wait for the socket. -/
theorem Handshake.wait_unready {p : Profile} {ph : Phase p}
    (hph : ph = .fastOpenConnecting ∨ ph = .fastOpenWrite) (hw : s.writable = true)
    {y : Handshake p × Trace} :
    pollWriteBody env cx buf (⟨ph, .connected s⟩, h) ≠ .done (.returned .pending) y := by
  intro hb
  rcases hs : s.pollWriteReady env cx h with ⟨(e | ⟨⟩) | _, h'⟩
  · rcases hph with rfl | rfl <;>
      simp [pollWriteBody, LazyTcpStream.withConnected, awaitConnect, fastOpenWrite, hs] at hb
  · rcases hph with rfl | rfl
    · simp only [pollWriteBody, LazyTcpStream.withConnected, awaitConnect, hs] at hb
      split at hb <;> simp at hb
    · simp only [pollWriteBody, LazyTcpStream.withConnected, fastOpenWrite, hs] at hb
      split at hb
      · simp at hb
      · split at hb <;> simp at hb
      · simp at hb
  · rw [pollWriteReady_pending hu (by rw [hs])] at hw
    cases hw

theorem Windows.wait_unready {ov : Overlapped} (hw : s.writable = true)
    {y : Windows.TcpStream × Trace} :
    TcpStream.pollWriteBody env cx buf (⟨.fastOpenConnecting ov, .connected s⟩, h) ≠
      .done (.returned .pending) y := by
  intro hb
  rcases hs : s.pollWriteReady env cx h with ⟨(e | ⟨⟩) | _, h'⟩
  · simp [TcpStream.pollWriteBody, LazyTcpStream.withConnected, TcpStream.fastOpenConnecting,
      hs] at hb
  · simp only [TcpStream.pollWriteBody, LazyTcpStream.withConnected, TcpStream.fastOpenConnecting,
      hs] at hb
    split at hb
    · split at hb <;> simp at hb
    · split at hb <;> simp at hb
    · simp at hb
  · rw [pollWriteReady_pending hu (by rw [hs])] at hw
    cases hw

end

theorem Handshake.waitsForReason {p : Profile} {env : Env} (hu : Unlimited env) (cx : Waker)
    (buf : Bytes) {x : Handshake p × Trace} (hx : p.settles = true → Settled x) :
    WaitsForReason p.masked x (pollWriteBody env cx buf x) := by
  have hi := body_iter env cx buf x
  generalize hb : pollWriteBody env cx buf x = y at hi
  cases hi with
  | @wait ph s h hph =>
    refine ⟨waits_le_cons _ _, fun _ => .inr fun hr => ?_⟩
    exact wait_unready hu hph (hr s rfl) hb
  | @retry s h e hs hr =>
    have ho : wroteOnce h = false := by simpa [Settled] using hx hs
    left
    simp [Event.waits, Profile.masked, hs, hr, ho]
  | soNone hw =>
    right
    exact ⟨by simp [queried, Event.waits], by simpa [LazyTcpStream.Ready] using hw⟩
  | @write ph s s' h r hph =>
    refine ⟨waits_le_cons _ _, fun hr => .inl ?_⟩
    obtain rfl := Outcome.returned.inj hr
    simp [Event.waits]
  | openCount | openProgress =>
    simp [WaitsForReason, waits_idle.wakeReader, waits_idle.registered, Event.waits]
  | unreachable => exact ⟨Nat.le_refl _, by simp⟩
  | _ => simp_all [WaitsForReason, queried, notRegistered, Event.waits, Errno.blocks]

theorem Windows.waitsForReason {env : Env} (hu : Unlimited env) (cx : Waker) (buf : Bytes)
    (x : Windows.TcpStream × Trace) :
    WaitsForReason (fun _ _ => false) x (TcpStream.pollWriteBody env cx buf x) := by
  have hi := body_iter env cx buf x
  generalize hb : TcpStream.pollWriteBody env cx buf x = y at hi
  cases hi with
  | @wait ov s h =>
    refine ⟨waits_le_cons _ _, fun _ => .inr fun hr => ?_⟩
    exact wait_unready hu (hr s rfl) hb
  | @write s s' h r =>
    refine ⟨waits_le_cons _ _, fun hr => .inl ?_⟩
    obtain rfl := Outcome.returned.inj hr
    simp [Event.waits]
  | openCount | openPending =>
    simp [WaitsForReason, waits_idle.wakeReader, waits_idle.registered, Event.waits]
  | unreachable | noConnectEx => exact ⟨Nat.le_refl _, by simp⟩
  | incomplete _ he => simp_all [WaitsForReason, Event.waits, Errno.blocks]
  | _ =>
    simp_all [WaitsForReason, queried, notRegistered, Event.waits, Errno.blocks, connectedAtOnce]

/-! ## Calls and runs -/

section
variable {σ : Type} [SysTcpStream (LazyTcpStream σ)] [LazyModule σ] {env : Env}
  {masked : Error → Trace → Bool} {I : LazyTcpStream σ × Trace → Prop}

/-- The reactor takes no readiness away. -/
theorem ready_deliver {x : LazyTcpStream σ × Trace} (hx : x.1.Ready) : (deliver env x).1.Ready := by
  rcases @deliver_cases σ _ _ env x with hd | ⟨st, s, t, rfl, hd⟩
  · rw [hd]
    exact hx
  · rw [hd]
    intro s' hs
    cases hs
    rfl

theorem waits_deliver (x : LazyTcpStream σ × Trace) :
    waits masked (deliver env x).2 = waits masked x.2 := by
  rcases @deliver_cases σ _ _ env x with hd | ⟨st, s, t, rfl, hd⟩ <;> rw [hd]
  rfl

/-- **A write that returns `Pending`** has been told to wait, if it found the socket ready. -/
theorem pollWrite_waits (hI : Invariant env I)
    (hbody : ∀ cx buf x, I x → WaitsForReason masked x (SysTcpStream.pollWriteBody env cx buf x))
    {cx : Waker} {buf : Bytes} {x y : LazyTcpStream σ × Trace} {r : Outcome (Poll (Result ℕ))}
    (hx : I x) (h : PollWriteReturns env cx buf x r y) :
    waits masked x.2 ≤ waits masked y.2 ∧
      ((deliver env x).1.Ready → r = .returned .pending → waits masked x.2 < waits masked y.2) := by
  have hdel : ∀ z, I z → I (deliver env z) := fun z hz => deliver_inv hI.event hz
  refine Loop.Returns.post
    (I := fun z => I z ∧ waits masked x.2 ≤ waits masked z.2 ∧ ((deliver env x).1.Ready →
      waits masked x.2 < waits masked z.2 ∨ (deliver env z).1.Ready))
    (Q := fun r z => waits masked x.2 ≤ waits masked z.2 ∧ ((deliver env x).1.Ready →
      r = .returned .pending → waits masked x.2 < waits masked z.2))
    ?_ ?_ ⟨hx, Nat.le_refl _, .inr⟩ h
  · rintro z w ⟨hz, hle, hr⟩ hb
    have hi := hbody cx buf _ (hdel z hz)
    rw [show SysTcpStream.pollWriteBody env cx buf (deliver env z) = _ from hb] at hi
    refine ⟨hI.again (hdel z hz) hb, ?_, fun hx => ?_⟩
    · rcases hi with hi | ⟨hi, -⟩ <;> rw [waits_deliver] at hi <;> omega
    · rcases hi with hi | ⟨-, hi⟩
      · rw [waits_deliver] at hi
        exact .inl (by omega)
      · exact .inr (ready_deliver hi)
  · rintro z r w ⟨hz, hle, hr⟩ hb
    have hi := hbody cx buf _ (hdel z hz)
    rw [show SysTcpStream.pollWriteBody env cx buf (deliver env z) = _ from hb] at hi
    obtain ⟨hm, hp⟩ := hi
    rw [waits_deliver] at hm hp
    refine ⟨Nat.le_trans hle hm, fun hx hpend => ?_⟩
    rcases hp hpend with hlt | hn
    · omega
    · exact Nat.lt_of_lt_of_le ((hr hx).resolve_right hn) hm

end

/-- A write of the run finds the socket unregistered, or its readiness cached, after the reactor has
run. -/
def Woken {S : Type} [SysTcpStream S] (ready : S → Prop) (env : Env)
    (y : Lts.Taken (TfoStream S × Trace) Done) : Prop :=
  y.label.call.payload ≠ none →
    ready (deliver env (y.pre.1.inner, .call y.label.call :: y.pre.2)).1

instance {S : Type} [SysTcpStream S] (ready : S → Prop) [DecidablePred ready] (env : Env)
    (y : Lts.Taken (TfoStream S × Trace) Done) : Decidable (Woken ready env y) :=
  inferInstanceAs (Decidable (_ → _))

/-- The number of writes that have returned `Pending`. -/
def pendings {S : Type} (t : List (Lts.Taken (TfoStream S × Trace) Done)) : ℕ :=
  t.countP fun y => y.label.outcome = .returned (.write .pending)

section
variable {σ : Type} [SysTcpStream (LazyTcpStream σ)] [LazyModule σ] {env : Env}
  {masked : Error → Trace → Bool} {I : LazyTcpStream σ × Trace → Prop}

theorem step_waits (hI : Invariant env I)
    (hbody : ∀ cx buf x, I x → WaitsForReason masked x (SysTcpStream.pollWriteBody env cx buf x))
    {x y : TfoStream (LazyTcpStream σ) × Trace} {l : Done} (hx : I (x.1.inner, x.2))
    (h : (system (LazyTcpStream σ) env).step x l y) : waits masked x.2 ≤ waits masked y.2 ∧
      (Woken LazyTcpStream.Ready env ⟨x, l, y⟩ → l.outcome = .returned (.write .pending) →
        waits masked x.2 < waits masked y.2) := by
  obtain ⟨t, hp, hy⟩ := h
  rw [hy, waits_idle.ret]
  have hx' : I (x.1.inner, .call l.call :: x.2) := hI.call _ _ _ hx
  rcases performs_cases hp with ⟨cx, buf, r, hc, hr, ho⟩ | ho
  · obtain ⟨hm, hlt⟩ := pollWrite_waits hI hbody hx' hr
    refine ⟨hm, fun hw hpend => hlt (hw (by simp [hc])) ?_⟩
    rw [hpend] at ho
    obtain ⟨_, rfl, ha⟩ := Outcome.map_eq_returned.1 ho.symm
    cases ha
    rfl
  · rw [ho.ignored waits_idle]
    exact ⟨Nat.le_refl _, fun _ hpend => absurd hpend (ho.ne_write _)⟩

/-- **No `Pending` without a reason**, over a run of writes that have been woken. -/
theorem run_waits (hI : Invariant env I)
    (hbody : ∀ cx buf x, I x → WaitsForReason masked x (SysTcpStream.pollWriteBody env cx buf x))
    {x₀ x : TfoStream (LazyTcpStream σ) × Trace}
    {t : List (Lts.Taken (TfoStream (LazyTcpStream σ) × Trace) Done)}
    (hx₀ : I (x₀.1.inner, x₀.2)) (h : (system (LazyTcpStream σ) env).Run x₀ t x)
    (hw : ∀ y ∈ t, Woken LazyTcpStream.Ready env y) : pendings t ≤ waits masked x.2 := by
  induction h with
  | nil => exact Nat.zero_le _
  | @snoc t x x' l hr hs ih =>
    have ih := ih fun y hy => hw y (List.mem_cons_of_mem _ hy)
    obtain ⟨hm, hlt⟩ := step_waits hI hbody (hI.reached hx₀ (.between hr)) hs
    rw [pendings, List.countP_cons]
    by_cases hp : l.outcome = .returned (.write .pending)
    · have := hlt (hw _ (List.mem_cons_self ..)) hp
      simp only [hp, decide_true, if_true]
      exact Nat.lt_of_le_of_lt ih this
    · simp only [hp, decide_false, Bool.false_eq_true, if_false]
      exact Nat.le_trans ih hm

end

/-- The readiness of a stream of a Unix module. -/
def Unix.Ready {S : Type} [SysTcpStream S] [UnixTcpStream S] (s : S) : Prop :=
  (UnixTcpStream.view s).Ready

instance {S : Type} [SysTcpStream S] [UnixTcpStream S] (s : S) : Decidable (Unix.Ready s) :=
  inferInstanceAs (Decidable (UnixTcpStream.view s).Ready)

theorem Unix.woken_view {S : Type} [SysTcpStream S] [UnixTcpStream S] {env : Env}
    {y : Lts.Taken (TfoStream S × Trace) Done} (hy : Woken Unix.Ready env y) :
    Woken LazyTcpStream.Ready env (y.map UnixTcpStream.viewTfo) := by
  intro hc
  have hr : (UnixTcpStream.view (deliver env
    (y.pre.1.inner, .call y.label.call :: y.pre.2)).1).Ready := hy hc
  show (deliver env (Prod.map UnixTcpStream.view id
    (y.pre.1.inner, Event.call y.label.call :: y.pre.2))).1.Ready
  rwa [UnixTcpStream.deliver_view]

theorem Unix.pendings_le {S : Type} [SysTcpStream S] [SysConnect S] [UnixTcpStream S]
    [UnixConnect S] {env : Env} (hu : Unlimited env) {x₀ x : TfoStream S × Trace}
    {t : List (Lts.Taken (TfoStream S × Trace) Done)} (hx₀ : Started env x₀)
    (h : (system S env).Run x₀ t x) (hw : ∀ y ∈ t, Woken Unix.Ready env y) :
    pendings t ≤ waits (UnixTcpStream.profile S).masked x.2 := by
  have hr := run_waits (Handshake.masking_invariant _)
    (fun cx buf y hy => Handshake.waitsForReason hu cx buf hy) (fun _ => Unix.settled_started hx₀)
    (UnixTcpStream.run_view env h)
    (List.forall_mem_map.2 fun y hy => Unix.woken_view (hw y hy))
  have hp : pendings (t.map (Lts.Taken.map UnixTcpStream.viewTfo)) = pendings t := by
    rw [pendings, List.countP_map]
    rfl
  rwa [hp] at hr

theorem MacOs.ready_view (s : MacOs.TcpStream) (hs : s.inner.writable = true) : Unix.Ready s :=
  fun _ he => TcpStreamOption.connected.inj he ▸ hs

/-- **A write waits only when it is told to.** -/
theorem pending_le_waits {env : Env} (hu : Unlimited env) :
    (∀ (x₀ x : TfoStream Linux.TcpStream × Trace)
      (t : List (Lts.Taken (TfoStream Linux.TcpStream × Trace) Done)),
      Started env x₀ → (system Linux.TcpStream env).Run x₀ t x →
        (∀ y ∈ t, Woken LazyTcpStream.Ready env y) → pendings t ≤ waits (fun _ _ => false) x.2) ∧
    (∀ (x₀ x : TfoStream FreeBsd.TcpStream × Trace)
      (t : List (Lts.Taken (TfoStream FreeBsd.TcpStream × Trace) Done)),
      Started env x₀ → (system FreeBsd.TcpStream env).Run x₀ t x →
        (∀ y ∈ t, Woken LazyTcpStream.Ready env y) →
          pendings t ≤ waits (fun e h => FreeBsd.TcpStream.retry e && !wroteOnce h) x.2) ∧
    (∀ (x₀ x : TfoStream MacOs.TcpStream × Trace)
      (t : List (Lts.Taken (TfoStream MacOs.TcpStream × Trace) Done)),
      Started env x₀ → (system MacOs.TcpStream env).Run x₀ t x →
        (∀ y ∈ t, Woken (fun s : MacOs.TcpStream => s.inner.writable = true) env y) →
          pendings t ≤ waits (fun e h => MacOs.TcpStream.retry e && !wroteOnce h) x.2) ∧
    ∀ (x₀ x : TfoStream Windows.TcpStream × Trace)
      (t : List (Lts.Taken (TfoStream Windows.TcpStream × Trace) Done)),
      Started env x₀ → (system Windows.TcpStream env).Run x₀ t x →
        (∀ y ∈ t, Woken LazyTcpStream.Ready env y) →
          pendings t ≤ waits (fun _ _ => false) x.2 := by
  refine ⟨?_, ?_, ?_, ?_⟩
  · intro x₀ x t hx₀ h hw
    exact Unix.pendings_le hu hx₀ h hw
  · intro x₀ x t hx₀ h hw
    exact Unix.pendings_le hu hx₀ h hw
  · intro x₀ x t hx₀ h hw
    exact Unix.pendings_le hu hx₀ h fun y hy hc => MacOs.ready_view _ (hw y hy hc)
  · intro x₀ x t _ h hw
    exact run_waits (I := fun _ => True)
      (.of_idle (by simp [IgnoresIdle]) (by simp) (by simp) (by simp))
      (fun cx buf y _ => Windows.waitsForReason hu cx buf y) trivial h hw

theorem unlimited_slowHandshake : Unlimited slowHandshake := by
  simp [Unlimited, slowHandshake, default]

/-- The first write waits for the handshake, and the second one does not wait. -/
theorem pending_le_waits_slowHandshake :
    (let r := runOf slowHandshake 3 twoWrites Linux.client
     pendings r.1 = 1 ∧ pendings r.1 ≤ waits (fun _ _ => false) r.2.2) ∧
    (let r := runOf slowHandshake 3 twoWrites FreeBsd.client
     pendings r.1 = 1 ∧
       pendings r.1 ≤ waits (fun e h => FreeBsd.TcpStream.retry e && !wroteOnce h) r.2.2) ∧
    (let r := runOf slowHandshake 3 twoWrites MacOs.client
     pendings r.1 = 1 ∧
       pendings r.1 ≤ waits (fun e h => MacOs.TcpStream.retry e && !wroteOnce h) r.2.2) ∧
    let r := runOf slowHandshake 3 twoWrites Windows.client
    pendings r.1 = 1 ∧ pendings r.1 ≤ waits (fun _ _ => false) r.2.2 := by
  obtain ⟨hl, hf, hm, hw⟩ := pending_le_waits unlimited_slowHandshake
  refine ⟨⟨by decide, ?_⟩, ⟨by decide, ?_⟩, ⟨by decide, ?_⟩, ⟨by decide, ?_⟩⟩
  · exact hl _ _ _ (.inl Linux.client_connects) (run_runOf slowHandshake 3 _ _) (by decide)
  · exact hf _ _ _ (.inl (FreeBsd.client_connects rfl)) (run_runOf slowHandshake 3 _ _) (by decide)
  · exact hm _ _ _ (.inl (MacOs.client_connects rfl rfl rfl)) (run_runOf slowHandshake 3 _ _)
      (by decide)
  · exact hw _ _ _ (.inl (Windows.client_connects rfl rfl)) (run_runOf slowHandshake 3 _ _)
      (by decide)

/-! ## A loop that writes a buffer -/

section
variable {S : Type}

/-- The number of writes. -/
def writeCalls (t : List (Lts.Taken (TfoStream S × Trace) Done)) : ℕ :=
  t.countP fun y => y.label.call.payload.isSome

theorem writeCalls_map {S' : Type} (t : List (Lts.Taken (TfoStream S × Trace) Done))
    (g : TfoStream S × Trace → TfoStream S' × Trace) :
    writeCalls (t.map (Lts.Taken.map g)) = writeCalls t := by
  rw [writeCalls, List.countP_map]
  rfl

end

/-- A write offers at least one byte. -/
def Call.OffersSome (c : Call) : Prop := ∀ a ∈ c.payload, a.2 ≠ []

instance (c : Call) : Decidable c.OffersSome :=
  inferInstanceAs (Decidable (∀ a ∈ c.payload, a.2 ≠ []))

/-- The kernel takes something of every buffer that is not empty. -/
structure Unix.TakesSome (env : Env) : Prop extends TokioTfo.TakesSome env where
  sendto : ∀ h fd buf flags addr n, env.sendto h fd buf flags addr = .ok n → n.val = 0 → buf = []
  send : ∀ h fd buf n, env.send h fd buf = .ok n → n.val = 0 → buf = []

/-- The task runs inside a runtime. -/
def InRuntime (env : Env) : Prop := ∀ h fd, env.fromStd h fd ≠ .error .noRuntime

/-- Inside a runtime `from_std` does not panic. -/
theorem outsideRuntime_of_answered {env : Env} (hin : InRuntime env) {h : Trace}
    (ha : Answered env h) : outsideRuntime h = false := by
  induction h with
  | nil => rfl
  | cons e h ih =>
    unfold outsideRuntime
    split
    · rfl
    · rfl
    · rename_i he
      cases he
      exact absurd ha.1 (hin _ _)
    · rename_i he
      cases he
      exact ih ha.2

/-- So a hand-over that has failed is a failure. -/
theorem handOverFailed_of_failures {env : Env} (hin : InRuntime env)
    {masked : Error → Trace → Bool} {pending : Bool} {h : Trace} (ha : Answered env h)
    (hf : failures masked pending h = []) : handOverFailed h = false := by
  induction h with
  | nil => rfl
  | cons e h ih =>
    rw [failures_cons, List.append_eq_nil_iff, Option.toList_eq_nil_iff] at hf
    rw [handOverFailed_cons, ih ha.2 hf.2, Bool.or_false]
    have hanswer := ha.1
    unfold Event.failsHandOver
    split
    · rename_i u
      cases u with
      | failed err => simp [Event.failure] at hf
      | noRuntime => exact absurd hanswer (hin _ _)
    · simp [Event.failure, connectedAtOnce] at hf
    · rfl

/-- A count that was recorded is the one that was answered. -/
theorem answered_count {k n : ℕ} {r : Except Errno (Count k)} (h : r.map Fin.val = .ok n) :
    ∃ m, r = .ok m ∧ m.val = n := by
  cases r with
  | error e => cases h
  | ok m => exact ⟨m, rfl, Except.ok.inj h⟩

namespace Handshake
variable {p : Profile} {env : Env} {cx : Waker} {buf : Bytes}

/-- A count that a write returns is not zero if something was offered. -/
theorem Iter.takesSome (ht : Unix.TakesSome env) (hne : buf ≠ []) {x y : Handshake p × Trace}
    {n : ℕ} (h : Iter env cx buf x (.done (.returned (.ready (.ok n))) y)) (ha : Answered env y.2) :
    1 ≤ n := by
  have hpoll : ∀ {h fd n}, (env.pollWrite h fd buf).poll = .ready (.ok n) → 1 ≤ n := by
    intro h fd n hn
    rcases hr : env.pollWrite h fd buf with (e | m) | _ | _ <;> rw [hr] at hn <;> cases hn
    exact Nat.pos_of_ne_zero fun hz => hne (ht.pollWrite _ _ _ _ hr hz)
  generalize hr : Outcome.returned (Poll.ready (Except.ok n)) = r at h
  cases h with
  | write | settle =>
    cases hr
    exact hpoll ha.1
  | sendCount =>
    cases hr
    obtain ⟨m, hm, rfl⟩ := answered_count ha.1
    exact Nat.pos_of_ne_zero fun hz => hne (ht.send _ _ _ _ hm hz)
  | openCount =>
    cases hr
    rw [answered_idle.wakeReader, answered_idle.registered] at ha
    obtain ⟨m, hm, rfl⟩ := answered_count ha.1
    exact Nat.pos_of_ne_zero fun hz => hne (ht.sendto _ _ _ _ _ _ hm hz)
  | openCountLost | openProgressLost => exact absurd hr.symm (Unregistered.ready_ne_ok _ _)
  | _ => cases hr

/-- A call reports no more than it was given. -/
theorem step_count {x y : TfoStream (Handshake p) × Trace} {l : Done}
    (h : (system (Handshake p) env).step x l y) : l.count = 0 ∨
      ∃ cx buf, l.call.payload = some (cx, buf) ∧ l.count ≤ buf.length := by
  obtain ⟨c, o⟩ := l
  obtain ⟨t, hp, -⟩ := h
  rcases performs_cases hp with ⟨cx, buf, r, hc, hr, ho⟩ | ho
  · refine .inr ⟨cx, buf, hc, ?_⟩
    obtain rfl : o = r.map .write := ho
    have hle := pollWrite_post (I := fun _ => True)
      (Q := fun r _ => ∀ n, r = .returned (.ready (.ok n)) → n ≤ buf.length)
      (fun _ _ _ h => h) (fun _ _ h _ => h)
      (fun _ _ _ _ hb n hn => by subst hn; exact (Iter.of_body hb).count_le) trivial hr
    rcases r with ((e | n) | _) | q
    · exact Nat.zero_le _
    · exact hle n rfl
    · exact Nat.zero_le _
    · exact Nat.zero_le _
  · exact .inl (count_of_ne_write ho.ne_write)

/-- A write does not panic, unless a hand-over has failed. -/
theorem step_returns {x y : TfoStream (Handshake p) × Trace} {l : Done}
    (hk : KeptOrLost .fastOpenConnect (x.1.inner, x.2)) (hf : handOverFailed x.2 = false)
    (ho : outsideRuntime y.2 = false) (h : (system (Handshake p) env).step x l y)
    {a : Waker × Bytes} (hc : l.call.payload = some a) : l.outcome.panic = none := by
  rw [step_panic hk h, Call.panic_write hc, hf, ho]
  rfl

/-- **A write of a loop** accepts a byte or has been told to wait, if it does not fail. -/
theorem step_progress (hu : Unlimited env) (ht : Unix.TakesSome env) (hne : buf ≠ [])
    {x y : TfoStream (Handshake p) × Trace} {l : Done}
    (hset : p.settles = true → Settled (x.1.inner, x.2)) (ha : Answered env x.2)
    (h : (system (Handshake p) env).step x l y) (hc : l.call.payload = some (cx, buf))
    (hw : Woken LazyTcpStream.Ready env ⟨x, l, y⟩) (he : l.outcome.err = none)
    (hp : l.outcome.panic = none) :
    waits p.masked x.2 + 1 ≤ waits p.masked y.2 + l.count := by
  obtain ⟨c, o⟩ := l
  obtain ⟨hm, hlt⟩ := step_waits (masking_invariant p)
    (fun cx buf z hz => waitsForReason hu cx buf hz) hset h
  obtain ⟨t, hperf, -⟩ := h
  rcases performs_cases hperf with ⟨cx', buf', r, hc', hr, ho⟩ | ho
  · rw [hc] at hc'
    cases hc'
    obtain rfl : o = r.map .write := ho
    have hpost := pollWrite_post (I := fun z : Handshake p × Trace => Answered env z.2)
      (Q := fun r _ => ∀ n, r = .returned (.ready (.ok n)) → 1 ≤ n) answered_invariant.event
      (fun _ _ => answered_invariant.again)
      (fun _ _ _ hz hb n hn => by
        subst hn
        exact (Iter.of_body hb).takesSome ht hne (answered_invariant.done hz hb))
      (show Answered env (.call c :: x.2) from ⟨trivial, ha⟩) hr
    rcases r with ((e | n) | _) | q
    · cases he
    · exact Nat.add_le_add hm (hpost n rfl)
    · exact hlt hw rfl
    · cases hp
  · rw [ho.payload] at hc
    cases hc

/-- **A write loop** makes no more writes than there are bytes accepted and answers to wait. -/
theorem run_progress (hin : InRuntime env) (hu : Unlimited env) (ht : Unix.TakesSome env)
    {x₀ x : TfoStream (Handshake p) × Trace}
    {t : List (Lts.Taken (TfoStream (Handshake p) × Trace) Done)}
    (hset : p.settles = true → Settled (x₀.1.inner, x₀.2)) (ha : Answered env x₀.2)
    (hk : KeptOrLost .fastOpenConnect (x₀.1.inner, x₀.2))
    (h : (system (Handshake p) env).Run x₀ t x)
    (hsome : ∀ y ∈ t, y.label.call.OffersSome) (hw : ∀ y ∈ t, Woken LazyTcpStream.Ready env y)
    (hno : failures p.masked true x.2 = []) :
    writeCalls t ≤ accepted t + waits p.masked x.2 := by
  induction h with
  | nil => exact Nat.zero_le _
  | @snoc t x x' l hr hs ih =>
    have hinv : Invariant env fun z : Handshake p × Trace => p.settles = true → Settled z :=
      masking_invariant p
    have hset' : p.settles = true → Settled (x.1.inner, x.2) := hinv.reached hset (.between hr)
    have ha' : Answered env x.2 := answered_invariant.reached ha (.between hr)
    have herr := step_conveys hinv (fun cx buf z hz => (body_iter env cx buf z).conveys hz)
      (fun op x h => conveys_socketApi op x h) hset' hs
    rw [hno, eq_comm, List.append_eq_nil_iff, Option.toList_eq_nil_iff] at herr
    have hn := ih (fun y hy => hsome y (List.mem_cons_of_mem _ hy))
      (fun y hy => hw y (List.mem_cons_of_mem _ hy)) herr.2
    rw [writeCalls, List.countP_cons, accepted]
    rw [writeCalls] at hn
    cases hc : l.call.payload with
    | none =>
      have hmono := (step_waits hinv (fun cx buf z hz => waitsForReason hu cx buf hz) hset' hs).1
      simp only [Option.isSome_none, Bool.false_eq_true, if_false]
      omega
    | some a =>
      have ho : Answered env x'.2 := answered_invariant.reached ha (.between (.snoc hr hs))
      have hp := step_returns ((keptOrLost_invariant env).reached hk (.between hr))
        (handOverFailed_of_failures hin ha' herr.2) (outsideRuntime_of_answered hin ho) hs hc
      have hstep := step_progress hu ht (hsome _ (List.mem_cons_self ..) a hc) hset' ha' hs hc
        (hw _ (List.mem_cons_self ..)) herr.1 hp
      simp only [Option.isSome_some, if_true]
      omega

end Handshake

section
variable {S : Type} [SysTcpStream S] [UnixTcpStream S] {env : Env} {x₀ x : TfoStream S × Trace}
  {t : List (Lts.Taken (TfoStream S × Trace) Done)}

theorem Unix.accepted_le {b : Bytes} (h : (system S env).Run x₀ t x) (hb : PresentsRest b t) :
    accepted t ≤ b.length := by
  refine hb.accepted_le fun y hy => ?_
  obtain ⟨-, -, -, hs⟩ := h.mem y hy
  exact Handshake.step_count (UnixTcpStream.step_view env hs)

theorem Unix.answered_reached [SysConnect S] [UnixConnect S] (hx₀ : Started env x₀)
    {y : S × Trace} (h : Reached env x₀ y) : Answered env y.2 :=
  Handshake.answered_invariant.reached ((started_unix answered_idle hx₀).mpr trivial)
    (UnixTcpStream.reached_view env h)

theorem Unix.writeCalls_le [SysConnect S] [UnixConnect S] (hin : InRuntime env)
    (hu : Unlimited env) (ht : Unix.TakesSome env) (hx₀ : Started env x₀)
    (h : (system S env).Run x₀ t x) (hsome : ∀ y ∈ t, y.label.call.OffersSome)
    (hw : ∀ y ∈ t, Woken Unix.Ready env y) (hno : errorsReturned t = []) :
    writeCalls t ≤ accepted t + waits (UnixTcpStream.profile S).masked x.2 := by
  rw [Unix.returnsFailures env x₀ x t hx₀ h] at hno
  have hr := Handshake.run_progress hin hu ht (fun _ => Unix.settled_started hx₀)
    ((started_unix answered_idle hx₀).mpr trivial)
    (Unix.keptOrLost_reached hx₀ (.between .nil)) (UnixTcpStream.run_view env h)
    (List.forall_mem_map.2 hsome) (List.forall_mem_map.2 fun y hy => Unix.woken_view (hw y hy)) hno
  rwa [accepted_map, writeCalls_map] at hr

/-- The next write does not panic, as long as no error was returned. -/
theorem Unix.write_unpanicked [SysConnect S] [UnixConnect S] (hin : InRuntime env)
    (hx₀ : Started env x₀) (h : (system S env).Run x₀ t x) (hno : errorsReturned t = [])
    {l : Done} {x' : TfoStream S × Trace} (hs : (system S env).step x l x') {a : Waker × Bytes}
    (hc : l.call.payload = some a) : l.outcome.panic = none := by
  rw [Unix.returnsFailures env x₀ x t hx₀ h] at hno
  have hf := handOverFailed_of_failures hin (Unix.answered_reached hx₀ (.between h)) hno
  have ho := outsideRuntime_of_answered hin (Unix.answered_reached hx₀ (.between (.snoc h hs)))
  exact Handshake.step_returns (Unix.keptOrLost_reached hx₀ (.between h)) hf ho
    (UnixTcpStream.step_view env hs) hc

/-- The next write returns, unless `SO_ERROR` is found clear after a retry of it. -/
theorem Unix.write_returns {c : Call} {cx : Waker} {buf : Bytes}
    (hc : c.payload = some (cx, buf)) {e : ℕ}
    (hn : ∀ n y, MidWrite env c x n y → foundClear (UnixTcpStream.profile S).retry y.2 = false ∧
      writeEvents y.2 ≤ e) : ∃ o x', (system S env).step x ⟨c, o⟩ x' := by
  let w : OneWrite S := ⟨env, cx, buf, (x.1.inner, .call c :: x.2)⟩
  have hb : ∀ n y, w.RunsOn n y → n ≤ 5 + 3 * e := by
    intro n y hy
    obtain ⟨hf, he⟩ := hn n y ⟨cx, buf, hc, hy⟩
    have hle := Unix.runsOn_le (w := w) rfl hy hf
    have : w.events y ≤ writeEvents y.2 := Nat.sub_le _ _
    omega
  obtain ⟨r, z, hr⟩ := Loop.returns_of_bounded hb
  exact ⟨_, _, PollWriteReturns.step hc hr⟩

/-- **A loop that writes a buffer** comes to its end. -/
theorem write_all_finishes [SysConnect S] [UnixConnect S] {b : Bytes} (hx₀ : Started env x₀)
    (h : (system S env).Run x₀ t x) (hb : PresentsRest b t) :
    accepted t ≤ b.length ∧
      (InRuntime env → Unlimited env → Unix.TakesSome env →
        (∀ y ∈ t, y.label.call.OffersSome) → (∀ y ∈ t, Woken Unix.Ready env y) →
          errorsReturned t = [] →
            writeCalls t ≤ accepted t + waits (UnixTcpStream.profile S).masked x.2) ∧
      ∀ c e, c.payload ≠ none →
        (∀ n y, MidWrite env c x n y → foundClear (UnixTcpStream.profile S).retry y.2 = false ∧
          writeEvents y.2 ≤ e) →
        ∃ o x', (system S env).step x ⟨c, o⟩ x' ∧
          (InRuntime env → errorsReturned t = [] → o.panic = none) := by
  refine ⟨Unix.accepted_le h hb, fun hin hu ht hsome hw hno => ?_, fun c e hc hn => ?_⟩
  · exact Unix.writeCalls_le hin hu ht hx₀ h hsome hw hno
  · obtain ⟨a, ha⟩ := Option.ne_none_iff_exists'.1 hc
    obtain ⟨o, x', hs⟩ := Unix.write_returns ha hn
    exact ⟨o, x', hs, fun hin hno => Unix.write_unpanicked hin hx₀ h hno hs ha⟩

end

/-- On Linux no retry is made. -/
theorem Linux.foundClear_eq (h : Trace) :
    foundClear (UnixTcpStream.profile Linux.TcpStream).retry h = false := by
  have hr : ∀ h, retriedSince (UnixTcpStream.profile Linux.TcpStream).retry h = false := by
    intro h
    induction h with
    | nil => rfl
    | cons e h ih =>
      cases e with
      | pollWrite cx fd buf r => rcases r with (e | n) | _ <;> exact ih
      | _ => first | rfl | exact ih
  induction h with
  | nil => rfl
  | cons e h ih =>
    cases e with
    | takeError fd r => rcases r with e | _ | e <;> simp [foundClear, hr, ih]
    | _ => first | rfl | exact ih

/-- A write that returns in its first iteration is not seen after it. -/
theorem midWrite_of_returns {S : Type} [SysTcpStream S] {env : Env} {c : Call} {cx : Waker}
    {buf : Bytes} (hc : c.payload = some (cx, buf)) {x : TfoStream S × Trace}
    {r : Outcome (Poll (Result ℕ))} {z y : S × Trace} {n : ℕ}
    (hr : pollWrite env cx buf 1 (x.1.inner, .call c :: x.2) = .done r z)
    (h : MidWrite env c x n y) : y = (x.1.inner, .call c :: x.2) := by
  obtain ⟨cx', buf', hc', hy⟩ := h
  cases hc.symm.trans hc'
  obtain rfl : n = 0 := Nat.lt_one_iff.1 (OneWrite.RunsOn.lt_of_done
    (w := ⟨env, cx, buf, (x.1.inner, .call c :: x.2)⟩) hy hr)
  exact (Loop.Step.again.inj hy).symm

/-- The two writes have three bytes accepted, and the next one returns. -/
def Finished {S : Type} [SysTcpStream S] [UnixTcpStream S]
    (r : List (Lts.Taken (TfoStream S × Trace) Done) × TfoStream S × Trace) : Prop :=
  accepted r.1 = 3 ∧ writeCalls r.1 = 2 ∧
    writeCalls r.1 ≤ accepted r.1 + waits (UnixTcpStream.profile S).masked r.2.2 ∧
    ∃ o x', (system S slowHandshake).step r.2 ⟨.pollWrite ⟨1, 1⟩ [4], o⟩ x' ∧ o.panic = none

theorem takesSome_slowHandshake : Unix.TakesSome slowHandshake where
  pollWrite h fd buf n hn hz := by
    obtain rfl : Fin.last buf.length = n := by simpa [slowHandshake, default] using hn
    simpa using hz
  sendto := by simp [slowHandshake]
  send := by simp [slowHandshake]

/-- Three bytes are written by two writes, of which the first one waits for the handshake. -/
theorem write_all_finishes_slowHandshake :
    Finished (runOf slowHandshake 3 twoWrites Linux.client) ∧
    Finished (runOf slowHandshake 3 twoWrites FreeBsd.client) ∧
    Finished (runOf slowHandshake 3 twoWrites MacOs.client) := by
  have hin : InRuntime slowHandshake := by simp [InRuntime, slowHandshake, default]
  have hu := unlimited_slowHandshake
  have ht := takesSome_slowHandshake
  refine ⟨?_, ?_, ?_⟩
  · have hx : Started slowHandshake Linux.client := .inl Linux.client_connects
    have hp : PresentsRest [1, 2, 3] (runOf slowHandshake 3 twoWrites Linux.client).1 :=
      ⟨fun _ _ h => by cases h; rfl, fun _ _ h => by cases h; rfl, trivial⟩
    obtain ⟨-, hn, hs⟩ := write_all_finishes hx (run_runOf slowHandshake 3 twoWrites _) hp
    obtain ⟨o, x', hs, hq⟩ := hs (.pollWrite ⟨1, 1⟩ [4]) 1 (by decide) (by
      intro n y hy
      rw [midWrite_of_returns rfl rfl hy]
      exact ⟨Linux.foundClear_eq _, by decide⟩)
    exact ⟨by decide, by decide, hn hin hu ht (by decide) (by decide) (by decide), o, x', hs,
      hq hin (by decide)⟩
  · have hx : Started slowHandshake FreeBsd.client := .inl (FreeBsd.client_connects rfl)
    have hp : PresentsRest [1, 2, 3] (runOf slowHandshake 3 twoWrites FreeBsd.client).1 :=
      ⟨fun _ _ h => by cases h; rfl, fun _ _ h => by cases h; rfl, trivial⟩
    obtain ⟨-, hn, hs⟩ := write_all_finishes hx (run_runOf slowHandshake 3 twoWrites _) hp
    obtain ⟨o, x', hs, hq⟩ := hs (.pollWrite ⟨1, 1⟩ [4]) 1 (by decide) (by
      intro n y hy
      rw [midWrite_of_returns rfl rfl hy]
      exact ⟨rfl, by decide⟩)
    exact ⟨by decide, by decide, hn hin hu ht (by decide) (by decide) (by decide), o, x', hs,
      hq hin (by decide)⟩
  · have hx : Started slowHandshake MacOs.client := .inl (MacOs.client_connects rfl rfl rfl)
    have hp : PresentsRest [1, 2, 3] (runOf slowHandshake 3 twoWrites MacOs.client).1 :=
      ⟨fun _ _ h => by cases h; rfl, fun _ _ h => by cases h; rfl, trivial⟩
    obtain ⟨-, hn, hs⟩ := write_all_finishes hx (run_runOf slowHandshake 3 twoWrites _) hp
    obtain ⟨o, x', hs, hq⟩ := hs (.pollWrite ⟨1, 1⟩ [4]) 2 (by decide) (by
      intro n y hy
      rw [midWrite_of_returns rfl rfl hy]
      exact ⟨rfl, by decide⟩)
    exact ⟨by decide, by decide, hn hin hu ht (by decide) (by decide) (by decide), o, x', hs,
      hq hin (by decide)⟩

end TokioTfo
