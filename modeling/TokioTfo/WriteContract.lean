/-
  The contract of an asynchronous write: it never returns `WouldBlock` as an error, and
  when it returns `Pending` it has registered the waker of its caller.

  `contract_iff_not_leaked`: the second half always holds.  The first one holds of a run
  iff no would-block is leaked, that is, answered to one of the calls whose errors are
  returned as they are: the opening `sendto` and `ConnectEx`, the context update after
  a `ConnectEx` that has succeeded at once, `SO_ERROR`, and the registration with tokio.
-/
import TokioTfo.Answers
import TokioTfo.Termination
import TokioTfo.Wakeups

namespace TokioTfo

/-! ## Events of the contract -/

/-- Tokio has returned `Pending`, and registered the waker `cx` for write readiness. -/
def Event.awaits (cx : Waker) : Event → Bool
  | pollWrite cx' _ _ .pending | pollWriteReady cx' _ .pending => cx' == cx
  | _ => false

/-- A would-block error that every module returns. -/
def Event.leaks : Event → Bool
  | sendto _ _ _ _ (.error e) | connectEx _ _ _ (.error e) => (Error.os e).kind == .wouldBlock
  | takeError _ (.error e) | fromStd _ (.error (.failed e)) => e.kind == .wouldBlock
  | _ => false

/-- A would-block that was pending in `SO_ERROR`, which the Unix modules return. -/
def Event.leaksPending : Event → Bool
  | takeError _ (.ok (some e)) => e.kind == .wouldBlock
  | _ => false

/-- A would-block from the context update after a `ConnectEx` that has succeeded at once. -/
def Event.leaksContext : Event → Trace → Bool
  | setUpdateConnectContext _ (.error e), .connectEx .. :: _ => (Error.os e).kind == .wouldBlock
  | _, _ => false

/-- The number of the events that leak; `leak` looks at the event and at the history before it. -/
def leaked (leak : Event → Trace → Bool) : Trace → ℕ
  | [] => 0
  | e :: h => leaked leak h + if leak e h then 1 else 0

def Unix.leak (e : Event) (_ : Trace) : Bool := e.leaks || e.leaksPending

def Windows.leak (e : Event) (h : Trace) : Bool := e.leaks || e.leaksContext h

@[simp] theorem leaked_cons (leak : Event → Trace → Bool) (e : Event) (h : Trace) :
    leaked leak (e :: h) = leaked leak h + if leak e h then 1 else 0 := rfl

theorem leaked_idle {leak : Event → Trace → Bool} (hl : ∀ e h, e.Idle → leak e h = false) :
    IgnoresIdle (leaked leak) := by
  intro e h he
  simp [hl e h he]

theorem Unix.leaked_idle : IgnoresIdle (leaked leak) := by
  refine TokioTfo.leaked_idle fun e h he => ?_
  cases e with
  | fromStd fd r => cases r <;> first | rfl | exact he.elim
  | _ => first | rfl | exact he.elim

theorem Windows.leaked_idle : IgnoresIdle (leaked leak) := by
  refine TokioTfo.leaked_idle fun e h he => ?_
  cases e with
  | fromStd fd r => cases r <;> first | rfl | exact he.elim
  | _ => first | rfl | exact he.elim

/-! ## One iteration -/

/-- Tokio does not return would-block errors. -/
structure NeverWouldBlock (env : Env) : Prop where
  pollWrite : ∀ h fd buf e, env.pollWrite h fd buf = .ready (.error e) → e.kind ≠ .wouldBlock
  pollWriteReady : ∀ h fd e, env.pollWriteReady h fd = .shutdown e → e.kind ≠ .wouldBlock

/-- What an iteration of a write that returns `r` owes to the contract: it waits for tokio, or it
returns a would-block iff one is leaked. -/
structure Owes (leak : Event → Trace → Bool) (cx : Waker) (h : Trace)
    (r : Outcome (Poll (Result ℕ))) (h' : Trace) : Prop where
  awaits : r = .returned .pending → ∃ e t, h' = e :: t ∧ e.awaits cx = true
  leaks : (∀ e, r = .returned (.ready (.error e)) → e.kind ≠ .wouldBlock) ↔
    leaked leak h' = leaked leak h

section
variable {env : Env} {cx : Waker} {buf : Bytes} (ht : NeverWouldBlock env)
include ht

theorem NeverWouldBlock.of_poll {h : Trace} {fd : Fd} {e : Error}
    (ha : (env.pollWrite h fd buf).poll = .ready (.error e)) : e.kind ≠ .wouldBlock := by
  cases hr : env.pollWrite h fd buf with
  | ready r =>
    rw [hr] at ha
    cases r with
    | error e' =>
      cases ha
      exact ht.pollWrite _ _ _ _ hr
    | ok n => cases ha
  | wouldBlock | budget => rw [hr] at ha; cases ha

theorem Handshake.Iter.owes {p : Profile} {x y : Handshake p × Trace}
    {r : Outcome (Poll (Result ℕ))} (h : Iter env cx buf x (.done r y)) (ha : Answered env y.2) :
    Owes Unix.leak cx x.2 r y.2 := by
  cases h with
  | @write _ _ _ _ r =>
    rcases r with (e | n) | _
    · have := ht.of_poll ha.1
      exact ⟨by simp, by simp [Unix.leak, Event.leaks, Event.leaksPending, this]⟩
    · exact ⟨by simp, by simp [Unix.leak, Event.leaks, Event.leaksPending]⟩
    · exact ⟨fun _ => ⟨_, _, rfl, by simp [Event.awaits]⟩,
        by simp [Unix.leak, Event.leaks, Event.leaksPending]⟩
  | failed =>
    have := ht.of_poll ha.1
    exact ⟨by simp, by simp [Unix.leak, Event.leaks, Event.leaksPending, this]⟩
  | waitError =>
    have := ht.pollWriteReady _ _ _ ha.1
    exact ⟨by simp, by simp [Unix.leak, Event.leaks, Event.leaksPending, this]⟩
  | blocked | wait =>
    exact ⟨fun _ => ⟨_, _, rfl, by simp [Event.awaits]⟩,
      by simp [Unix.leak, Event.leaks, Event.leaksPending]⟩
  | soError _ hr =>
    rcases hr with rfl | rfl <;>
      exact ⟨by simp, by simp [queried, Unix.leak, Event.leaks, Event.leaksPending]⟩
  | openCount =>
    exact ⟨by simp, by simp [Unix.leaked_idle.wakeReader, Unix.leaked_idle.registered, Unix.leak,
      Event.leaks, Event.leaksPending]⟩
  | sendError _ _ hk =>
    exact ⟨by simp, by simp [Unix.leak, Event.leaks, Event.leaksPending, hk]⟩
  | @openCountLost _ _ _ _ _ u | @openProgressLost _ _ _ _ u =>
    cases u <;> exact ⟨by simp, by simp [notRegistered, Unregistered.outcome, Outcome.map,
      Unix.leak, Event.leaks, Event.leaksPending, Error.kind]⟩
  | _ => exact ⟨by simp, by simp [Unix.leak, Event.leaks, Event.leaksPending]⟩

theorem Windows.Iter.owes {x y : TcpStream × Trace} {r : Outcome (Poll (Result ℕ))}
    (h : Iter env cx buf x (.done r y)) (ha : Answered env y.2) :
    Owes Windows.leak cx x.2 r y.2 := by
  cases h with
  | @write _ _ _ r =>
    rcases r with (e | n) | _
    · have := ht.of_poll ha.1
      exact ⟨by simp, by simp [Windows.leak, Event.leaks, Event.leaksContext, this]⟩
    · exact ⟨by simp, by simp [Windows.leak, Event.leaks, Event.leaksContext]⟩
    · exact ⟨fun _ => ⟨_, _, rfl, by simp [Event.awaits]⟩,
        by simp [Windows.leak, Event.leaks, Event.leaksContext]⟩
  | wait =>
    exact ⟨fun _ => ⟨_, _, rfl, by simp [Event.awaits]⟩,
      by simp [Windows.leak, Event.leaks, Event.leaksContext]⟩
  | waitError =>
    have := ht.pollWriteReady _ _ _ ha.1
    exact ⟨by simp, by simp [Windows.leak, Event.leaks, Event.leaksContext, this]⟩
  | resultError _ _ hk | contextError _ hk =>
    exact ⟨by simp, by simp [Windows.leak, Event.leaks, Event.leaksContext, hk]⟩
  | openCount =>
    exact ⟨by simp, by simp [Windows.leaked_idle.wakeReader, Windows.leaked_idle.registered,
      Windows.leak, Event.leaks, Event.leaksContext]⟩
  | @openCountLost _ _ _ _ _ u | @openPendingLost _ _ _ _ u =>
    cases u <;> exact ⟨by simp, by simp [notRegistered, Unregistered.outcome, Outcome.map,
      Windows.leak, Event.leaks, Event.leaksContext, Error.kind]⟩
  | _ => exact ⟨by simp, by simp [queried, Windows.leak, Event.leaks, Event.leaksContext]⟩

end

/-- Going round again leaks nothing. -/
theorem Handshake.Iter.leaked_again {p : Profile} {env : Env} {cx : Waker} {buf : Bytes}
    {x y : Handshake p × Trace} (h : Iter env cx buf x (.again y)) :
    leaked Unix.leak y.2 = leaked Unix.leak x.2 := by
  cases h with
  | openProgress =>
    simp [Unix.leaked_idle.wakeReader, Unix.leaked_idle.registered, Unix.leak, Event.leaks,
      Event.leaksPending, Error.kind]
  | _ => simp [queried, Unix.leak, Event.leaks, Event.leaksPending]

theorem Windows.Iter.leaked_again {env : Env} {cx : Waker} {buf : Bytes} {x y : TcpStream × Trace}
    (h : Iter env cx buf x (.again y)) : leaked Windows.leak y.2 = leaked Windows.leak x.2 := by
  cases h with
  | openPending =>
    simp [Windows.leaked_idle.wakeReader, Windows.leaked_idle.registered, Windows.leak,
      Event.leaks, Event.leaksContext, Error.kind]
  | _ => simp [Windows.leak, Event.leaks, Event.leaksContext]

/-! ## Calls and runs -/

/-- The contract of a completed call. -/
structure MeetsContract {S : Type} (y : Lts.Taken (TfoStream S × Trace) Done) : Prop where
  noWouldBlock : ∀ e, y.label.outcome = .returned (.write (.ready (.error e))) →
    e.kind ≠ .wouldBlock
  registered : ∀ cx buf, y.label.call.payload = some (cx, buf) →
    y.label.outcome = .returned (.write .pending) → inCall (Event.awaits cx) y.post.2 = true

/-- A module whose writes leak what `leak` says, in the environment `env`. -/
structure Leaks (env : Env) (σ : Type) [SysTcpStream (LazyTcpStream σ)]
    (leak : Event → Trace → Bool) : Prop where
  idle : IgnoresIdle (leaked leak)
  event : ∀ h, leaked leak (.writeEvent :: h) = leaked leak h
  answered : ∀ cx buf (x : LazyTcpStream σ × Trace), Answered env x.2 →
    Answered env (SysTcpStream.pollWriteBody env cx buf x).state.2
  again : ∀ cx buf (x y : LazyTcpStream σ × Trace),
    SysTcpStream.pollWriteBody env cx buf x = .again y → leaked leak y.2 = leaked leak x.2
  done : ∀ cx buf (x y : LazyTcpStream σ × Trace) r,
    SysTcpStream.pollWriteBody env cx buf x = .done r y → Answered env y.2 →
      Owes leak cx x.2 r y.2

theorem Handshake.leaks {p : Profile} {env : Env} (ht : NeverWouldBlock env) :
    Leaks env (Phase p) Unix.leak where
  idle := Unix.leaked_idle
  event _ := rfl
  answered _ _ := answered_body _ _
  again _ _ _ _ hb := (Iter.of_body hb).leaked_again
  done _ _ _ _ _ hb := (Iter.of_body hb).owes ht

theorem Windows.leaks {env : Env} (ht : NeverWouldBlock env) :
    Leaks env TcpStreamState Windows.leak where
  idle := Windows.leaked_idle
  event _ := rfl
  answered _ _ := answered_body
  again _ _ _ _ hb := (Iter.of_body hb).leaked_again
  done _ _ _ _ _ hb := (Iter.of_body hb).owes ht

/-- What a completed call owes to the contract. -/
structure CallOwes (leak : Event → Trace → Bool) (c : Call) (h : Trace) (o : Outcome Ret)
    (h' : Trace) : Prop where
  awaits : ∀ cx buf, c.payload = some (cx, buf) → o = .returned (.write .pending) →
    ∃ e t, h' = e :: t ∧ e.awaits cx = true
  leaks : (∀ e, o = .returned (.write (.ready (.error e))) → e.kind ≠ .wouldBlock) ↔
    leaked leak h' = leaked leak h

theorem Owes.call {leak : Event → Trace → Bool} {c : Call} {cx : Waker} {buf : Bytes}
    {h h' : Trace} {r : Outcome (Poll (Result ℕ))} (ho : Owes leak cx h r h')
    (hc : c.payload = some (cx, buf)) : CallOwes leak c h (r.map .write) h' where
  awaits cx' buf' hc' hr := by
    rw [hc] at hc'
    cases hc'
    refine ho.awaits ?_
    rcases r with ((e | n) | _) | q <;> simp [Outcome.map] at hr ⊢
  leaks := by
    rw [← ho.leaks]
    rcases r with ((e | n) | _) | q <;> simp [Outcome.map]

section
variable {σ : Type} [SysTcpStream (LazyTcpStream σ)] [LazyModule σ] {env : Env}
  {leak : Event → Trace → Bool}

theorem Leaks.performs (hl : Leaks env σ leak) {c : Call} {x x' : LazyTcpStream σ × Trace}
    {o : Outcome Ret} (hx : Answered env x.2) (h : Performs env c x o x') :
    CallOwes leak c x.2 o x'.2 := by
  refine performs_post (I := fun y => leaked leak y.2 = leaked leak x.2 ∧ Answered env y.2)
    (Q := fun o y => CallOwes leak c x.2 o y.2) ?_ ?_ ?_ ?_ ⟨rfl, hx⟩ h
  · intro st s t hy
    exact ⟨(hl.event t).trans hy.1, trivial, hy.2⟩
  · intro cx buf y z _ hy hb
    have ha := hl.answered cx buf y hy.2
    rw [hb] at ha
    exact ⟨(hl.again _ _ _ _ hb).trans hy.1, ha⟩
  · intro cx buf y r z hc hy hb
    have ha := hl.answered cx buf y hy.2
    rw [hb] at ha
    have ho := (hl.done _ _ _ _ _ hb ha).call hc
    exact ⟨ho.awaits, by rw [ho.leaks, hy.1]⟩
  · intro y o z hy ho
    refine ⟨fun _ _ _ he => absurd he (ho.ne_write _), ?_⟩
    rw [ho.ignored hl.idle, hy.1]
    exact ⟨fun _ => rfl, fun _ e he => absurd he (ho.ne_write _)⟩

/-- **A call keeps the contract** iff it leaks no would-block. -/
theorem Leaks.step_iff (hl : Leaks env σ leak) {x x' : TfoStream (LazyTcpStream σ) × Trace}
    {l : Done} (hx : Answered env x.2) (hs : (system (LazyTcpStream σ) env).step x l x') :
    MeetsContract ⟨x, l, x'⟩ ↔ leaked leak x'.2 = leaked leak x.2 := by
  obtain ⟨h, hp, hx'⟩ := hs
  have ho := hl.performs (x := (x.1.inner, .call l.call :: x.2)) ⟨trivial, hx⟩ hp
  rw [hx', hl.idle.ret, ← hl.idle.call l.call x.2, ← ho.leaks]
  refine ⟨fun hm => hm.noWouldBlock, fun hn => ⟨hn, fun cx buf hc hr => ?_⟩⟩
  obtain ⟨e, t, rfl, he⟩ := ho.awaits cx buf hc hr
  have hin : inCall (Event.awaits cx) (.ret l.call l.outcome :: e :: t) = true := by
    cases e <;> simp_all [Event.awaits, inCall]
  simpa only [hx'] using hin

/-- **A run keeps the contract** iff none of its calls leaks a would-block. -/
theorem Leaks.run_iff (hl : Leaks env σ leak) {x₀ x : TfoStream (LazyTcpStream σ) × Trace}
    {t : List (Lts.Taken (TfoStream (LazyTcpStream σ) × Trace) Done)}
    (ha : ∀ {y}, Reached env x₀ y → Answered env y.2)
    (h : (system (LazyTcpStream σ) env).Run x₀ t x) :
    (∀ y ∈ t, MeetsContract y) ↔ ∀ y ∈ t, leaked leak y.post.2 = leaked leak y.pre.2 := by
  refine forall₂_congr fun y hy => ?_
  obtain ⟨t', -, hr, hs⟩ := h.mem y hy
  exact hl.step_iff (ha (.between hr)) hs

end

/-- What a module promises in the environment `env`, and on which runs it is kept. -/
def KeepsContractIff (env : Env) (S : Type) [SysTcpStream S] [SysConnect S]
    (leak : Event → Trace → Bool) : Prop :=
  ∀ (x₀ x : TfoStream S × Trace) (t : List (Lts.Taken (TfoStream S × Trace) Done)),
    Started env x₀ → (system S env).Run x₀ t x →
      ((∀ y ∈ t, MeetsContract y) ↔ ∀ y ∈ t, leaked leak y.post.2 = leaked leak y.pre.2)

theorem Unix.keepsContractIff {S : Type} [SysTcpStream S] [SysConnect S] [UnixTcpStream S]
    [UnixConnect S] {env : Env} (ht : NeverWouldBlock env) :
    KeepsContractIff env S Unix.leak := by
  intro x₀ x t hx₀ h
  have hv := UnixTcpStream.run_view env h
  have hi : ∀ {y}, Reached env (UnixTcpStream.viewTfo x₀) y → Answered env y.2 :=
    fun hy => Handshake.answered_invariant.reached ((started_unix answered_idle hx₀).mpr trivial) hy
  have hr := (Handshake.leaks ht).run_iff hi hv
  have hm : ∀ y : Lts.Taken (TfoStream S × Trace) Done,
      MeetsContract (y.map UnixTcpStream.viewTfo) ↔ MeetsContract y :=
    fun y => ⟨fun h => ⟨h.noWouldBlock, h.registered⟩, fun h => ⟨h.noWouldBlock, h.registered⟩⟩
  simp only [List.forall_mem_map, hm] at hr
  exact hr

theorem Windows.keepsContractIff {env : Env} (ht : NeverWouldBlock env) :
    KeepsContractIff env TcpStream Windows.leak :=
  fun _ _ _ hx₀ h => (Windows.leaks ht).run_iff (answered_windows hx₀) h

/-- **The contract of `poll_write`.**  A write that returns `Pending` has registered its waker, and
none returns a would-block as an error, in the runs that leak none, and in no others. -/
theorem contract_iff_not_leaked (env : Env) (ht : NeverWouldBlock env) :
    KeepsContractIff env Linux.TcpStream Unix.leak ∧
    KeepsContractIff env FreeBsd.TcpStream Unix.leak ∧
    KeepsContractIff env MacOs.TcpStream Unix.leak ∧
    KeepsContractIff env Windows.TcpStream Windows.leak :=
  ⟨Unix.keepsContractIff ht, Unix.keepsContractIff ht, Unix.keepsContractIff ht,
    Windows.keepsContractIff ht⟩

/-- The connect is in progress, and the socket would block. -/
def congested : Env :=
  { (default : Env) with
    writeEvent := fun _ => true
    sendto := fun _ _ _ _ _ => .error .EINPROGRESS
    send := fun _ _ _ => .error .EINPROGRESS
    connectEx := fun _ _ _ _ _ => .error .WSA_IO_PENDING
    getOverlappedResult := fun _ _ _ => .error .WSA_IO_INCOMPLETE
    pollWrite := fun _ _ _ => .wouldBlock
    pollWriteReady := fun h _ => if writeEvents h < 3 then .cached else .budget }

theorem neverWouldBlock_congested : NeverWouldBlock congested where
  pollWrite := by simp [congested]
  pollWriteReady := by
    intro h fd e he
    simp only [congested] at he
    split at he <;> cases he

/-- The first write on each module waits, and has registered its waker. -/
theorem contract_congested :
    (∀ y ∈ (runOf congested 4 [.pollWrite ⟨1, 1⟩ [7]] Linux.client).1, MeetsContract y) ∧
    (∀ y ∈ (runOf congested 4 [.pollWrite ⟨1, 1⟩ [7]] FreeBsd.client).1, MeetsContract y) ∧
    (∀ y ∈ (runOf congested 4 [.pollWrite ⟨1, 1⟩ [7]] MacOs.client).1, MeetsContract y) ∧
    ∀ y ∈ (runOf congested 4 [.pollWrite ⟨1, 1⟩ [7]] Windows.client).1, MeetsContract y :=
  have h := contract_iff_not_leaked congested neverWouldBlock_congested
  ⟨(h.1 _ _ _ (.inl Linux.client_connects) (run_runOf congested 4 _ _)).2 (by decide),
    (h.2.1 _ _ _ (.inl (FreeBsd.client_connects rfl)) (run_runOf congested 4 _ _)).2 (by decide),
    (h.2.2.1 _ _ _ (.inl (MacOs.client_connects rfl rfl rfl)) (run_runOf congested 4 _ _)).2
      (by decide),
    (h.2.2.2 _ _ _ (.inl (Windows.client_connects rfl rfl)) (run_runOf congested 4 _ _)).2
      (by decide)⟩

/-- The kernel has no room for the data of the opening `sendto` yet. -/
def busy : Env := { (default : Env) with sendto := fun _ _ _ _ _ => .error .EAGAIN }

theorem neverWouldBlock_busy : NeverWouldBlock busy where
  pollWrite := by simp [busy, default]
  pollWriteReady := by simp [busy, default]

/-- What a module promises: its calls keep the contract. -/
def KeepsContract (S : Type) [SysTcpStream S] [SysConnect S] : Prop :=
  ∀ (env : Env) (x₀ x : TfoStream S × Trace) (t : List (Lts.Taken (TfoStream S × Trace) Done)),
    NeverWouldBlock env → Started env x₀ → (system S env).Run x₀ t x → ∀ y ∈ t, MeetsContract y

/-- The first write returns `EAGAIN`. -/
theorem not_keepsContract : ¬KeepsContract Linux.TcpStream ∧ ¬KeepsContract FreeBsd.TcpStream := by
  refine ⟨fun h => ?_, fun h => ?_⟩
  · have hm := h busy _ _ _ neverWouldBlock_busy (.inl Linux.client_connects)
      (run_runOf busy 1 [.pollWrite ⟨1, 1⟩ [7]] Linux.client) _ (List.mem_singleton.2 rfl)
    exact hm.noWouldBlock (.os .EAGAIN) rfl rfl
  · have hm := h busy _ _ _ neverWouldBlock_busy (.inl (FreeBsd.client_connects rfl))
      (run_runOf busy 1 [.pollWrite ⟨1, 1⟩ [7]] FreeBsd.client) _ (List.mem_singleton.2 rfl)
    exact hm.noWouldBlock (.os .EAGAIN) rfl rfl

end TokioTfo
