/-
  The life of the `ConnectEx` of a Windows client.

  `connectEx_lifecycle`: the pending `ConnectEx` is the one whose `OVERLAPPED` the
  state holds, and the one that is asked about; there is no second one; `Connected`
  is entered only after it has succeeded and the connect context was updated; and
  after it has failed no write succeeds.

  `from_std` is assumed to succeed, and the result of a completed operation to be
  the same every time it is asked for (`StableResults`).
-/
import TokioTfo.Starts
import TokioTfo.Windows.Iteration

namespace TokioTfo.Windows

/-! ## What has happened to `ConnectEx` -/

/-- The `OVERLAPPED` of the last `ConnectEx` that was pending. -/
def issued : Trace → Option Overlapped
  | [] => none
  | .connectEx _ _ ov (.error .WSA_IO_PENDING) :: _ => some ov
  | _ :: h => issued h

/-- The `OVERLAPPED` of the `ConnectEx` that is pending: its result has not been seen. -/
def pendingOp : Trace → Option Overlapped
  | [] => none
  | .connectEx _ _ ov (.error .WSA_IO_PENDING) :: _ => some ov
  | .getOverlappedResult _ ov r :: h =>
    if r ≠ .error .WSA_IO_INCOMPLETE ∧ pendingOp h = some ov then none else pendingOp h
  | _ :: h => pendingOp h

/-- Every `WSAGetOverlappedResult` asked about the `ConnectEx` that was pending. -/
def askedIssued : Trace → Bool
  | [] => true
  | .getOverlappedResult _ ov _ :: h => issued h == some ov && askedIssued h
  | _ :: h => askedIssued h

/-- A `ConnectEx` has succeeded, at once or when its result was fetched. -/
def succeeded : Trace → Bool
  | [] => false
  | .connectEx _ _ _ (.ok _) :: _ | .getOverlappedResult _ _ (.ok _) :: _ => true
  | _ :: h => succeeded h

/-- A pending `ConnectEx` has completed with an error. -/
def failed : Trace → Bool
  | [] => false
  | .getOverlappedResult _ _ (.error e) :: h => e != .WSA_IO_INCOMPLETE || failed h
  | _ :: h => failed h

/-- No `ConnectEx` was issued while one was pending, or after one had succeeded. -/
def issuedOnce : Trace → Bool
  | [] => true
  | .connectEx .. :: h => (pendingOp h).isNone && !succeeded h && issuedOnce h
  | _ :: h => issuedOnce h

/-- The connect context was updated after a `ConnectEx` had succeeded. -/
def contextUpdated : Trace → Bool
  | [] => false
  | .setUpdateConnectContext _ (.ok ()) :: h => succeeded h || contextUpdated h
  | _ :: h => contextUpdated h

/-- The result of an operation, once it has completed. -/
def completion (fd : Fd) (ov : Overlapped) : Trace → Option (Except Errno ℕ)
  | [] => none
  | .getOverlappedResult fd' ov' r :: h =>
    if fd' = fd ∧ ov' = ov ∧ r ≠ .error .WSA_IO_INCOMPLETE then some r else completion fd ov h
  | _ :: h => completion fd ov h

/-- A completed operation has the same result every time it is asked for. -/
def StableResults (env : Env) : Prop :=
  ∀ h fd ov r, completion fd ov h = some r → env.getOverlappedResult h fd ov = r

theorem issued_idle : IgnoresIdle issued := by
  intro e h he
  cases e <;> first | rfl | exact he.elim

theorem pendingOp_idle : IgnoresIdle pendingOp := by
  intro e h he
  cases e <;> first | rfl | exact he.elim

theorem askedIssued_idle : IgnoresIdle askedIssued := by
  intro e h he
  cases e <;> first | rfl | exact he.elim

theorem succeeded_idle : IgnoresIdle succeeded := by
  intro e h he
  cases e <;> first | rfl | exact he.elim

theorem failed_idle : IgnoresIdle failed := by
  intro e h he
  cases e <;> first | rfl | exact he.elim

theorem issuedOnce_idle : IgnoresIdle issuedOnce := by
  intro e h he
  cases e <;> first | rfl | exact he.elim

theorem contextUpdated_idle : IgnoresIdle contextUpdated := by
  intro e h he
  cases e <;> first | rfl | exact he.elim

theorem completion_idle (fd : Fd) (ov : Overlapped) : IgnoresIdle (completion fd ov) := by
  intro e h he
  cases e <;> first | rfl | exact he.elim

/-! ## The invariant -/

/-- What the states of a client say about its `ConnectEx`. -/
@[mk_iff]
structure LifecycleInv (x : TcpStream × Trace) : Prop where
  asked : askedIssued x.2 = true
  once : issuedOnce x.2 = true
  pending : ∀ ov, pendingOp x.2 = some ov → x.1.state = .fastOpenConnecting ov
  issued : ∀ ov, x.1.state = .fastOpenConnecting ov → issued x.2 = some ov
  connecting : ∀ socket addr reader, x.1.stream = .connecting socket addr reader →
    succeeded x.2 = false
  connected : x.1.state = .connected → contextUpdated x.2 = true
  failed : failed x.2 = true → ∃ ov s e, x.1 = ⟨.fastOpenConnecting ov, .connected s⟩ ∧
    completion s.fd ov x.2 = some (.error e)

theorem lifecycleInv_idle (s : TcpStream) : IgnoresIdle fun h => LifecycleInv (s, h) := by
  intro e h he
  simp only [lifecycleInv_iff, issued_idle e h he, pendingOp_idle e h he, askedIssued_idle e h he,
    succeeded_idle e h he, failed_idle e h he, issuedOnce_idle e h he, contextUpdated_idle e h he,
    completion_idle _ _ e h he]

theorem completion_ne {fd : Fd} {ov : Overlapped} {h : Trace} {r : Except Errno ℕ}
    (hc : completion fd ov h = some r) : r ≠ .error .WSA_IO_INCOMPLETE := by
  induction h with
  | nil => cases hc
  | cons e h ih =>
    cases e with
    | getOverlappedResult fd' ov' r' =>
      by_cases hr : fd' = fd ∧ ov' = ov ∧ r' ≠ .error .WSA_IO_INCOMPLETE
      · rw [completion, if_pos hr] at hc
        cases hc
        exact hr.2.2
      · rw [completion, if_neg hr] at hc
        exact ih hc
    | _ => exact ih hc

section
variable {env : Env} {cx : Waker} {ov : Overlapped} {s : TokioTcpStream} {h : Trace}

/-- Once the pending `ConnectEx` has failed, every answer is the error. -/
theorem LifecycleInv.error_of_failed (hst : StableResults env)
    (hx : LifecycleInv (⟨.fastOpenConnecting ov, .connected s⟩, h)) (hf : Windows.failed h = true) :
    ∃ e, e ≠ .WSA_IO_INCOMPLETE ∧
      env.getOverlappedResult (.pollWriteReady cx s.fd (.ready (.ok ())) :: h) s.fd ov =
        .error e := by
  obtain ⟨ov', s', e, hs, hc⟩ := hx.failed hf
  cases hs
  have hc : completion s.fd ov (.pollWriteReady cx s.fd (.ready (.ok ())) :: h) = some (.error e) :=
    hc
  exact ⟨e, by simpa using completion_ne hc, hst _ _ _ _ hc⟩

theorem LifecycleInv.not_failed (hst : StableResults env)
    (hx : LifecycleInv (⟨.fastOpenConnecting ov, .connected s⟩, h)) {n : ℕ}
    (hr : env.getOverlappedResult (.pollWriteReady cx s.fd (.ready (.ok ())) :: h) s.fd ov =
      .ok n) :
    Windows.failed h = false := by
  by_contra hf
  obtain ⟨e, -, he⟩ := @LifecycleInv.error_of_failed env cx ov s h hst hx (by simpa using hf)
  rw [hr] at he
  cases he

/-- Asking for the result of the pending `ConnectEx`. -/
theorem LifecycleInv.asks (hst : StableResults env)
    (hx : LifecycleInv (⟨.fastOpenConnecting ov, .connected s⟩, h)) {r : Except Errno ℕ} {b : Bool}
    (hr : env.getOverlappedResult (.pollWriteReady cx s.fd (.ready (.ok ())) :: h) s.fd ov = r) :
    LifecycleInv (⟨.fastOpenConnecting ov, .connected ⟨s.fd, b⟩⟩,
      .getOverlappedResult s.fd ov r :: .pollWriteReady cx s.fd (.ready (.ok ())) :: h) where
  asked := by
    have ha := hx.asked
    have hi := hx.issued ov rfl
    simp_all [askedIssued, Windows.issued]
  once := hx.once
  pending ov' hp := by
    refine hx.pending ov' ?_
    by_cases hr : r ≠ .error .WSA_IO_INCOMPLETE ∧ pendingOp h = some ov
    · have : (none : Option Overlapped) = some ov' := by
        rw [← hp]; exact (if_pos hr).symm
      cases this
    · rw [← hp]; exact (if_neg hr).symm
  issued := hx.issued
  connecting := by simp
  connected := by simp
  failed hf := by
    have he : ∃ e, e ≠ .WSA_IO_INCOMPLETE ∧ r = .error e := by
      by_cases hf' : Windows.failed h = true
      · obtain ⟨e, he, he'⟩ := @LifecycleInv.error_of_failed env cx ov s h hst hx hf'
        exact ⟨e, he, hr.symm.trans he'⟩
      · rcases r with e | n
        · exact ⟨e, by simpa [Windows.failed, hf'] using hf, rfl⟩
        · simp [Windows.failed, hf'] at hf
    obtain ⟨e, he, rfl⟩ := he
    exact ⟨ov, _, e, rfl, by simp [completion, he]⟩

/-- Updating the connect context. -/
theorem LifecycleInv.updates (hx : LifecycleInv (⟨.fastOpenConnecting ov, .connected s⟩, h))
    (r : Except Errno Unit) :
    LifecycleInv (⟨.fastOpenConnecting ov, .connected s⟩, .setUpdateConnectContext s.fd r :: h) :=
  ⟨hx.asked, hx.once, hx.pending, hx.issued, by simp, by simp, hx.failed⟩

/-- Before the first accepted `ConnectEx`. -/
theorem LifecycleInv.fresh {socket : TcpSocket} {addr : SocketAddr} {reader : Option Waker}
    (hx : LifecycleInv (⟨.fastOpenConnect, .connecting socket addr reader⟩, h)) :
    pendingOp h = none ∧ succeeded h = false ∧ Windows.failed h = false := by
  refine ⟨?_, hx.connecting _ _ _ rfl, ?_⟩
  · cases hp : pendingOp h with
    | none => rfl
    | some ov => cases hx.pending ov hp
  · by_contra hf
    obtain ⟨ov, s, e, hs, -⟩ := hx.failed (by simpa using hf)
    cases hs

end

theorem Iter.lifecycleInv {env : Env} (hstd : ∀ h fd, env.fromStd h fd = .ok ())
    (hst : StableResults env) {cx : Waker} {buf : Bytes} {x : TcpStream × Trace}
    {y : Loop.Step (TcpStream × Trace) (Outcome (Poll (Result ℕ)))} (h : Iter env cx buf x y)
    (hx : LifecycleInv x) : LifecycleInv y.state := by
  cases h with
  | unreachable | noConnectEx => exact hx
  | openCountLost he | openPendingLost he =>
    obtain ⟨h', he⟩ := he
    rw [hstd] at he
    cases he
  | openCount | openPending =>
    obtain ⟨hp, hs, hf⟩ := hx.fresh
    obtain ⟨h₁, h₂, -⟩ := hx
    refine ((lifecycleInv_idle _).wakeReader _ _ _).mpr
      (((lifecycleInv_idle _).registered _ _).mpr ?_)
    constructor <;>
      simp_all [askedIssued, issuedOnce, pendingOp, Windows.issued, succeeded, contextUpdated,
        Windows.failed]
  | openContextLost =>
    obtain ⟨hp, hs, hf⟩ := hx.fresh
    obtain ⟨h₁, h₂, -⟩ := hx
    constructor <;> simp_all [askedIssued, issuedOnce, pendingOp, Windows.failed]
  | openError he =>
    obtain ⟨hp, hs, hf⟩ := hx.fresh
    obtain ⟨h₁, h₂, -⟩ := hx
    constructor <;> simp_all [askedIssued, issuedOnce, pendingOp, succeeded, Windows.failed]
  | write =>
    obtain ⟨h₁, h₂, h₃, h₄, -, h₆, h₇⟩ := hx
    refine ⟨h₁, h₂, h₃, by simp, by simp, h₆, fun hf => ?_⟩
    obtain ⟨ov, s, e, hs, -⟩ := h₇ hf
    cases hs
  | wait | waitError =>
    exact ⟨hx.asked, hx.once, hx.pending, hx.issued, by simp, by simp, hx.failed⟩
  | incomplete _ _ hr => exact hx.asks hst hr
  | resultError _ _ _ hr => exact hx.asks hst hr
  | contextBlocked _ _ hr => exact (hx.asks hst hr).updates _
  | contextError _ _ hr => exact (hx.asks hst hr).updates _
  | assertFails _ _ hr => exact (hx.asks hst hr).updates _
  | soError _ hr =>
    obtain ⟨h₁, h₂, h₃, h₄, -, -, h₇⟩ := (hx.asks hst hr).updates (.ok ())
    exact ⟨h₁, h₂, h₃, h₄, by simp, by simp, h₇⟩
  | @complete ov s h n o _ hr =>
    have hf := hx.not_failed hst hr
    have hu : LifecycleInv (⟨.fastOpenConnecting ov, .connected s⟩,
        .setUpdateConnectContext s.fd (.ok ()) :: .getOverlappedResult s.fd ov (.ok n) ::
          .pollWriteReady cx s.fd (.ready (.ok ())) :: h) := (hx.asks hst hr).updates _
    refine ⟨hu.asked, hu.once, fun ov' hp => ?_, by simp, by simp, fun _ => ?_, fun hf' => ?_⟩
    · -- the result of the one `ConnectEx` that could be pending has just been seen
      cases hu.pending ov' hp
      have hp : (if (.ok n : Except Errno ℕ) ≠ .error .WSA_IO_INCOMPLETE ∧ pendingOp h = some ov
        then none else pendingOp h) = some ov := hp
      by_cases hp' : pendingOp h = some ov
      · simp [hp'] at hp
      · rw [if_neg fun hc => hp' hc.2] at hp
        exact absurd hp hp'
    · simp [queried, contextUpdated, succeeded]
    · have hf' : Windows.failed h = true := hf'
      rw [hf] at hf'
      cases hf'

theorem lifecycleInv_invariant {env : Env} (hstd : ∀ h fd, env.fromStd h fd = .ok ())
    (hst : StableResults env) : Invariant env LifecycleInv := by
  refine .of_idle lifecycleInv_idle ?_ ?_
    fun cx buf x hx => (body_iter env cx buf x).lifecycleInv hstd hst hx
  · rintro st socket addr reader reader' h ⟨h₁, h₂, h₃, h₄, h₅, h₆, h₇⟩
    refine ⟨h₁, h₂, h₃, h₄, fun _ _ _ _ => h₅ _ _ _ rfl, h₆, fun hf => ?_⟩
    obtain ⟨ov, s, e, hs, -⟩ := h₇ hf
    cases hs
  · rintro st s h ⟨h₁, h₂, h₃, h₄, h₅, h₆, h₇⟩
    refine ⟨h₁, h₂, h₃, h₄, by simp, h₆, fun hf => ?_⟩
    obtain ⟨ov, s, e, hs, hc⟩ := h₇ hf
    cases hs
    exact ⟨ov, _, e, rfl, hc⟩

/-- A write that returns a count does so before any failure. -/
theorem Iter.count_not_failed {env : Env} (hst : StableResults env) {cx : Waker} {buf : Bytes}
    {x y : TcpStream × Trace} {n : ℕ}
    (h : Iter env cx buf x (.done (.returned (.ready (.ok n))) y)) (hx : LifecycleInv x) :
    failed y.2 = false := by
  generalize hr : Outcome.returned (Poll.ready (Except.ok n)) = r at h
  cases h with
  | @write _ _ h =>
    show failed h = false
    by_contra hf
    obtain ⟨ov, s, e, hs, -⟩ := hx.failed (by simpa using hf)
    cases hs
  | openCount =>
    rw [failed_idle.wakeReader, failed_idle.registered]
    exact hx.fresh.2.2
  | @complete _ _ h _ _ _ hn =>
    show failed h = false
    exact hx.not_failed hst hn
  | openCountLost | openPendingLost => exact absurd hr.symm (Unregistered.ready_ne_ok _ _)
  | _ => cases hr

/-! ## Runs -/

/-- What holds of the `ConnectEx` of a client in every reached state. -/
structure Lifecycle (y : TcpStream × Trace) : Prop where
  pending : ∀ ov, pendingOp y.2 = some ov → y.1.state = .fastOpenConnecting ov
  asked : askedIssued y.2 = true
  once : issuedOnce y.2 = true
  connected : y.1.state = .connected → contextUpdated y.2 = true
  failed : failed y.2 = true → y.1.state ≠ .connected

theorem lifecycleInv_client {env : Env} {x : TfoStream TcpStream × Trace} (hx : Client env x) :
    LifecycleInv (x.1.inner, x.2) := by
  obtain ⟨socket, addr, hs, hh⟩ := opening hx
  rw [hs]
  refine ((lifecycleInv_idle _).setup hh).mpr ?_
  constructor <;> simp [askedIssued, issuedOnce, pendingOp, succeeded, Windows.failed]

/-- **The life of `ConnectEx`.** -/
theorem connectEx_lifecycle {env : Env} (hstd : ∀ h fd, env.fromStd h fd = .ok ())
    (hst : StableResults env) {x₀ : TfoStream TcpStream × Trace} (hx₀ : Client env x₀) :
    (∀ y, Reached env x₀ y → Lifecycle y) ∧
      ∀ t x, (system TcpStream env).Run x₀ t x → ∀ y ∈ t, failed y.post.2 = true →
        ∀ n, y.label.outcome ≠ .returned (.write (.ready (.ok n))) := by
  have hi := lifecycleInv_invariant hstd hst
  have h₀ := lifecycleInv_client hx₀
  refine ⟨fun y hy => ?_, fun t x hr y hy hf n ho => ?_⟩
  · have h := hi.reached h₀ hy
    refine ⟨h.pending, h.asked, h.once, h.connected, fun hf hc => ?_⟩
    obtain ⟨ov, s, e, hs, -⟩ := h.failed hf
    rw [hs] at hc
    cases hc
  · obtain ⟨t', -, hr', t'', hp, hpost⟩ := hr.mem y hy
    obtain ⟨pre, ⟨c, o⟩, post⟩ := y
    have hpre := hi.call _ _ c (hi.reached h₀ (.between hr'))
    have hnf := performs_post (I := LifecycleInv)
      (Q := fun o z => ∀ n, o = .returned (.write (.ready (.ok n))) → failed z.2 = false) hi.event
      (fun cx buf y z _ hy hb => hi.again hy hb) ?_ ?_ hpre hp n ho
    · rw [hpost, failed_idle.ret, hnf] at hf
      cases hf
    · intro cx buf y r z _ hy hb n hr
      obtain ⟨_, rfl, ⟨⟩⟩ := Outcome.map_eq_returned.mp hr
      exact (Iter.of_body hb).count_not_failed hst hy
    · intro y o z hy ho n hn
      subst hn
      cases ho with
      | quiet _ _ _ _ hw => exact absurd rfl (hw _)

/-- `ConnectEx` is pending, and then reports three bytes. -/
def pendingConnect : Env :=
  { (default : Env) with
    writeEvent := fun _ => true
    connectEx := fun _ _ _ _ _ => .error .WSA_IO_PENDING
    getOverlappedResult := fun h fd ov => (completion fd ov h).getD (.ok 3) }

theorem stableResults_pendingConnect : StableResults pendingConnect := by
  intro h fd ov r hc
  simp [pendingConnect, hc]

/-- The theorem for a client that has written three bytes. -/
theorem connectEx_lifecycle_pending :
    Lifecycle (stateAfter pendingConnect 2 [.pollWrite ⟨1, 1⟩ [1, 2, 3]] client) ∧
      (stateAfter pendingConnect 2 [.pollWrite ⟨1, 1⟩ [1, 2, 3]] client).1.state = .connected :=
  ⟨(connectEx_lifecycle (fun _ _ => rfl) stableResults_pendingConnect
    (client_connects rfl rfl)).1 _ (reached_stateAfter ..), rfl⟩

end TokioTfo.Windows
