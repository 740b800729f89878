/-
  Who owns the `OVERLAPPED` of a pending `ConnectEx`.

  The kernel writes to it when the operation completes, so it has to live until then.
  It lives in the state `FastOpenConnecting`; before that it is a local of `poll_write`,
  which is freed when `poll_write` returns early.

  `overlapped_owned`: whatever the kernel and tokio answer, there is one `ConnectEx` at
  most, its result is asked for with the `OVERLAPPED` in the state, and while it is
  pending the state holds that `OVERLAPPED` iff the hand-over to tokio has not failed.
-/
import TokioTfo.Panics
import TokioTfo.Windows.Lifecycle

namespace TokioTfo.Windows

/-- The invariant of the `OVERLAPPED`. -/
@[mk_iff]
structure OwnerInv (x : TcpStream × Trace) : Prop where
  asked : askedIssued x.2 = true
  once : issuedOnce x.2 = true
  /-- The pending operation is the one in the state, unless the hand-over has failed. -/
  pending : handOverFailed x.2 = false → ∀ ov, pendingOp x.2 = some ov →
    x.1.state = .fastOpenConnecting ov
  connecting : ∀ ov, x.1.state = .fastOpenConnecting ov → issued x.2 = some ov
  /-- Nothing has been given to the kernel while the stream has its own socket. -/
  opening : ∀ socket addr reader, x.1.stream = .connecting socket addr reader →
    pendingOp x.2 = none ∧ succeeded x.2 = false

theorem ownerInv_idle (s : TcpStream) : IgnoresIdle fun h => OwnerInv (s, h) := by
  intro e h he
  simp only [ownerInv_iff, issued_idle e h he, pendingOp_idle e h he, askedIssued_idle e h he,
    succeeded_idle e h he, issuedOnce_idle e h he, handOverFailed_idle e h he]

section
variable {cx : Waker} {ov : Overlapped} {s : TokioTcpStream} {h : Trace}

/-- Asking for the result of the pending `ConnectEx`. -/
theorem OwnerInv.asks (hx : OwnerInv (⟨.fastOpenConnecting ov, .connected s⟩, h))
    (r : Except Errno ℕ) (b : Bool) :
    OwnerInv (⟨.fastOpenConnecting ov, .connected ⟨s.fd, b⟩⟩,
      .getOverlappedResult s.fd ov r :: .pollWriteReady cx s.fd (.ready (.ok ())) :: h) where
  asked := by
    have ha := hx.asked
    have hi := hx.connecting ov rfl
    simp_all [askedIssued, issued]
  once := hx.once
  pending hf ov' hp := by
    refine hx.pending hf ov' ?_
    by_cases hr : r ≠ .error .WSA_IO_INCOMPLETE ∧ pendingOp h = some ov
    · have : (none : Option Overlapped) = some ov' := by
        rw [← hp]
        exact (if_pos hr).symm
      cases this
    · rw [← hp]
      exact (if_neg hr).symm
  connecting := hx.connecting
  opening := by simp

/-- Updating the connect context. -/
theorem OwnerInv.updates (hx : OwnerInv (⟨.fastOpenConnecting ov, .connected s⟩, h))
    (r : Except Errno Unit) :
    OwnerInv (⟨.fastOpenConnecting ov, .connected s⟩, .setUpdateConnectContext s.fd r :: h) where
  asked := hx.asked
  once := hx.once
  pending hf := hx.pending (Bool.or_eq_false_iff.1 hf).2
  connecting := hx.connecting
  opening := by simp

end

theorem Iter.ownerInv {env : Env} {cx : Waker} {buf : Bytes} {x : TcpStream × Trace}
    {y : Loop.Step (TcpStream × Trace) (Outcome (Poll (Result ℕ)))} (h : Iter env cx buf x y)
    (hx : OwnerInv x) : OwnerInv y.state := by
  cases h with
  | unreachable | noConnectEx => exact hx
  | openCount | openPending =>
    refine ((ownerInv_idle _).wakeReader _ _ _).mpr (((ownerInv_idle _).registered _ _).mpr ?_)
    obtain ⟨h₁, h₂, -, -, h₅⟩ := hx
    constructor <;> simp_all [askedIssued, issuedOnce, pendingOp, issued, succeeded]
  | openError | openContextLost | openCountLost | openPendingLost =>
    obtain ⟨h₁, h₂, -, -, h₅⟩ := hx
    constructor <;>
      simp_all [askedIssued, issuedOnce, pendingOp, succeeded, notRegistered, handOverFailed_cons,
        Event.failsHandOver]
  | write => exact ⟨hx.asked, hx.once, hx.pending, by simp, by simp⟩
  | wait | waitError => exact ⟨hx.asked, hx.once, hx.pending, hx.connecting, by simp⟩
  | incomplete | resultError => exact hx.asks _ _
  | contextBlocked | contextError | assertFails => exact (hx.asks _ _).updates _
  | @soError ov s h n =>
    have hu : OwnerInv (⟨.fastOpenConnecting ov, .connected s⟩,
        .setUpdateConnectContext s.fd (.ok ()) :: .getOverlappedResult s.fd ov (.ok n) ::
          .pollWriteReady cx s.fd (.ready (.ok ())) :: h) := (hx.asks _ _).updates _
    exact ⟨hu.asked, hu.once, hu.pending, hu.connecting, by simp⟩
  | @complete ov s h n =>
    have hu : OwnerInv (⟨.fastOpenConnecting ov, .connected s⟩,
        .setUpdateConnectContext s.fd (.ok ()) :: .getOverlappedResult s.fd ov (.ok n) ::
          .pollWriteReady cx s.fd (.ready (.ok ())) :: h) := (hx.asks _ _).updates _
    refine ⟨hu.asked, hu.once, fun hf ov' hp => ?_, by simp, by simp⟩
    -- the result of the one `ConnectEx` that could be pending has just been seen
    cases hu.pending hf ov' hp
    have hp : (if (.ok n : Except Errno ℕ) ≠ .error .WSA_IO_INCOMPLETE ∧ pendingOp h = some ov
      then none else pendingOp h) = some ov := hp
    by_cases hp' : pendingOp h = some ov
    · simp [hp'] at hp
    · rw [if_neg fun hc => hp' hc.2] at hp
      exact absurd hp hp'

theorem ownerInv_invariant (env : Env) : Invariant env OwnerInv := by
  refine .of_idle ownerInv_idle ?_ ?_ fun cx buf x hx => (body_iter env cx buf x).ownerInv hx
  · rintro st socket addr reader reader' h ⟨h₁, h₂, h₃, h₄, h₅⟩
    exact ⟨h₁, h₂, h₃, h₄, fun _ _ _ _ => h₅ _ _ _ rfl⟩
  · rintro st s h ⟨h₁, h₂, h₃, h₄, -⟩
    exact ⟨h₁, h₂, h₃, h₄, by simp⟩

/-- What holds of the `OVERLAPPED` of a client in every reached state. -/
structure Owned (y : TcpStream × Trace) : Prop where
  asked : askedIssued y.2 = true
  once : issuedOnce y.2 = true
  /-- The `OVERLAPPED` in the state is the one that was given to the kernel. -/
  given : ∀ ov, y.1.state = .fastOpenConnecting ov → issued y.2 = some ov
  /-- The one that the kernel has is in the state, or was freed when the hand-over failed. -/
  held : ∀ ov, pendingOp y.2 = some ov →
    (y.1.state = .fastOpenConnecting ov ↔ handOverFailed y.2 = false)

/-- What Windows promises, whatever is answered. -/
def OwnsOverlapped : Prop :=
  ∀ (env : Env) (x₀ : TfoStream TcpStream × Trace) (y : TcpStream × Trace),
    Client env x₀ → Reached env x₀ y → Owned y

/-- **The `OVERLAPPED` of a pending `ConnectEx`.** -/
theorem overlapped_owned : OwnsOverlapped := by
  intro env x₀ y hx₀ hy
  have h₀ : OwnerInv (x₀.1.inner, x₀.2) := by
    obtain ⟨socket, addr, hs, hh⟩ := opening hx₀
    rw [hs]
    refine ((ownerInv_idle _).setup hh).mpr ?_
    constructor <;> simp [askedIssued, issuedOnce, pendingOp, succeeded]
  have h := (ownerInv_invariant env).reached h₀ hy
  have hk := keptOrLost_reached (.inl hx₀) hy
  refine ⟨h.asked, h.once, h.connecting, fun ov hp => ⟨fun hs => ?_, fun hf => h.pending hf ov hp⟩⟩
  by_contra hf
  rw [KeptOrLost, if_pos (by simpa using hf)] at hk
  rw [hk] at hs
  cases hs

end TokioTfo.Windows
