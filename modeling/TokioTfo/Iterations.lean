/-
  The number of iterations of `poll_write` on Linux and Windows.

  An iteration that goes round again either hands the socket over, which starts
  without readiness, or uses up the readiness that it has found, or finds the
  handshake completed, after which the next one returns.  So the first is free and
  every other is paid for by a write-readiness event.

  `iterations_le_events`: a call makes at most two iterations more than the reactor
  delivers events, and for every number of events there is one that makes as many.
-/
import Mathlib.Order.Lattice
import TokioTfo.Termination
import TokioTfo.Windows.Iteration

namespace TokioTfo

/-! ## What pays for an iteration -/

namespace LazyTcpStream
variable {σ : Type}

/-- What pays for going round once more: the cached readiness, or the hand-over that is still to
come.  In a final state the next iteration returns. -/
def credit (final : σ → Bool) (x : LazyTcpStream σ) : ℕ :=
  if final x.state then 0 else
  match x.stream with
  | .connected s => s.writable.toNat
  | .connecting .. | .empty => 1

theorem credit_le (final : σ → Bool) (x : LazyTcpStream σ) : credit final x ≤ 1 := by
  obtain ⟨st, o⟩ := x
  have hw : ∀ b : Bool, b.toNat ≤ 1 := by decide
  unfold credit
  split
  · omega
  · split
    · exact hw _
    · exact le_rfl
    · exact le_rfl

end LazyTcpStream

/-- The states in which an ordinary write is all that `poll_write` does. -/
def Handshake.final {p : Profile} : Phase p → Bool
  | .connected | .established => true
  | _ => false

def Windows.final : Windows.TcpStreamState → Bool
  | .connected => true
  | _ => false

open LazyTcpStream (credit credit_le)

/-- An iteration that goes round again uses up the credit. -/
theorem Handshake.Iter.credit_again {p : Profile} (hp : p.settles = false) {env : Env} {cx : Waker}
    {buf : Bytes} {x y : Handshake p × Trace} (h : Iter env cx buf x (.again y)) :
    credit final y.1 + 1 ≤ credit final x.1 := by
  cases h with
  | retry hs =>
    rw [hp] at hs
    cases hs
  | soNone hw | sendProgress hw | sendBlocked hw => simp [credit, final, hw]
  | openProgress => simp [credit, final]

theorem Windows.Iter.credit_again {env : Env} {cx : Waker} {buf : Bytes} {x y : TcpStream × Trace}
    (h : Iter env cx buf x (.again y)) : credit final y.1 + 1 ≤ credit final x.1 := by
  cases h with
  | openPending => simp [credit, final]
  | incomplete hw | contextBlocked hw => simp [credit, final, hw]

/-! ## No iteration makes a readiness event -/

theorem Handshake.Iter.writeEvents_eq {p : Profile} {env : Env} {cx : Waker} {buf : Bytes}
    {x : Handshake p × Trace} {y : Loop.Step (Handshake p × Trace) (Outcome (Poll (Result ℕ)))}
    (h : Iter env cx buf x y) : writeEvents y.state.2 = writeEvents x.2 := by
  cases h with
  | openCount | openProgress =>
    simp [writeEvents_idle.wakeReader, writeEvents_idle.registered]
  | _ => simp [queried, notRegistered]

theorem Windows.Iter.writeEvents_eq {env : Env} {cx : Waker} {buf : Bytes} {x : TcpStream × Trace}
    {y : Loop.Step (TcpStream × Trace) (Outcome (Poll (Result ℕ)))} (h : Iter env cx buf x y) :
    writeEvents y.state.2 = writeEvents x.2 := by
  cases h with
  | openCount | openPending =>
    simp [writeEvents_idle.wakeReader, writeEvents_idle.registered]
  | _ => simp [queried, notRegistered]

/-! ## One call -/

namespace OneWrite
variable {S : Type} [SysTcpStream S]

/-- The call returns `o`, or panics with it, in its `n`-th iteration. -/
def ReturnsIn (w : OneWrite S) (n : ℕ) (o : Outcome (Poll (Result ℕ))) (x' : S × Trace) : Prop :=
  ∃ k y, n = k + 1 ∧ w.RunsOn k y ∧ iterate w.env w.cx w.buf y = .done o x'

/-- The call makes at most `c` iterations more than the reactor delivers events, and if these are
finitely many it returns. -/
structure Within (c : ℕ) (w : OneWrite S) : Prop where
  returned : ∀ n o x', w.ReturnsIn n o x' → n ≤ w.events x' + c
  running : ∀ n y, w.RunsOn n y → n + 1 ≤ w.events y + c
  returns : ∀ b, (∀ n y, w.RunsOn n y → w.events y ≤ b) →
    ∃ n o x', n ≤ b + c ∧ w.ReturnsIn n o x'

/-- For every number of events there is a call in `K` that makes `c` iterations more. -/
def Attains (K : OneWrite S → Prop) (c : ℕ) : Prop :=
  ∀ e, ∃ w, K w ∧ ∃ o x', w.ReturnsIn (e + c) o x' ∧ w.events x' = e

/-- A bound for the calls that are still running. -/
theorem Within.of_running {w : OneWrite S} {c : ℕ}
    (hev : ∀ (y : S × Trace) o x', iterate w.env w.cx w.buf y = .done o x' →
      writeEvents y.2 ≤ writeEvents x'.2)
    (hrun : ∀ n y, w.RunsOn n y → n + 1 ≤ w.events y + c) : w.Within c where
  running := hrun
  returned n o x' h := by
    obtain ⟨k, y, rfl, hk, hd⟩ := h
    have h₁ := hrun k y hk
    have h₂ := hev y o x' hd
    simp only [events] at h₁ ⊢
    omega
  returns b hb := by
    cases hr : pollWrite w.env w.cx w.buf (b + c) w.pre with
    | again y =>
      have h₁ := hrun _ y hr
      have h₂ := hb _ y hr
      omega
    | done o x' =>
      obtain ⟨k, y, hk, hy, hd⟩ := Loop.run_done_last hr
      exact ⟨k + 1, o, x', by omega, k, y, rfl, hy, hd⟩

end OneWrite

section
variable {σ : Type} [SysTcpStream (LazyTcpStream σ)] [LazyModule σ]

/-- The reactor pays for the readiness it sets. -/
theorem credit_deliver (env : Env) (final : σ → Bool) (x : LazyTcpStream σ × Trace) :
    credit final (deliver env x).1 + writeEvents x.2 ≤
      credit final x.1 + writeEvents (deliver env x).2 := by
  rcases @deliver_cases _ _ _ env x with hd | ⟨st, s, h, rfl, hd⟩
  · rw [hd]
  · rw [hd]
    have h₁ := credit_le final ⟨st, .connected s.setWritable⟩
    have h₂ : writeEvents (.writeEvent :: h) = writeEvents h + 1 := by simp
    simp only [h₂]
    omega

theorem writeEvents_deliver (env : Env) (x : LazyTcpStream σ × Trace) :
    writeEvents x.2 ≤ writeEvents (deliver env x).2 := by
  rcases @deliver_cases _ _ _ env x with hd | ⟨st, s, h, rfl, hd⟩
  · rw [hd]
  · rw [hd, writeEvents_cons]
    exact Nat.le_add_right _ _

/-- **The number of iterations** of a module in which going round again uses up the credit. -/
theorem within_two (final : σ → Bool)
    (hcredit : ∀ env cx buf (x y : LazyTcpStream σ × Trace),
      SysTcpStream.pollWriteBody env cx buf x = .again y → credit final y.1 + 1 ≤ credit final x.1)
    (hev : ∀ env cx buf (x : LazyTcpStream σ × Trace),
      writeEvents (SysTcpStream.pollWriteBody env cx buf x).state.2 = writeEvents x.2)
    (w : OneWrite (LazyTcpStream σ)) : w.Within 2 := by
  have hevents : ∀ (y : LazyTcpStream σ × Trace) z, iterate w.env w.cx w.buf y = z →
      writeEvents (deliver w.env y).2 = writeEvents z.state.2 := by
    rintro y z rfl
    exact (hev _ _ _ _).symm
  refine .of_running (fun y o x' hd => ?_) fun n y hy => ?_
  · have h₁ := writeEvents_deliver w.env y
    have h₂ := hevents y _ hd
    rwa [h₂] at h₁
  · have hrank : ∀ (x y : LazyTcpStream σ × Trace), True → iterate w.env w.cx w.buf x = .again y →
        credit final y.1 + 1 + writeEvents x.2 ≤ credit final x.1 + writeEvents y.2 := by
      intro x y _ hb
      have h₁ := credit_deliver w.env final x
      have h₂ := hcredit _ _ _ _ _ hb
      have h₃ := hevents x _ hb
      simp only [Loop.Step.state_again] at h₃
      omega
    have hr := Loop.run_amortised (I := fun _ => True) (fun _ _ _ _ => trivial) hrank trivial hy
    have h₄ := credit_le final w.pre.1
    simp only [OneWrite.events]
    omega

end

/-! ## Linux and Windows -/

theorem Linux.within_two (w : OneWrite Linux.TcpStream) : w.Within 2 := by
  have hview : ∀ env cx buf (x : Linux.TcpStream × Trace), Handshake.Iter env cx buf
      (Prod.map UnixTcpStream.view id x)
      ((SysTcpStream.pollWriteBody env cx buf x).map (Prod.map UnixTcpStream.view id)) :=
    fun env cx buf x => .of_body (UnixTcpStream.body_view env cx buf x)
  refine TokioTfo.within_two (Handshake.final ∘ phase) ?_ ?_ w
  · intro env cx buf x y hb
    have hi := hview env cx buf x
    rw [hb] at hi
    exact hi.credit_again rfl
  · intro env cx buf x
    have hi := (hview env cx buf x).writeEvents_eq
    cases hb : SysTcpStream.pollWriteBody env cx buf x <;> rw [hb] at hi <;> exact hi

theorem Windows.within_two (w : OneWrite Windows.TcpStream) : w.Within 2 :=
  TokioTfo.within_two final (fun _ _ _ _ _ hb => (Iter.of_body hb).credit_again)
    (fun env cx buf x => (body_iter env cx buf x).writeEvents_eq) w

/-! ## Spurious readiness -/

/-- The socket becomes writable `e` times after the call has begun, and would block each time. -/
def spurious (e : ℕ) : Env :=
  { (default : Env) with
    writeEvent := fun h => match h with
      | .call _ :: _ => false
      | h => decide (writeEvents h < e)
    send := fun _ _ _ => .error .EAGAIN
    connectEx := fun _ _ _ _ _ => .error .WSA_IO_PENDING
    getOverlappedResult := fun _ _ _ => .error .WSA_IO_INCOMPLETE }

/-- The call has found the socket not ready after `k` events. -/
def Blocked {σ : Type} (st : σ) (k : ℕ) (x : LazyTcpStream σ × Trace) : Prop :=
  x.1 = ⟨st, .connected ⟨0, false⟩⟩ ∧ writeEvents x.2 = k ∧ ∀ c h, x.2 ≠ .call c :: h

/-- **The bound is attained**: each event but the last pays for an iteration that blocks again. -/
theorem attained {σ : Type} [SysTcpStream (LazyTcpStream σ)] (st : σ) {e : ℕ} {cx : Waker}
    {buf : Bytes} {pre y : LazyTcpStream σ × Trace} (hpre : writeEvents pre.2 = 0)
    (hy : iterate (spurious e) cx buf pre = .again y) (h₀ : Blocked st 0 y)
    (hstep : ∀ k x, k < e → Blocked st k x →
      ∃ x', iterate (spurious e) cx buf x = .again x' ∧ Blocked st (k + 1) x')
    (hdone : ∀ x, Blocked st e x →
      ∃ o x', iterate (spurious e) cx buf x = .done o x' ∧ writeEvents x'.2 = e) :
    let w : OneWrite (LazyTcpStream σ) := ⟨spurious e, cx, buf, pre⟩
    ∃ o x', w.ReturnsIn (e + 2) o x' ∧ w.events x' = e := by
  obtain ⟨z, hz, hb⟩ := Loop.run_stages hstep h₀
  obtain ⟨o, x', hd, he⟩ := hdone z hb
  refine ⟨o, x', ⟨e + 1, z, rfl, ?_, hd⟩, ?_⟩
  · exact (Loop.run_succ_again hy e).trans hz
  · simp only [OneWrite.events, he, hpre, Nat.sub_zero]

theorem deliver_blocked {σ : Type} [SysTcpStream (LazyTcpStream σ)] [LazyModule σ] {st : σ}
    {e k : ℕ} {x : LazyTcpStream σ × Trace} (hx : Blocked st k x) :
    deliver (spurious e) x =
      if k < e then (⟨st, .connected ⟨0, true⟩⟩, .writeEvent :: x.2) else x := by
  obtain ⟨s, h⟩ := x
  obtain ⟨rfl, hk, hc⟩ := hx
  have hw : (spurious e).writeEvent h = decide (k < e) := by
    subst hk
    cases h with
    | nil => rfl
    | cons ev h =>
      cases ev with
      | call c => exact absurd rfl (hc c h)
      | _ => rfl
  simp only [deliver, LazyModule.setWritable_eq, LazyTcpStream.setWritable, hw,
    TokioTcpStream.setWritable, decide_eq_true_eq]

theorem Linux.attains : OneWrite.Attains (OneWrite.Reachable (S := Linux.TcpStream)) 2 := by
  intro e
  let cx : Waker := ⟨1, 1⟩
  refine ⟨⟨spurious e, cx, [7], fastClient.1.inner, .call (.pollWrite cx [7]) :: fastClient.2⟩,
    ⟨by simp [spurious, default], by simp [spurious, default], fastClient, [], _,
      .inl (fastClient_connects rfl rfl), .nil, rfl⟩, ?_⟩
  refine attained TcpStreamState.fastOpenWrite rfl rfl ⟨rfl, rfl, by simp⟩ ?_ ?_
  · intro k x hk hx
    refine ⟨_, by rw [iterate, deliver_blocked hx, if_pos hk]; rfl, rfl, ?_, by simp⟩
    simp [hx.2.1]
  · intro x hx
    obtain ⟨s, h⟩ := x
    obtain rfl : s = _ := hx.1
    refine ⟨_, _, by rw [iterate, deliver_blocked hx, if_neg (by omega)]; rfl, ?_⟩
    simp [show writeEvents h = e from hx.2.1]

theorem Windows.attains : OneWrite.Attains (OneWrite.Reachable (S := Windows.TcpStream)) 2 := by
  intro e
  let cx : Waker := ⟨1, 1⟩
  refine ⟨⟨spurious e, cx, [7], client.1.inner, .call (.pollWrite cx [7]) :: client.2⟩,
    ⟨by simp [spurious, default], by simp [spurious, default], client, [], _,
      .inl (client_connects rfl rfl), .nil, rfl⟩, ?_⟩
  refine attained (TcpStreamState.fastOpenConnecting 3) rfl rfl
    ⟨rfl, rfl, fun c h he => by cases List.head_eq_of_cons_eq he⟩ ?_ ?_
  · intro k x hk hx
    refine ⟨_, by rw [iterate, deliver_blocked hx, if_pos hk]; rfl, rfl, ?_, by simp⟩
    simp [hx.2.1]
  · intro x hx
    obtain ⟨s, h⟩ := x
    obtain rfl : s = _ := hx.1
    refine ⟨_, _, by rw [iterate, deliver_blocked hx, if_neg (by omega)]; rfl, ?_⟩
    simp [show writeEvents h = e from hx.2.1]

/-- **Termination of `poll_write`** on Linux and Windows, from any state: a call during which the
reactor delivers `e` readiness events returns or panics within `e + 2` iterations, and for every `e`
a call from a reachable state takes as many. -/
theorem iterations_le_events :
    (∀ w : OneWrite Linux.TcpStream, w.Within 2) ∧
      (∀ w : OneWrite Windows.TcpStream, w.Within 2) ∧
      OneWrite.Attains (OneWrite.Reachable (S := Linux.TcpStream)) 2 ∧
      OneWrite.Attains (OneWrite.Reachable (S := Windows.TcpStream)) 2 :=
  ⟨Linux.within_two, Windows.within_two, Linux.attains, Windows.attains⟩

end TokioTfo
