/-
  The number of iterations of `poll_write`.

  A readiness event pays for one iteration, and a write in `Connected` that fails
  with an error that is retried pays for two: back to `FastOpenConnecting`, and from
  there, as the cached readiness is still set, to `Connected` again.

  * `Unix.iterations_le`: the bound in the number of events and of retries.
  * `Unix.retries_le`: the retries are no more than the events and one, unless the
    kernel finds `SO_ERROR` clear after a retry, with no event in between.
  * `progresses_iff_noticed`: so a call in which it does not do so returns, after a
    number of iterations bounded in the events, and any other goes round without one.
  * `not_terminates`: these need not return, because a connection that is gone makes
    every write fail so, and `SO_ERROR` reports nothing.
-/
import TokioTfo.Starts
import TokioTfo.Handshake.Iteration

namespace TokioTfo

/-! ## What is counted -/

/-- The number of write-readiness events. -/
def writeEvents (h : Trace) : ℕ := h.countP fun e => e = .writeEvent

/-- An ordinary write has failed with an error that is retried. -/
def Event.retries (retry : Error → Bool) : Event → Bool
  | pollWrite _ _ _ (.ready (.error e)) => retry e
  | _ => false

/-- The number of these failures. -/
def retried (retry : Error → Bool) (h : Trace) : ℕ := h.countP (Event.retries retry)

@[simp] theorem writeEvents_cons (e : Event) (h : Trace) :
    writeEvents (e :: h) = writeEvents h + if e = .writeEvent then 1 else 0 := by
  simp [writeEvents, List.countP_cons]

@[simp] theorem retried_cons (retry : Error → Bool) (e : Event) (h : Trace) :
    retried retry (e :: h) = retried retry h + if e.retries retry then 1 else 0 := by
  simp [retried, List.countP_cons]

/-- Since the call has begun, or the reactor has delivered a readiness event, an ordinary write has
failed with an error that is retried. -/
def retriedSince (retry : Error → Bool) : Trace → Bool
  | [] | .call _ :: _ | .writeEvent :: _ => false
  | e :: h => e.retries retry || retriedSince retry h

/-- `SO_ERROR` was found clear after that, in the same call. -/
def foundClear (retry : Error → Bool) : Trace → Bool
  | [] | .call _ :: _ => false
  | .takeError _ (.ok none) :: h => retriedSince retry h || foundClear retry h
  | _ :: h => foundClear retry h

theorem writeEvents_idle : IgnoresIdle writeEvents := by
  intro e h he
  cases e <;> first | rfl | exact he.elim

theorem retried_idle (retry : Error → Bool) : IgnoresIdle (retried retry) := by
  intro e h he
  cases e <;> first | rfl | exact he.elim

/-! ## One iteration -/

namespace Handshake
variable {p : Profile} {env : Env}

/-- The phases that are still ahead, with one more for cached readiness. -/
def ahead (x : Handshake p × Trace) : ℕ :=
  (match x.1.state with
    | .fastOpenConnect | .fastOpenWrite => 2
    | .fastOpenConnecting => 1
    | .connected | .established => 0) +
  match x.1.stream with
    | .connected s => s.writable.toNat
    | _ => 0

theorem ahead_le (x : Handshake p × Trace) : ahead x ≤ 3 := by
  obtain ⟨⟨ph, o⟩, h⟩ := x
  have hw : ∀ b : Bool, b.toNat ≤ 1 := by decide
  cases o with
  | connected s =>
    have := hw s.writable
    cases ph <;> simp only [ahead] <;> omega
  | connecting | empty => cases ph <;> simp [ahead]

/-- What pays for the iterations. -/
def cost (x : Handshake p × Trace) : ℕ := writeEvents x.2 + 2 * retried p.retry x.2

/-- An iteration has less ahead of it, or is paid for. -/
theorem Iter.ahead_again {cx : Waker} {buf : Bytes} {x y : Handshake p × Trace}
    (h : Iter env cx buf x (.again y)) :
    ahead y + 1 + cost x ≤ ahead x + cost y ∧ writeEvents y.2 = writeEvents x.2 := by
  cases h with
  | openProgress =>
    simp [ahead, cost, writeEvents_idle.wakeReader, writeEvents_idle.registered, Event.retries,
      (retried_idle p.retry).wakeReader, (retried_idle p.retry).registered]
  | retry _ he =>
    simp [ahead, cost, Event.retries, he]
    omega
  | soNone hw | sendProgress hw | sendBlocked hw =>
    simp [ahead, cost, Event.retries, hw, queried]

/-- The reactor pays for the readiness it sets. -/
theorem ahead_deliver (x : Handshake p × Trace) :
    ahead (deliver env x) + cost x ≤ ahead x + cost (deliver env x) := by
  rcases @deliver_cases _ _ _ env x with hd | ⟨st, s, h, rfl, hd⟩
  · simp [hd]
  · rw [hd]
    simp [ahead, cost, TokioTcpStream.setWritable, Event.retries]
    omega

theorem iterate_ahead {cx : Waker} {buf : Bytes} {x y : Handshake p × Trace}
    (h : iterate env cx buf x = .again y) :
    ahead y + 1 + cost x ≤ ahead x + cost y := by
  have h₁ := @ahead_deliver _ env x
  have h₂ := (Iter.of_body h).ahead_again.1
  omega

/-- What an iteration does about the writes that are retried: it makes one, it finds `SO_ERROR`
clear, or it opens the connection. -/
theorem Iter.retry_cases {cx : Waker} {buf : Bytes} {x y : Handshake p × Trace}
    (h : Iter env cx buf x (.again y)) :
    (x.1.state = .connected ∧ y.1.state = .fastOpenConnecting ∧
      retriedSince p.retry y.2 = true ∧ foundClear p.retry y.2 = foundClear p.retry x.2 ∧
      retried p.retry y.2 = retried p.retry x.2 + 1) ∨
    (x.1.state = .fastOpenConnecting ∧ y.1.state = .connected ∧
      retriedSince p.retry y.2 = retriedSince p.retry x.2 ∧
      foundClear p.retry y.2 = (retriedSince p.retry x.2 || foundClear p.retry x.2) ∧
      retried p.retry y.2 = retried p.retry x.2) ∨
    (x.1.state ≠ .connected ∧ x.1.state ≠ .fastOpenConnecting ∧ y.1.state ≠ .connected ∧
      retriedSince p.retry y.2 = retriedSince p.retry x.2 ∧
      foundClear p.retry y.2 = foundClear p.retry x.2 ∧
      retried p.retry y.2 = retried p.retry x.2) := by
  cases h with
  | retry _ he => exact .inl (by simp [retriedSince, foundClear, Event.retries, he])
  | soNone => exact .inr (.inl (by simp [queried, retriedSince, foundClear, Event.retries]))
  | @openProgress _ _ reader =>
    refine .inr (.inr ?_)
    rcases wakeReader_cases reader cx (registered _ _) with hw | ⟨w, hw⟩ <;> rw [hw] <;>
      simp [registered, retriedSince, foundClear, Event.retries]
  | sendProgress | sendBlocked =>
    exact .inr (.inr (by simp [retriedSince, foundClear, Event.retries]))

/-- As long as `SO_ERROR` is not found clear after a retry, the call waits for the socket after it,
and each retry but the last is followed by an event. -/
def Noting (x y : Handshake p × Trace) : Prop :=
  foundClear p.retry y.2 = false →
    (retriedSince p.retry y.2 = true → y.1.state = .fastOpenConnecting) ∧
      retried p.retry y.2 + writeEvents x.2 ≤
        retried p.retry x.2 + writeEvents y.2 + (retriedSince p.retry y.2).toNat

/-- A readiness event leaves no retry behind. -/
theorem deliver_retry (env : Env) (x : Handshake p × Trace) : (deliver env x).1.state = x.1.state ∧
    foundClear p.retry (deliver env x).2 = foundClear p.retry x.2 ∧
    (deliver env x = x ∨ retriedSince p.retry (deliver env x).2 = false ∧
      writeEvents (deliver env x).2 = writeEvents x.2 + 1 ∧
      retried p.retry (deliver env x).2 = retried p.retry x.2) := by
  rcases @deliver_cases _ _ _ env x with hd | ⟨st, s, h, rfl, hd⟩
  · rw [hd]
    exact ⟨rfl, rfl, .inl rfl⟩
  · rw [hd]
    exact ⟨rfl, rfl, .inr ⟨rfl, by simp, by simp [Event.retries]⟩⟩

theorem Noting.start {x : Handshake p × Trace} (h : retriedSince p.retry x.2 = false) :
    Noting x x := by
  intro _
  simp [h]

theorem Noting.deliver (env : Env) {x y : Handshake p × Trace} (h : Noting x y) :
    Noting x (deliver env y) := by
  obtain ⟨-, hf, hd | ⟨hr, hw, hn⟩⟩ := deliver_retry env y
  · rwa [hd]
  · intro hc
    obtain ⟨-, h₂⟩ := h (hf ▸ hc)
    have := Bool.toNat_le (retriedSince p.retry y.2)
    rw [hr, hw, hn]
    exact ⟨by simp, by simp only [Bool.toNat_false]; omega⟩

theorem Noting.again {cx : Waker} {buf : Bytes} (x : Handshake p × Trace)
    {y z : Handshake p × Trace} (hy : Noting x y) (h : iterate env cx buf y = .again z) :
    Noting x z := by
  have hi := Iter.of_body h
  have hw := hi.ahead_again.2
  intro hf
  rcases hi.retry_cases with ⟨hx, hz, h₁, h₂, h₃⟩ | ⟨-, -, h₁, h₂, h₃⟩ | ⟨-, hx, -, h₁, h₂, h₃⟩
  · obtain ⟨h₄, h₅⟩ := hy.deliver env (h₂ ▸ hf)
    have h₀ : retriedSince p.retry (TokioTfo.deliver env y).2 = false := by
      by_contra hc
      rw [h₄ (by simpa using hc)] at hx
      cases hx
    refine ⟨fun _ => hz, ?_⟩
    rw [h₀, Bool.toNat_false] at h₅
    rw [h₁, h₃, hw, Bool.toNat_true]
    omega
  · rw [h₂, Bool.or_eq_false_iff] at hf
    obtain ⟨-, h₅⟩ := hy.deliver env hf.2
    rw [h₁, h₃, hw]
    exact ⟨by simp [hf.1], h₅⟩
  · obtain ⟨h₄, h₅⟩ := hy.deliver env (h₂ ▸ hf)
    rw [h₁, h₃, hw]
    exact ⟨fun hr => absurd (h₄ hr) hx, h₅⟩

/-- From `connected` to `fastOpenConnecting` leads a write that is retried. -/
theorem iterate_leaves {cx : Waker} {buf : Bytes} {x y : Handshake p × Trace}
    (h : iterate env cx buf x = .again y) (hx : x.1.state = .connected) :
    y.1.state = .fastOpenConnecting ∧ retriedSince p.retry y.2 = true := by
  obtain ⟨hs, -, -⟩ := deliver_retry env x
  rcases (Iter.of_body h).retry_cases with ⟨-, hy, hr, -⟩ | ⟨h₁, -⟩ | ⟨h₁, -⟩
  · exact ⟨hy, hr⟩
  · rw [hs, hx] at h₁
    cases h₁
  · exact absurd (hs.trans hx) h₁

/-- Back leads a clear `SO_ERROR`. -/
theorem iterate_enters {cx : Waker} {buf : Bytes} {x y : Handshake p × Trace}
    (h : iterate env cx buf x = .again y) (hx : x.1.state = .fastOpenConnecting)
    (hr : retriedSince p.retry x.2 = true) (he : writeEvents y.2 = writeEvents x.2) :
    foundClear p.retry y.2 = true := by
  have hi := Iter.of_body h
  obtain ⟨hs, -, hd | ⟨-, hw, -⟩⟩ := deliver_retry env x
  · rw [hd] at hi
    rcases hi.retry_cases with ⟨h₁, -⟩ | ⟨-, -, -, hf, -⟩ | ⟨-, h₁, -⟩
    · rw [hx] at h₁
      cases h₁
    · rw [hf, hr, Bool.true_or]
    · exact absurd hx h₁
  · have := hi.ahead_again.2
    omega

/-- `SO_ERROR` is found clear after a retry in `fastOpenConnecting` only, and no event comes
before it. -/
theorem iterate_foundClear {cx : Waker} {buf : Bytes} {x y : Handshake p × Trace}
    (h : iterate env cx buf x = .again y) (hx : foundClear p.retry x.2 = false)
    (hy : foundClear p.retry y.2 = true) :
    x.1.state = .fastOpenConnecting ∧ y.1.state = .connected ∧
      retriedSince p.retry x.2 = true ∧ writeEvents y.2 = writeEvents x.2 := by
  have hi := Iter.of_body h
  obtain ⟨hs, hf, hd⟩ := deliver_retry env x
  rcases hi.retry_cases with ⟨-, -, -, h₁, -⟩ | ⟨h₁, h₂, -, h₃, -⟩ | ⟨-, -, -, -, h₁, -⟩
  · rw [hf, hx, hy] at h₁
    cases h₁
  · rw [hf, hx, hy, Bool.or_false] at h₃
    rcases hd with hd | ⟨hr, -, -⟩
    · rw [hd] at h₁ h₃ hi
      exact ⟨h₁, h₂, h₃.symm, hi.ahead_again.2⟩
    · rw [hr] at h₃
      cases h₃
  · rw [hf, hx, hy] at h₁
    cases h₁

/-- Where a write was retried, it was in the last iteration. -/
theorem iterate_retriedSince {cx : Waker} {buf : Bytes} {w x y : Handshake p × Trace}
    (hw : Noting w x) (h : iterate env cx buf x = .again y)
    (hr : retriedSince p.retry y.2 = true) (hf : foundClear p.retry y.2 = false) :
    x.1.state = .connected := by
  have hd := hw.deliver env
  obtain ⟨hs, -, -⟩ := deliver_retry env x
  rcases (Iter.of_body h).retry_cases with ⟨h₁, -⟩ | ⟨-, -, h₁, h₂, -⟩ | ⟨-, h₁, -, h₂, h₃, -⟩
  · exact hs.symm.trans h₁
  · rw [h₁.symm.trans hr, Bool.true_or] at h₂
    rw [hf] at h₂
    cases h₂
  · exact absurd ((hd (h₃.symm.trans hf)).1 (h₂.symm.trans hr)) h₁

end Handshake

/-! ## One call -/

/-- A call of `poll_write` from the state `pre`. -/
structure OneWrite (S : Type) where
  env : Env
  cx : Waker
  buf : Bytes
  pre : S × Trace

namespace OneWrite
variable {S : Type} [SysTcpStream S]

/-- After `n` iterations the call has not returned, and is in the state `y`. -/
def RunsOn (w : OneWrite S) (n : ℕ) (y : S × Trace) : Prop :=
  pollWrite w.env w.cx w.buf n w.pre = .again y

/-- A call that has returned does not run on. -/
theorem RunsOn.lt_of_done {w : OneWrite S} {n k : ℕ} {y z : S × Trace}
    {r : Outcome (Poll (Result ℕ))} (hy : w.RunsOn n y)
    (h : pollWrite w.env w.cx w.buf k w.pre = .done r z) : n < k := by
  by_contra hle
  cases (Loop.run_done_mono h (Nat.le_of_not_lt hle)).symm.trans hy

/-- The readiness events that the reactor has delivered during the call. -/
def events (w : OneWrite S) (y : S × Trace) : ℕ := writeEvents y.2 - writeEvents w.pre.2

/-- The writes of the call that have failed with an error that is retried. -/
def retries (retry : Error → Bool) (w : OneWrite S) (y : S × Trace) : ℕ :=
  retried retry y.2 - retried retry w.pre.2

/-- The calls in `K` return, after a number of iterations that is bounded by a function of the
number of readiness events. -/
structure Terminates (K : OneWrite S → Prop) : Prop where
  bounded : ∃ f : ℕ → ℕ, ∀ w, K w → ∀ n y, w.RunsOn n y → n ≤ f (w.events y)
  returns : ∀ w, K w → ∀ b, (∀ n y, w.RunsOn n y → w.events y ≤ b) →
    ∃ o x', PollWriteReturns w.env w.cx w.buf w.pre o x'

/-- The call is made on a stream that the constructors and any calls have led to, in an environment
without a cooperative budget. -/
def Reachable [SysConnect S] (w : OneWrite S) : Prop :=
  (∀ h fd, w.env.pollWriteReady h fd ≠ .budget) ∧
    (∀ h fd buf, w.env.pollWrite h fd buf ≠ .budget) ∧
    ∃ x₀ t x, Started w.env x₀ ∧ (system S w.env).Run x₀ t x ∧
      w.pre = (x.1.inner, .call (.pollWrite w.cx w.buf) :: x.2)

end OneWrite

namespace Unix
variable {S : Type} [SysTcpStream S] [UnixTcpStream S]

/-- **The number of iterations**: three, one for each readiness event, and two for each retry. -/
theorem iterations_le {w : OneWrite S} {n : ℕ} {y : S × Trace} (h : w.RunsOn n y) :
    n ≤ 3 + w.events y + 2 * w.retries (UnixTcpStream.profile S).retry y := by
  have hr := Loop.run_map (UnixTcpStream.iterate_view w.env w.cx w.buf) n w.pre
  rw [show Loop.run (iterate w.env w.cx w.buf) n w.pre = _ from h] at hr
  have h₁ := Loop.run_amortised (I := fun _ => True) (fun _ _ _ _ => trivial)
    (fun _ _ _ hb => Handshake.iterate_ahead hb) trivial hr
  have h₂ := Handshake.ahead_le (Prod.map UnixTcpStream.view id w.pre)
  simp only [Handshake.cost, Prod.map_snd, id_eq] at h₁
  simp only [OneWrite.events, OneWrite.retries]
  omega

end Unix

/-! ## FreeBSD and macOS -/

/-- In the call, the kernel does not find `SO_ERROR` clear after it has failed an ordinary write
with an error that is retried, unless the reactor has delivered a readiness event since. -/
def OneWrite.Noticed {S : Type} [SysTcpStream S] (retry : Error → Bool) (w : OneWrite S) : Prop :=
  ∀ n y, w.RunsOn n y → foundClear retry y.2 = false

namespace Unix
variable {S : Type} [SysTcpStream S] [UnixTcpStream S]

/-- The state of the handshake. -/
def state (y : S × Trace) : Phase (UnixTcpStream.profile S) := (UnixTcpStream.view y.1).state

/-- The call goes from `Connected` to `FastOpenConnecting`, and without a readiness event in between
back to `Connected`. -/
def Cycles (w : OneWrite S) : Prop :=
  ∃ n x y z, w.RunsOn n x ∧ w.RunsOn (n + 1) y ∧ w.RunsOn (n + 2) z ∧ state x = .connected ∧
    state y = .fastOpenConnecting ∧ state z = .connected ∧ writeEvents z.2 = writeEvents y.2

section
variable {w : OneWrite S} {n : ℕ} {x y z : S × Trace}

/-- The iterations of the call are iterations of the handshake machine. -/
theorem runsOn_view (h : w.RunsOn n y) :
    Loop.run (iterate w.env w.cx w.buf) n (Prod.map UnixTcpStream.view id w.pre) =
      .again (Prod.map UnixTcpStream.view id y) := by
  rw [Loop.run_map (UnixTcpStream.iterate_view w.env w.cx w.buf)]
  exact congrArg (Loop.Step.map (Prod.map UnixTcpStream.view id)) h

theorem runsOn_succ (hy : w.RunsOn n y) (hz : w.RunsOn (n + 1) z) :
    iterate w.env w.cx w.buf (Prod.map UnixTcpStream.view id y) =
      .again (Prod.map UnixTcpStream.view id z) := by
  obtain ⟨t, ht, hb⟩ := Loop.run_again_last (runsOn_view hz)
  rw [runsOn_view hy] at ht
  rwa [← Loop.Step.again.inj ht] at hb

theorem noting (hc : retriedSince (UnixTcpStream.profile S).retry w.pre.2 = false)
    (h : w.RunsOn n y) : Handshake.Noting (Prod.map UnixTcpStream.view id w.pre)
      (Prod.map UnixTcpStream.view id y) :=
  Loop.run_again_inv (fun _ _ => Handshake.Noting.again _) (.start hc) (runsOn_view h)

end

/-- Each retry but the last is followed by a readiness event. -/
theorem retries_le {w : OneWrite S} {n : ℕ} {y : S × Trace}
    (hc : retriedSince (UnixTcpStream.profile S).retry w.pre.2 = false) (h : w.RunsOn n y)
    (hf : foundClear (UnixTcpStream.profile S).retry y.2 = false) :
    w.retries (UnixTcpStream.profile S).retry y ≤ w.events y + 1 := by
  obtain ⟨-, hle⟩ := noting hc h hf
  have := Bool.toNat_le (retriedSince (UnixTcpStream.profile S).retry y.2)
  simp only [Prod.map_snd, id_eq] at hle
  simp only [OneWrite.retries, OneWrite.events]
  omega

/-- Then every event pays for three iterations. -/
theorem runsOn_le {w : OneWrite S} {n : ℕ} {y : S × Trace}
    (hc : retriedSince (UnixTcpStream.profile S).retry w.pre.2 = false) (h : w.RunsOn n y)
    (hf : foundClear (UnixTcpStream.profile S).retry y.2 = false) : n ≤ 5 + 3 * w.events y := by
  have h₁ := iterations_le h
  have h₂ := retries_le hc h hf
  omega

/-- A call that notices does not go round without an event, and the others do. -/
theorem noticed_iff {w : OneWrite S}
    (hc : retriedSince (UnixTcpStream.profile S).retry w.pre.2 = false)
    (hp : foundClear (UnixTcpStream.profile S).retry w.pre.2 = false) :
    w.Noticed (UnixTcpStream.profile S).retry ↔ ¬Cycles w := by
  constructor
  · rintro hn ⟨n, x, y, z, hx, hy, hz, hsx, hsy, -, he⟩
    obtain ⟨-, hr⟩ := Handshake.iterate_leaves (runsOn_succ hx hy) hsx
    have hf := Handshake.iterate_enters (runsOn_succ hy hz) hsy hr he
    exact Bool.false_ne_true ((hn _ z hz).symm.trans hf)
  · intro hn n y hy
    induction n generalizing y with
    | zero => exact Loop.Step.again.inj hy ▸ hp
    | succ n ih =>
      obtain ⟨x, hx, -⟩ := Loop.run_again_last hy
      by_contra hf
      -- the iteration that finds `SO_ERROR` clear, and before it the one that was retried
      obtain ⟨hsx, hsy, hr, he⟩ := Handshake.iterate_foundClear (runsOn_succ hx hy) (ih x hx)
        (by simpa using hf)
      cases n with
      | zero =>
        obtain rfl : w.pre = x := Loop.Step.again.inj hx
        exact Bool.false_ne_true (hc.symm.trans hr)
      | succ n =>
        obtain ⟨u, hu, -⟩ := Loop.run_again_last hx
        have hsu := Handshake.iterate_retriedSince (noting hc hu) (runsOn_succ hu hx) hr (ih x hx)
        exact hn ⟨n, u, x, y, hu, hx, hy, hsu, hsx, hsy, he⟩

/-- The call does not go round without an event.  It returns, after a number of iterations that is
bounded by a function of the number of events. -/
structure Progresses (w : OneWrite S) : Prop where
  acyclic : ¬Cycles w
  bounded : ∀ n y, w.RunsOn n y → n ≤ 5 + 3 * w.events y
  returns : ∀ b, (∀ n y, w.RunsOn n y → w.events y ≤ b) →
    ∃ o x', PollWriteReturns w.env w.cx w.buf w.pre o x'

theorem progresses_iff [SysConnect S] {w : OneWrite S} (hw : w.Reachable) :
    Progresses w ↔ w.Noticed (UnixTcpStream.profile S).retry := by
  obtain ⟨hc, hp⟩ : retriedSince (UnixTcpStream.profile S).retry w.pre.2 = false ∧
      foundClear (UnixTcpStream.profile S).retry w.pre.2 = false := by
    obtain ⟨-, -, x₀, t, x, -, -, he⟩ := hw
    rw [he]
    exact ⟨rfl, rfl⟩
  refine ⟨fun h => (noticed_iff hc hp).2 h.acyclic, fun hn => ?_⟩
  have hb : ∀ n y, w.RunsOn n y → n ≤ 5 + 3 * w.events y := fun n y hy =>
    runsOn_le hc hy (hn n y hy)
  refine ⟨(noticed_iff hc hp).1 hn, hb, fun b he => ?_⟩
  refine Loop.returns_of_bounded (b := 5 + 3 * b) fun n y hy => ?_
  have h₁ := hb n y hy
  have h₂ := he n y hy
  omega

end Unix

/-- **A write does not spin** if its kernel notices: the calls that meet the condition return, after
a number of iterations bounded in the readiness events, and those that do not meet it go from
`Connected` to `FastOpenConnecting` and back without an event. -/
theorem progresses_iff_noticed {w : OneWrite FreeBsd.TcpStream} {w' : OneWrite MacOs.TcpStream}
    (hw : w.Reachable) (hw' : w'.Reachable) :
    (Unix.Progresses w ↔ w.Noticed FreeBsd.TcpStream.retry) ∧
      (Unix.Progresses w' ↔ w'.Noticed MacOs.TcpStream.retry) :=
  ⟨Unix.progresses_iff hw, Unix.progresses_iff hw'⟩

/-- The connection was reset: every ordinary write fails with `ENOTCONN`, and `SO_ERROR` says
why. -/
def reset : Env :=
  { (default : Env) with
    pollWrite := fun _ _ _ => .ready (.error (.os .ENOTCONN))
    takeError := fun _ _ => .ok (some (.os (.other 54))) }

/-- The first write of a stream made from a tokio stream, in the environment. -/
def adoptedWrite (env : Env) (S : Type) [SysTcpStream S] [SysConnect S] : OneWrite S :=
  ⟨env, ⟨1, 1⟩, [1, 2, 3], SysConnect.ofTokio ⟨0, true⟩, [.call (.pollWrite ⟨1, 1⟩ [1, 2, 3])]⟩

theorem adoptedWrite_reachable {env : Env} (hr : ∀ h fd, env.pollWriteReady h fd ≠ .budget)
    (hw : ∀ h fd buf, env.pollWrite h fd buf ≠ .budget) {S : Type} [SysTcpStream S]
    [SysConnect S] : (adoptedWrite env S).Reachable :=
  ⟨hr, hw, (.ofTokio SysConnect.ofTokio ⟨0, true⟩, []), [], _, .inr ⟨_, rfl⟩, .nil, rfl⟩

theorem reset_reachable {S : Type} [SysTcpStream S] [SysConnect S] :
    (adoptedWrite reset S).Reachable :=
  adoptedWrite_reachable (by simp [reset, default]) (by simp [reset])

/-- On a connection that was reset it returns the error. -/
theorem reset_returns :
    (Unix.Progresses (adoptedWrite reset FreeBsd.TcpStream) ∧
      ∃ x', PollWriteReturns reset ⟨1, 1⟩ [1, 2, 3] (adoptedWrite reset FreeBsd.TcpStream).pre
        (.returned (.ready (.error (.os (.other 54))))) x') ∧
    (Unix.Progresses (adoptedWrite reset MacOs.TcpStream) ∧
      ∃ x', PollWriteReturns reset ⟨1, 1⟩ [1, 2, 3] (adoptedWrite reset MacOs.TcpStream).pre
        (.returned (.ready (.error (.os (.other 54))))) x') := by
  obtain ⟨h, h'⟩ := progresses_iff_noticed reset_reachable reset_reachable
  refine ⟨⟨h.2 fun n y hy => ?_, _, 2, rfl⟩, h'.2 fun n y hy => ?_, _, 2, rfl⟩
  · match n, hy.lt_of_done (k := 2) rfl with
    | 0, _ | 1, _ =>
      cases hy
      rfl
  · match n, hy.lt_of_done (k := 2) rfl with
    | 0, _ | 1, _ =>
      cases hy
      rfl

/-- The connection is gone: every ordinary write fails with `ENOTCONN`, and `SO_ERROR` reports
nothing. -/
def gone : Env := { (default : Env) with pollWrite := fun _ _ _ => .ready (.error (.os .ENOTCONN)) }

/-- A write that goes round between `Connected` and `FastOpenConnecting`. -/
def Handshake.Spinning {p : Profile} (x : Handshake p × Trace) : Prop :=
  (x.1 = ⟨.connected, .connected ⟨0, true⟩⟩ ∨ x.1 = ⟨.fastOpenConnecting, .connected ⟨0, true⟩⟩) ∧
    writeEvents x.2 = 0

theorem Handshake.spins {p : Profile} (hp : p.settles = true) (he : p.retry (.os .ENOTCONN) = true)
    (cx : Waker) (buf : Bytes) (x : Handshake p × Trace) (hx : Spinning x) :
    ∃ y, iterate gone cx buf x = .again y ∧ Spinning y := by
  obtain ⟨s, h⟩ := x
  have hd : deliver gone (s, h) = (s, h) := by
    simp only [deliver]
    split <;> simp [gone, default]
  rw [iterate, hd]
  obtain ⟨rfl | rfl, hw⟩ := hx
  · refine ⟨(⟨.fastOpenConnecting, .connected ⟨0, true⟩⟩,
      .pollWrite cx 0 buf (.ready (.error (.os .ENOTCONN))) :: h), ?_, .inr rfl, by simpa using hw⟩
    simp only [SysTcpStream.pollWriteBody, pollWriteBody, hp, if_true, LazyTcpStream.withConnected,
      firstWrite, TokioTcpStream.pollWrite, gone, he, Loop.Step.map_again]
  · refine ⟨(⟨.connected, .connected ⟨0, true⟩⟩,
      queried 0 (.ok none) (.pollWriteReady cx 0 (.ready (.ok ())) :: h)), rfl, .inl rfl, ?_⟩
    simpa [queried] using hw

/-- The first write of a stream made from a tokio stream that is gone never returns. -/
theorem Unix.spins_forever {S : Type} [SysTcpStream S] [SysConnect S] [UnixTcpStream S]
    [UnixConnect S] (hp : (UnixTcpStream.profile S).settles = true)
    (he : (UnixTcpStream.profile S).retry (.os .ENOTCONN) = true) :
    ¬OneWrite.Terminates (OneWrite.Reachable (S := S)) := by
  rintro ⟨⟨f, hf⟩, -⟩
  let w : OneWrite S := adoptedWrite gone S
  have hw : w.Reachable := adoptedWrite_reachable (by simp [gone, default]) (by simp [gone])
  have hs : Handshake.Spinning (Prod.map UnixTcpStream.view id w.pre) :=
    ⟨.inl (UnixConnect.ofTokio _), rfl⟩
  obtain ⟨y, hy, -, he⟩ :=
    Loop.diverges (fun x hx => Handshake.spins hp he ⟨1, 1⟩ [1, 2, 3] x hx) (f 0 + 1) hs
  rw [Loop.run_map (UnixTcpStream.iterate_view gone ⟨1, 1⟩ [1, 2, 3]), Loop.Step.map_eq_again] at hy
  obtain ⟨z, hz, rfl⟩ := hy
  have hle := hf w hw (f 0 + 1) z hz
  have hev : w.events z = 0 := by
    have : writeEvents z.2 = 0 := he
    rw [OneWrite.events, this, Nat.zero_sub]
  rw [hev] at hle
  omega

/-- Not every call of `poll_write` returns. -/
theorem not_terminates : ¬OneWrite.Terminates (OneWrite.Reachable (S := FreeBsd.TcpStream)) ∧
    ¬OneWrite.Terminates (OneWrite.Reachable (S := MacOs.TcpStream)) :=
  ⟨Unix.spins_forever rfl rfl, Unix.spins_forever rfl rfl⟩

end TokioTfo
