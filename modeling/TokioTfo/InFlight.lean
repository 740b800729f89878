/-
  Writes of FreeBSD and macOS while the handshake is in flight.

  After the opening call has returned a count, and until the handshake is completed,
  an ordinary write is answered with `EAGAIN`, `ENOTCONN` or `EPIPE`, and `SO_ERROR`
  holds no error.  `masked_iff_not_broken`: on FreeBSD a write that returns then
  returns `Pending`; on macOS this holds as long as no write is answered with `EPIPE`,
  which the comment in the source names and the code does not test for.
-/
import TokioTfo.Opening
import TokioTfo.Termination

namespace TokioTfo

/-! ## Answers in flight -/

/-- The answers to the calls on a socket whose handshake is in flight. -/
def Event.inFlight : Event → Bool
  | pollWrite _ _ _ .pending => true
  | pollWrite _ _ _ (.ready (.error (.os e))) => e == .ENOTCONN || e == .EPIPE
  | pollWrite .. | pollWriteReady _ _ (.ready (.error _)) => false
  | takeError _ r => r == .ok none
  | _ => true

/-- From the count of the opening call on, all answers are those of a handshake in flight. -/
def answersInFlight : Trace → Bool
  | [] => true
  | e :: h => (!counted h || e.inFlight) && answersInFlight h

/-- An ordinary write is answered with `EPIPE`. -/
def Event.breaks : Event → Bool
  | pollWrite _ _ _ (.ready (.error e)) => e == .os .EPIPE
  | _ => false

/-- A write after the count of the opening call was answered with `EPIPE`. -/
def brokenPipe : Trace → Bool
  | [] => false
  | e :: h => counted h && e.breaks || brokenPipe h

@[simp] theorem answersInFlight_cons (e : Event) (h : Trace) :
    answersInFlight (e :: h) = ((!counted h || e.inFlight) && answersInFlight h) := rfl

@[simp] theorem brokenPipe_cons (e : Event) (h : Trace) :
    brokenPipe (e :: h) = (counted h && e.breaks || brokenPipe h) := rfl

theorem answersInFlight_idle : IgnoresIdle answersInFlight := by
  intro e h he
  have : e.inFlight = true := by
    cases e <;> first | rfl | exact he.elim
  simp [this]

theorem brokenPipe_idle : IgnoresIdle brokenPipe := by
  intro e h he
  have : e.breaks = false := by
    cases e <;> first | rfl | exact he.elim
  simp [this]

/-! ## One iteration -/

/-- After the count of the opening call the stream is `Connected` or `FastOpenConnecting`, unless it
has lost its socket. -/
def FlightInv {p : Profile} (x : Handshake p × Trace) : Prop :=
  counted x.2 = true → answersInFlight x.2 = true →
    x.1.state = .connected ∨ x.1.state = .fastOpenConnecting ∨ x.1.stream = .empty

namespace Handshake
variable {p : Profile} {env : Env} {cx : Waker} {buf : Bytes}

theorem Iter.flightInv {x : Handshake p × Trace}
    {y : Loop.Step (Handshake p × Trace) (Outcome (Poll (Result ℕ)))} (h : Iter env cx buf x y)
    (hx : FlightInv x) : FlightInv y.state := by
  unfold FlightInv at hx ⊢
  cases h with
  | write hph =>
    intro hc hf
    rcases hph with rfl | ⟨rfl, hs⟩
    · simp_all [Event.counts]
    · exact .inl rfl
  | settle =>
    intro hc hf
    simp_all [Event.counts, Event.inFlight]
  | wait hph | waitError hph =>
    intro hc hf
    rcases hph with rfl | rfl <;> simp_all [Event.counts]
  | openCount | openProgress =>
    simp_all [counted_idle.wakeReader, counted_idle.registered, answersInFlight_idle.wakeReader,
      answersInFlight_idle.registered]
  | _ => simp_all [queried, notRegistered, Event.counts]

theorem flightInv_invariant : Invariant env (FlightInv (p := p)) := by
  refine .of_idle ?_ ?_ ?_ fun cx buf x hx => (body_iter env cx buf x).flightInv hx
  · intro s e h he
    simp only [FlightInv, counted_idle e h he, answersInFlight_idle e h he]
  · intro st socket addr reader reader' h hx
    simpa [FlightInv] using hx
  · intro st s h hx
    simpa [FlightInv, Event.counts, Event.inFlight] using hx

/-- No broken pipe was met, or they are retried. -/
def Spared (p : Profile) (h : Trace) : Prop := p.retry (.os .EPIPE) = true ∨ brokenPipe h = false

/-- Going round again: a broken pipe is met only by a module that retries it. -/
theorem Iter.inFlight_again {x y : Handshake p × Trace} (h : Iter env cx buf x (.again y))
    (hx : Spared p x.2) : counted y.2 = counted x.2 ∧ Spared p y.2 := by
  cases h with
  | @retry _ _ e _ he =>
    refine ⟨rfl, ?_⟩
    by_cases hb : e = .os .EPIPE
    · exact .inl (hb ▸ he)
    · exact hx.imp id fun hx => by simp [Event.breaks, hb, hx]
  | openProgress =>
    simpa [Spared, counted_idle.wakeReader, counted_idle.registered, brokenPipe_idle.wakeReader,
      brokenPipe_idle.registered, Event.counts, Event.breaks] using hx
  | _ => simpa [Spared, queried, Event.counts, Event.breaks] using hx

/-- Before the count no pipe is broken, not even in the iteration that returns it. -/
theorem Iter.spared_opening {x y : Handshake p × Trace} {r : Outcome (Poll (Result ℕ))}
    (h : Iter env cx buf x (.done r y)) (hc : counted x.2 = false) (hx : Spared p x.2) :
    Spared p y.2 := by
  cases h with
  | openCount =>
    simpa [Spared, brokenPipe_idle.wakeReader, brokenPipe_idle.registered, Event.breaks] using hx
  | _ => simpa [Spared, queried, notRegistered, Event.breaks, hc] using hx

/-- In flight an iteration that returns, returns `Pending`, unless it meets a broken pipe and the
module does not retry it. -/
theorem Iter.pending_iff (hp : p.settles = true) (hn : p.retry (.os .ENOTCONN) = true)
    {x y : Handshake p × Trace} {r : Outcome (Poll (Result ℕ))} (h : Iter env cx buf x (.done r y))
    (hx : FlightInv x) (hs : Spared p x.2) (hc : counted x.2 = true)
    (hf : answersInFlight y.2 = true) :
    (∀ a, r = .returned a → a = .pending) ↔ Spared p y.2 := by
  unfold FlightInv at hx
  cases h with
  | write hph =>
    simp only [answersInFlight_cons, Bool.and_eq_true] at hf
    rcases hph with rfl | ⟨rfl, hs'⟩
    · simpa using hx hc hf.2
    · rw [hp] at hs'
      cases hs'
  | settle => simp [hc, Event.inFlight] at hf
  | @failed _ _ e _ he =>
    have hb : e = .os .EPIPE := by
      rcases e with e | k
      · by_cases hne : e = .ENOTCONN
        · subst hne
          rw [hn] at he
          cases he
        · simp [hc, Event.inFlight, hne] at hf
          rw [hf.1]
      · simp [hc, Event.inFlight] at hf
    subst hb
    simp [Spared, he, hc, Event.breaks]
  | blocked | wait => simpa [Spared, Event.breaks] using hs
  | waitError => simp [hc, Event.inFlight] at hf
  | soError _ hr =>
    rcases hr with rfl | rfl <;> simp [queried, hc, Event.inFlight, Event.counts] at hf
  | unreachable => simpa using hs
  | sendCount | sendError =>
    simp only [answersInFlight_cons, Bool.and_eq_true] at hf
    simpa using hx hc hf.2.2
  | openCount =>
    simp only [answersInFlight_idle.wakeReader, answersInFlight_idle.registered,
      answersInFlight_cons, Bool.and_eq_true] at hf
    simpa using hx hc hf.2
  | openCountLost | openProgressLost =>
    simp only [notRegistered, answersInFlight_cons, Bool.and_eq_true] at hf
    simpa using hx hc hf.2.2.2.2.2
  | openError =>
    simp only [answersInFlight_cons, Bool.and_eq_true] at hf
    simpa using hx hc hf.2

end Handshake

/-! ## Calls and runs -/

/-- A write after the opening call has returned a count returns nothing but `Pending`. -/
def Masked {S : Type} (y : Lts.Taken (TfoStream S × Trace) Done) : Prop :=
  counted y.pre.2 = true → y.label.call.payload ≠ none →
    ∀ r, y.label.outcome = .returned r → r = .write .pending

section
variable {p : Profile} {env : Env}

/-- **A call in flight is masked** iff it meets no broken pipe, or the module retries these. -/
theorem Handshake.step_masked_iff (hp : p.settles = true) (hn : p.retry (.os .ENOTCONN) = true)
    {x x' : TfoStream (Handshake p) × Trace} {l : Done}
    (hx : FlightInv (x.1.inner, x.2)) (hs : Spared p x.2)
    (h : (system (Handshake p) env).step x l x') (hf : answersInFlight x'.2 = true) :
    Masked ⟨x, l, x'⟩ ↔ Spared p x'.2 := by
  obtain ⟨c, o⟩ := l
  obtain ⟨h, hperf, hx'⟩ := h
  have hret : Spared p x'.2 = Spared p h := by simp only [hx', Spared, brokenPipe_idle.ret]
  rw [hx', answersInFlight_idle.ret] at hf
  rw [hret]
  simp only [Masked]
  revert hf
  refine performs_post
    (I := fun y => FlightInv y ∧ counted y.2 = counted x.2 ∧ Spared p y.2)
    (Q := fun o y => answersInFlight y.2 = true → ((counted x.2 = true → c.payload ≠ none →
      ∀ r, o = .returned r → r = .write .pending) ↔ Spared p y.2))
    ?_ ?_ ?_ ?_ ⟨?_, rfl, by simpa [Spared, Event.breaks] using hs⟩ hperf
  · rintro st s t ⟨h₁, h₂, h₃⟩
    exact ⟨(@flightInv_invariant p env).event st s t h₁, h₂,
      by simpa [Spared, Event.breaks] using h₃⟩
  · rintro cx buf y z _ ⟨h₁, h₂, h₃⟩ hb
    obtain ⟨h₄, h₅⟩ := (Iter.of_body hb).inFlight_again h₃
    exact ⟨(@flightInv_invariant p env).again h₁ hb, h₄.trans h₂, h₅⟩
  · rintro cx buf y r z hc ⟨h₁, h₂, h₃⟩ hb hf
    by_cases ho : counted x.2 = true
    · rw [← (Iter.of_body hb).pending_iff hp hn h₁ h₃ (h₂.trans ho) hf]
      constructor
      · intro hr a ha
        subst ha
        simpa using hr ho (by simp [hc]) _ rfl
      · intro hr _ _ a ha
        cases r with
        | panicked q => cases ha
        | returned a' =>
          cases ha
          rw [hr a' rfl]
    · have ho' : counted x.2 = false := by simpa using ho
      exact ⟨fun _ => (Iter.of_body hb).spared_opening (h₂.trans ho') h₃, fun _ h => absurd h ho⟩
  · rintro y o z ⟨_, _, h₃⟩ ho _
    have hsp : Spared p z.2 := by
      rw [Spared, ho.ignored brokenPipe_idle]
      exact h₃
    exact ⟨fun _ => hsp, fun _ _ hc => absurd ho.payload hc⟩
  · exact (@flightInv_invariant p env).call _ _ _ hx

end

namespace Unix
variable {S : Type} [SysTcpStream S] [SysConnect S] [UnixTcpStream S] [UnixConnect S] {env : Env}

/-- **A run in flight is masked** iff it meets no broken pipe, or the module retries these. -/
theorem masked_iff (hp : (UnixTcpStream.profile S).settles = true)
    (hn : (UnixTcpStream.profile S).retry (.os .ENOTCONN) = true) {x₀ x : TfoStream S × Trace}
    {t : List (Lts.Taken (TfoStream S × Trace) Done)} (hx₀ : Client env x₀)
    (h : (system S env).Run x₀ t x) (hf : ∀ y ∈ t, answersInFlight y.post.2 = true) :
    (∀ y ∈ t, Masked y) ↔
      ∀ y ∈ t, Handshake.Spared (UnixTcpStream.profile S) y.post.2 := by
  have hset := (UnixConnect.opening hx₀).setup
  have h₀ : FlightInv (UnixTcpStream.view x₀.1.inner, x₀.2) := by
    intro hc
    rw [counted_idle.setup hset] at hc
    cases hc
  have hs₀ : Handshake.Spared (UnixTcpStream.profile S) x₀.2 := .inr (brokenPipe_idle.setup hset)
  refine h.forall_iff (I := fun y => FlightInv (UnixTcpStream.view y.1.inner, y.2) ∧
    Handshake.Spared (UnixTcpStream.profile S) y.2) ⟨h₀, hs₀⟩ ?_ ?_ hf
  · rintro y l y' ⟨h₁, _⟩ hs hsp
    exact ⟨Handshake.flightInv_invariant.step h₁ (UnixTcpStream.step_view env hs), hsp⟩
  · rintro y l y' ⟨h₁, h₂⟩ hs hf
    exact Handshake.step_masked_iff hp hn h₁ h₂ (UnixTcpStream.step_view env hs) hf

end Unix

/-- **Writes in flight.**  While the handshake is in flight every write that returns, returns
`Pending`: always on FreeBSD, and on macOS iff no write is answered with `EPIPE`. -/
theorem masked_iff_not_broken (env : Env) :
    (∀ (x₀ x : TfoStream FreeBsd.TcpStream × Trace)
      (t : List (Lts.Taken (TfoStream FreeBsd.TcpStream × Trace) Done)),
      Client env x₀ → (system FreeBsd.TcpStream env).Run x₀ t x →
        (∀ y ∈ t, answersInFlight y.post.2 = true) → ∀ y ∈ t, Masked y) ∧
    ∀ (x₀ x : TfoStream MacOs.TcpStream × Trace)
      (t : List (Lts.Taken (TfoStream MacOs.TcpStream × Trace) Done)),
      Client env x₀ → (system MacOs.TcpStream env).Run x₀ t x →
        (∀ y ∈ t, answersInFlight y.post.2 = true) →
          ((∀ y ∈ t, Masked y) ↔ ∀ y ∈ t, brokenPipe y.post.2 = false) := by
  refine ⟨fun x₀ x t hx₀ h hf => ?_, fun x₀ x t hx₀ h hf => ?_⟩
  · exact (Unix.masked_iff rfl rfl hx₀ h hf).2 fun _ _ => .inl rfl
  · rw [Unix.masked_iff rfl rfl hx₀ h hf]
    refine forall₂_congr fun y _ => ⟨fun hs => ?_, .inr⟩
    exact hs.resolve_left (by decide)

/-- The handshake is in flight: the first ordinary write fails with `e`, and the next would
block. -/
def handshaking (e : Errno) : Env :=
  { (default : Env) with
    writeEvent := fun h => !counted h
    pollWrite := fun h _ _ =>
      if retried FreeBsd.TcpStream.retry h = 0 then .ready (.error (.os e)) else .wouldBlock }

/-- The second write waits until the handshake is completed. -/
theorem masked_notConnected :
    (∀ y ∈ (runOf (handshaking .EPIPE) 4 [.pollWrite ⟨1, 1⟩ [1, 2], .pollWrite ⟨1, 1⟩ [3]]
      FreeBsd.client).1, Masked y) ∧
    ∀ y ∈ (runOf (handshaking .ENOTCONN) 4 [.pollWrite ⟨1, 1⟩ [1, 2], .pollWrite ⟨1, 1⟩ [3]]
      MacOs.client).1, Masked y :=
  ⟨(masked_iff_not_broken (handshaking .EPIPE)).1 _ _ _ (FreeBsd.client_connects rfl)
      (run_runOf _ 4 _ _) (by decide),
    ((masked_iff_not_broken (handshaking .ENOTCONN)).2 _ _ _ (MacOs.client_connects rfl rfl rfl)
      (run_runOf _ 4 _ _) (by decide)).2 (by decide)⟩

/-- What a module promises: writes in flight are masked. -/
def MasksInFlight (S : Type) [SysTcpStream S] [SysConnect S] : Prop :=
  ∀ (env : Env) (x₀ x : TfoStream S × Trace) (t : List (Lts.Taken (TfoStream S × Trace) Done)),
    Client env x₀ → (system S env).Run x₀ t x → (∀ y ∈ t, answersInFlight y.post.2 = true) →
      ∀ y ∈ t, Masked y

/-- On macOS the second write returns `EPIPE`. -/
theorem not_masksInFlight : ¬MasksInFlight MacOs.TcpStream := by
  intro h
  have hm := h (handshaking .EPIPE) _ _ _ (MacOs.client_connects rfl rfl rfl)
    (run_runOf _ 4 [.pollWrite ⟨1, 1⟩ [1, 2], .pollWrite ⟨1, 1⟩ [3]] MacOs.client) (by decide) _
    (List.mem_cons_self ..)
  exact absurd (hm rfl (by decide) (.write (.ready (.error (.os .EPIPE)))) rfl) (by decide)

end TokioTfo
