/-
  `stream.rs`, `listener.rs`: the public stream over a platform's stream, and its
  runs.

  A run is a sequence of completed calls; the state between calls is the stream
  with the history.  `runOf` computes runs.  A call of `poll_write` that has
  not returned yet is in one of the states that `Loop.run` of its body reaches
  (`MidWrite`).
-/
import TokioTfo.Sys.Basic
import TokioTfo.Lib.Transition

namespace TokioTfo

/-- `TfoStream`. -/
structure TfoStream (S : Type) where
  inner : S
  deriving DecidableEq

/-- A completed call. -/
structure Done where
  call : Call
  outcome : Outcome Ret
  deriving DecidableEq

/-- The system: the stream and the history; a step is one call. -/
def system (S : Type) [SysTcpStream S] (env : Env) : Lts (TfoStream S × Trace) Done where
  step x l x' := ∃ h, Performs env l.call (x.1.inner, .call l.call :: x.2) l.outcome (x'.1.inner, h)
    ∧ x'.2 = .ret l.call l.outcome :: h

section
variable {S : Type} [SysTcpStream S]

/-- A write that returns is a step. -/
theorem PollWriteReturns.step {env : Env} {c : Call} {cx : Waker} {buf : Bytes}
    (hc : c.payload = some (cx, buf)) {x : TfoStream S × Trace} {r : Outcome (Poll (Result ℕ))}
    {z : S × Trace} (h : PollWriteReturns env cx buf (x.1.inner, .call c :: x.2) r z) :
    (system S env).step x ⟨c, r.map .write⟩ (⟨z.1⟩, .ret c (r.map .write) :: z.2) := by
  cases c with
  | pollWrite | pollWriteVectored =>
    cases hc
    exact ⟨z.2, ⟨r, h, rfl⟩, rfl⟩
  | _ => cases hc

theorem Performs.unique {env : Env} {c : Call} {x x₁ x₂ : S × Trace} {o₁ o₂ : Outcome Ret}
    (h₁ : Performs env c x o₁ x₁) (h₂ : Performs env c x o₂ x₂) : o₁ = o₂ ∧ x₁ = x₂ := by
  cases c with
  | pollWrite cx buf | pollWriteVectored cx bufs =>
    obtain ⟨r₁, hr₁, rfl⟩ := h₁
    obtain ⟨r₂, hr₂, rfl⟩ := h₂
    obtain ⟨rfl, rfl⟩ := hr₁.unique hr₂
    exact ⟨rfl, rfl⟩
  | _ =>
    obtain ⟨rfl, rfl⟩ := h₁
    obtain ⟨rfl, rfl⟩ := h₂
    exact ⟨rfl, rfl⟩

/-- **The calls determine the run.** -/
theorem run_unique {env : Env} {x₀ x₁ x₂ : TfoStream S × Trace}
    {t₁ t₂ : List (Lts.Taken (TfoStream S × Trace) Done)} (h₁ : (system S env).Run x₀ t₁ x₁)
    (h₂ : (system S env).Run x₀ t₂ x₂)
    (h : t₁.map (fun y => y.label.call) = t₂.map fun y => y.label.call) : t₁ = t₂ ∧ x₁ = x₂ := by
  refine Lts.Run.unique (ι := Call) ?_ h₁ h₂ h
  rintro x ⟨c, o₁⟩ y₁ ⟨_, o₂⟩ y₂ ⟨h₁, hp₁, hy₁⟩ ⟨h₂, hp₂, hy₂⟩ rfl
  obtain ⟨rfl, he⟩ := hp₁.unique hp₂
  obtain ⟨hs, rfl⟩ := Prod.mk.inj he
  obtain ⟨⟨s₁⟩, t₁⟩ := y₁
  obtain ⟨⟨s₂⟩, t₂⟩ := y₂
  cases hs
  cases hy₁
  cases hy₂
  exact ⟨rfl, rfl⟩

/-- The call `c` from `x`, run for `fuel` iterations at most. -/
def perform (env : Env) (fuel : ℕ) : Call → S × Trace → Option (Outcome Ret × S × Trace)
  | .pollRead cx room, x =>
    let r := SysTcpStream.pollRead env cx room x
    some (r.1.map .read, r.2)
  | .pollWrite cx buf, x => match pollWrite env cx buf fuel x with
    | .done r x' => some (r.map .write, x')
    | .again _ => none
  | .pollWriteVectored cx bufs, x => match pollWrite env cx (firstNonEmpty bufs) fuel x with
    | .done r x' => some (r.map .write, x')
    | .again _ => none
  | .pollFlush _, x =>
    let r := SysTcpStream.pollFlush env x.1 x.2
    some (.returned (.unit r.1), x.1, r.2)
  | .pollShutdown _, x =>
    let r := SysTcpStream.pollShutdown env x.1 x.2
    some (.returned (.unit r.1), x.1, r.2)
  | .peerAddr, x =>
    let r := SysTcpStream.peerAddr env x.1 x.2
    some (r.1.map .addr, x.1, r.2)
  | .asRawFd, x => some ((SysTcpStream.asRawFd x.1).map .fd, x)
  | .socketApi op, x =>
    let r := SysTcpStream.socketApi env op x.1 x.2
    some (r.1.map .value, x.1, r.2)

theorem perform_sound {env : Env} {fuel : ℕ} {c : Call} {x x' : S × Trace} {o : Outcome Ret}
    (h : perform env fuel c x = some (o, x')) : Performs env c x o x' := by
  cases c with
  | pollWrite cx buf | pollWriteVectored cx bufs =>
    simp only [perform] at h
    split at h
    · rename_i hr
      cases h
      exact ⟨_, ⟨fuel, hr⟩, rfl⟩
    · cases h
  | _ => cases h; exact ⟨rfl, rfl⟩

/-- The calls `cs` in order, after the steps `t`. -/
def performAll (env : Env) (fuel : ℕ) : List Call →
    List (Lts.Taken (TfoStream S × Trace) Done) × TfoStream S × Trace →
    Option (List (Lts.Taken (TfoStream S × Trace) Done) × TfoStream S × Trace)
  | [], x => some x
  | c :: cs, (t, x) => match perform env fuel c (x.1.inner, .call c :: x.2) with
    | some (o, s, h) =>
      performAll env fuel cs (⟨x, ⟨c, o⟩, (⟨s⟩, .ret c o :: h)⟩ :: t, (⟨s⟩, .ret c o :: h))
    | none => none

/-- What `performAll` computes is a run. -/
theorem performAll_run {env : Env} {fuel : ℕ} {cs : List Call} {x₀ : TfoStream S × Trace}
    {y z : List (Lts.Taken (TfoStream S × Trace) Done) × TfoStream S × Trace}
    (h : performAll env fuel cs y = some z) (hy : (system S env).Run x₀ y.1 y.2) :
    (system S env).Run x₀ z.1 z.2 := by
  induction cs generalizing y with
  | nil => cases h; exact hy
  | cons c cs ih =>
    simp only [performAll] at h
    split at h
    · rename_i o s t hp
      exact ih h (.snoc hy ⟨t, perform_sound hp, rfl⟩)
    · cases h

/-- The run of the calls `cs` from `x₀`: its steps, newest first, and its last state. -/
def runOf (env : Env) (fuel : ℕ) (cs : List Call) (x₀ : TfoStream S × Trace) :
    List (Lts.Taken (TfoStream S × Trace) Done) × TfoStream S × Trace :=
  (performAll env fuel cs ([], x₀)).getD ([], x₀)

theorem run_runOf (env : Env) (fuel : ℕ) (cs : List Call) (x₀ : TfoStream S × Trace) :
    (system S env).Run x₀ (runOf env fuel cs x₀).1 (runOf env fuel cs x₀).2 := by
  unfold runOf
  cases h : performAll env fuel cs ([], x₀) with
  | none => exact .nil
  | some z => exact performAll_run h .nil

end

/-- The write `c` from `x` has gone round the loop of `poll_write` `n` times and is in the state
`y`. -/
def MidWrite {S : Type} [SysTcpStream S] (env : Env) (c : Call) (x : TfoStream S × Trace) (n : ℕ)
    (y : S × Trace) : Prop :=
  ∃ cx buf, c.payload = some (cx, buf) ∧
    pollWrite env cx buf n (x.1.inner, .call c :: x.2) = .again y

/-- The states that are reached from `x₀`: between two calls, and between two iterations of a
write. -/
inductive Reached {S : Type} [SysTcpStream S] (env : Env) (x₀ : TfoStream S × Trace) :
    S × Trace → Prop
  | between {t : List (Lts.Taken (TfoStream S × Trace) Done)} {x : TfoStream S × Trace} :
      (system S env).Run x₀ t x → Reached env x₀ (x.1.inner, x.2)
  | within {t : List (Lts.Taken (TfoStream S × Trace) Done)} {x : TfoStream S × Trace} {c : Call}
      {n : ℕ} {y : S × Trace} :
      (system S env).Run x₀ t x → MidWrite env c x n y → Reached env x₀ y

/-- The last state of the run of the calls `cs`. -/
def stateAfter {S : Type} [SysTcpStream S] (env : Env) (fuel : ℕ) (cs : List Call)
    (x₀ : TfoStream S × Trace) : S × Trace :=
  ((runOf env fuel cs x₀).2.1.inner, (runOf env fuel cs x₀).2.2)

theorem reached_stateAfter {S : Type} [SysTcpStream S] (env : Env) (fuel : ℕ) (cs : List Call)
    (x₀ : TfoStream S × Trace) : Reached env x₀ (stateAfter env fuel cs x₀) :=
  .between (run_runOf env fuel cs x₀)

/-- One move of a stream: an iteration of a write, or a call that is not a write. -/
inductive Moves {S : Type} [SysTcpStream S] (env : Env) : S × Trace → S × Trace → Prop
  | iterate {cx : Waker} {buf : Bytes} {x : S × Trace} :
      Moves env x (iterate env cx buf x).state
  | call {c : Call} {x x' : S × Trace} {o : Outcome Ret} : c.payload = none →
      Performs env c x o x' → Moves env x x'

/-- `From<TokioTcpStream> for TfoStream`, with the platform's `From`. -/
def TfoStream.ofTokio {S : Type} (sysFrom : TokioTcpStream → S) (s : TokioTcpStream) :
    TfoStream S := ⟨sysFrom s⟩

/-- `TfoListener::poll_accept`. -/
def TfoListener.pollAccept {S : Type} (sysFrom : TokioTcpStream → S) (env : Env) (h : Trace) :
    Outcome (Poll (Result (TfoStream S × SocketAddr))) :=
  match env.pollAccept h with
  | .pending => .returned .pending
  | .ready (.error e) => e.outcome.map .ready
  | .ready (.ok (fd, writable, peer)) =>
    .returned (.ready (.ok (.ofTokio sysFrom ⟨fd, writable⟩, peer)))

end TokioTfo
