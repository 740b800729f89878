/-
  What becomes of the failures that the kernel and tokio answer.

  A failure of one of the calls that a method makes is answered once; the method
  returns it, or takes it for something else.  `failures_returned`: over every run the
  errors that the calls of the stream return are, in order, the failures answered, but
  for those that `poll_write` is meant to wait for, those of a first write that are
  retried and, on Windows, the error that `SO_ERROR` holds and an update of the connect
  context that would block.
-/
import TokioTfo.Agreement
import TokioTfo.Windows.Iteration

namespace TokioTfo

/-! ## The errors that are returned -/

/-- The error that a result holds. -/
def Ret.err : Ret → Option Error
  | read (.ready (.error e)) | write (.ready (.error e)) | unit (.ready (.error e))
  | addr (.error e) | value (.error e) => some e
  | _ => none

/-- The error that a call returns. -/
def Outcome.err : Outcome Ret → Option Error
  | returned r => r.err
  | panicked _ => none

@[simp] theorem Outcome.err_map_panicked {α : Type} (f : α → Ret) (q : Panic) :
    ((panicked q).map f).err = none := rfl

/-- The errors that the calls of a run return, newest first. -/
def errorsReturned {S : Type} (t : List (Lts.Taken (TfoStream S × Trace) Done)) : List Error :=
  t.filterMap fun y => y.label.outcome.err

/-! ## The failures that are answered -/

/-- Whether an error says that there is nothing to be had yet. -/
def Errno.blocks (e : Errno) : Bool := (Error.os e).kind == .wouldBlock

/-- The last call is a `ConnectEx` that has succeeded at once. -/
def connectedAtOnce : Trace → Bool
  | .connectEx _ _ _ (.ok _) :: _ => true
  | _ => false

/-- The failure that the answer to a call is, after the history `h`.  A write whose error is
`masked` is retried, and what `SO_ERROR` holds is looked at if `pending`. -/
def Event.failure (masked : Error → Trace → Bool) (pending : Bool) (h : Trace) :
    Event → Option Error
  | sendto _ _ _ _ (.error e) => if e = .EINPROGRESS then none else some (.os e)
  | send _ _ (.error e) => if e = .EINPROGRESS ∨ e.blocks then none else some (.os e)
  | connectEx _ _ _ (.error e) => if e = .WSA_IO_PENDING then none else some (.os e)
  | getOverlappedResult _ _ (.error e) =>
    if e = .WSA_IO_INCOMPLETE ∨ e.blocks then none else some (.os e)
  | setUpdateConnectContext _ (.error e) =>
    if e.blocks ∧ connectedAtOnce h = false then none else some (.os e)
  | takeError _ (.ok (some e)) => if pending then some e else none
  | pollWrite _ _ _ (.ready (.error e)) => if masked e h then none else some e
  | takeError _ (.error e) | fromStd _ (.error (.failed e)) | pollWriteReady _ _ (.ready (.error e))
  | pollRead _ _ (.ready (.error e)) | pollFlush _ (.ready (.error e))
  | pollShutdown _ (.ready (.error e)) | peerAddr _ (.error e) | socketApi _ _ (.error e) => some e
  | _ => none

/-- The failures answered, newest first. -/
def failures (masked : Error → Trace → Bool) (pending : Bool) : Trace → List Error
  | [] => []
  | e :: h => (e.failure masked pending h).toList ++ failures masked pending h

/-- The errors of a first write that a Unix module retries. -/
def Profile.masked (p : Profile) (e : Error) (h : Trace) : Bool :=
  p.settles && p.retry e && !wroteOnce h

section
variable {masked : Error → Trace → Bool} {pending : Bool}

theorem failures_cons (e : Event) (h : Trace) : failures masked pending (e :: h) =
    (e.failure masked pending h).toList ++ failures masked pending h := rfl

theorem failures_wakeReader (reader : Option Waker) (cx : Waker) (h : Trace) :
    failures masked pending (wakeReader reader cx h) = failures masked pending h := by
  rcases wakeReader_cases reader cx h with hw | ⟨w, hw⟩ <;> rw [hw]
  rfl

theorem failures_deliverRead (env : Env) (h : Trace) :
    failures masked pending (deliverRead env h) = failures masked pending h := by
  rcases deliverRead_cases env h with hd | hd <;> rw [hd]
  rfl

theorem failures_setup {h : Trace} (hh : ∀ e ∈ h, e.Setup) : failures masked pending h = [] := by
  induction h with
  | nil => rfl
  | cons e h ih =>
    have he : e.failure masked pending h = none := by
      have := hh e (List.mem_cons_self ..)
      cases e with
      | fromStd fd r => cases r <;> first | rfl | exact this.elim
      | _ => first | rfl | exact this.elim
    rw [failures_cons, he, ih fun e he => hh e (List.mem_cons_of_mem _ he)]
    rfl

/-- A step of the loop adds the failure that it returns, if it returns one. -/
def Conveys (masked : Error → Trace → Bool) (pending : Bool) {σ : Type} (h : Trace) :
    Loop.Step (σ × Trace) (Outcome (Poll (Result ℕ))) → Prop
  | .again z => failures masked pending z.2 = failures masked pending h
  | .done r z => failures masked pending z.2 =
      (r.map Ret.write).err.toList ++ failures masked pending h

end

theorem Handshake.Iter.conveys {p : Profile} {env : Env} {cx : Waker} {buf : Bytes}
    {x : Handshake p × Trace} {y : Loop.Step (Handshake p × Trace) (Outcome (Poll (Result ℕ)))}
    (h : Iter env cx buf x y) (hx : p.settles = true → Settled x) :
    Conveys p.masked true x.2 y := by
  cases h with
  | @write ph s s' h r hph =>
    have hm : ∀ e, p.masked e h = false := by
      intro e
      cases hs : p.settles with
      | false => simp [Profile.masked, hs]
      | true =>
        rcases hph with rfl | ⟨-, hs'⟩
        · simp [Profile.masked, (hx hs).1 rfl]
        · rw [hs] at hs'
          cases hs'
    rcases r with (e | n) | _ <;>
      simp [Conveys, failures_cons, Event.failure, Outcome.err, Ret.err, hm]
  | failed hs hr =>
    simp [Conveys, failures_cons, Event.failure, Outcome.err, Ret.err, Profile.masked, hr]
  | @retry s h e hs hr =>
    have ho : wroteOnce h = false := by simpa [Settled] using hx hs
    simp [Conveys, failures_cons, Event.failure, Profile.masked, hs, hr, ho]
  | soError _ hr =>
    rcases hr with rfl | rfl <;>
      simp [Conveys, queried, failures_cons, Event.failure, Outcome.err, Ret.err]
  | openCount | openProgress =>
    simp [Conveys, failures_wakeReader, registered, failures_cons, Event.failure, Outcome.err,
      Ret.err]
  | unreachable => rfl
  | @openCountLost _ _ _ _ _ u | @openProgressLost _ _ _ _ u =>
    cases u <;> rfl
  | _ =>
    simp_all [Conveys, queried, failures_cons, Event.failure, Outcome.err, Ret.err, Errno.blocks]

theorem Windows.Iter.conveys {env : Env} {cx : Waker} {buf : Bytes} {x : TcpStream × Trace}
    {y : Loop.Step (TcpStream × Trace) (Outcome (Poll (Result ℕ)))} (h : Iter env cx buf x y) :
    Conveys (fun _ _ => false) false x.2 y := by
  cases h with
  | @write _ _ _ r =>
    rcases r with (e | n) | _ <;>
      simp [Conveys, failures_cons, Event.failure, Outcome.err, Ret.err]
  | openCount | openPending =>
    simp [Conveys, failures_wakeReader, registered, failures_cons, Event.failure, Outcome.err,
      Ret.err]
  | @complete _ _ _ _ o =>
    cases o <;> simp [Conveys, queried, failures_cons, Event.failure, Outcome.err, Ret.err]
  | incomplete _ he =>
    simp_all [Conveys, failures_cons, Event.failure, Errno.blocks]
  | unreachable | noConnectEx => rfl
  | assertFails => rfl
  | @openCountLost _ _ _ _ _ u | @openPendingLost _ _ _ _ u =>
    cases u <;> rfl
  | _ =>
    simp_all [Conveys, queried, failures_cons, Event.failure, Outcome.err, Ret.err, Errno.blocks,
      connectedAtOnce]

/-! ## The other calls -/

section
variable {masked : Error → Trace → Bool} {pending : Bool} {σ : Type} {env : Env}

/-- What a getter or setter of the socket adds. -/
theorem conveys_callSocketApi (op : SocketApi) (x : LazyTcpStream σ) (h : Trace) :
    failures masked pending (x.callSocketApi env op h).2 =
      ((x.callSocketApi env op h).1.map Ret.value).err.toList ++ failures masked pending h := by
  unfold LazyTcpStream.callSocketApi
  cases x.asRawFd with
  | panicked q => rfl
  | returned fd =>
    simp only [socketApi]
    rcases env.socketApi (.handle (.fromRawFd fd) :: h) fd op with e | v
    · rfl
    · rcases v with _ | _ | _ | _ | _ | _ <;> rfl

theorem conveys_socketApi {p : Profile} (op : SocketApi) (x : Handshake p) (h : Trace) :
    failures masked pending (x.socketApi env op h).2 =
      ((x.socketApi env op h).1.map Ret.value).err.toList ++ failures masked pending h := by
  unfold Handshake.socketApi
  split
  · exact conveys_callSocketApi op x h
  · cases x.asRawFd with
    | panicked q => rfl
    | returned fd =>
      simp only [socketApi]
      rcases env.socketApi h fd op with e | v <;> rfl

variable [SysTcpStream (LazyTcpStream σ)] [LazyModule σ]

/-- A call that is not a write adds the failure that it returns. -/
theorem conveys_other
    (hapi : ∀ op (x : LazyTcpStream σ) h,
      failures masked pending (SysTcpStream.socketApi env op x h).2 =
        ((SysTcpStream.socketApi env op x h).1.map Ret.value).err.toList ++
          failures masked pending h)
    {c : Call} (hc : c.payload = none) {x y : LazyTcpStream σ × Trace} {o : Outcome Ret}
    (h : Performs env c x o y) :
    failures masked pending y.2 = o.err.toList ++ failures masked pending x.2 := by
  cases c with
  | pollWrite | pollWriteVectored => cases hc
  | pollRead cx room =>
    obtain ⟨rfl, rfl⟩ := h
    rw [LazyModule.pollRead_eq]
    obtain ⟨⟨st, s | _ | _⟩, t⟩ := x
    · simp only [LazyTcpStream.pollRead, TokioTcpStream.pollRead, failures_cons,
        failures_deliverRead]
      rcases env.pollRead (deliverRead env t) s.fd room with (e | n) | _ <;> rfl
    · exact failures_wakeReader _ _ _
    · rfl
  | pollFlush cx =>
    obtain ⟨rfl, rfl⟩ := h
    rw [LazyModule.pollFlush_eq]
    obtain ⟨⟨st, s | _ | _⟩, t⟩ := x
    · simp only [LazyTcpStream.pollFlush, TokioTcpStream.pollFlush]
      rcases env.pollFlush t s.fd with (e | n) | _ <;> rfl
    · rfl
    · rfl
  | pollShutdown cx =>
    obtain ⟨rfl, rfl⟩ := h
    rw [LazyModule.pollShutdown_eq]
    obtain ⟨⟨st, s | _ | _⟩, t⟩ := x
    · simp only [LazyTcpStream.pollShutdown, TokioTcpStream.pollShutdown]
      rcases env.pollShutdown t s.fd with (e | n) | _ <;> rfl
    · rfl
    · rfl
  | peerAddr =>
    obtain ⟨rfl, rfl⟩ := h
    rw [LazyModule.peerAddr_eq]
    obtain ⟨⟨st, s | _ | _⟩, t⟩ := x
    · simp only [LazyTcpStream.peerAddr, TokioTcpStream.peerAddr]
      rcases env.peerAddr t s.fd with e | n <;> rfl
    · rfl
    · rfl
  | asRawFd =>
    obtain ⟨rfl, rfl⟩ := h
    rw [LazyModule.asRawFd_eq]
    obtain ⟨⟨st, s | _ | _⟩, t⟩ := y <;> rfl
  | socketApi op =>
    obtain ⟨rfl, rfl⟩ := h
    exact hapi op x.1 x.2

/-- **A call adds the failure that it returns**, if every iteration of a write does. -/
theorem step_conveys {I : LazyTcpStream σ × Trace → Prop} (hI : Invariant env I)
    (hbody : ∀ cx buf x, I x → Conveys masked pending x.2 (SysTcpStream.pollWriteBody env cx buf x))
    (hapi : ∀ op (x : LazyTcpStream σ) h,
      failures masked pending (SysTcpStream.socketApi env op x h).2 =
        ((SysTcpStream.socketApi env op x h).1.map Ret.value).err.toList ++
          failures masked pending h)
    {x y : TfoStream (LazyTcpStream σ) × Trace} {l : Done} (hx : I (x.1.inner, x.2))
    (h : (system (LazyTcpStream σ) env).step x l y) :
    failures masked pending y.2 = l.outcome.err.toList ++ failures masked pending x.2 := by
  obtain ⟨t, hp, hy⟩ := h
  rw [hy]
  show failures masked pending t = _
  cases hc : l.call.payload with
  | none => exact conveys_other hapi hc hp
  | some a =>
    refine performs_post
      (I := fun z => I z ∧ failures masked pending z.2 = failures masked pending x.2)
      (Q := fun o z => failures masked pending z.2 = o.err.toList ++ failures masked pending x.2)
      ?_ ?_ ?_ ?_ ⟨hI.call _ _ l.call hx, rfl⟩ hp
    · rintro st s h ⟨h₁, h₂⟩
      exact ⟨hI.event _ _ _ h₁, h₂⟩
    · rintro cx buf z w - ⟨h₁, h₂⟩ hb
      have := hbody cx buf z h₁
      rw [hb] at this
      exact ⟨hI.again h₁ hb, Eq.trans this h₂⟩
    · rintro cx buf z r w - ⟨h₁, h₂⟩ hb
      have := hbody cx buf z h₁
      rw [hb] at this
      rw [← h₂]
      exact this
    · intro z o w _ ho
      rw [ho.payload] at hc
      cases hc

/-- **A run returns the failures answered.** -/
theorem run_conveys {I : LazyTcpStream σ × Trace → Prop} (hI : Invariant env I)
    (hbody : ∀ cx buf x, I x → Conveys masked pending x.2 (SysTcpStream.pollWriteBody env cx buf x))
    (hapi : ∀ op (x : LazyTcpStream σ) h,
      failures masked pending (SysTcpStream.socketApi env op x h).2 =
        ((SysTcpStream.socketApi env op x h).1.map Ret.value).err.toList ++
          failures masked pending h)
    {x₀ x : TfoStream (LazyTcpStream σ) × Trace}
    {t : List (Lts.Taken (TfoStream (LazyTcpStream σ) × Trace) Done)}
    (hx₀ : I (x₀.1.inner, x₀.2)) (h₀ : failures masked pending x₀.2 = [])
    (h : (system (LazyTcpStream σ) env).Run x₀ t x) :
    failures masked pending x.2 = errorsReturned t := by
  induction h with
  | nil => exact h₀
  | @snoc t x x' l hr hs ih =>
    have hx : I (x.1.inner, x.2) := hI.reached hx₀ (.between hr)
    rw [step_conveys hI hbody hapi hx hs, ih]
    cases ho : l.outcome.err <;> simp [errorsReturned, ho]

end

/-! ## Runs -/

/-- What a module promises: the calls of a run return the failures answered, in order. -/
def ReturnsFailures (S : Type) [SysTcpStream S] [SysConnect S] (masked : Error → Trace → Bool)
    (pending : Bool) : Prop :=
  ∀ (env : Env) (x₀ x : TfoStream S × Trace) (t : List (Lts.Taken (TfoStream S × Trace) Done)),
    Started env x₀ → (system S env).Run x₀ t x → errorsReturned t = failures masked pending x.2

theorem failures_started {S : Type} [SysTcpStream S] [SysConnect S] [UnixTcpStream S]
    [UnixConnect S] {masked : Error → Trace → Bool} {pending : Bool} {env : Env}
    {x : TfoStream S × Trace} (hx : Started env x) : failures masked pending x.2 = [] := by
  rcases hx with hc | ⟨s, rfl⟩
  · exact failures_setup (UnixConnect.opening hc).setup
  · rfl

/-- The invariant by which a masked error is told from one that is returned. -/
theorem Handshake.masking_invariant {env : Env} (p : Profile) :
    Invariant env fun y : Handshake p × Trace => p.settles = true → Settled y := by
  cases hp : p.settles with
  | false => exact .of_idle (by simp [IgnoresIdle]) (by simp) (by simp) (by simp)
  | true => simpa using settled_invariant hp

theorem Unix.returnsFailures {S : Type} [SysTcpStream S] [SysConnect S] [UnixTcpStream S]
    [UnixConnect S] : ReturnsFailures S (UnixTcpStream.profile S).masked true := by
  intro env x₀ x t hx₀ h
  have h₀ : failures (UnixTcpStream.profile S).masked true x₀.2 = [] := failures_started hx₀
  have hr := run_conveys (Handshake.masking_invariant _)
    (fun cx buf y hy => (Handshake.body_iter env cx buf y).conveys hy)
    (fun op x h => conveys_socketApi op x h) (fun _ => Unix.settled_started hx₀) h₀
    (UnixTcpStream.run_view env h)
  rw [show failures _ _ x.2 = _ from hr]
  simp [errorsReturned, List.filterMap_map, Function.comp_def, Lts.Taken.map]

/-- **Failures are returned**, each once and in order. -/
theorem failures_returned :
    ReturnsFailures Linux.TcpStream (fun _ _ => false) true ∧
    ReturnsFailures FreeBsd.TcpStream
      (fun e h => FreeBsd.TcpStream.retry e && !wroteOnce h) true ∧
    ReturnsFailures MacOs.TcpStream (fun e h => MacOs.TcpStream.retry e && !wroteOnce h) true ∧
    ReturnsFailures Windows.TcpStream (fun _ _ => false) false := by
  refine ⟨?_, ?_, ?_, fun env x₀ x t hx₀ h => ?_⟩
  · exact Unix.returnsFailures (S := Linux.TcpStream)
  · exact Unix.returnsFailures (S := FreeBsd.TcpStream)
  · exact Unix.returnsFailures (S := MacOs.TcpStream)
  · have h₀ : failures (fun _ _ => false) false x₀.2 = [] := by
      rcases hx₀ with hc | ⟨s, rfl⟩
      · obtain ⟨-, -, -, hh⟩ := Windows.opening hc
        exact failures_setup hh
      · rfl
    exact (run_conveys (I := fun _ => True)
      (.of_idle (by simp [IgnoresIdle]) (by simp) (by simp) (by simp))
      (fun cx buf y _ => (Windows.body_iter env cx buf y).conveys)
      (fun op x h => conveys_callSocketApi op x h) trivial h₀ h).symm

end TokioTfo
