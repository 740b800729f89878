/-
  The errors of a connect that is in progress, which `poll_write` reads from
  `SO_ERROR`.

  * `soErrors_reported`: on the Unix modules every error that a query finds is
    returned by the call that made the query, and the handshake is not completed
    by it.  On Windows, where only a failure of the query itself is returned, this
    holds on the runs on which no query finds an error, and on no others.
  * `failed_iff_not_cleared`: reading `SO_ERROR` clears it, and nothing else
    remembers the error, so once a query has reported one (or failed itself) the
    connect stays failed iff no later query finds `SO_ERROR` clear.
-/
import TokioTfo.Starts
import TokioTfo.Handshake.Iteration
import TokioTfo.Windows.Iteration

namespace TokioTfo

/-! ## What the queries of `SO_ERROR` find -/

/-- The pending error that a query removes from the socket. -/
def Event.removedError : Event → Option Error
  | takeError _ (.ok (some e)) => some e
  | _ => none

/-- The error that a query reports: the pending one, or a failure of the query itself. -/
def Event.soReport : Event → Option Error
  | takeError _ (.ok (some e)) | takeError _ (.error e) => some e
  | _ => none

/-- The errors removed from `SO_ERROR`, newest first. -/
def removedErrors (h : Trace) : List Error := h.filterMap Event.removedError

/-- The errors reported by the queries of `SO_ERROR`, newest first. -/
def soReports (h : Trace) : List Error := h.filterMap Event.soReport

/-- An ordinary write was submitted after a query had reported an error. -/
def wroteAfterError : Trace → Bool
  | .pollWrite .. :: h => !(soReports h).isEmpty || wroteAfterError h
  | _ :: h => wroteAfterError h
  | [] => false

/-- A query found no error after an earlier one had reported one. -/
def clearedAfterError : Trace → Bool
  | .takeError _ (.ok none) :: h => !(soReports h).isEmpty || clearedAfterError h
  | _ :: h => clearedAfterError h
  | [] => false

@[simp] theorem soReports_cons (e : Event) (h : Trace) :
    soReports (e :: h) = match e.soReport with
      | some err => err :: soReports h
      | none => soReports h := by
  cases he : e.soReport <;> simp [soReports, he]

@[simp] theorem removedErrors_cons (e : Event) (h : Trace) :
    removedErrors (e :: h) = match e.removedError with
      | some err => err :: removedErrors h
      | none => removedErrors h := by
  cases he : e.removedError <;> simp [removedErrors, he]

theorem soReports_idle : IgnoresIdle soReports := by
  intro e h he
  cases e <;> first | rfl | exact he.elim

theorem removedErrors_idle : IgnoresIdle removedErrors := by
  intro e h he
  cases e <;> first | rfl | exact he.elim

theorem wroteAfterError_idle : IgnoresIdle wroteAfterError := by
  intro e h he
  cases e <;> first | rfl | exact he.elim

theorem clearedAfterError_idle : IgnoresIdle clearedAfterError := by
  intro e h he
  cases e <;> first | rfl | exact he.elim

/-- Nothing comes after an error if there was none. -/
theorem wroteAfterError_of_none {h : Trace} (hh : soReports h = []) :
    wroteAfterError h = false := by
  induction h with
  | nil => rfl
  | cons e h ih =>
    cases he : e.soReport with
    | some err => simp [he] at hh
    | none =>
      simp only [soReports_cons, he] at hh
      cases e <;> simp [wroteAfterError, ih hh, hh]

theorem clearedAfterError_of_none {h : Trace} (hh : soReports h = []) :
    clearedAfterError h = false := by
  induction h with
  | nil => rfl
  | cons e h ih =>
    cases he : e.soReport with
    | some err => simp [he] at hh
    | none =>
      simp only [soReports_cons, he] at hh
      unfold clearedAfterError
      split <;> simp_all

/-! ## Every error is returned -/

section
variable {S : Type} (found : Trace → List Error) (completed : S → Prop)

/-- The call has returned the error it has `found`, with the handshake not completed. -/
def ReturnsFound (y : Lts.Taken (TfoStream S × Trace) Done) : Prop :=
  found y.post.2 = found y.pre.2 ∨
    ∃ e, found y.post.2 = e :: found y.pre.2 ∧
      y.label.outcome = .returned (.write (.ready (.error e))) ∧ ¬completed y.post.1.inner

/-- The errors returned by the calls that have `found` one, newest first. -/
def returnedErrors (t : List (Lts.Taken (TfoStream S × Trace) Done)) : List Error :=
  t.filterMap fun y => if found y.post.2 = found y.pre.2 then none else
    match y.label.outcome with
    | .returned (.write (.ready (.error e))) => some e
    | _ => none

/-- The calls of a run return what their queries of `SO_ERROR` report, and in particular every
error that they remove. -/
structure ReportsSoErrors (t : List (Lts.Taken (TfoStream S × Trace) Done))
    (x : TfoStream S × Trace) : Prop where
  reports : ∀ y ∈ t, ReturnsFound soReports completed y
  removed : ∀ y ∈ t, ReturnsFound removedErrors completed y
  allReports : soReports x.2 = returnedErrors soReports t
  allRemoved : removedErrors x.2 = returnedErrors removedErrors t

variable {found completed}

/-- If every call returns what it finds, then the errors found are the errors returned. -/
theorem found_eq_returned [SysTcpStream S] {env : Env} {x₀ x : TfoStream S × Trace}
    {t : List (Lts.Taken (TfoStream S × Trace) Done)} (h₀ : found x₀.2 = [])
    (h : (system S env).Run x₀ t x) (ht : ∀ y ∈ t, ReturnsFound found completed y) :
    found x.2 = returnedErrors found t := by
  induction h with
  | nil => exact h₀
  | @snoc t s s' l hr hs ih =>
    have ih := ih fun y hy => ht y (List.mem_cons_of_mem _ hy)
    rcases ht _ (List.mem_cons_self ..) with h | ⟨e, he, ho, -⟩
    · simp only at h
      rw [returnedErrors] at ih ⊢
      simp [h, ih]
    · simp only at he ho
      rw [returnedErrors] at ih ⊢
      simp [he, ho, ih]

end

/-- What an iteration from `x` finds: nothing, or an error that it returns. -/
def FindsOrReturns {σ : Type} (completed : σ → Prop) (x : LazyTcpStream σ × Trace)
    (y : Loop.Step (LazyTcpStream σ × Trace) (Outcome (Poll (Result ℕ)))) : Prop :=
  (soReports y.state.2 = soReports x.2 ∧ removedErrors y.state.2 = removedErrors x.2) ∨
    ∃ e z, y = .done (.returned (.ready (.error e))) z ∧ ¬completed z.1.state ∧
      soReports z.2 = e :: soReports x.2 ∧
      (removedErrors z.2 = removedErrors x.2 ∨ removedErrors z.2 = e :: removedErrors x.2)

/-- The handshake of a stream of a Unix module counts as completed. -/
def Unix.Completed {S : Type} [SysTcpStream S] [UnixTcpStream S] (s : S) : Prop :=
  (UnixTcpStream.phase s).Completed

theorem Handshake.Iter.findsOrReturns {p : Profile} {env : Env} {cx : Waker} {buf : Bytes}
    {x : Handshake p × Trace} {y : Loop.Step (Handshake p × Trace) (Outcome (Poll (Result ℕ)))}
    (h : Iter env cx buf x y) : FindsOrReturns Phase.Completed x y := by
  cases h with
  | soError _ hr =>
    right
    rcases hr with rfl | rfl <;>
      exact ⟨_, _, rfl, by simp [Phase.Completed], by simp [queried, Event.soReport],
        by simp [queried, Event.removedError]⟩
  | _ =>
    left
    simp [Loop.Step.state, Event.soReport, soReports_idle.wakeReader, soReports_idle.registered,
      Event.removedError, removedErrors_idle.wakeReader, removedErrors_idle.registered,
      notRegistered, queried]

section
variable {σ : Type} [SysTcpStream (LazyTcpStream σ)] [LazyModule σ] {env : Env}
  {completed : σ → Prop}

/-- **A call returns what its queries find**, if every iteration does. -/
theorem step_returnsFound
    (hbody : ∀ cx buf (x : LazyTcpStream σ × Trace),
      FindsOrReturns completed x (SysTcpStream.pollWriteBody env cx buf x))
    {x x' : TfoStream (LazyTcpStream σ) × Trace} {l : Done}
    (hs : (system (LazyTcpStream σ) env).step x l x') :
    ReturnsFound soReports (fun s => completed s.state) ⟨x, l, x'⟩ ∧
      ReturnsFound removedErrors (fun s => completed s.state) ⟨x, l, x'⟩ := by
  obtain ⟨h, hp, hx'⟩ := hs
  simp only [ReturnsFound, hx']
  rw [soReports_idle.ret, removedErrors_idle.ret]
  refine performs_post
    (I := fun y => soReports y.2 = soReports x.2 ∧ removedErrors y.2 = removedErrors x.2)
    (Q := fun o y => (soReports y.2 = soReports x.2 ∨
        ∃ e, soReports y.2 = e :: soReports x.2 ∧
          o = .returned (.write (.ready (.error e))) ∧ ¬completed y.1.state) ∧
      (removedErrors y.2 = removedErrors x.2 ∨
        ∃ e, removedErrors y.2 = e :: removedErrors x.2 ∧
          o = .returned (.write (.ready (.error e))) ∧ ¬completed y.1.state))
    (fun _ _ _ h => h) ?_ ?_ ?_ ⟨rfl, rfl⟩ hp
  · intro cx buf y z _ hy hb
    rcases hbody cx buf y with ⟨h₁, h₂⟩ | ⟨e, w, hw, -⟩
    · rw [hb] at h₁ h₂
      exact ⟨h₁.trans hy.1, h₂.trans hy.2⟩
    · rw [hb] at hw; cases hw
  · intro cx buf y r z _ hy hb
    rcases hbody cx buf y with ⟨h₁, h₂⟩ | ⟨e, w, hw, hcomp, h₁, h₂⟩
    · rw [hb] at h₁ h₂
      exact ⟨.inl (h₁.trans hy.1), .inl (h₂.trans hy.2)⟩
    · rw [hb] at hw
      cases hw
      rw [hy.1] at h₁
      rw [hy.2] at h₂
      exact ⟨.inr ⟨e, h₁, rfl, hcomp⟩, h₂.imp id fun h => ⟨e, h, rfl, hcomp⟩⟩
  · intro y o z hy ho
    exact ⟨.inl ((ho.ignored soReports_idle).trans hy.1),
      .inl ((ho.ignored removedErrors_idle).trans hy.2)⟩

end

theorem Unix.reportsSoErrors {S : Type} [SysTcpStream S] [SysConnect S] [UnixTcpStream S]
    [UnixConnect S] {env : Env} {x₀ x : TfoStream S × Trace}
    {t : List (Lts.Taken (TfoStream S × Trace) Done)} (hx₀ : Started env x₀)
    (h : (system S env).Run x₀ t x) : ReportsSoErrors Unix.Completed t x := by
  have hbody : ∀ cx buf (x : Handshake (UnixTcpStream.profile S) × Trace),
      FindsOrReturns Phase.Completed x (Handshake.pollWriteBody env cx buf x) :=
    fun cx buf x => (Handshake.body_iter env cx buf x).findsOrReturns
  have hstep : ∀ y ∈ t, ReturnsFound soReports Unix.Completed y ∧
      ReturnsFound removedErrors Unix.Completed y := by
    intro y hy
    obtain ⟨-, -, -, hs⟩ := h.mem y hy
    exact step_returnsFound hbody (UnixTcpStream.step_view env hs)
  exact
    { reports := fun y hy => (hstep y hy).1
      removed := fun y hy => (hstep y hy).2
      allReports := found_eq_returned (started_unix soReports_idle hx₀) h fun y hy => (hstep y hy).1
      allRemoved :=
        found_eq_returned (started_unix removedErrors_idle hx₀) h fun y hy => (hstep y hy).2 }

namespace Windows

/-- On Windows an iteration may drop the error that it has removed. -/
theorem Iter.findsOrDrops {env : Env} {cx : Waker} {buf : Bytes} {x : TcpStream × Trace}
    {y : Loop.Step (TcpStream × Trace) (Outcome (Poll (Result ℕ)))} (h : Iter env cx buf x y) :
    (FindsOrReturns (· = .connected) x y ∧ removedErrors y.state.2 = removedErrors x.2) ∨
      ∃ e n z, y = .done (.returned (.ready (.ok n))) z ∧
        removedErrors z.2 = e :: removedErrors x.2 := by
  cases h with
  | soError =>
    refine .inl ⟨.inr ⟨_, _, rfl, by simp, ?_, .inl ?_⟩, ?_⟩
    · simp [queried, Event.soReport]
    · simp [queried, Event.removedError]
    · simp [Loop.Step.state, queried, Event.removedError]
  | @complete _ _ _ n o =>
    rcases o with _ | e
    · left
      simp [FindsOrReturns, Loop.Step.state, queried, Event.soReport, Event.removedError]
    · exact .inr ⟨e, n, _, rfl, by simp [queried, Event.removedError]⟩
  | _ =>
    left
    simp [FindsOrReturns, Loop.Step.state, Event.soReport, soReports_idle.wakeReader,
      soReports_idle.registered, Event.removedError, removedErrors_idle.wakeReader,
      removedErrors_idle.registered, notRegistered]

/-- **A call on Windows** removes no error and returns what it finds, or it removes an error and
returns a count. -/
theorem step_returnsOrDrops {env : Env} {x x' : TfoStream TcpStream × Trace} {l : Done}
    (hs : (system TcpStream env).step x l x') :
    (removedErrors x'.2 = removedErrors x.2 ∧
      ReturnsFound soReports (fun s => s.state = .connected) ⟨x, l, x'⟩) ∨
    ∃ e n, removedErrors x'.2 = e :: removedErrors x.2 ∧
      l.outcome = .returned (.write (.ready (.ok n))) := by
  obtain ⟨h, hp, hx'⟩ := hs
  simp only [ReturnsFound, hx']
  rw [soReports_idle.ret, removedErrors_idle.ret]
  refine performs_post
    (I := fun y => soReports y.2 = soReports x.2 ∧ removedErrors y.2 = removedErrors x.2)
    (Q := fun o y => (removedErrors y.2 = removedErrors x.2 ∧ (soReports y.2 = soReports x.2 ∨
        ∃ e, soReports y.2 = e :: soReports x.2 ∧
          o = .returned (.write (.ready (.error e))) ∧ ¬y.1.state = .connected)) ∨
      ∃ e n, removedErrors y.2 = e :: removedErrors x.2 ∧
        o = .returned (.write (.ready (.ok n))))
    (fun _ _ _ h => h) ?_ ?_ ?_ ⟨rfl, rfl⟩ hp
  · intro cx buf y z _ hy hb
    rcases (Iter.of_body hb).findsOrDrops with ⟨⟨h₁, -⟩ | ⟨e, w, hw, -⟩, h₂⟩ | ⟨e, n, w, hw, -⟩
    · exact ⟨h₁.trans hy.1, h₂.trans hy.2⟩
    · cases hw
    · cases hw
  · intro cx buf y r z _ hy hb
    rcases (Iter.of_body hb).findsOrDrops with
      ⟨⟨h₁, -⟩ | ⟨e, w, hw, hc, h₁, -⟩, h₂⟩ | ⟨e, n, w, hw, h₁⟩
    · exact .inl ⟨h₂.trans hy.2, .inl (h₁.trans hy.1)⟩
    · cases hw
      exact .inl ⟨h₂.trans hy.2, .inr ⟨e, by rw [h₁, hy.1], rfl, hc⟩⟩
    · cases hw
      exact .inr ⟨e, n, by rw [h₁, hy.2], rfl⟩
  · intro y o z hy ho
    exact .inl ⟨(ho.ignored removedErrors_idle).trans hy.2,
      .inl ((ho.ignored soReports_idle).trans hy.1)⟩

theorem reportsSoErrors_iff {env : Env} {x₀ x : TfoStream TcpStream × Trace}
    {t : List (Lts.Taken (TfoStream TcpStream × Trace) Done)} (hx₀ : Started env x₀)
    (h : (system TcpStream env).Run x₀ t x) :
    ReportsSoErrors (fun s => s.state = .connected) t x ↔
      ∀ y ∈ t, removedErrors y.post.2 = removedErrors y.pre.2 := by
  constructor
  · intro hr y hy
    obtain ⟨-, -, -, hs⟩ := h.mem y hy
    rcases step_returnsOrDrops hs with ⟨hs, -⟩ | ⟨e, n, he, ho⟩
    · exact hs
    · rcases hr.removed y hy with hs | ⟨e', -, ho', -⟩
      · exact hs
      · rw [ho] at ho'
        cases ho'
  · intro hr
    have hstep : ∀ y ∈ t, ReturnsFound soReports (fun s => s.state = .connected) y := by
      intro y hy
      obtain ⟨-, -, -, hs⟩ := h.mem y hy
      rcases step_returnsOrDrops hs with ⟨-, hs⟩ | ⟨e, n, he, -⟩
      · exact hs
      · have := hr y hy
        simp [he] at this
    have hrem : ∀ y ∈ t, ReturnsFound removedErrors (fun s => s.state = .connected) y :=
      fun y hy => .inl (hr y hy)
    exact
      { reports := hstep
        removed := hrem
        allReports := found_eq_returned (started_windows soReports_idle hx₀) h hstep
        allRemoved := found_eq_returned (started_windows removedErrors_idle hx₀) h hrem }

end Windows

/-- What a module promises: every error that a query of `SO_ERROR` finds is returned. -/
def NoErrorSwallowed (env : Env) (S : Type) [SysTcpStream S] [SysConnect S]
    (completed : S → Prop) : Prop :=
  ∀ (x₀ x : TfoStream S × Trace) (t : List (Lts.Taken (TfoStream S × Trace) Done)),
    Started env x₀ → (system S env).Run x₀ t x → ReportsSoErrors completed t x

/-- **No connect error is swallowed**, except on Windows, where the runs on which none is are
those on which no query finds an error. -/
theorem soErrors_reported (env : Env) :
    NoErrorSwallowed env Linux.TcpStream Unix.Completed ∧
    NoErrorSwallowed env FreeBsd.TcpStream Unix.Completed ∧
    NoErrorSwallowed env MacOs.TcpStream Unix.Completed ∧
    ∀ (x₀ x : TfoStream Windows.TcpStream × Trace)
      (t : List (Lts.Taken (TfoStream Windows.TcpStream × Trace) Done)),
      Started env x₀ → (system Windows.TcpStream env).Run x₀ t x →
        (ReportsSoErrors (fun s => s.state = .connected) t x ↔
          ∀ y ∈ t, removedErrors y.post.2 = removedErrors y.pre.2) := by
  refine ⟨?_, ?_, ?_, ?_⟩
  · intro x₀ x t hx₀ h
    exact Unix.reportsSoErrors hx₀ h
  · intro x₀ x t hx₀ h
    exact Unix.reportsSoErrors hx₀ h
  · intro x₀ x t hx₀ h
    exact Unix.reportsSoErrors hx₀ h
  · intro x₀ x t hx₀ h
    exact Windows.reportsSoErrors_iff hx₀ h

/-- The connect is in progress, and fails with `ECONNREFUSED`. -/
def connectionRefused : Env :=
  { (default : Env) with
    writeEvent := fun _ => true
    sendto := fun _ _ _ _ _ => .error .EINPROGRESS
    send := fun _ _ _ => .error .EINPROGRESS
    takeError := fun h _ =>
      if removedErrors h = [] then .ok (some (.os (.other 111))) else .ok none }

/-- A write whose connect is refused returns the error. -/
theorem soErrors_reported_refused :
    (let r := runOf connectionRefused 2 [.pollWrite ⟨1, 1⟩ [7]] Linux.client
     ReportsSoErrors Unix.Completed r.1 r.2) ∧
    (let r := runOf connectionRefused 2 [.pollWrite ⟨1, 1⟩ [7]] FreeBsd.client
     ReportsSoErrors Unix.Completed r.1 r.2) ∧
    (let r := runOf connectionRefused 2 [.pollWrite ⟨1, 1⟩ [7]] MacOs.client
     ReportsSoErrors Unix.Completed r.1 r.2) ∧
    let r := runOf connectionRefused 2 [.pollWrite ⟨1, 1⟩ [7]] Windows.client
    ReportsSoErrors (fun s => s.state = .connected) r.1 r.2 := by
  have h := soErrors_reported connectionRefused
  refine ⟨h.1 _ _ _ (.inl Linux.client_connects) (run_runOf connectionRefused 2 _ _),
    h.2.1 _ _ _ (.inl (FreeBsd.client_connects rfl)) (run_runOf connectionRefused 2 _ _),
    h.2.2.1 _ _ _ (.inl (MacOs.client_connects rfl rfl rfl)) (run_runOf connectionRefused 2 _ _),
    ?_⟩
  exact (h.2.2.2 _ _ _ (.inl (Windows.client_connects rfl rfl))
    (run_runOf connectionRefused 2 _ _)).2 (by decide)

/-- `ConnectEx` is pending, then completes with three bytes sent, and `SO_ERROR` holds an error. -/
def pendingError : Env :=
  { (default : Env) with
    writeEvent := fun _ => true
    connectEx := fun _ _ _ _ _ => .error .WSA_IO_PENDING
    getOverlappedResult := fun _ _ _ => .ok 3
    takeError := fun _ _ => .ok (some (.os (.other 10060))) }

/-- The error is removed, and the write returns the three bytes. -/
theorem not_noErrorSwallowed :
    ¬∀ env, NoErrorSwallowed env Windows.TcpStream (fun s => s.state = .connected) := by
  intro h
  have hr := run_runOf pendingError 2 [.pollWrite ⟨1, 1⟩ [1, 2, 3]] Windows.client
  have hd := (h pendingError _ _ _ (.inl (Windows.client_connects rfl rfl)) hr).allRemoved
  exact absurd hd (by decide)

/-! ## A failed connect -/

/-- What a connect that has failed looks like: once a query of `SO_ERROR` has reported an error, the
handshake is not completed, and nothing was submitted to an ordinary write since. -/
def StaysFailed (completed : Prop) (h : Trace) : Prop :=
  soReports h ≠ [] → ¬completed ∧ wroteAfterError h = false

/-- The two ways on from an error: it is not forgotten until a query finds `SO_ERROR` clear, and
then the handshake counts as completed, until an ordinary write is submitted. -/
@[mk_iff]
structure FailedInv {p : Profile} (x : Handshake p × Trace) : Prop where
  kept : soReports x.2 ≠ [] → clearedAfterError x.2 = false →
    x.1.state = .fastOpenConnecting ∧ wroteAfterError x.2 = false
  forgotten : clearedAfterError x.2 = true →
    x.1.state.Completed ∨ wroteAfterError x.2 = true

theorem FailedInv.iff {p : Profile} {x : Handshake p × Trace} (h : FailedInv x) :
    StaysFailed x.1.state.Completed x.2 ↔ clearedAfterError x.2 = false := by
  constructor
  · intro hs
    by_contra hc
    have he : soReports x.2 ≠ [] := fun he => hc (clearedAfterError_of_none he)
    obtain ⟨hnc, hw⟩ := hs he
    rcases h.forgotten (by simpa using hc) with hcw | hcw
    · exact hnc hcw
    · simp [hw] at hcw
  · intro hc he
    obtain ⟨hs, hw⟩ := h.kept he hc
    exact ⟨by simp [hs, Phase.Completed], hw⟩

namespace Handshake
variable {p : Profile} {env : Env}

theorem Iter.failedInv {cx : Waker} {buf : Bytes} {x : Handshake p × Trace}
    {y : Loop.Step (Handshake p × Trace) (Outcome (Poll (Result ℕ)))} (h : Iter env cx buf x y)
    (hx : FailedInv x) : FailedInv y.state := by
  obtain ⟨hk, hf⟩ := hx
  have hn := @wroteAfterError_of_none x.2
  have hc : clearedAfterError x.2 = true → soReports x.2 ≠ [] :=
    fun hc he => by simp [clearedAfterError_of_none he] at hc
  cases h with
  | write hph =>
    constructor
    · intro he hc'
      rcases hph with rfl | ⟨rfl, -⟩ <;> simpa using (hk he hc').1
    · intro hc'
      simp_all [Loop.Step.state, wroteAfterError, clearedAfterError]
  | @soError _ h _ _ _ hr =>
    have hw : clearedAfterError h = false → wroteAfterError h = false := by
      intro hcl
      by_cases he : soReports h = []
      · exact hn he
      · exact (hk he hcl).2
    rcases hr with rfl | rfl <;> constructor <;>
      simp_all [Loop.Step.state, Event.soReport, wroteAfterError, clearedAfterError, queried]
  | _ =>
    constructor <;>
    simp_all [Loop.Step.state, Event.soReport, wroteAfterError, clearedAfterError,
      Phase.Completed, soReports_idle.wakeReader, soReports_idle.registered,
      wroteAfterError_idle.wakeReader, wroteAfterError_idle.registered,
      clearedAfterError_idle.wakeReader, clearedAfterError_idle.registered, notRegistered, queried]

theorem failedInv_invariant : Invariant env (FailedInv (p := p)) := by
  refine .of_idle ?_ ?_ ?_ fun cx buf x hx => (body_iter env cx buf x).failedInv hx
  · intro s e h he
    simp only [failedInv_iff, soReports_idle e h he, wroteAfterError_idle e h he,
      clearedAfterError_idle e h he]
  · intro st socket addr reader reader' h hx
    exact ⟨hx.kept, hx.forgotten⟩
  · intro st s h hx
    exact ⟨hx.kept, hx.forgotten⟩

end Handshake

/-- **A connect that has failed stays failed** in a reached state iff no query since has found
`SO_ERROR` clear. -/
theorem Unix.staysFailed_iff {S : Type} [SysTcpStream S] [SysConnect S] [UnixTcpStream S]
    [UnixConnect S] {env : Env} {x₀ : TfoStream S × Trace} {y : S × Trace} (hx₀ : Started env x₀)
    (h : Reached env x₀ y) :
    StaysFailed (Unix.Completed y.1) y.2 ↔ clearedAfterError y.2 = false := by
  have h₀ : FailedInv (UnixTcpStream.view x₀.1.inner, x₀.2) := by
    have hr := started_unix soReports_idle hx₀
    constructor
    · intro he
      exact absurd hr he
    · intro hc
      rw [clearedAfterError_of_none hr] at hc
      cases hc
  exact (Handshake.failedInv_invariant.reached h₀ (UnixTcpStream.reached_view env h)).iff

/-- **A failed connect stays failed** exactly until a query finds `SO_ERROR` clear. -/
theorem failed_iff_not_cleared (env : Env) :
    (∀ (x₀ : TfoStream Linux.TcpStream × Trace) (y : Linux.TcpStream × Trace),
      Started env x₀ → Reached env x₀ y →
        (StaysFailed (Unix.Completed y.1) y.2 ↔ clearedAfterError y.2 = false)) ∧
    (∀ (x₀ : TfoStream FreeBsd.TcpStream × Trace) (y : FreeBsd.TcpStream × Trace),
      Started env x₀ → Reached env x₀ y →
        (StaysFailed (Unix.Completed y.1) y.2 ↔ clearedAfterError y.2 = false)) ∧
    ∀ (x₀ : TfoStream MacOs.TcpStream × Trace) (y : MacOs.TcpStream × Trace),
      Started env x₀ → Reached env x₀ y →
        (StaysFailed (Unix.Completed y.1) y.2 ↔ clearedAfterError y.2 = false) :=
  ⟨fun _ _ => Unix.staysFailed_iff, fun _ _ => Unix.staysFailed_iff,
    fun _ _ => Unix.staysFailed_iff⟩

/-- After the write whose connect is refused, no query has found `SO_ERROR` clear. -/
theorem failed_after_refused :
    (let y := stateAfter connectionRefused 2 [.pollWrite ⟨1, 1⟩ [7]] Linux.client
     StaysFailed (Unix.Completed y.1) y.2) ∧
    (let y := stateAfter connectionRefused 2 [.pollWrite ⟨1, 1⟩ [7]] FreeBsd.client
     StaysFailed (Unix.Completed y.1) y.2) ∧
    let y := stateAfter connectionRefused 2 [.pollWrite ⟨1, 1⟩ [7]] MacOs.client
    StaysFailed (Unix.Completed y.1) y.2 :=
  have h := failed_iff_not_cleared connectionRefused
  ⟨(h.1 _ _ (.inl Linux.client_connects) (reached_stateAfter ..)).2 (by decide),
    (h.2.1 _ _ (.inl (FreeBsd.client_connects rfl)) (reached_stateAfter ..)).2 (by decide),
    (h.2.2 _ _ (.inl (MacOs.client_connects rfl rfl rfl)) (reached_stateAfter ..)).2 (by decide)⟩

/-- Reading `SO_ERROR` clears it. -/
def ClearsSoError (env : Env) : Prop :=
  ∀ h fd, removedErrors h ≠ [] → env.takeError h fd = .ok none

theorem clearsSoError_connectionRefused : ClearsSoError connectionRefused := by
  intro h fd he
  simp [connectionRefused, he]

/-- What a Unix module promises: a client whose connect has failed stays failed. -/
def FailedStaysFailed (S : Type) [SysTcpStream S] [SysConnect S] [UnixTcpStream S] : Prop :=
  ∀ (env : Env) (x₀ : TfoStream S × Trace) (y : S × Trace), ClearsSoError env → Client env x₀ →
    Reached env x₀ y → StaysFailed (Unix.Completed y.1) y.2

/-- The first write returns the error, and the second one writes. -/
theorem not_failedStaysFailed :
    ¬FailedStaysFailed Linux.TcpStream ∧ ¬FailedStaysFailed FreeBsd.TcpStream ∧
      ¬FailedStaysFailed MacOs.TcpStream := by
  let cs : List Call := [.pollWrite ⟨1, 1⟩ [1, 2, 3], .pollWrite ⟨1, 1⟩ [1, 2, 3]]
  refine ⟨fun h => ?_, fun h => ?_, fun h => ?_⟩
  · have hf := h connectionRefused _ _ clearsSoError_connectionRefused Linux.client_connects
      (reached_stateAfter connectionRefused 4 cs Linux.client) (by decide)
    exact absurd hf.2 (by decide)
  · have hf := h connectionRefused _ _ clearsSoError_connectionRefused (FreeBsd.client_connects rfl)
      (reached_stateAfter connectionRefused 4 cs FreeBsd.client) (by decide)
    exact absurd hf.2 (by decide)
  · have hf := h connectionRefused _ _ clearsSoError_connectionRefused
      (MacOs.client_connects rfl rfl rfl)
      (reached_stateAfter connectionRefused 4 cs MacOs.client) (by decide)
    exact absurd hf.2 (by decide)

end TokioTfo
