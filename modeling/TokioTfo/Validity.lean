/-
  The state and the stream option of the lazily connected streams fit together
  (`Valid`) as long as no hand-over fails.

  The hand-over of the socket to tokio takes it out of the stream, and leaves
  `Empty` behind when a call fails before the registered stream is put back.
  `valid_iff_handed_over`: on every run, the option fits the state after every call
  and no `unreachable!` is reached iff no hand-over has failed.
-/
import TokioTfo.Starts
import TokioTfo.Handshake.Iteration
import TokioTfo.Windows.Iteration

namespace TokioTfo

/-- The option is `Connecting` exactly in the state `opening`, `Connected` in every other state,
and never `Empty`. -/
structure LazyTcpStream.Valid {σ : Type} (opening : σ) (x : LazyTcpStream σ) : Prop where
  connecting : (∃ socket addr reader, x.stream = .connecting socket addr reader) ↔
    x.state = opening
  connected : (∃ s, x.stream = .connected s) ↔ x.state ≠ opening
  nonempty : x.stream ≠ .empty

section
variable {σ : Type} {opening st : σ}

@[simp] theorem valid_connected {s : TokioTcpStream} :
    (LazyTcpStream.mk st (.connected s)).Valid opening ↔ st ≠ opening := by
  refine ⟨fun h => h.connected.1 ⟨s, rfl⟩, fun h => ⟨?_, ?_, by simp⟩⟩
  · simp [h]
  · simp [h]

@[simp] theorem valid_connecting {socket : TcpSocket} {addr : SocketAddr} {reader : Option Waker} :
    (LazyTcpStream.mk st (.connecting socket addr reader)).Valid opening ↔ st = opening := by
  refine ⟨fun h => h.connecting.1 ⟨socket, addr, reader, rfl⟩, fun h => ⟨?_, ?_, by simp⟩⟩
  · simp [h]
  · simp [h]

@[simp] theorem not_valid_empty : ¬(LazyTcpStream.mk st .empty).Valid opening :=
  fun h => h.nonempty rfl

theorem valid_mapState {τ : Type} {f : σ → τ} (hf : f st = f opening ↔ st = opening)
    {o : TcpStreamOption} : (LazyTcpStream.mapState f ⟨st, o⟩).Valid (f opening) ↔
      (LazyTcpStream.mk st o).Valid opening := by
  cases o <;> simp [LazyTcpStream.mapState, hf]

/-- A valid stream is in none of the `unreachable!` arms. -/
theorem LazyTcpStream.Valid.reachable {x : LazyTcpStream σ} (hv : x.Valid opening) :
    ¬((x.state = opening ∧ ∀ socket addr reader, x.stream ≠ .connecting socket addr reader) ∨
      (x.state ≠ opening ∧ ∀ s, x.stream ≠ .connected s)) := by
  rintro (⟨hs, hc⟩ | ⟨hs, hc⟩)
  · obtain ⟨socket, addr, reader, h⟩ := hv.connecting.2 hs
    exact hc socket addr reader h
  · obtain ⟨s, h⟩ := hv.connected.2 hs
    exact hc s h

end

/-- The event is a failure between taking the socket out of the stream and putting the registered
stream back: of `from_std`, which may panic, or of the context update after a `ConnectEx` that
completed at once. -/
def Event.failsHandOver (e : Event) (h : Trace) : Bool :=
  match e, h with
  | .fromStd _ (.error _), _ => true
  | .setUpdateConnectContext _ (.error _), .connectEx _ _ _ (.ok _) :: _ => true
  | _, _ => false

/-- A hand-over has failed. -/
def handOverFailed : Trace → Bool
  | [] => false
  | e :: h => e.failsHandOver h || handOverFailed h

theorem handOverFailed_cons (e : Event) (h : Trace) :
    handOverFailed (e :: h) = (e.failsHandOver h || handOverFailed h) := rfl

theorem handOverFailed_idle : IgnoresIdle handOverFailed := by
  intro e h he
  rw [handOverFailed_cons]
  cases e with
  | fromStd fd r => cases r <;> first | rfl | exact he.elim
  | _ => first | rfl | exact he.elim

/-! ## One call -/

section
variable {σ : Type} {opening : σ}

/-- What an iteration does to a valid stream: it goes round again with a valid stream, or it
returns, without reaching `unreachable!` and with a valid stream iff no hand-over has failed. -/
def KeepsValid (opening : σ) :
    Loop.Step (LazyTcpStream σ × Trace) (Outcome (Poll (Result ℕ))) → Prop
  | .again y => y.1.Valid opening ∧ handOverFailed y.2 = false
  | .done r y => (y.1.Valid opening ∧ r ≠ .panicked .unreachable) ↔ handOverFailed y.2 = false

theorem other_valid_iff {env : Env} {c : Call} {x x' : LazyTcpStream σ × Trace} {o : Outcome Ret}
    (h : Other env c x o x') (hv : x.1.Valid opening) (hf : handOverFailed x.2 = false) :
    (x'.1.Valid opening ∧ o ≠ .panicked .unreachable) ↔ handOverFailed x'.2 = false := by
  rw [h.ignored handOverFailed_idle, hf]
  refine ⟨fun _ => rfl, fun _ => ?_⟩
  cases h with
  | read => exact ⟨hv, by simp⟩
  | park => exact ⟨by simpa using hv, by simp⟩
  | readEmpty => exact absurd hv not_valid_empty
  | quiet es _ _ _ _ ho => exact ⟨hv, fun h => hv.nonempty (ho h)⟩

variable [SysTcpStream (LazyTcpStream σ)] [LazyModule σ] {env : Env}

/-- **A call keeps a valid stream valid iff it fails no hand-over.** -/
theorem step_valid_iff
    (hbody : ∀ cx buf (x : LazyTcpStream σ × Trace), x.1.Valid opening →
      handOverFailed x.2 = false → KeepsValid opening (SysTcpStream.pollWriteBody env cx buf x))
    {x x' : TfoStream (LazyTcpStream σ) × Trace} {l : Done}
    (hv : x.1.inner.Valid opening) (hf : handOverFailed x.2 = false)
    (hs : (system (LazyTcpStream σ) env).step x l x') :
    (x'.1.inner.Valid opening ∧ l.outcome ≠ .panicked .unreachable) ↔
      handOverFailed x'.2 = false := by
  obtain ⟨h, hp, hx'⟩ := hs
  rw [hx', show handOverFailed (.ret l.call l.outcome :: h) = handOverFailed h from rfl]
  refine performs_post (I := fun y => y.1.Valid opening ∧ handOverFailed y.2 = false)
    (Q := fun o y => (y.1.Valid opening ∧ o ≠ .panicked .unreachable) ↔
      handOverFailed y.2 = false) ?_ ?_ ?_ ?_ ⟨hv, hf⟩ hp
  · intro st s t h
    exact ⟨by simpa using h.1, h.2⟩
  · intro cx buf y z _ hy hb
    have := hbody cx buf y hy.1 hy.2
    rwa [hb] at this
  · intro cx buf y r z _ hy hb
    have := hbody cx buf y hy.1 hy.2
    rw [hb] at this
    simpa only [KeepsValid, ne_eq, Outcome.map_eq_panicked] using this
  · intro y o z hy ho
    exact other_valid_iff ho hy.1 hy.2

theorem run_valid_iff
    (hbody : ∀ cx buf (x : LazyTcpStream σ × Trace), x.1.Valid opening →
      handOverFailed x.2 = false → KeepsValid opening (SysTcpStream.pollWriteBody env cx buf x))
    {x₀ x : TfoStream (LazyTcpStream σ) × Trace}
    {t : List (Lts.Taken (TfoStream (LazyTcpStream σ) × Trace) Done)}
    (hv : x₀.1.inner.Valid opening) (hf : handOverFailed x₀.2 = false)
    (h : (system (LazyTcpStream σ) env).Run x₀ t x) :
    (∀ y ∈ t, y.post.1.inner.Valid opening ∧ y.label.outcome ≠ .panicked .unreachable) ↔
      ∀ y ∈ t, handOverFailed y.post.2 = false := by
  refine h.forall_iff
    (I := fun x => x.1.inner.Valid opening ∧ handOverFailed x.2 = false)
    (P := fun y => y.post.1.inner.Valid opening ∧ y.label.outcome ≠ .panicked .unreachable)
    (C := fun y => handOverFailed y.post.2 = false) (D := fun _ => True) ⟨hv, hf⟩ ?_ ?_
    fun _ _ => trivial
  · intro s l s' hI hs hC
    exact ⟨((step_valid_iff hbody hI.1 hI.2 hs).2 hC).1, hC⟩
  · intro s l s' hI hs _
    exact step_valid_iff hbody hI.1 hI.2 hs

end

/-! ## The loop bodies -/

theorem Handshake.body_valid {p : Profile} (env : Env) (cx : Waker) (buf : Bytes)
    (x : Handshake p × Trace) (hv : x.1.Valid .fastOpenConnect) (hf : handOverFailed x.2 = false) :
    KeepsValid .fastOpenConnect (pollWriteBody env cx buf x) := by
  have h := body_iter env cx buf x
  generalize pollWriteBody env cx buf x = y at h
  cases h with
  | unreachable hx => exact absurd hx hv.reachable
  | _ =>
    simp_all [KeepsValid, handOverFailed_cons, Event.failsHandOver, handOverFailed_idle.wakeReader,
      handOverFailed_idle.registered, notRegistered, queried]

theorem Windows.body_valid (env : Env) (cx : Waker) (buf : Bytes)
    (x : Windows.TcpStream × Trace) (hv : x.1.Valid .fastOpenConnect)
    (hf : handOverFailed x.2 = false) :
    KeepsValid .fastOpenConnect (TcpStream.pollWriteBody env cx buf x) := by
  have h := body_iter env cx buf x
  generalize TcpStream.pollWriteBody env cx buf x = y at h
  cases h with
  | unreachable hx => exact absurd hx hv.reachable
  | _ =>
    simp_all [KeepsValid, handOverFailed_cons, Event.failsHandOver, handOverFailed_idle.wakeReader,
      handOverFailed_idle.registered, notRegistered, queried]

/-! ## Runs -/

/-- What a module promises: after every call the stream is valid, and no call reaches
`unreachable!`. -/
def StaysValid (S : Type) [SysTcpStream S] [SysConnect S] (valid : S → Prop) : Prop :=
  ∀ (env : Env) (x₀ x : TfoStream S × Trace) (t : List (Lts.Taken (TfoStream S × Trace) Done)),
    Started env x₀ → (system S env).Run x₀ t x →
      ∀ y ∈ t, valid y.post.1.inner ∧ y.label.outcome ≠ .panicked .unreachable

/-- The promise is kept on the runs on which no hand-over fails, and on no others. -/
def ValidIffHandedOver (env : Env) (S : Type) [SysTcpStream S] [SysConnect S] (valid : S → Prop) :
    Prop :=
  ∀ (x₀ x : TfoStream S × Trace) (t : List (Lts.Taken (TfoStream S × Trace) Done)),
    Started env x₀ → (system S env).Run x₀ t x →
      ((∀ y ∈ t, valid y.post.1.inner ∧ y.label.outcome ≠ .panicked .unreachable) ↔
        ∀ y ∈ t, handOverFailed y.post.2 = false)

theorem Handshake.Opening.valid {p : Profile} {x : Handshake p × Trace} (h : Opening x) :
    x.1.Valid .fastOpenConnect ∧ handOverFailed x.2 = false := by
  cases h with
  | fastOpenConnect hh => exact ⟨by simp, handOverFailed_idle.setup hh⟩
  | fastOpenWrite hh => exact ⟨by simp, handOverFailed_idle.setup hh⟩

theorem Unix.valid_started {S : Type} [SysTcpStream S] [SysConnect S] [UnixTcpStream S]
    [UnixConnect S] {env : Env} {x : TfoStream S × Trace} (hx : Started env x) :
    (UnixTcpStream.view x.1.inner).Valid .fastOpenConnect := by
  rcases hx with hc | ⟨s, rfl⟩
  · exact (UnixConnect.opening hc).valid.1
  · rw [show (TfoStream.ofTokio SysConnect.ofTokio s : TfoStream S).inner =
      SysConnect.ofTokio s from rfl, UnixConnect.ofTokio]
    simp

theorem Unix.validIffHandedOver (env : Env) {S : Type} [SysTcpStream S] [SysConnect S]
    [UnixTcpStream S] [UnixConnect S] : ValidIffHandedOver env S fun s =>
      (UnixTcpStream.view s).Valid .fastOpenConnect := by
  intro x₀ x t hx₀ h
  have hv : (UnixTcpStream.view x₀.1.inner).Valid .fastOpenConnect ∧
      handOverFailed x₀.2 = false := by
    rcases hx₀ with hc | ⟨s, rfl⟩
    · exact (UnixConnect.opening hc).valid
    · refine ⟨?_, rfl⟩
      rw [show (TfoStream.ofTokio SysConnect.ofTokio s : TfoStream S).inner =
        SysConnect.ofTokio s from rfl, UnixConnect.ofTokio]
      simp
  have hr := run_valid_iff (Handshake.body_valid env) hv.1 hv.2 (UnixTcpStream.run_view env h)
  simpa [UnixTcpStream.viewTfo, Lts.Taken.map] using hr

theorem Linux.valid_view (s : Linux.TcpStream) :
    (UnixTcpStream.view s).Valid .fastOpenConnect ↔ s.Valid .fastOpenConnect := by
  obtain ⟨st, o⟩ := s
  have hf : phase st = phase .fastOpenConnect ↔ st = .fastOpenConnect := by
    cases st <;> simp [phase]
  exact valid_mapState hf

theorem FreeBsd.valid_view (s : FreeBsd.TcpStream) :
    (UnixTcpStream.view s).Valid .fastOpenConnect ↔ s.Valid .fastOpenConnect := by
  obtain ⟨st, o⟩ := s
  have hf : phase st = phase .fastOpenConnect ↔ st = .fastOpenConnect := by
    cases st <;> simp [phase]
  exact valid_mapState hf

/-- **The representation of the lazily connected streams.** -/
theorem valid_iff_handed_over (env : Env) :
    ValidIffHandedOver env Linux.TcpStream (·.Valid .fastOpenConnect) ∧
    ValidIffHandedOver env FreeBsd.TcpStream (·.Valid .fastOpenConnect) ∧
    ValidIffHandedOver env Windows.TcpStream (·.Valid .fastOpenConnect) := by
  refine ⟨?_, ?_, ?_⟩
  · have h := Unix.validIffHandedOver env (S := Linux.TcpStream)
    simpa only [ValidIffHandedOver, Linux.valid_view] using h
  · have h := Unix.validIffHandedOver env (S := FreeBsd.TcpStream)
    simpa only [ValidIffHandedOver, FreeBsd.valid_view] using h
  · intro x₀ x t hx₀ h
    have hv : x₀.1.inner.Valid .fastOpenConnect ∧ handOverFailed x₀.2 = false := by
      rcases hx₀ with hc | ⟨s, rfl⟩
      · obtain ⟨socket, addr, hs, hh⟩ := Windows.opening hc
        rw [hs]
        exact ⟨by simp, handOverFailed_idle.setup hh⟩
      · exact ⟨valid_connected.2 (by simp), rfl⟩
    exact run_valid_iff (Windows.body_valid env) hv.1 hv.2 h

/-- The hand-over of a first write succeeds. -/
theorem valid_after_first_write :
    (∀ y ∈ (runOf default 1 [.pollWrite ⟨1, 1⟩ [7]] Linux.client).1,
      y.post.1.inner.Valid .fastOpenConnect ∧ y.label.outcome ≠ .panicked .unreachable) ∧
    (∀ y ∈ (runOf default 1 [.pollWrite ⟨1, 1⟩ [7]] FreeBsd.client).1,
      y.post.1.inner.Valid .fastOpenConnect ∧ y.label.outcome ≠ .panicked .unreachable) ∧
    ∀ y ∈ (runOf default 1 [.pollWrite ⟨1, 1⟩ [7]] Windows.client).1,
      y.post.1.inner.Valid .fastOpenConnect ∧ y.label.outcome ≠ .panicked .unreachable := by
  refine ⟨?_, ?_, ?_⟩
  · exact ((valid_iff_handed_over default).1 _ _ _ (.inl Linux.client_connects)
      (run_runOf default 1 _ _)).2 (by decide)
  · exact ((valid_iff_handed_over default).2.1 _ _ _ (.inl (FreeBsd.client_connects rfl))
      (run_runOf default 1 _ _)).2 (by decide)
  · exact ((valid_iff_handed_over default).2.2 _ _ _ (.inl (Windows.client_connects rfl rfl))
      (run_runOf default 1 _ _)).2 (by decide)

/-- The first write loses the stream, and the next read panics. -/
theorem not_staysValid :
    ¬StaysValid Linux.TcpStream (·.Valid .fastOpenConnect) ∧
    ¬StaysValid FreeBsd.TcpStream (·.Valid .fastOpenConnect) ∧
    ¬StaysValid Windows.TcpStream (·.Valid .fastOpenConnect) := by
  let cs : List Call := [.pollWrite ⟨1, 1⟩ [1, 2, 3], .pollRead ⟨1, 1⟩ 8]
  refine ⟨fun h => ?_, fun h => ?_, fun h => ?_⟩
  · have hr := run_runOf refusing 1 cs Linux.client
    exact (h refusing _ _ _ (.inl Linux.client_connects) hr _ (List.mem_cons_self ..)).2 rfl
  · have hr := run_runOf refusing 1 cs FreeBsd.client
    exact (h refusing _ _ _ (.inl (FreeBsd.client_connects rfl)) hr _ (List.mem_cons_self ..)).2 rfl
  · have hr := run_runOf refusing 1 cs Windows.client
    exact (h refusing _ _ _ (.inl (Windows.client_connects rfl rfl)) hr _
      (List.mem_cons_self ..)).2 rfl

end TokioTfo
