/-
  The opening handshake of the Unix modules: the order of the calls on the socket.

  `opening_ordered`: in every state that a client reaches,

  * no opening call was made after one that was accepted, that is, that returned a
    count or `EINPROGRESS`, and no opening state is entered again;
  * every ordinary write came after the opening call had returned a count, or after
    `EINPROGRESS`, a newer write-readiness event, and a query of `SO_ERROR` that
    found no error;
  * on Linux no move leads to an earlier phase, and on FreeBSD and macOS none leads
    out of `Established`.
-/
import TokioTfo.Starts
import TokioTfo.Handshake.Iteration

namespace TokioTfo

/-! ## The order of the events -/

/-- An opening call: `sendto` with the target address, or the first `send`. -/
def Event.opens : Event → Bool
  | sendto .. | send .. => true
  | _ => false

/-- An opening call has returned a count. -/
def Event.counts : Event → Bool
  | sendto _ _ _ _ (.ok _) | send _ _ (.ok _) => true
  | _ => false

/-- An opening call has returned `EINPROGRESS`. -/
def Event.progresses : Event → Bool
  | sendto _ _ _ _ (.error .EINPROGRESS) | send _ _ (.error .EINPROGRESS) => true
  | _ => false

def counted (h : Trace) : Bool := h.any Event.counts

def inProgress (h : Trace) : Bool := h.any Event.progresses

/-- No opening call comes after an accepted one. -/
def openedOnce : Trace → Bool
  | [] => true
  | e :: h => (!e.opens || !(counted h || inProgress h)) && openedOnce h

/-- A write-readiness event came after `EINPROGRESS`. -/
def writableSince : Trace → Bool
  | [] => false
  | .writeEvent :: h => inProgress h || writableSince h
  | _ :: h => writableSince h

/-- After such an event a query of `SO_ERROR` found no error. -/
def confirmed : Trace → Bool
  | [] => false
  | .takeError _ (.ok none) :: h => writableSince h || confirmed h
  | _ :: h => confirmed h

/-- Ordinary writes may be made. -/
def authorised (h : Trace) : Bool := counted h || confirmed h

/-- Every ordinary write was made when it could be. -/
def writesAuthorised : Trace → Bool
  | [] => true
  | .pollWrite .. :: h => authorised h && writesAuthorised h
  | _ :: h => writesAuthorised h

@[simp] theorem counted_cons (e : Event) (h : Trace) :
    counted (e :: h) = (e.counts || counted h) := rfl

@[simp] theorem inProgress_cons (e : Event) (h : Trace) :
    inProgress (e :: h) = (e.progresses || inProgress h) := rfl

theorem counted_idle : IgnoresIdle counted := by
  intro e h he
  cases e <;> first | rfl | exact he.elim

theorem inProgress_idle : IgnoresIdle inProgress := by
  intro e h he
  cases e <;> first | rfl | exact he.elim

theorem openedOnce_idle : IgnoresIdle openedOnce := by
  intro e h he
  cases e <;> first | rfl | exact he.elim

theorem writableSince_idle : IgnoresIdle writableSince := by
  intro e h he
  cases e <;> first | rfl | exact he.elim

theorem confirmed_idle : IgnoresIdle confirmed := by
  intro e h he
  cases e <;> first | rfl | exact he.elim

theorem authorised_idle : IgnoresIdle authorised := by
  intro e h he
  rw [authorised, counted_idle e h he, confirmed_idle e h he, authorised]

theorem writesAuthorised_idle : IgnoresIdle writesAuthorised := by
  intro e h he
  cases e <;> first | rfl | exact he.elim

/-! ## The invariant -/

namespace Handshake
variable {p : Profile} {env : Env}

/-- The history that each state of a client stands for.  In `FastOpenConnecting` cached readiness
is newer than `EINPROGRESS`. -/
@[mk_iff]
structure OpeningInv (x : Handshake p × Trace) : Prop where
  once : openedOnce x.2 = true
  writes : writesAuthorised x.2 = true
  connecting : ∀ socket addr reader, x.1.stream = .connecting socket addr reader →
    counted x.2 = false ∧ inProgress x.2 = false
  opening : x.1.state.Opening → (counted x.2 = false ∧ inProgress x.2 = false) ∨
    x.1.stream = .empty
  progress : ∀ s, x.1.state = .fastOpenConnecting → x.1.stream = .connected s →
    authorised x.2 = true ∨
      inProgress x.2 = true ∧ (s.writable = true → writableSince x.2 = true)
  completed : x.1.state.Completed → authorised x.2 = true

theorem Opening.openingInv {x : Handshake p × Trace} (h : Opening x) : OpeningInv x := by
  have hs := h.setup
  have h₁ := openedOnce_idle.setup hs
  have h₂ := writesAuthorised_idle.setup hs
  have h₃ := counted_idle.setup hs
  have h₄ := inProgress_idle.setup hs
  cases h <;> constructor <;>
    simp_all [Phase.Opening, Phase.Completed, openedOnce, writesAuthorised, counted, inProgress]

theorem openingInv_idle (s : Handshake p) : IgnoresIdle fun h => OpeningInv (s, h) := by
  intro e h he
  simp only [openingInv_iff, openedOnce_idle e h he, writesAuthorised_idle e h he,
    counted_idle e h he, inProgress_idle e h he, authorised_idle e h he, writableSince_idle e h he]

/-- In an opening state that has its stream no opening call has been accepted. -/
theorem OpeningInv.fresh {x : Handshake p × Trace} (hx : OpeningInv x) (ho : x.1.state.Opening)
    (hs : x.1.stream ≠ .empty) : counted x.2 = false ∧ inProgress x.2 = false :=
  (hx.opening ho).resolve_right hs

/-- An event after a history without an accepted opening call. -/
theorem openedOnce_fresh {h : Trace} (hf : counted h = false ∧ inProgress h = false)
    (ho : openedOnce h = true) (e : Event) : openedOnce (e :: h) = true := by
  simp [openedOnce, hf.1, hf.2, ho]

theorem fresh_of_refused {h : Trace} {e : Event} (hf : counted h = false ∧ inProgress h = false)
    (hc : e.counts = false) (hp : e.progresses = false) :
    counted (e :: h) = false ∧ inProgress (e :: h) = false := by
  simp [hf.1, hf.2, hc, hp]

/-- An ordinary write, after the handshake. -/
theorem OpeningInv.written {ph ph' : Phase p} {s s' : TokioTcpStream} {h : Trace} {cx : Waker}
    {fd : Fd} {buf : Bytes} {r : Poll (Result ℕ)} (hx : OpeningInv (⟨ph, .connected s⟩, h))
    (hc : ph.Completed) (hn : ¬ph'.Opening) :
    OpeningInv (⟨ph', .connected s'⟩, .pollWrite cx fd buf r :: h) where
  once := hx.once
  writes := by
    have ha : authorised h = true := hx.completed hc
    have hw : writesAuthorised h = true := hx.writes
    simp [writesAuthorised, ha, hw]
  connecting := by simp
  opening ho := absurd ho hn
  progress _ _ _ := .inl (hx.completed hc)
  completed _ := hx.completed hc

/-- A call that changes nothing in what the state stands for. -/
theorem OpeningInv.awaited {ph : Phase p} {s : TokioTcpStream} {h : Trace} {cx : Waker} {fd : Fd}
    {r : Poll (Result Unit)} (hx : OpeningInv (⟨ph, .connected s⟩, h)) :
    OpeningInv (⟨ph, .connected s⟩, .pollWriteReady cx fd r :: h) :=
  ⟨hx.once, hx.writes, by simp, hx.opening, hx.progress, hx.completed⟩

/-- The first `send`, or `sendto`, has been accepted: with a count, or in progress. -/
theorem OpeningInv.accepted {ph ph' : Phase p} {o : TcpStreamOption} {s : TokioTcpStream}
    {h : Trace} {e : Event} (hx : OpeningInv (⟨ph, o⟩, h)) (ho : ph.Opening) (hne : o ≠ .empty)
    (hw : writesAuthorised (e :: h) = writesAuthorised h)
    (he : ph' = .connected ∧ e.counts = true ∨
      ph' = .fastOpenConnecting ∧ e.progresses = true ∧ s.writable = false) :
    OpeningInv (⟨ph', .connected s⟩, e :: h) where
  once := openedOnce_fresh (hx.fresh ho hne) hx.once e
  writes := hw.trans hx.writes
  connecting := by simp
  opening hph := by
    rcases he with ⟨rfl, -⟩ | ⟨rfl, -⟩
    · rcases hph with hph | hph <;> cases hph
    · rcases hph with hph | hph <;> cases hph
  progress s' hph hs := by
    obtain rfl := TcpStreamOption.connected.inj hs
    rcases he with ⟨rfl, -⟩ | ⟨-, hp, hf⟩
    · cases hph
    · exact .inr ⟨by simp [hp], by simp [hf]⟩
  completed hph := by
    rcases he with ⟨-, hc⟩ | ⟨rfl, -⟩
    · simp [authorised, hc]
    · rcases hph with hph | hph <;> cases hph

/-- It has been refused. -/
theorem OpeningInv.refused {ph : Phase p} {o : TcpStreamOption} {h : Trace} {e : Event}
    (hx : OpeningInv (⟨ph, o⟩, h)) (ho : ph.Opening) (hne : o ≠ .empty) (hc : e.counts = false)
    (hp : e.progresses = false) (hw : writesAuthorised (e :: h) = writesAuthorised h) :
    OpeningInv (⟨ph, o⟩, e :: h) where
  once := openedOnce_fresh (hx.fresh ho hne) hx.once e
  writes := hw.trans hx.writes
  connecting _ _ _ _ := fresh_of_refused (hx.fresh ho hne) hc hp
  opening _ := .inl (fresh_of_refused (hx.fresh ho hne) hc hp)
  progress s hph _ := by
    subst hph
    rcases ho with ho | ho <;> cases ho
  completed hph := by
    rcases ho with rfl | rfl
    · rcases hph with hph | hph <;> cases hph
    · rcases hph with hph | hph <;> cases hph

theorem OpeningInv.sendRefused {s s' : TokioTcpStream} {h : Trace} {fd : Fd} {buf : Bytes}
    {e : Errno} (hx : OpeningInv (⟨(.fastOpenWrite : Phase p), .connected s⟩, h))
    (he : e ≠ .EINPROGRESS) :
    OpeningInv (⟨(.fastOpenWrite : Phase p), .connected s'⟩, .send fd buf (.error e) :: h) := by
  have hr : OpeningInv (⟨(.fastOpenWrite : Phase p), .connected s⟩,
      .send fd buf (.error e) :: h) :=
    hx.refused (.inr rfl) (by simp) rfl (by simp [Event.progresses, he]) rfl
  exact ⟨hr.once, hr.writes, by simp, fun ho => .inl (hr.fresh ho (by simp)), by simp,
    fun hc => by rcases hc with hc | hc <;> cases hc⟩

/-- The socket has been opened, and lost. -/
theorem OpeningInv.lost {o : TcpStreamOption} {h : Trace} {e : Event} {fd : Fd} {err : Unregistered}
    (hx : OpeningInv (⟨(.fastOpenConnect : Phase p), o⟩, h)) (hne : o ≠ .empty)
    (hw : writesAuthorised (e :: h) = writesAuthorised h) :
    OpeningInv (⟨(.fastOpenConnect : Phase p), .empty⟩, notRegistered fd err (e :: h)) where
  once := openedOnce_fresh (hx.fresh (.inl rfl) hne) hx.once e
  writes := hw.trans hx.writes
  connecting := by simp
  opening _ := .inr rfl
  progress := by simp
  completed hph := by rcases hph with hph | hph <;> cases hph

theorem Iter.openingInv {cx : Waker} {buf : Bytes} {x : Handshake p × Trace}
    {y : Loop.Step (Handshake p × Trace) (Outcome (Poll (Result ℕ)))} (h : Iter env cx buf x y)
    (hx : OpeningInv x) : OpeningInv y.state := by
  cases h with
  | unreachable => exact hx
  | write hph =>
    have hc : _ := hph.symm.imp And.left id
    exact hx.written hc (by rcases hc with rfl | rfl <;> simp [Phase.Opening])
  | settle | blocked | failed | retry =>
    exact hx.written (.inl rfl) (by simp [Phase.Opening])
  | wait | waitError => exact hx.awaited
  | soError _ hr =>
    rcases hr with rfl | rfl
    · exact ⟨hx.once, hx.writes, by simp, hx.opening, hx.progress, hx.completed⟩
    · exact ⟨hx.once, hx.writes, by simp, hx.opening, hx.progress, hx.completed⟩
  | @soNone s h hw =>
    -- the readiness that let the query pass is newer than `EINPROGRESS`
    have ha : authorised h = true ∨ writableSince h = true :=
      (hx.progress s rfl rfl).imp id fun hp => hp.2 hw
    have hc : authorised (queried s.fd (.ok none)
        (.pollWriteReady cx s.fd (.ready (.ok ())) :: h)) = true := by
      show (counted h || (writableSince h || confirmed h)) = true
      rcases ha with ha | ha
      · rw [authorised, Bool.or_eq_true] at ha
        rcases ha with ha | ha <;> simp [ha]
      · simp [ha]
    exact ⟨hx.once, hx.writes, by simp, by simp [Phase.Opening], by simp, fun _ => hc⟩
  | sendCount => exact hx.awaited.accepted (.inr rfl) (by simp) rfl (.inl ⟨rfl, rfl⟩)
  | sendProgress => exact hx.awaited.accepted (.inr rfl) (by simp) rfl (.inr ⟨rfl, rfl, rfl⟩)
  | sendBlocked _ he | sendError _ he => exact hx.awaited.sendRefused he
  | openCount =>
    refine ((openingInv_idle _).wakeReader _ _ _).mpr (((openingInv_idle _).registered _ _).mpr ?_)
    exact hx.accepted (.inl rfl) (by simp) rfl (.inl ⟨rfl, rfl⟩)
  | openProgress =>
    refine ((openingInv_idle _).wakeReader _ _ _).mpr (((openingInv_idle _).registered _ _).mpr ?_)
    exact hx.accepted (.inl rfl) (by simp) rfl (.inr ⟨rfl, rfl, rfl⟩)
  | openCountLost | openProgressLost => exact hx.lost (by simp) rfl
  | openError he => exact hx.refused (.inl rfl) (by simp) rfl (by simp [Event.progresses, he]) rfl

theorem openingInv_invariant : Invariant env (OpeningInv (p := p)) := by
  refine .of_idle openingInv_idle ?_ ?_ fun cx buf x hx => (body_iter env cx buf x).openingInv hx
  · rintro st socket addr reader reader' h ⟨h₁, h₂, h₃, h₄, h₅, h₆⟩
    exact ⟨h₁, h₂, fun _ _ _ _ => h₃ _ _ _ rfl, fun ho => .inl ((h₄ ho).resolve_right (by simp)),
      by simp, h₆⟩
  · rintro st s h ⟨h₁, h₂, h₃, h₄, h₅, h₆⟩
    refine ⟨h₁, h₂, by simp, fun ho => .inl ((h₄ ho).resolve_right (by simp)),
      fun s' hs _ => ?_, h₆⟩
    rcases h₅ s hs rfl with ha | ⟨hp, -⟩
    · exact .inl ha
    · exact .inr ⟨hp, fun _ => by simp [writableSince, hp]⟩

/-! ## The order of the phases -/

/-- Opening states come first, then `FastOpenConnecting`, `Connected` and `Established`. -/
def rank : Phase p → ℕ
  | .fastOpenConnect | .fastOpenWrite => 0
  | .fastOpenConnecting => 1
  | .connected => 2
  | .established => 3

/-- How the phases of an iteration follow each other. -/
structure PhaseOrder (ph ph' : Phase p) : Prop where
  opening : ph'.Opening → ph.Opening
  rank_le : p.settles = false → rank ph ≤ rank ph'
  established : ph = .established → ph' = .established

theorem PhaseOrder.rfl {ph : Phase p} : PhaseOrder ph ph := ⟨id, fun _ => Nat.le_refl _, id⟩

theorem Iter.phaseOrder {cx : Waker} {buf : Bytes} {x : Handshake p × Trace}
    {y : Loop.Step (Handshake p × Trace) (Outcome (Poll (Result ℕ)))} (h : Iter env cx buf x y) :
    PhaseOrder x.1.state y.state.1.state := by
  cases h <;> constructor <;> simp_all [Loop.Step.state, Phase.Opening, rank]

theorem Moves.phaseOrder {x y : Handshake p × Trace} (h : Moves env x y) :
    PhaseOrder x.1.state y.1.state := by
  cases h with
  | @iterate cx buf x =>
    have hd : (deliver env x).1.state = x.1.state := by
      rcases @deliver_cases _ _ _ env x with hd | ⟨st, s, t, rfl, hd⟩ <;> rw [hd]
    have := (body_iter env cx buf (deliver env x)).phaseOrder
    rwa [hd] at this
  | call hc hp =>
    rcases performs_cases hp with ⟨cx, buf, r, hc', -⟩ | ho
    · rw [hc] at hc'
      cases hc'
    · have hs : y.1.state = x.1.state := by cases ho <;> rfl
      rw [hs]
      exact .rfl

end Handshake

/-! ## The three modules -/

/-- What holds in a reached state: the events came in order; after an accepted opening call the
stream is in an opening state only if the hand-over has lost it; and no move re-enters an opening
state. -/
structure OpeningOrdered {S : Type} [SysTcpStream S] [UnixTcpStream S] (env : Env) (y : S × Trace) :
    Prop where
  once : openedOnce y.2 = true
  writes : writesAuthorised y.2 = true
  opening : counted y.2 = true ∨ inProgress y.2 = true → (UnixTcpStream.phase y.1).Opening →
    (UnixTcpStream.view y.1).stream = .empty
  reentered : ∀ z, Moves env y z → (UnixTcpStream.phase z.1).Opening →
    (UnixTcpStream.phase y.1).Opening

theorem Unix.openingOrdered {S : Type} [SysTcpStream S] [SysConnect S] [UnixTcpStream S]
    [UnixConnect S] {env : Env} {x₀ : TfoStream S × Trace} {y : S × Trace} (hx₀ : Client env x₀)
    (h : Reached env x₀ y) : OpeningOrdered env y := by
  have h₀ := (UnixConnect.opening hx₀).openingInv
  have hy := Handshake.openingInv_invariant.reached h₀ (UnixTcpStream.reached_view env h)
  refine ⟨hy.once, hy.writes, fun hc ho => ?_, fun z hz => ?_⟩
  · rcases hy.opening ho with ⟨h₁, h₂⟩ | he
    · have h₁ : counted y.2 = false := h₁
      have h₂ : inProgress y.2 = false := h₂
      simp [h₁, h₂] at hc
    · exact he
  · exact (Handshake.Moves.phaseOrder (UnixTcpStream.moves_view env hz)).opening

/-- **The opening handshake of a client** on Linux, FreeBSD and macOS. -/
theorem opening_ordered :
    (∀ (env : Env) (x₀ : TfoStream Linux.TcpStream × Trace) (y : Linux.TcpStream × Trace),
      Client env x₀ → Reached env x₀ y → OpeningOrdered env y ∧
        ∀ z, Moves env y z → Handshake.rank (UnixTcpStream.phase y.1) ≤
          Handshake.rank (UnixTcpStream.phase z.1)) ∧
    (∀ (env : Env) (x₀ : TfoStream FreeBsd.TcpStream × Trace) (y : FreeBsd.TcpStream × Trace),
      Client env x₀ → Reached env x₀ y → OpeningOrdered env y ∧
        ∀ z, Moves env y z → y.1.state = .established → z.1.state = .established) ∧
    ∀ (env : Env) (x₀ : TfoStream MacOs.TcpStream × Trace) (y : MacOs.TcpStream × Trace),
      Client env x₀ → Reached env x₀ y → OpeningOrdered env y ∧
        ∀ z, Moves env y z → y.1.state = .established → z.1.state = .established := by
  refine ⟨?_, ?_, ?_⟩
  · intro env x₀ y hx₀ h
    refine ⟨Unix.openingOrdered hx₀ h, fun z hz => ?_⟩
    exact (Handshake.Moves.phaseOrder (UnixTcpStream.moves_view env hz)).rank_le rfl
  · intro env x₀ y hx₀ h
    refine ⟨Unix.openingOrdered hx₀ h, fun z hz hy => ?_⟩
    have hp := (Handshake.Moves.phaseOrder (UnixTcpStream.moves_view env hz)).established
      (congrArg FreeBsd.phase hy)
    obtain ⟨⟨st, o⟩, t⟩ := z
    cases st <;> first | rfl | cases hp
  · intro env x₀ y hx₀ h
    refine ⟨Unix.openingOrdered hx₀ h, fun z hz hy => ?_⟩
    have hp := (Handshake.Moves.phaseOrder (UnixTcpStream.moves_view env hz)).established
      (congrArg MacOs.phase hy)
    obtain ⟨⟨i, st⟩, t⟩ := z
    cases st <;> first | rfl | cases hp

/-- An ordinary write was made. -/
def submits (h : Trace) : Bool := h.any fun e => e matches .pollWrite ..

/-- The theorem at the first write of three clients, and after the second one of four whose
handshake takes until then: an ordinary write was made, after `SO_ERROR` was found clear. -/
theorem opening_ordered_first_write :
    OpeningOrdered default (stateAfter default 1 [.pollWrite ⟨1, 1⟩ [7]] Linux.client) ∧
    OpeningOrdered default (stateAfter default 1 [.pollWrite ⟨1, 1⟩ [7]] FreeBsd.client) ∧
    OpeningOrdered default (stateAfter default 1 [.pollWrite ⟨1, 1⟩ [7]] MacOs.client) ∧
    (let y := stateAfter slowHandshake 3 twoWrites Linux.client
     OpeningOrdered slowHandshake y ∧ confirmed y.2 = true ∧ submits y.2 = true) ∧
    (let y := stateAfter slowHandshake 3 twoWrites Linux.fastClient
     OpeningOrdered slowHandshake y ∧ confirmed y.2 = true ∧ submits y.2 = true) ∧
    (let y := stateAfter slowHandshake 3 twoWrites FreeBsd.client
     OpeningOrdered slowHandshake y ∧ confirmed y.2 = true ∧ submits y.2 = true) ∧
    let y := stateAfter slowHandshake 3 twoWrites MacOs.client
    OpeningOrdered slowHandshake y ∧ confirmed y.2 = true ∧ submits y.2 = true := by
  obtain ⟨hl, hf, hm⟩ := opening_ordered
  refine ⟨?_, ?_, ?_, ⟨?_, by decide⟩, ⟨?_, by decide⟩, ⟨?_, by decide⟩, ⟨?_, by decide⟩⟩
  · exact (hl default _ _ Linux.client_connects (reached_stateAfter ..)).1
  · exact (hf default _ _ (FreeBsd.client_connects rfl) (reached_stateAfter ..)).1
  · exact (hm default _ _ (MacOs.client_connects rfl rfl rfl) (reached_stateAfter ..)).1
  · exact (hl slowHandshake _ _ Linux.client_connects (reached_stateAfter ..)).1
  · exact (hl slowHandshake _ _ (Linux.fastClient_connects rfl rfl) (reached_stateAfter ..)).1
  · exact (hf slowHandshake _ _ (FreeBsd.client_connects rfl) (reached_stateAfter ..)).1
  · exact (hm slowHandshake _ _ (MacOs.client_connects rfl rfl rfl) (reached_stateAfter ..)).1

end TokioTfo
