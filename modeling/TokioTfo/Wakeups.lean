/-
  The wake-ups of readers, across the deferred connect.

  While a stream is connecting, `poll_read` parks its waker in the reader slot, and
  the write that hands the socket over to tokio wakes it, unless it is the waker of
  the writer itself.  Tokio keeps one waker for each direction, that of the last poll
  it has told to wait, until the reactor wakes it.

  * `Turn`: what an iteration of `poll_write` does to the reader slot.
  * `Written`: the same for a whole call of `poll_write`.
  * `kept_cons`: which events lose a task that is registered with tokio.
  * `wakesReaders_iff`: no wake-up is lost iff every write that opens the connection
    manages to hand the socket over, and, if the parked waker is its own, is told by
    tokio to wait, so that the waker is registered; and no poll that is told to wait
    takes the place of another task that waits to read (`Rewaits`).
-/
import TokioTfo.Starts
import TokioTfo.Handshake.Iteration
import TokioTfo.Windows.Iteration

namespace TokioTfo

/-! ## Events of a call -/

/-- The waker `w` is woken. -/
def Event.wakes (w : Waker) : Event → Bool
  | wake w' => w' == w
  | _ => false

/-- Tokio returns `Pending`, and has registered a waker that `w` would wake. -/
def Event.registers (w : Waker) : Event → Bool
  | pollRead cx _ .pending | pollWrite cx _ _ .pending | pollWriteReady cx _ .pending =>
    w.willWake cx
  | _ => false

/-- The opening call succeeds, or is in progress. -/
def Event.accepts : Event → Bool
  | sendto _ _ _ _ (.ok _) | sendto _ _ _ _ (.error .EINPROGRESS) => true
  | connectEx _ _ _ (.ok _) | connectEx _ _ _ (.error .WSA_IO_PENDING) => true
  | _ => false

/-- The socket is handed over to tokio. -/
def Event.handsOver : Event → Bool
  | fromStd _ (.ok ()) => true
  | _ => false

/-- An event with `p` has happened since the last call began. -/
def inCall (p : Event → Bool) : Trace → Bool
  | [] | .call _ :: _ => false
  | e :: h => p e || inCall p h

/-- The waker that tokio holds for reading: that of the last poll it has told to wait, until the
reactor wakes it. -/
def readWaker : Trace → Option Waker
  | [] | .readEvent :: _ => none
  | .pollRead cx _ .pending :: _ => some cx
  | _ :: h => readWaker h

/-- The one it holds for writing. -/
def writeWaker : Trace → Option Waker
  | [] | .writeEvent :: _ => none
  | .pollWrite cx _ _ .pending :: _ | .pollWriteReady cx _ .pending :: _ => some cx
  | _ :: h => writeWaker h

/-- The waker, if there is one, wakes the task `k`. -/
def wakesTask (k : ℕ) (w : Option Waker) : Bool := w.any fun w => w.task == k

/-- The task `k` has a waker registered with tokio. -/
def registeredTask (k : ℕ) (h : Trace) : Bool :=
  wakesTask k (readWaker h) || wakesTask k (writeWaker h)

/-- The last `poll_read` of the task `k` has returned `Pending`, and the task was not woken since it
began, by the stream or by the reactor. -/
def waiting (k : ℕ) : Trace → Bool
  | [] => false
  | .call (.pollRead cx _) :: h => cx.task == k || waiting k h
  | .ret (.pollRead cx _) o :: h =>
    (o == .returned (.read .pending) || cx.task != k) && waiting k h
  | .wake w :: h => w.task != k && waiting k h
  | .readEvent :: h => !wakesTask k (readWaker h) && waiting k h
  | .writeEvent :: h => !wakesTask k (writeWaker h) && waiting k h
  | _ :: h => waiting k h

/-- The waker `cx` takes the place of one of another task that waits to read, and is not the `other`
waker that tokio holds. -/
def takesPlace (cx : Waker) (old other : Option Waker) (h : Trace) : Bool :=
  old.any fun w => w.task != cx.task && waiting w.task h && !wakesTask w.task other

/-- Tokio tells a poll to wait, and loses a task that waits to read. -/
def Event.displaces (h : Trace) : Event → Bool
  | pollRead cx _ .pending => takesPlace cx (readWaker h) (writeWaker h) h
  | pollWrite cx _ _ .pending | pollWriteReady cx _ .pending =>
    takesPlace cx (writeWaker h) (readWaker h) h
  | _ => false

/-- This has happened since the last call began. -/
def displaced : Trace → Bool
  | [] | .call _ :: _ => false
  | e :: h => e.displaces h || displaced h

/-- The waker of the last `poll_read` that returned `Pending`. -/
def lastPending : Trace → Option Waker
  | [] => none
  | .ret (.pollRead cx _) (.returned (.read .pending)) :: _ => some cx
  | _ :: h => lastPending h

/-- Events that none of these look at. -/
def Event.Silent : Event → Prop
  | call _ | ret .. | wake _ | readEvent | writeEvent => False
  | pollRead _ _ .pending | pollWrite _ _ _ .pending | pollWriteReady _ _ .pending => False
  | sendto _ _ _ _ (.ok _) | sendto _ _ _ _ (.error .EINPROGRESS) => False
  | connectEx _ _ _ (.ok _) | connectEx _ _ _ (.error .WSA_IO_PENDING) => False
  | fromStd _ (.ok ()) => False
  | _ => True

/-! ## One iteration -/

/-- What an iteration of `poll_write` does to the stream option, and which of these events it
makes; `r` is what it returns, or `none` if it goes round again. -/
inductive Turn (cx : Waker) : TcpStreamOption × Trace → Option (Outcome (Poll (Result ℕ))) →
    TcpStreamOption × Trace → Prop
  /-- It returns without a change. -/
  | refuse {o : TcpStreamOption} {h : Trace} {r : Outcome (Poll (Result ℕ))} (es : Trace) :
      (∀ e ∈ es, e.Silent) → r ≠ .returned .pending → Turn cx (o, h) (some r) (o, es ++ h)
  /-- It works on the tokio stream. -/
  | work {s s' : TokioTcpStream} {h : Trace} {r : Option (Outcome (Poll (Result ℕ)))} (es : Trace) :
      (∀ e ∈ es, e.Silent) → r ≠ some (.returned .pending) →
      Turn cx (.connected s, h) r (.connected s', es ++ h)
  /-- It waits for the tokio stream. -/
  | wait {s s' : TokioTcpStream} {h : Trace} {e : Event} :
      (∃ fd, e = .pollWriteReady cx fd .pending ∨ ∃ buf, e = .pollWrite cx fd buf .pending) →
      Turn cx (.connected s, h) (some (.returned .pending)) (.connected s', e :: h)
  /-- It opens the connection, and tokio gets the socket, or not. -/
  | handOver {socket : TcpSocket} {addr : SocketAddr} {reader : Option Waker} {h : Trace}
      {r : Option (Outcome (Poll (Result ℕ)))} {e : Event} (es : Trace) : e.accepts = true →
      (∀ e ∈ es, e.Silent) → r ≠ some (.returned .pending) →
      Turn cx (.connecting socket addr reader, h) r
        (.connected ⟨socket.fd, false⟩, wakeReader reader cx (registered socket.fd (es ++ e :: h)))
  | lose {socket : TcpSocket} {addr : SocketAddr} {reader : Option Waker} {h : Trace}
      {r : Outcome (Poll (Result ℕ))} {e : Event} (es : Trace) : e.accepts = true →
      (∀ e ∈ es, e.Silent) → r ≠ .returned .pending →
      Turn cx (.connecting socket addr reader, h) (some r) (.empty, es ++ e :: h)

theorem Handshake.Iter.turn {p : Profile} {env : Env} {cx : Waker} {buf : Bytes}
    {x : Handshake p × Trace} {y : Loop.Step (Handshake p × Trace) (Outcome (Poll (Result ℕ)))}
    (h : Iter env cx buf x y) :
    Turn cx (x.1.stream, x.2) y.result (y.state.1.stream, y.state.2) := by
  cases h with
  | @write _ _ _ _ r =>
    rcases r with (e | n) | _
    · exact .work [_] (by simp [Event.Silent]) (by simp)
    · exact .work [_] (by simp [Event.Silent]) (by simp)
    · exact .wait ⟨_, .inr ⟨_, rfl⟩⟩
  | wait => exact .wait ⟨_, .inl rfl⟩
  | blocked => exact .wait ⟨_, .inr ⟨_, rfl⟩⟩
  | openCount => exact .handOver [] rfl (by simp) (by simp)
  | openProgress => exact .handOver [] rfl (by simp) (by simp)
  | openCountLost | openProgressLost =>
    exact .lose [_, _, _, _] rfl (by simp [Event.Silent]) (by simp)
  | openError he => exact .refuse [_] (by simp [Event.Silent, he]) (by simp)
  | unreachable => exact .refuse [] (by simp) (by simp)
  | settle | failed | retry | waitError =>
    exact .work [_] (by simp [Event.Silent]) (by simp)
  | sendCount | sendProgress | sendBlocked | sendError =>
    exact .work [_, _] (by simp [Event.Silent]) (by simp)
  | soError | soNone => exact .work [_, _, _, _] (by simp [Event.Silent]) (by simp)

theorem Windows.Iter.turn {env : Env} {cx : Waker} {buf : Bytes} {x : TcpStream × Trace}
    {y : Loop.Step (TcpStream × Trace) (Outcome (Poll (Result ℕ)))} (h : Iter env cx buf x y) :
    Turn cx (x.1.stream, x.2) y.result (y.state.1.stream, y.state.2) := by
  cases h with
  | @write _ _ _ r =>
    rcases r with (e | n) | _
    · exact .work [_] (by simp [Event.Silent]) (by simp)
    · exact .work [_] (by simp [Event.Silent]) (by simp)
    · exact .wait ⟨_, .inr ⟨_, rfl⟩⟩
  | wait => exact .wait ⟨_, .inl rfl⟩
  | openCount => exact .handOver [_] rfl (by simp [Event.Silent]) (by simp)
  | openPending => exact .handOver [] rfl (by simp) (by simp)
  | openContextLost => exact .lose [_, _] rfl (by simp [Event.Silent]) (by simp)
  | openCountLost => exact .lose [_, _, _, _, _] rfl (by simp [Event.Silent]) (by simp)
  | openPendingLost => exact .lose [_, _, _, _] rfl (by simp [Event.Silent]) (by simp)
  | openError he => exact .refuse [_] (by simp [Event.Silent, he]) (by simp)
  | noConnectEx | unreachable => exact .refuse [] (by simp) (by simp)
  | waitError => exact .work [_] (by simp [Event.Silent]) (by simp)
  | incomplete | resultError => exact .work [_, _] (by simp [Event.Silent]) (by simp)
  | contextBlocked | contextError | assertFails =>
    exact .work [_, _, _] (by simp [Event.Silent]) (by simp)
  | soError | complete => exact .work [_, _, _, _, _, _] (by simp [Event.Silent]) (by simp)

/-! ## The events of an iteration -/

section
variable {p : Event → Bool}

theorem inCall_cons {e : Event} (he : ∀ c, e ≠ .call c) (h : Trace) :
    inCall p (e :: h) = (p e || inCall p h) := by
  cases e with
  | call c => exact absurd rfl (he c)
  | _ => rfl

theorem inCall_silent (hp : ∀ e : Event, e.Silent → p e = false) {es : Trace}
    (hes : ∀ e ∈ es, e.Silent) (h : Trace) : inCall p (es ++ h) = inCall p h := by
  induction es with
  | nil => rfl
  | cons e es ih =>
    have he := hes e (List.mem_cons_self ..)
    have ih := ih fun e' he' => hes e' (List.mem_cons_of_mem _ he')
    have hpe := hp e he
    cases e <;> first | exact he.elim | simpa [inCall, hpe] using ih

theorem inCall_wakeReader (hp : ∀ w, p (.wake w) = false) (reader : Option Waker) (cx : Waker)
    (h : Trace) : inCall p (wakeReader reader cx h) = inCall p h := by
  rcases wakeReader_cases reader cx h with hw | ⟨w, hw⟩ <;> rw [hw]
  simp [inCall, hp]

theorem wakes_silent (w : Waker) (e : Event) (he : e.Silent) : e.wakes w = false := by
  cases e <;> first | rfl | exact he.elim

theorem registers_silent (w : Waker) (e : Event) (he : e.Silent) : e.registers w = false := by
  unfold Event.registers
  split <;> first | rfl | exact he.elim

theorem accepts_silent (e : Event) (he : e.Silent) : e.accepts = false := by
  unfold Event.accepts
  split <;> first | rfl | exact he.elim

theorem handsOver_silent (e : Event) (he : e.Silent) : e.handsOver = false := by
  unfold Event.handsOver
  split <;> first | rfl | exact he.elim

theorem inCall_wakes_wakeReader (w : Waker) (reader : Option Waker) (cx : Waker) (h : Trace) :
    inCall (Event.wakes w) (wakeReader reader cx h) = true ↔
      reader = some w ∧ w.willWake cx = false ∨ inCall (Event.wakes w) h = true := by
  unfold wakeReader
  cases reader with
  | none => simp
  | some w' =>
    by_cases hw : w'.willWake cx = true
    · simp only [hw, if_true, Option.some.injEq]
      constructor
      · exact .inr
      · rintro (⟨rfl, hf⟩ | h)
        · rw [hw] at hf
          cases hf
        · exact h
    · simp only [hw, Bool.false_eq_true, if_false, inCall, Event.wakes, Bool.or_eq_true, beq_iff_eq,
        Option.some.injEq]
      constructor
      · rintro (rfl | h)
        · exact .inl ⟨rfl, by simpa using hw⟩
        · exact .inr h
      · rintro (⟨rfl, -⟩ | h)
        · exact .inl rfl
        · exact .inr h

end

/-- A task that waits has waited before, unless its `poll_read` has just begun. -/
theorem waiting_of_cons {e : Event} (he : ∀ c, e ≠ .call c) {k : ℕ} {h : Trace}
    (hw : waiting k (e :: h) = true) : waiting k h = true := by
  unfold waiting at hw
  split at hw <;> simp_all

/-- `h'` is `h` with more events, none of them the beginning or the end of a call. -/
def Extends (h h' : Trace) : Prop :=
  ∃ es, (∀ e ∈ es, (∀ c, e ≠ .call c) ∧ ∀ c o, e ≠ .ret c o) ∧ h' = es ++ h

namespace Extends

theorem refl (h : Trace) : Extends h h := ⟨[], by simp, rfl⟩

theorem trans {h₁ h₂ h₃ : Trace} (h : Extends h₁ h₂) (h' : Extends h₂ h₃) : Extends h₁ h₃ := by
  obtain ⟨es, hes, rfl⟩ := h
  obtain ⟨es', hes', rfl⟩ := h'
  refine ⟨es' ++ es, fun e he => ?_, by simp⟩
  rcases List.mem_append.1 he with he | he
  · exact hes' e he
  · exact hes e he

theorem cons {e : Event} (hc : ∀ c, e ≠ .call c) (hr : ∀ c o, e ≠ .ret c o) (h : Trace) :
    Extends h (e :: h) :=
  ⟨[e], by simpa using ⟨hc, hr⟩, rfl⟩

theorem quiet {es : Trace} (hes : ∀ e ∈ es, e.Quiet) (h : Trace) : Extends h (es ++ h) := by
  refine ⟨es, fun e he => ?_, rfl⟩
  have hq := hes e he
  constructor
  · rintro c rfl
    exact hq
  · rintro c o rfl
    exact hq

theorem silent {es : Trace} (hes : ∀ e ∈ es, e.Silent) (h : Trace) : Extends h (es ++ h) := by
  refine ⟨es, fun e he => ?_, rfl⟩
  have hs := hes e he
  constructor
  · rintro c rfl
    exact hs
  · rintro c o rfl
    exact hs

theorem wakeReader (reader : Option Waker) (cx : Waker) (h : Trace) :
    Extends h (wakeReader reader cx h) := by
  rcases wakeReader_cases reader cx h with hw | ⟨w, hw⟩ <;> rw [hw]
  · exact refl h
  · exact cons (by simp) (by simp) h

theorem deliverRead (env : Env) (h : Trace) : Extends h (deliverRead env h) := by
  rcases deliverRead_cases env h with hd | hd <;> rw [hd]
  · exact refl h
  · exact cons (by simp) (by simp) h

theorem registered (fd : Fd) (h : Trace) : Extends h (registered fd h) :=
  ⟨[_, _, _], by simp, rfl⟩

theorem waiting {h h' : Trace} (hh : Extends h h') {k : ℕ} (hw : waiting k h' = true) :
    waiting k h = true := by
  obtain ⟨es, hes, rfl⟩ := hh
  induction es with
  | nil => exact hw
  | cons e es ih =>
    have he := (hes e (List.mem_cons_self ..)).1
    exact ih (fun e' he' => hes e' (List.mem_cons_of_mem _ he')) (waiting_of_cons he hw)

theorem lastPending {h h' : Trace} (hh : Extends h h') : lastPending h' = lastPending h := by
  obtain ⟨es, hes, rfl⟩ := hh
  induction es with
  | nil => rfl
  | cons e es ih =>
    obtain ⟨-, hr⟩ := hes e (List.mem_cons_self ..)
    rw [← ih fun e' he' => hes e' (List.mem_cons_of_mem _ he')]
    cases e with
    | ret c o => exact absurd rfl (hr c o)
    | _ => rfl

end Extends

/-- A task that was woken in the call does not wait. -/
theorem not_waiting {w : Waker} {h : Trace} (hw : inCall (Event.wakes w) h = true) :
    waiting w.task h = false := by
  induction h with
  | nil => rfl
  | cons e h ih =>
    by_contra hwait
    have hwait : waiting w.task (e :: h) = true := by simpa using hwait
    have he : ∀ c, e ≠ .call c := by
      rintro c rfl
      simp [inCall] at hw
    rw [inCall_cons he, Bool.or_eq_true] at hw
    rcases hw with h₁ | h₂
    · unfold Event.wakes at h₁
      split at h₁
      · obtain rfl := beq_iff_eq.1 h₁
        simp [waiting] at hwait
      · cases h₁
    · have hold := waiting_of_cons he hwait
      rw [ih h₂] at hold
      cases hold

/-! ## Tasks that are registered with tokio -/

/-- Tokio holds no waker. -/
def Unheld (h : Trace) : Prop := readWaker h = none ∧ writeWaker h = none

/-- Every task that waits, but perhaps `j`, is registered with tokio. -/
def Kept (j : Option ℕ) (h : Trace) : Prop :=
  ∀ k, k ∉ j → waiting k h = true → registeredTask k h = true

/-- The events that change nothing about the wakers of tokio. -/
def Event.Calm : Event → Prop
  | call _ | readEvent | writeEvent => False
  | pollRead _ _ .pending | pollWrite _ _ _ .pending | pollWriteReady _ _ .pending => False
  | _ => True

theorem Event.Silent.calm {e : Event} (he : e.Silent) : e.Calm := by
  unfold Event.Silent at he
  unfold Event.Calm
  split <;> trivial

theorem Event.Quiet.calm {e : Event} (he : e.Quiet) : e.Calm := by
  unfold Event.Quiet at he
  unfold Event.Calm
  split <;> trivial

theorem Event.Setup.calm {e : Event} (he : e.Setup) : e.Calm := by
  unfold Event.Setup at he
  unfold Event.Calm
  split <;> trivial

/-- `h'` is `h` with more events, and tokio holds the same wakers. -/
structure SameWakers (h h' : Trace) : Prop where
  read : readWaker h' = readWaker h
  write : writeWaker h' = writeWaker h
  displaced : displaced h' = displaced h

namespace SameWakers
variable {h h' h₁ h₂ h₃ : Trace}

theorem refl (h : Trace) : SameWakers h h := ⟨rfl, rfl, rfl⟩

theorem trans (h : SameWakers h₁ h₂) (h' : SameWakers h₂ h₃) : SameWakers h₁ h₃ :=
  ⟨h'.read.trans h.read, h'.write.trans h.write, h'.displaced.trans h.displaced⟩

theorem cons {e : Event} (he : e.Calm) (h : Trace) : SameWakers h (e :: h) := by
  cases e with
  | call | readEvent | writeEvent => exact he.elim
  | pollRead cx fd r =>
    cases r with
    | ready => exact ⟨rfl, rfl, rfl⟩
    | pending => exact he.elim
  | pollWriteReady cx fd r =>
    cases r with
    | ready => exact ⟨rfl, rfl, rfl⟩
    | pending => exact he.elim
  | pollWrite cx fd buf r =>
    cases r with
    | ready => exact ⟨rfl, rfl, rfl⟩
    | pending => exact he.elim
  | _ => exact ⟨rfl, rfl, rfl⟩

theorem append {es : Trace} (hes : ∀ e ∈ es, e.Calm) (h : Trace) : SameWakers h (es ++ h) := by
  induction es with
  | nil => exact refl h
  | cons e es ih =>
    exact (ih fun e' he' => hes e' (List.mem_cons_of_mem _ he')).trans
      (cons (hes e (List.mem_cons_self ..)) _)

theorem silent {es : Trace} (hes : ∀ e ∈ es, e.Silent) (h : Trace) : SameWakers h (es ++ h) :=
  append (fun e he => (hes e he).calm) h

theorem registered (fd : Fd) (h : Trace) : SameWakers h (registered fd h) :=
  have hes : ∀ e ∈ [Event.fromStd fd (.ok ()), .handle (.fromRawFd fd), .handle (.intoRawFd fd)],
      e.Calm := by simp [Event.Calm]
  append hes h

theorem wakeReader (reader : Option Waker) (cx : Waker) (h : Trace) :
    SameWakers h (wakeReader reader cx h) := by
  rcases wakeReader_cases reader cx h with hw | ⟨w, hw⟩ <;> rw [hw]
  · exact refl h
  · exact cons (e := .wake w) trivial h

theorem unheld (hh : SameWakers h h') (hu : Unheld h) : Unheld h' :=
  ⟨hh.read.trans hu.1, hh.write.trans hu.2⟩

theorem registeredTask (hh : SameWakers h h') (k : ℕ) :
    registeredTask k h' = registeredTask k h := by
  simp only [TokioTfo.registeredTask, hh.read, hh.write]

/-- If nobody starts to wait, everybody stays registered. -/
theorem kept (hh : SameWakers h h') {j : Option ℕ} (hk : Kept j h)
    (hw : ∀ k, waiting k h' = true → waiting k h = true) : Kept j h' := by
  intro k hj hk'
  rw [hh.registeredTask]
  exact hk k hj (hw k hk')

end SameWakers

/-- While tokio holds no waker, a write-readiness event wakes nobody. -/
theorem Unheld.writeEvent {h : Trace} (hh : Unheld h) : Unheld (.writeEvent :: h) := ⟨hh.1, rfl⟩

theorem wakesTask_iff {k : ℕ} {w : Option Waker} :
    wakesTask k w = true ↔ ∃ w', w = some w' ∧ w'.task = k := by
  simp [wakesTask, Option.any_eq_true]

theorem takesPlace_iff {cx : Waker} {old other : Option Waker} {h : Trace} :
    takesPlace cx old other h = true ↔ ∃ w, old = some w ∧ w.task ≠ cx.task ∧
      waiting w.task h = true ∧ wakesTask w.task other = false := by
  simp [takesPlace, Option.any_eq_true, and_assoc]

/-- Who takes no place leaves the waker of a task that waits with tokio. -/
theorem wakesTask_of_takesPlace {cx : Waker} {old other : Option Waker} {h : Trace} {k : ℕ}
    (hp : takesPlace cx old other h = false) (hw : waiting k h = true)
    (hr : wakesTask k old = true ∨ wakesTask k other = true) :
    cx.task = k ∨ wakesTask k other = true := by
  by_contra hn
  obtain ⟨hcx, ho⟩ := not_or.1 hn
  obtain ⟨w, rfl, rfl⟩ := wakesTask_iff.1 (hr.resolve_right ho)
  rw [takesPlace_iff.2 ⟨w, rfl, fun h => hcx h.symm, hw, by simpa using ho⟩] at hp
  cases hp

/-- A poll that displaces nobody keeps everybody registered. -/
theorem Kept.cons {j : Option ℕ} {e : Event} {h : Trace} (hk : Kept j h) (hc : ∀ c, e ≠ .call c)
    (he : e.displaces h = false) : Kept j (e :: h) := by
  intro k hj hw
  have hold := waiting_of_cons hc hw
  have hreg := hk k hj hold
  by_cases hcalm : e.Calm
  · rwa [(SameWakers.cons hcalm h).registeredTask]
  rw [registeredTask, Bool.or_eq_true] at hreg
  unfold Event.Calm at hcalm
  split at hcalm
  · exact absurd rfl (hc _)
  · have hnot : wakesTask k (readWaker h) = false := by
      simp only [waiting, Bool.and_eq_true, Bool.not_eq_true'] at hw
      exact hw.1
    rw [hnot] at hreg
    simpa [registeredTask, readWaker, writeWaker, wakesTask] using hreg
  · have hnot : wakesTask k (writeWaker h) = false := by
      simp only [waiting, Bool.and_eq_true, Bool.not_eq_true'] at hw
      exact hw.1
    rw [hnot] at hreg
    simpa [registeredTask, readWaker, writeWaker, wakesTask] using hreg
  · have := wakesTask_of_takesPlace he hold hreg
    simpa [registeredTask, readWaker, writeWaker, wakesTask] using this
  · have := wakesTask_of_takesPlace he hold hreg.symm
    simpa [registeredTask, readWaker, writeWaker, wakesTask, or_comm] using this
  · have := wakesTask_of_takesPlace he hold hreg.symm
    simpa [registeredTask, readWaker, writeWaker, wakesTask, or_comm] using this
  · exact absurd trivial hcalm

/-- A poll that displaces a task leaves it waiting in vain; but not the task that polls. -/
theorem displaces_iff {j : Option ℕ} {e : Event} {h : Trace}
    (hj : ∀ k ∈ j, ∃ cx fd r, e = .pollRead cx fd r ∧ cx.task = k) (hk : Kept j (e :: h)) :
    e.displaces h = false := by
  by_contra hd
  have hd : e.displaces h = true := by simpa using hd
  have hlost : ∀ {cx : Waker} {old other : Option Waker}, takesPlace cx old other h = true →
      (∀ k ∈ j, cx.task = k) → (∀ k, waiting k (e :: h) = waiting k h) →
      (∀ k, registeredTask k (e :: h) = (cx.task == k || wakesTask k other)) → False := by
    intro cx old other hp hj hw hreg
    obtain ⟨w, -, hne, hwait, hother⟩ := takesPlace_iff.1 hp
    have := hk w.task (fun hw => hne (hj _ hw).symm) ((hw _).trans hwait)
    rw [hreg, hother, Bool.or_false, beq_iff_eq] at this
    exact hne this.symm
  unfold Event.displaces at hd
  split at hd
  · refine hlost hd (fun k hk => ?_) (fun _ => rfl) fun _ => rfl
    obtain ⟨_, _, _, ⟨⟩, hcx⟩ := hj k hk
    exact hcx
  · refine hlost hd (fun k hk => ?_) (fun _ => rfl) fun _ => Bool.or_comm ..
    obtain ⟨_, _, _, ⟨⟩, -⟩ := hj k hk
  · refine hlost hd (fun k hk => ?_) (fun _ => rfl) fun _ => Bool.or_comm ..
    obtain ⟨_, _, _, ⟨⟩, -⟩ := hj k hk
  · cases hd

/-- **Which events lose a task** that is registered with tokio. -/
theorem kept_cons {j : Option ℕ} {e : Event} {h : Trace} (hk : Kept j h) (hc : ∀ c, e ≠ .call c)
    (hj : ∀ k ∈ j, ∃ cx fd r, e = .pollRead cx fd r ∧ cx.task = k) :
    Kept j (e :: h) ↔ e.displaces h = false :=
  ⟨displaces_iff hj, hk.cons hc⟩

/-! ## One call -/

/-- What a call of `poll_write` that starts with the option `o₀` and the parked `reader` has done to
both when it returns `r`. -/
inductive Written (cx : Waker) (reader : Option Waker) (o₀ : TcpStreamOption) :
    Outcome (Poll (Result ℕ)) → TcpStreamOption × Trace → Prop
  | refused {r : Outcome (Poll (Result ℕ))} {h : Trace} : inCall Event.accepts h = false →
      Unheld h → displaced h = false → Written cx reader o₀ r (o₀, h)
  | lost {r : Outcome (Poll (Result ℕ))} {h : Trace} : inCall Event.accepts h = true →
      inCall Event.handsOver h = false → (∀ w, inCall (Event.wakes w) h = false) →
      displaced h = false → r ≠ .returned .pending → Written cx reader o₀ r (.empty, h)
  | opened {r : Outcome (Poll (Result ℕ))} {s : TokioTcpStream} {h : Trace} :
      inCall Event.accepts h = true → inCall Event.handsOver h = true →
      (∀ w, inCall (Event.wakes w) h = true ↔ reader = some w ∧ w.willWake cx = false) →
      (∀ w, inCall (Event.registers w) h = true ↔ r = .returned .pending ∧ w.willWake cx = true) →
      displaced h = false → (r = .returned .pending → writeWaker h = some cx) →
      Written cx reader o₀ r (.connected s, h)

/-- The state of the call before it returns. -/
inductive Writing (cx : Waker) (reader : Option Waker) (o₀ : TcpStreamOption) :
    TcpStreamOption × Trace → Prop
  | before {h : Trace} : (∀ p, inCall p h = false) → Unheld h → displaced h = false →
      Writing cx reader o₀ (o₀, h)
  | opened {s : TokioTcpStream} {h : Trace} :
      inCall Event.accepts h = true → inCall Event.handsOver h = true →
      (∀ w, inCall (Event.wakes w) h = true ↔ reader = some w ∧ w.willWake cx = false) →
      (∀ w, inCall (Event.registers w) h = false) → Unheld h → displaced h = false →
      Writing cx reader o₀ (.connected s, h)

section
variable {cx : Waker} {socket : TcpSocket} {addr : SocketAddr} {reader : Option Waker}
  {x y : TcpStreamOption × Trace}

/-- An accepted opening call does nothing else. -/
theorem accepts_only {e : Event} (he : e.accepts = true) :
    (∀ c, e ≠ .call c) ∧ e.handsOver = false ∧ (∀ w, e.wakes w = false) ∧
      (∀ w, e.registers w = false) ∧ e.Calm := by
  cases e <;>
    simp_all [Event.accepts, Event.handsOver, Event.wakes, Event.registers, Event.Calm]

theorem sameWakers_accepts {es : Trace} {e : Event} (he : e.accepts = true)
    (hes : ∀ e ∈ es, e.Silent) (h : Trace) : SameWakers h (es ++ e :: h) :=
  (SameWakers.cons (accepts_only he).2.2.2.2 h).trans (.silent hes _)

/-- Before the hand-over nothing but the opening call was made. -/
theorem inCall_lost {es h : Trace} {e : Event} (he : e.accepts = true) (hes : ∀ e ∈ es, e.Silent)
    (hh : ∀ p, inCall p h = false) :
    inCall Event.accepts (es ++ e :: h) = true ∧ inCall Event.handsOver (es ++ e :: h) = false ∧
      (∀ w, inCall (Event.wakes w) (es ++ e :: h) = false) ∧
      ∀ w, inCall (Event.registers w) (es ++ e :: h) = false := by
  obtain ⟨hc, ho, hw, hr, -⟩ := accepts_only he
  refine ⟨?_, ?_, fun w => ?_, fun w => ?_⟩
  · rw [inCall_silent accepts_silent hes, inCall_cons hc, he, Bool.true_or]
  · rw [inCall_silent handsOver_silent hes, inCall_cons hc, ho, hh, Bool.or_false]
  · rw [inCall_silent (wakes_silent w) hes, inCall_cons hc, hw, hh, Bool.or_false]
  · rw [inCall_silent (registers_silent w) hes, inCall_cons hc, hr, hh, Bool.or_false]

/-- The hand-over wakes the reader. -/
theorem Writing.of_handOver {fd : Fd} {s : TokioTcpStream} {o₀ : TcpStreamOption} {es h : Trace}
    {e : Event} (he : e.accepts = true) (hes : ∀ e ∈ es, e.Silent) (hh : ∀ p, inCall p h = false)
    (hu : Unheld h) (hd : displaced h = false) :
    Writing cx reader o₀
      (.connected s, wakeReader reader cx (registered fd (es ++ e :: h))) := by
  obtain ⟨h₁, -, h₃, h₄⟩ := inCall_lost he hes hh
  have hsame : SameWakers h (wakeReader reader cx (registered fd (es ++ e :: h))) :=
    ((sameWakers_accepts he hes h).trans (.registered fd _)).trans (.wakeReader reader cx _)
  refine .opened ?_ ?_ (fun w => ?_) (fun w => ?_) (hsame.unheld hu) (hsame.displaced.trans hd)
  · rw [inCall_wakeReader fun _ => rfl]
    simpa [registered, inCall, Event.accepts] using h₁
  · rw [inCall_wakeReader fun _ => rfl]
    simp [registered, inCall, Event.handsOver]
  · rw [inCall_wakes_wakeReader]
    simp [registered, inCall, Event.wakes, h₃]
  · rw [inCall_wakeReader fun _ => rfl]
    simp [registered, inCall, Event.registers, h₄]

/-- Silent events do not matter. -/
theorem Writing.work {s s' : TokioTcpStream} {es h : Trace} (hes : ∀ e ∈ es, e.Silent)
    (hx : Writing cx reader (.connecting socket addr reader) (.connected s, h)) :
    Writing cx reader (.connecting socket addr reader) (.connected s', es ++ h) := by
  cases hx with
  | opened h₁ h₂ h₃ h₄ hu hd =>
    have hsame := SameWakers.silent hes h
    refine .opened ?_ ?_ (fun w => ?_) (fun w => ?_) (hsame.unheld hu) (hsame.displaced.trans hd)
    · rw [inCall_silent accepts_silent hes, h₁]
    · rw [inCall_silent handsOver_silent hes, h₂]
    · rw [inCall_silent (wakes_silent w) hes]
      exact h₃ w
    · rw [inCall_silent (registers_silent w) hes, h₄]

/-- A write-readiness event wakes nobody before the call has waited. -/
theorem Writing.writeEvent {s s' : TokioTcpStream} {h : Trace}
    (hx : Writing cx reader (.connecting socket addr reader) (.connected s, h)) :
    Writing cx reader (.connecting socket addr reader) (.connected s', .writeEvent :: h) := by
  cases hx with
  | opened h₁ h₂ h₃ h₄ hu hd => exact .opened h₁ h₂ h₃ h₄ hu.writeEvent hd

/-- A call that returns without waiting has written. -/
theorem Writing.written {r : Outcome (Poll (Result ℕ))} (hr : r ≠ .returned .pending)
    (hx : Writing cx reader (.connecting socket addr reader) x) :
    Written cx reader (.connecting socket addr reader) r x := by
  cases hx with
  | before hh hu hd => exact .refused (hh _) hu hd
  | opened h₁ h₂ h₃ h₄ _ hd =>
    exact .opened h₁ h₂ h₃ (fun w => by simp [h₄, hr]) hd fun h => absurd h hr

theorem Turn.writing (h : Turn cx x none y)
    (hx : Writing cx reader (.connecting socket addr reader) x) :
    Writing cx reader (.connecting socket addr reader) y := by
  cases h with
  | work es hes _ => exact hx.work hes
  | handOver es he hes _ =>
    cases hx with
    | before hh hu hd => exact .of_handOver he hes hh hu hd

theorem Turn.written {r : Outcome (Poll (Result ℕ))} (h : Turn cx x (some r) y)
    (hx : Writing cx reader (.connecting socket addr reader) x) :
    Written cx reader (.connecting socket addr reader) r y := by
  cases h with
  | @refuse _ t _ es hes hr =>
    cases hx with
    | before hh hu hd =>
      have hsame := SameWakers.silent hes t
      exact .refused (by rw [inCall_silent accepts_silent hes, hh]) (hsame.unheld hu)
        (hsame.displaced.trans hd)
    | @opened s _ h₁ h₂ h₃ h₄ hu hd =>
      have hw : Writing cx reader (.connecting socket addr reader) (.connected s, t) :=
        .opened h₁ h₂ h₃ h₄ hu hd
      exact (hw.work hes).written hr
  | work es hes hr => exact (hx.work hes).written fun h => hr (congrArg some h)
  | wait he =>
    cases hx with
    | opened h₁ h₂ h₃ h₄ hu hd =>
      obtain ⟨fd, rfl | ⟨buf, rfl⟩⟩ := he
      all_goals
        refine .opened h₁ h₂ h₃ (fun w => ?_) ?_ fun _ => rfl
        · simp [inCall, Event.registers, h₄]
        -- tokio holds no other waker for writing
        · simp [displaced, Event.displaces, takesPlace, hu.2, hd]
  | handOver es he hes hr =>
    cases hx with
    | before hh hu hd =>
      exact (Writing.of_handOver he hes hh hu hd).written fun h => hr (congrArg some h)
  | lose es he hes hr =>
    cases hx with
    | before hh hu hd =>
      obtain ⟨h₁, h₂, h₃, -⟩ := inCall_lost he hes hh
      exact .lost h₁ h₂ h₃ ((sameWakers_accepts he hes _).displaced.trans hd) hr

theorem Written.displaced {o₀ : TcpStreamOption} {r : Outcome (Poll (Result ℕ))}
    (h : Written cx reader o₀ r x) : displaced x.2 = false := by
  cases h <;> assumption

end

theorem Turn.extends {cx : Waker} {x y : TcpStreamOption × Trace}
    {r : Option (Outcome (Poll (Result ℕ)))} (h : Turn cx x r y) : Extends x.2 y.2 := by
  have hacc : ∀ {e : Event} {h : Trace}, e.accepts = true → Extends h (e :: h) := by
    intro e h he
    refine .cons (accepts_only he).1 ?_ h
    rintro c o rfl
    cases he
  cases h with
  | refuse es hes _ | work es hes _ => exact .silent hes _
  | wait he =>
    obtain ⟨fd, rfl | ⟨buf, rfl⟩⟩ := he
    · exact .cons (by simp) (by simp) _
    · exact .cons (by simp) (by simp) _
  | handOver es he hes _ =>
    exact (((hacc he).trans (.silent hes _)).trans (.registered _ _)).trans (.wakeReader _ _ _)
  | lose es he hes _ => exact (hacc he).trans (.silent hes _)

theorem Turn.connecting {cx : Waker} {x y : TcpStreamOption × Trace}
    {r : Option (Outcome (Poll (Result ℕ)))} (h : Turn cx x r y)
    (hx : ∀ socket addr reader, x.1 ≠ .connecting socket addr reader) :
    ∀ socket addr reader, y.1 ≠ .connecting socket addr reader := by
  cases h with
  | refuse => exact hx
  | _ => simp

/-- A stream that is not connecting works in silence until the call waits. -/
theorem Turn.silent_or_wait {cx : Waker} {x y : TcpStreamOption × Trace}
    {r : Option (Outcome (Poll (Result ℕ)))} (h : Turn cx x r y)
    (hx : ∀ socket addr reader, x.1 ≠ .connecting socket addr reader) :
    (∃ es : Trace, (∀ e ∈ es, e.Silent) ∧ y.2 = es ++ x.2) ∨
      r = some (.returned .pending) ∧ ∃ e, y.2 = e :: x.2 ∧ ∀ c, e ≠ .call c := by
  cases h with
  | refuse es hes _ | work es hes _ => exact .inl ⟨es, hes, rfl⟩
  | wait he =>
    obtain ⟨fd, rfl | ⟨buf, rfl⟩⟩ := he
    · exact .inr ⟨rfl, _, rfl, by simp⟩
    · exact .inr ⟨rfl, _, rfl, by simp⟩
  | handOver | lose => exact absurd rfl (hx _ _ _)

/-- Everybody who waits is registered with tokio, and nobody was displaced in this call. -/
def Keeping (h : Trace) : Prop := Kept none h ∧ displaced h = false

theorem Keeping.silent {es h : Trace} (hes : ∀ e ∈ es, e.Silent) (hh : Keeping h) :
    Keeping (es ++ h) :=
  have hsame := SameWakers.silent hes h
  ⟨hsame.kept hh.1 fun _ => (Extends.silent hes h).waiting, hsame.displaced.trans hh.2⟩

theorem Keeping.writeEvent {h : Trace} (hh : Keeping h) : Keeping (.writeEvent :: h) :=
  ⟨hh.1.cons (by simp) rfl, hh.2⟩

/-- A poll that is told to wait keeps everybody registered iff it displaces nobody. -/
theorem Keeping.wait {e : Event} {h : Trace} (hh : Keeping h) (he : ∀ c, e ≠ .call c) :
    Kept none (e :: h) ↔ displaced (e :: h) = false := by
  rw [kept_cons hh.1 he (by simp)]
  cases e with
  | call c => exact absurd rfl (he c)
  | _ => simp [displaced, hh.2]

section
variable {σ : Type} [SysTcpStream (LazyTcpStream σ)] [LazyModule σ] {env : Env}

/-- Every iteration of a module is a turn. -/
def Turns (σ : Type) [SysTcpStream (LazyTcpStream σ)] (env : Env) : Prop :=
  ∀ cx buf (x : LazyTcpStream σ × Trace),
    Turn cx (x.1.stream, x.2) (SysTcpStream.pollWriteBody env cx buf x).result
      ((SysTcpStream.pollWriteBody env cx buf x).state.1.stream,
        (SysTcpStream.pollWriteBody env cx buf x).state.2)

variable {cx : Waker} {buf : Bytes} {x x' : LazyTcpStream σ × Trace}
  {r : Outcome (Poll (Result ℕ))}

omit [LazyModule σ] in
theorem Turns.of_body (hturn : Turns σ env)
    {y : Loop.Step (LazyTcpStream σ × Trace) (Outcome (Poll (Result ℕ)))}
    (hb : SysTcpStream.pollWriteBody env cx buf x = y) :
    Turn cx (x.1.stream, x.2) y.result (y.state.1.stream, y.state.2) := by
  subst hb
  exact hturn cx buf x

/-- **A call of `poll_write` from a connecting stream.** -/
theorem pollWrite_written (hturn : Turns σ env) {socket : TcpSocket} {addr : SocketAddr}
    {reader : Option Waker} (hs : x.1.stream = .connecting socket addr reader)
    (hh : ∀ p, inCall p x.2 = false) (hu : Unheld x.2) (hd : displaced x.2 = false)
    (h : PollWriteReturns env cx buf x r x') :
    Written cx reader (.connecting socket addr reader) r (x'.1.stream, x'.2) := by
  refine pollWrite_post
    (I := fun y => Writing cx reader (.connecting socket addr reader) (y.1.stream, y.2))
    (Q := fun r y => Written cx reader (.connecting socket addr reader) r (y.1.stream, y.2))
    ?_ ?_ ?_ ?_ h
  · intro st s h hy
    exact hy.writeEvent
  · intro y z hy hb
    exact (hturn.of_body hb).writing hy
  · intro y r z hy hb
    exact (hturn.of_body hb).written hy
  · rw [hs]
    exact .before hh hu hd

theorem pollWrite_extends (hturn : Turns σ env) (h : PollWriteReturns env cx buf x r x') :
    Extends x.2 x'.2 := by
  refine pollWrite_post (I := fun y => Extends x.2 y.2) (Q := fun _ y => Extends x.2 y.2)
    ?_ ?_ ?_ (.refl _) h
  · intro st s h hy
    exact hy.trans (.cons (by simp) (by simp) _)
  · intro y z hy hb
    exact hy.trans (hturn.of_body hb).extends
  · intro y r z hy hb
    exact hy.trans (hturn.of_body hb).extends

/-- A stream that is not connecting does not start to. -/
theorem pollWrite_connecting (hturn : Turns σ env)
    (hx : ∀ socket addr reader, x.1.stream ≠ .connecting socket addr reader)
    (h : PollWriteReturns env cx buf x r x') :
    ∀ socket addr reader, x'.1.stream ≠ .connecting socket addr reader := by
  refine pollWrite_post
    (I := fun y => ∀ socket addr reader, y.1.stream ≠ .connecting socket addr reader)
    (Q := fun _ y => ∀ socket addr reader, y.1.stream ≠ .connecting socket addr reader)
    ?_ ?_ ?_ hx h
  · simp
  · intro y z hy hb
    exact (hturn.of_body hb).connecting hy
  · intro y r z hy hb
    exact (hturn.of_body hb).connecting hy

/-- **A call of `poll_write` from a stream that is not connecting** keeps everybody registered iff
it displaces nobody. -/
theorem pollWrite_kept (hturn : Turns σ env)
    (hn : ∀ socket addr reader, x.1.stream ≠ .connecting socket addr reader) (hk : Keeping x.2)
    (h : PollWriteReturns env cx buf x r x') : Kept none x'.2 ↔ displaced x'.2 = false := by
  refine pollWrite_post
    (I := fun y => (∀ socket addr reader, y.1.stream ≠ .connecting socket addr reader) ∧
      Keeping y.2)
    (Q := fun _ y => Kept none y.2 ↔ displaced y.2 = false) ?_ ?_ ?_ ⟨hn, hk⟩ h
  · rintro st s t ⟨-, hk⟩
    exact ⟨by simp, hk.writeEvent⟩
  · rintro y z ⟨hn, hk⟩ hb
    have ht := hturn.of_body hb
    refine ⟨ht.connecting hn, ?_⟩
    rcases ht.silent_or_wait hn with ⟨es, hes, hz⟩ | ⟨⟨⟩, -⟩
    rw [show z.2 = es ++ y.2 from hz]
    exact hk.silent hes
  · rintro y r z ⟨hn, hk⟩ hb
    rcases (hturn.of_body hb).silent_or_wait hn with ⟨es, hes, hz⟩ | ⟨-, e, hz, he⟩
    · rw [show z.2 = es ++ y.2 from hz]
      have hz := hk.silent hes
      exact iff_of_true hz.1 hz.2
    · rw [show z.2 = e :: y.2 from hz]
      exact hk.wait he

/-! ## Steps of a run -/

/-- Every task that waits has its waker in the reader slot, or registered with tokio. -/
def Found (x : TfoStream (LazyTcpStream σ) × Trace) : Prop :=
  ∀ k, waiting k x.2 = true →
    (∃ socket addr w, x.1.inner.stream = .connecting socket addr (some w) ∧ w.task = k) ∨
      registeredTask k x.2 = true

/-- While the stream is connecting, the slot holds the waker of the last `poll_read` that returned
`Pending`, and tokio holds none. -/
structure SlotInv (x : TfoStream (LazyTcpStream σ) × Trace) : Prop where
  slot : ∀ socket addr reader, x.1.inner.stream = .connecting socket addr reader →
    lastPending x.2 = reader
  fresh : ∀ socket addr reader, x.1.inner.stream = .connecting socket addr reader → Unheld x.2
  found : Found x

/-- What a call owes to the tasks that have polled for reading. -/
structure WakesReaders (y : Lts.Taken (TfoStream (LazyTcpStream σ) × Trace) Done) : Prop where
  /-- A waker that is replaced is woken, unless it wakes the same task. -/
  replaced : ∀ cx room socket addr w, y.label.call = .pollRead cx room →
    y.pre.1.inner.stream = .connecting socket addr (some w) → w.willWake cx = false →
      inCall (Event.wakes w) y.post.2 = true
  /-- When the stream is no longer connecting, the waker of the last pending `poll_read` was woken,
  or the call is itself pending and has registered it. -/
  opened : ∀ socket addr reader w, y.pre.1.inner.stream = .connecting socket addr reader →
    (∀ socket addr reader, y.post.1.inner.stream ≠ .connecting socket addr reader) →
      lastPending y.pre.2 = some w → inCall (Event.wakes w) y.post.2 = true ∨
        y.label.outcome = .returned (.write .pending) ∧ inCall (Event.registers w) y.post.2 = true
  /-- No task waits in vain. -/
  found : Found y.post

/-- What a call has to do for that. -/
structure Rewaits (y : Lts.Taken (TfoStream (LazyTcpStream σ) × Trace) Done) : Prop where
  /-- If the opening call of a write is accepted while a waker is parked, then the socket is handed
  over, and, if the parked waker would wake the task that writes, tokio returns `Pending` and
  registers it. -/
  handsOver : ∀ socket addr w cx buf, y.pre.1.inner.stream = .connecting socket addr (some w) →
    y.label.call.payload = some (cx, buf) → inCall Event.accepts y.post.2 = true →
      inCall Event.handsOver y.post.2 = true ∧
        (w.willWake cx = true → inCall (Event.registers w) y.post.2 = true)
  /-- When tokio tells the call to wait, it does not lose another task that waits to read. -/
  keeps : displaced y.post.2 = false

omit [SysTcpStream (LazyTcpStream σ)] [LazyModule σ] in
/-- A stream that is not connecting has no slot, so that tokio must hold all wakers. -/
theorem found_iff {x : TfoStream (LazyTcpStream σ) × Trace}
    (hn : ∀ socket addr reader, x.1.inner.stream ≠ .connecting socket addr reader) :
    Found x ↔ Kept none x.2 := by
  constructor
  · intro hx k _ hk
    rcases hx k hk with ⟨socket, addr, w, hs, -⟩ | h
    · exact absurd hs (hn _ _ _)
    · exact h
  · intro hx k hk
    exact .inr (hx k (by simp) hk)

omit [SysTcpStream (LazyTcpStream σ)] [LazyModule σ] in
/-- While the stream is connecting, who waits is parked. -/
theorem SlotInv.parked {x : TfoStream (LazyTcpStream σ) × Trace} (hx : SlotInv x)
    {socket : TcpSocket} {addr : SocketAddr} {reader : Option Waker}
    (hs : x.1.inner.stream = .connecting socket addr reader) {k : ℕ}
    (hk : waiting k x.2 = true) : ∃ w, reader = some w ∧ w.task = k := by
  rcases hx.found k hk with ⟨_, _, w, hs', hw⟩ | hreg
  · rw [hs] at hs'
    cases hs'
    exact ⟨w, rfl, hw⟩
  · obtain ⟨h₁, h₂⟩ := hx.fresh _ _ _ hs
    simp [registeredTask, h₁, h₂, wakesTask] at hreg

omit [SysTcpStream (LazyTcpStream σ)] [LazyModule σ] in
theorem inCall_ret (p : Event → Bool) (hp : ∀ c o, p (.ret c o) = false) (c : Call)
    (o : Outcome Ret) (h : Trace) : inCall p (.ret c o :: h) = inCall p h := by
  simp [inCall, hp]

section
variable {x x' : TfoStream (LazyTcpStream σ) × Trace} {c : Call} {cx : Waker} {buf : Bytes}
  {r : Outcome (Poll (Result ℕ))} {h : Trace}

omit [SysTcpStream (LazyTcpStream σ)] [LazyModule σ] in
theorem waiting_call_write (hc : c.payload = some (cx, buf)) (k : ℕ) (h : Trace) :
    waiting k (.call c :: h) = waiting k h := by
  cases c with
  | pollWrite | pollWriteVectored => rfl
  | _ => cases hc

omit [SysTcpStream (LazyTcpStream σ)] [LazyModule σ] in
theorem waiting_ret_write (hc : c.payload = some (cx, buf)) (o : Outcome Ret) (k : ℕ) (h : Trace) :
    waiting k (.ret c o :: h) = waiting k h := by
  cases c with
  | pollWrite | pollWriteVectored => rfl
  | _ => cases hc

/-- Nobody starts to wait because of a write. -/
theorem waiting_write (hturn : Turns σ env) (hc : c.payload = some (cx, buf))
    (hp : PollWriteReturns env cx buf (x.1.inner, .call c :: x.2) r (x'.1.inner, h))
    (hx' : x'.2 = .ret c (r.map .write) :: h) {k : ℕ} (hw : waiting k x'.2 = true) :
    waiting k h = true ∧ waiting k x.2 = true := by
  rw [hx', waiting_ret_write hc] at hw
  have h₂ := (pollWrite_extends hturn hp).waiting hw
  rw [waiting_call_write hc] at h₂
  exact ⟨hw, h₂⟩

/-- A write to a connecting stream starts with tokio holding no waker. -/
theorem SlotInv.written (hturn : Turns σ env) (hx : SlotInv x)
    {socket : TcpSocket} {addr : SocketAddr} {reader : Option Waker}
    (hs : x.1.inner.stream = .connecting socket addr reader)
    (hp : PollWriteReturns env cx buf (x.1.inner, .call c :: x.2) r (x'.1.inner, h)) :
    Written cx reader (.connecting socket addr reader) r (x'.1.inner.stream, h) :=
  pollWrite_written hturn hs (fun _ => rfl) (hx.fresh _ _ _ hs) rfl hp

/-- A write that leaves the stream connecting leaves the slot as it is. -/
theorem slot_write (hturn : Turns σ env) (hc : c.payload = some (cx, buf))
    (hp : PollWriteReturns env cx buf (x.1.inner, .call c :: x.2) r (x'.1.inner, h))
    (hx' : x'.2 = .ret c (r.map .write) :: h) (hx : SlotInv x) {socket : TcpSocket}
    {addr : SocketAddr} {reader : Option Waker}
    (hs : x'.1.inner.stream = .connecting socket addr reader) :
    lastPending x'.2 = reader ∧ Unheld x'.2 := by
  have hl : lastPending x'.2 = lastPending x.2 := by
    have he : lastPending h = lastPending x.2 := (pollWrite_extends hturn hp).lastPending
    rw [hx', ← he]
    cases c with
    | pollWrite | pollWriteVectored => rfl
    | _ => cases hc
  by_cases hpre : ∃ socket addr reader, x.1.inner.stream = .connecting socket addr reader
  · obtain ⟨socket', addr', reader', hpre⟩ := hpre
    have hw := hx.written hturn hpre hp
    rw [hs] at hw
    cases hw with
    | refused _ hu _ =>
      refine ⟨hl.trans (hx.slot _ _ _ hpre), ?_⟩
      rw [hx']
      exact hu
  · have hne : ∀ socket addr reader, x.1.inner.stream ≠ .connecting socket addr reader :=
      fun socket addr reader h => hpre ⟨socket, addr, reader, h⟩
    exact absurd hs (pollWrite_connecting hturn hne hp _ _ _)

/-- **A write to a connecting stream wakes the readers** iff it hands the socket over and waits if
it must. -/
theorem step_write_connecting (hturn : Turns σ env) (hc : c.payload = some (cx, buf))
    (hp : PollWriteReturns env cx buf (x.1.inner, .call c :: x.2) r (x'.1.inner, h))
    (hx' : x'.2 = .ret c (r.map .write) :: h) (hx : SlotInv x) {socket : TcpSocket}
    {addr : SocketAddr} {reader : Option Waker}
    (hpre : x.1.inner.stream = .connecting socket addr reader) :
    WakesReaders ⟨x, ⟨c, r.map .write⟩, x'⟩ ↔ Rewaits ⟨x, ⟨c, r.map .write⟩, x'⟩ := by
  have hA : inCall Event.accepts x'.2 = inCall Event.accepts h := by
    rw [hx', inCall_ret _ fun _ _ => rfl]
  have hO : inCall Event.handsOver x'.2 = inCall Event.handsOver h := by
    rw [hx', inCall_ret _ fun _ _ => rfl]
  have hW : ∀ w, inCall (Event.wakes w) x'.2 = inCall (Event.wakes w) h := fun w => by
    rw [hx', inCall_ret _ fun _ _ => rfl]
  have hR : ∀ w, inCall (Event.registers w) x'.2 = inCall (Event.registers w) h := fun w => by
    rw [hx', inCall_ret _ fun _ _ => rfl]
  have hw := hx.written hturn hpre hp
  have hD : displaced x'.2 = false := by
    rw [hx']
    exact hw.displaced
  constructor
  · rintro ⟨-, hopened, -⟩
    refine ⟨?_, hD⟩
    intro socket' addr' w cx' buf' hpre' hc' hacc
    obtain ⟨rfl, rfl⟩ : cx = cx' ∧ buf = buf' := by simpa [hc] using hc'
    have hpre' : x.1.inner.stream = _ := hpre'
    rw [hpre] at hpre'
    cases hpre'
    have hopened := hopened socket addr (some w) w hpre
    simp only [hA, hO, hW, hR] at hopened hacc ⊢
    generalize x'.1.inner.stream = o at hw hopened
    cases hw with
    | refused ha =>
      rw [ha] at hacc
      cases hacc
    | lost _ _ hnw _ hr =>
      rcases hopened (by simp) (hx.slot _ _ _ hpre) with hwk | ⟨hpend, -⟩
      · rw [hnw] at hwk
        cases hwk
      · obtain ⟨_, rfl, ⟨⟩⟩ := Outcome.map_eq_returned.mp hpend
        exact absurd rfl hr
    | opened _ ho hwk hreg =>
      refine ⟨ho, fun hsame => ?_⟩
      rcases hopened (by simp) (hx.slot _ _ _ hpre) with hwk' | ⟨-, hreg'⟩
      · rw [((hwk w).1 hwk').2] at hsame
        cases hsame
      · exact hreg'
  · rintro ⟨hre, -⟩
    refine ⟨?_, ?_, ?_⟩
    · rintro cx' room socket addr w rfl
      cases hc
    · intro socket' addr' reader' w hpre' hpost hlast
      have hpre' : x.1.inner.stream = _ := hpre'
      rw [hpre] at hpre'
      cases hpre'
      rw [hx.slot _ _ _ hpre] at hlast
      subst hlast
      have hre := hre socket addr w cx buf hpre hc
      simp only [hA, hO, hW, hR] at hre ⊢
      simp only at hpost
      generalize x'.1.inner.stream = o at hw hpost
      cases hw with
      | refused => exact absurd rfl (hpost _ _ _)
      | lost ha ho _ _ _ =>
        have := (hre ha).1
        rw [ho] at this
        cases this
      | opened ha _ hwk hreg =>
        cases hsame : w.willWake cx with
        | false => exact .inl ((hwk w).2 ⟨rfl, hsame⟩)
        | true =>
          have hreg' := (hre ha).2 hsame
          obtain ⟨rfl, -⟩ := (hreg w).1 hreg'
          exact .inr ⟨rfl, hreg'⟩
    · intro k hk
      obtain ⟨hkh, hkx⟩ := waiting_write hturn hc hp hx' hk
      obtain ⟨w, rfl, rfl⟩ := hx.parked hpre hkx
      have hre := hre socket addr w cx buf hpre hc
      simp only [hA, hO, hR] at hre
      show (∃ socket addr w', x'.1.inner.stream = _ ∧ _) ∨ registeredTask w.task x'.2 = true
      generalize x'.1.inner.stream = o at hw
      cases hw with
      | refused => exact .inl ⟨socket, addr, w, rfl, rfl⟩
      | lost ha ho _ _ =>
        have := (hre ha).1
        rw [ho] at this
        cases this
      | opened ha _ hwk hreg _ hwait =>
        cases hsame : w.willWake cx with
        | false =>
          rw [not_waiting ((hwk w).2 ⟨rfl, hsame⟩)] at hkh
          cases hkh
        | true =>
          obtain ⟨hr, -⟩ := (hreg w).1 ((hre ha).2 hsame)
          obtain rfl : w = cx := by simpa [Waker.willWake] using hsame
          refine .inr ?_
          have hheld : writeWaker x'.2 = some w := by
            rw [hx']
            exact hwait hr
          simp [registeredTask, hheld, wakesTask]

/-- **A write to any other stream** loses no reader iff it displaces none. -/
theorem step_write_connected (hturn : Turns σ env) (hc : c.payload = some (cx, buf))
    (hp : PollWriteReturns env cx buf (x.1.inner, .call c :: x.2) r (x'.1.inner, h))
    (hx' : x'.2 = .ret c (r.map .write) :: h) (hx : SlotInv x)
    (hn : ∀ socket addr reader, x.1.inner.stream ≠ .connecting socket addr reader) :
    WakesReaders ⟨x, ⟨c, r.map .write⟩, x'⟩ ↔ Rewaits ⟨x, ⟨c, r.map .write⟩, x'⟩ := by
  have hn' := pollWrite_connecting hturn hn hp
  have hkeep : Keeping (.call c :: x.2) := by
    refine ⟨fun k hk hw => ?_, rfl⟩
    rw [waiting_call_write hc] at hw
    exact (found_iff hn).1 hx.found k hk hw
  have hfound : Found x' ↔ displaced x'.2 = false := by
    have hret : Kept none x'.2 ↔ Kept none h := by
      simp only [Kept, hx', waiting_ret_write hc]
      rfl
    rw [found_iff hn', hret, pollWrite_kept hturn hn hkeep hp, hx']
    rfl
  constructor
  · rintro ⟨-, -, hf⟩
    exact ⟨fun _ _ _ _ _ hs => absurd hs (hn _ _ _), hfound.1 hf⟩
  · rintro ⟨-, hk⟩
    refine ⟨?_, fun _ _ _ _ hs => absurd hs (hn _ _ _), hfound.2 hk⟩
    rintro _ _ _ _ _ - hs
    exact absurd hs (hn _ _ _)

theorem step_write (hturn : Turns σ env) (hc : c.payload = some (cx, buf))
    (hp : PollWriteReturns env cx buf (x.1.inner, .call c :: x.2) r (x'.1.inner, h))
    (hx' : x'.2 = .ret c (r.map .write) :: h) (hx : SlotInv x) :
    WakesReaders ⟨x, ⟨c, r.map .write⟩, x'⟩ ↔ Rewaits ⟨x, ⟨c, r.map .write⟩, x'⟩ := by
  by_cases hpre : ∃ socket addr reader, x.1.inner.stream = .connecting socket addr reader
  · obtain ⟨socket, addr, reader, hpre⟩ := hpre
    exact step_write_connecting hturn hc hp hx' hx hpre
  · exact step_write_connected hturn hc hp hx' hx fun socket addr reader h =>
      hpre ⟨socket, addr, reader, h⟩

end

omit [SysTcpStream (LazyTcpStream σ)] [LazyModule σ] in
/-- **A read from a connected stream** is registered if it has to wait, and loses nobody iff it
displaces nobody. -/
theorem found_read (env : Env) (st : σ) (s : TokioTcpStream) (cx : Waker) (room : ℕ)
    (r : Poll (Result Bytes)) {t : Trace} (hk : Kept none t) :
    Found (⟨⟨st, .connected s⟩⟩, .ret (.pollRead cx room) (.returned (.read r)) ::
        .pollRead cx s.fd r :: deliverRead env (.call (.pollRead cx room) :: t)) ↔
      displaced (.pollRead cx s.fd r :: deliverRead env (.call (.pollRead cx room) :: t)) =
        false := by
  have hcall : Kept (some cx.task) (.call (.pollRead cx room) :: t) := by
    intro k hj hw
    have hne : cx.task ≠ k := fun h => hj (by simp [h])
    exact hk k (by simp) (by simpa [waiting, hne] using hw)
  have hdel : Kept (some cx.task) (deliverRead env (.call (.pollRead cx room) :: t)) ∧
      displaced (deliverRead env (.call (.pollRead cx room) :: t)) = false := by
    rcases deliverRead_cases env (.call (.pollRead cx room) :: t) with hd | hd <;> rw [hd]
    · exact ⟨hcall, rfl⟩
    · exact ⟨hcall.cons (by simp) rfl, rfl⟩
  generalize deliverRead env (.call (.pollRead cx room) :: t) = h at hdel
  have hiff := kept_cons (e := .pollRead cx s.fd r) hdel.1 (by simp)
    (by simp)
  rw [found_iff (by simp), show displaced (.pollRead cx s.fd r :: h) =
    (Event.displaces h (.pollRead cx s.fd r) || displaced h) from rfl, hdel.2, Bool.or_false,
    ← hiff]
  constructor
  · intro hf k hj hw
    have hne : cx.task ≠ k := fun h => hj (by simp [h])
    exact hf k (by simp) (by simpa [waiting, hne] using hw)
  · intro hf k _ hw
    by_cases hcx : cx.task = k
    · subst hcx
      cases r with
      | ready r => simp [waiting] at hw
      | pending => simp [registeredTask, readWaker, wakesTask]
    · exact hf k (by simpa using hcx) (waiting_of_cons (by simp) hw)

omit [SysTcpStream (LazyTcpStream σ)] [LazyModule σ] in
/-- A reader that is parked is found, and so is one that it has replaced. -/
theorem found_park {st : σ} {socket : TcpSocket} {addr : SocketAddr} {reader : Option Waker}
    {cx : Waker} {room : ℕ} {t : Trace}
    (hx : SlotInv (⟨⟨st, .connecting socket addr reader⟩⟩, t)) :
    Found (⟨⟨st, .connecting socket addr (some cx)⟩⟩,
      .ret (.pollRead cx room) (.returned (.read .pending)) ::
        wakeReader reader cx (.call (.pollRead cx room) :: t)) := by
  intro k hk
  by_cases hcx : cx.task = k
  · exact .inl ⟨socket, addr, cx, rfl, hcx⟩
  · have hk₁ := waiting_of_cons (by simp) hk
    have hk₂ := (Extends.wakeReader reader cx (.call (.pollRead cx room) :: t)).waiting hk₁
    have hk₃ : waiting k t = true := by simpa [waiting, hcx] using hk₂
    obtain ⟨w, rfl, rfl⟩ := hx.parked rfl hk₃
    have hw : w.willWake cx = false := by
      by_contra hsame
      obtain rfl : w = cx := by simpa [Waker.willWake] using hsame
      exact hcx rfl
    rw [not_waiting ((inCall_wakes_wakeReader w (some w) cx _).2 (.inl ⟨rfl, hw⟩))] at hk₁
    cases hk₁

omit [SysTcpStream (LazyTcpStream σ)] [LazyModule σ] in
/-- Calls that are quiet change neither what is waited for nor what tokio holds. -/
theorem found_quiet {i : LazyTcpStream σ} {c : Call} {o : Outcome Ret} {es t : Trace}
    (hc : ∀ cx room, c ≠ .pollRead cx room) (hes : ∀ e ∈ es, e.Quiet) (hx : Found (⟨i⟩, t)) :
    Found (⟨i⟩, .ret c o :: (es ++ .call c :: t)) := by
  have hext : Extends (.call c :: t) (es ++ .call c :: t) := .quiet hes _
  have hsame : SameWakers (.call c :: t) (es ++ .call c :: t) :=
    .append (fun e he => (hes e he).calm) _
  intro k hk
  have hk' := hext.waiting (waiting_of_cons (by simp) hk)
  have ht : waiting k t = true := by
    cases c with
    | pollRead cx room => exact absurd rfl (hc cx room)
    | _ => exact hk'
  refine (hx k ht).imp id fun hreg => ?_
  exact (hsame.registeredTask k).trans hreg

omit [SysTcpStream (LazyTcpStream σ)] [LazyModule σ] in
/-- **A call that does not write wakes the readers** iff it displaces none. -/
theorem step_other {x x' : TfoStream (LazyTcpStream σ) × Trace} {c : Call} {o : Outcome Ret}
    {h : Trace} (hp : Other env c (x.1.inner, .call c :: x.2) o (x'.1.inner, h))
    (hx' : x'.2 = .ret c o :: h) (hx : SlotInv x) :
    (WakesReaders ⟨x, ⟨c, o⟩, x'⟩ ↔ displaced h = false) ∧ (Found x' → SlotInv x') := by
  obtain ⟨⟨i⟩, t⟩ := x
  obtain ⟨⟨i'⟩, t'⟩ := x'
  simp only at hp hx'
  subst hx'
  cases hp with
  | @read st s _ cx room r =>
    have hf := found_read env st s cx room r ((found_iff (by simp)).1 hx.found)
    exact ⟨⟨fun hw => hf.1 hw.found, fun hd => ⟨by simp, by simp, hf.2 hd⟩⟩,
      fun hf => ⟨by simp, by simp, hf⟩⟩
  | @readEmpty st _ cx room =>
    have hf : Found ((⟨⟨st, .empty⟩⟩, .ret (.pollRead cx room) (.panicked .unreachable) ::
        .call (.pollRead cx room) :: t) : TfoStream (LazyTcpStream σ) × Trace) := by
      intro k hk
      have hk' : ¬cx.task = k ∧ (cx.task = k ∨ waiting k t = true) := by simpa [waiting] using hk
      exact hx.found k (hk'.2.resolve_left hk'.1)
    exact ⟨iff_of_true ⟨by simp, by simp, hf⟩ rfl, fun hf => ⟨by simp, by simp, hf⟩⟩
  | @park st socket addr reader _ cx room =>
    have hsame := SameWakers.wakeReader reader cx (.call (.pollRead cx room) :: t)
    refine ⟨iff_of_true ⟨?_, ?_, found_park hx⟩ hsame.displaced, fun hf => ⟨?_, ?_, hf⟩⟩
    · rintro cx' room' socket' addr' w he hs hw
      cases he
      cases hs
      rw [inCall_ret _ fun _ _ => rfl]
      exact (inCall_wakes_wakeReader w (some w) cx _).2 (.inl ⟨rfl, hw⟩)
    · rintro socket' addr' reader' w - hpost
      exact absurd rfl (hpost socket addr (some cx))
    · rintro socket' addr' reader' hs
      cases hs
      rfl
    · intro _ _ _ _
      exact hsame.unheld (hx.fresh _ _ _ rfl)
  | @quiet _ i _ _ es hc hne hes hw _ =>
    have hext : Extends (.call c :: t) (es ++ .call c :: t) := .quiet hes _
    have hsame : SameWakers (.call c :: t) (es ++ .call c :: t) :=
      .append (fun e he => (hes e he).calm) _
    refine ⟨iff_of_true ⟨?_, ?_, found_quiet hne hes hx.found⟩ hsame.displaced,
      fun hf => ⟨?_, ?_, hf⟩⟩
    · rintro cx room socket addr w rfl
      exact absurd rfl (hne cx room)
    · rintro socket addr reader w hs hpost
      exact absurd hs (hpost socket addr reader)
    · intro socket addr reader hs
      rw [← hx.slot socket addr reader hs]
      have hl : lastPending (es ++ .call c :: t) = lastPending t := hext.lastPending
      cases c with
      | pollRead cx room => exact absurd rfl (hne cx room)
      | _ => exact hl
    · intro socket addr reader hs
      exact hsame.unheld (hx.fresh socket addr reader hs)

/-- **A call wakes the readers** iff it hands the socket over and waits if it must, and displaces
nobody. -/
theorem step_wakesReaders_iff (hturn : Turns σ env) {x x' : TfoStream (LazyTcpStream σ) × Trace}
    {l : Done} (hs : (system (LazyTcpStream σ) env).step x l x') (hx : SlotInv x) :
    WakesReaders ⟨x, l, x'⟩ ↔ Rewaits ⟨x, l, x'⟩ := by
  obtain ⟨c, o⟩ := l
  obtain ⟨h, hp, hx'⟩ := hs
  rcases performs_cases hp with ⟨cx, buf, r, hc, hr, rfl⟩ | ho
  · exact step_write hturn hc hr hx' hx
  · have hD : displaced x'.2 = displaced h := by
      rw [hx']
      rfl
    rw [(step_other ho hx' hx).1]
    refine ⟨fun hd => ⟨?_, hD.trans hd⟩, fun hre => hD.symm.trans hre.keeps⟩
    intro socket addr w cx buf _ hc
    have hnone := ho.payload
    rw [show c.payload = _ from hc] at hnone
    cases hnone

theorem step_slotInv (hturn : Turns σ env) {x x' : TfoStream (LazyTcpStream σ) × Trace} {l : Done}
    (hs : (system (LazyTcpStream σ) env).step x l x') (hx : SlotInv x)
    (hre : Rewaits ⟨x, l, x'⟩) : SlotInv x' := by
  have hw := (step_wakesReaders_iff hturn hs hx).2 hre
  obtain ⟨c, o⟩ := l
  obtain ⟨h, hp, hx'⟩ := hs
  rcases performs_cases hp with ⟨cx, buf, r, hc, hr, rfl⟩ | ho
  · exact ⟨fun _ _ _ h => (slot_write hturn hc hr hx' hx h).1,
      fun _ _ _ h => (slot_write hturn hc hr hx' hx h).2, hw.found⟩
  · exact (step_other ho hx' hx).2 hw.found

/-- **No wake-up of a run is lost** iff its writes hand the socket over and wait if they must, and
its polls displace nobody. -/
theorem run_wakesReaders_iff (hturn : Turns σ env) {x₀ x : TfoStream (LazyTcpStream σ) × Trace}
    {t : List (Lts.Taken (TfoStream (LazyTcpStream σ) × Trace) Done)} (hx₀ : SlotInv x₀)
    (h : (system (LazyTcpStream σ) env).Run x₀ t x) :
    (∀ y ∈ t, WakesReaders y) ↔ ∀ y ∈ t, Rewaits y :=
  h.forall_iff (I := SlotInv) (D := fun _ => True) hx₀
    (fun _ _ _ hI hs hre => step_slotInv hturn hs hI hre)
    (fun _ _ _ hI hs _ => step_wakesReaders_iff hturn hs hI) fun _ _ => trivial

end

/-! ## The three modules -/

/-- A view that shows the stream option shows the turns. -/
theorem turns_of_view {σ : Type} [SysTcpStream (LazyTcpStream σ)] [UnixTcpStream (LazyTcpStream σ)]
    (hview : ∀ s : LazyTcpStream σ, (UnixTcpStream.view s).stream = s.stream) (env : Env) :
    Turns σ env := by
  intro cx buf x
  have h := (Handshake.body_iter env cx buf (Prod.map UnixTcpStream.view id x)).turn
  rw [show Handshake.pollWriteBody env cx buf (Prod.map UnixTcpStream.view id x) = _ from
    UnixTcpStream.body_view env cx buf x] at h
  cases hy : SysTcpStream.pollWriteBody env cx buf x with
  | again y | done r y =>
    rw [hy] at h
    simpa [hview] using h

theorem Linux.turns (env : Env) : Turns TcpStreamState env := turns_of_view (fun _ => rfl) env

theorem FreeBsd.turns (env : Env) : Turns TcpStreamState env := turns_of_view (fun _ => rfl) env

theorem Windows.turns (env : Env) : Turns TcpStreamState env :=
  fun cx buf x => (body_iter env cx buf x).turn

/-- Nobody waits for a stream that was just made. -/
theorem slotInv_setup {σ : Type} {x : TfoStream (LazyTcpStream σ) × Trace}
    (hh : ∀ e ∈ x.2, e.Setup)
    (hs : ∀ socket addr reader, x.1.inner.stream = .connecting socket addr reader → reader = none) :
    SlotInv x := by
  have hext : Extends [] x.2 := by
    refine ⟨x.2, fun e he => ?_, by simp⟩
    have hset := hh e he
    constructor
    · rintro c rfl
      exact hset
    · rintro c o rfl
      exact hset
  have hsame : SameWakers [] (x.2 ++ []) := .append (fun e he => (hh e he).calm) []
  rw [List.append_nil] at hsame
  refine ⟨?_, ?_, ?_⟩
  · intro socket addr reader h
    rw [hs socket addr reader h]
    exact hext.lastPending
  · intro _ _ _ _
    exact hsame.unheld ⟨rfl, rfl⟩
  · intro k hk
    cases hext.waiting hk

theorem Unix.slotInv_started {σ : Type} [SysTcpStream (LazyTcpStream σ)]
    [SysConnect (LazyTcpStream σ)] [UnixTcpStream (LazyTcpStream σ)] [UnixConnect (LazyTcpStream σ)]
    (hview : ∀ s : LazyTcpStream σ, (UnixTcpStream.view s).stream = s.stream) {env : Env}
    {x : TfoStream (LazyTcpStream σ) × Trace} (hx : Started env x) : SlotInv x := by
  rcases hx with hx | ⟨s, rfl⟩
  · have ho := UnixConnect.opening hx
    refine slotInv_setup ho.setup fun socket addr reader h => ?_
    rw [← hview] at h
    generalize UnixTcpStream.view x.1.inner = v at ho h
    cases ho with
    | fastOpenConnect => cases h; rfl
    | fastOpenWrite => cases h
  · refine slotInv_setup (by simp) fun socket addr reader h => ?_
    rw [← hview] at h
    simp [TfoStream.ofTokio, UnixConnect.ofTokio] at h

theorem Windows.slotInv_started {env : Env} {x : TfoStream TcpStream × Trace}
    (hx : Started env x) : SlotInv x := by
  rcases hx with hx | ⟨s, rfl⟩
  · obtain ⟨socket, addr, hs, hh⟩ := opening hx
    refine slotInv_setup hh fun socket' addr' reader h => ?_
    rw [hs] at h
    cases h
    rfl
  · refine slotInv_setup (by simp) fun socket addr reader h => ?_
    cases h

/-- What a module promises to the tasks that read. -/
def LosesNoWakeup (σ : Type) [SysTcpStream (LazyTcpStream σ)] [SysConnect (LazyTcpStream σ)] :
    Prop :=
  ∀ (env : Env) (x₀ x : TfoStream (LazyTcpStream σ) × Trace)
    (t : List (Lts.Taken (TfoStream (LazyTcpStream σ) × Trace) Done)),
    Started env x₀ → (system (LazyTcpStream σ) env).Run x₀ t x → ∀ y ∈ t, WakesReaders y

/-- The promise is kept on the runs whose writes hand the socket over and wait if they must, and on
no others. -/
def LosesNoWakeupIff (env : Env) (σ : Type) [SysTcpStream (LazyTcpStream σ)]
    [SysConnect (LazyTcpStream σ)] : Prop :=
  ∀ (x₀ x : TfoStream (LazyTcpStream σ) × Trace)
    (t : List (Lts.Taken (TfoStream (LazyTcpStream σ) × Trace) Done)),
    Started env x₀ → (system (LazyTcpStream σ) env).Run x₀ t x →
      ((∀ y ∈ t, WakesReaders y) ↔ ∀ y ∈ t, Rewaits y)

/-- **Wake-ups of readers.** -/
theorem wakesReaders_iff (env : Env) : LosesNoWakeupIff env Linux.TcpStreamState ∧
    LosesNoWakeupIff env FreeBsd.TcpStreamState ∧
      LosesNoWakeupIff env Windows.TcpStreamState := by
  refine ⟨?_, ?_, ?_⟩
  · intro x₀ x t hx₀ h
    exact run_wakesReaders_iff (Linux.turns env) (Unix.slotInv_started (fun _ => rfl) hx₀) h
  · intro x₀ x t hx₀ h
    exact run_wakesReaders_iff (FreeBsd.turns env) (Unix.slotInv_started (fun _ => rfl) hx₀) h
  · intro x₀ x t hx₀ h
    exact run_wakesReaders_iff (Windows.turns env) (Windows.slotInv_started hx₀) h

/-- A task polls for reading, and another one for writing. -/
theorem wakesReaders_other_task :
    (∀ y ∈ (runOf default 1 [.pollRead ⟨1, 1⟩ 16, .pollWrite ⟨2, 2⟩ [7]] Linux.client).1,
      WakesReaders y) ∧
    (∀ y ∈ (runOf default 1 [.pollRead ⟨1, 1⟩ 16, .pollWrite ⟨2, 2⟩ [7]] FreeBsd.client).1,
      WakesReaders y) ∧
    ∀ y ∈ (runOf default 1 [.pollRead ⟨1, 1⟩ 16, .pollWrite ⟨2, 2⟩ [7]] Windows.client).1,
      WakesReaders y := by
  refine ⟨((wakesReaders_iff default).1 _ _ _ (.inl Linux.client_connects)
      (run_runOf default 1 _ _)).2 ?_,
    ((wakesReaders_iff default).2.1 _ _ _ (.inl (FreeBsd.client_connects rfl))
      (run_runOf default 1 _ _)).2 ?_,
    ((wakesReaders_iff default).2.2 _ _ _ (.inl (Windows.client_connects rfl rfl))
      (run_runOf default 1 _ _)).2 ?_⟩
  all_goals
    intro y hy
    rcases List.mem_cons.1 hy with rfl | hy
    · refine ⟨fun socket addr w cx buf hs hc _ => ?_, rfl⟩
      cases hs
      cases hc
      exact ⟨rfl, fun hw => absurd hw (by decide)⟩
    · obtain rfl := List.mem_singleton.1 hy
      refine ⟨fun socket addr w cx buf _ hc => ?_, rfl⟩
      cases hc

/-- A task polls for reading and then for writing.  The opening call succeeds at once, and the waker
that the task has parked is neither woken nor registered. -/
theorem not_losesNoWakeup : ¬LosesNoWakeup Linux.TcpStreamState ∧
    ¬LosesNoWakeup FreeBsd.TcpStreamState ∧ ¬LosesNoWakeup Windows.TcpStreamState := by
  let cs : List Call := [.pollRead ⟨1, 1⟩ 16, .pollWrite ⟨1, 1⟩ [1, 2, 3]]
  refine ⟨fun h => ?_, fun h => ?_, fun h => ?_⟩
  · have hw := h default _ _ _ (.inl Linux.client_connects) (run_runOf default 1 cs Linux.client) _
      (List.mem_cons_self ..)
    rcases hw.found 1 rfl with ⟨socket, addr, w, ⟨⟩, -⟩ | ⟨⟨⟩⟩
  · have hw := h default _ _ _ (.inl (FreeBsd.client_connects rfl))
      (run_runOf default 1 cs FreeBsd.client) _ (List.mem_cons_self ..)
    rcases hw.found 1 rfl with ⟨socket, addr, w, ⟨⟩, -⟩ | ⟨⟨⟩⟩
  · have hw := h default _ _ _ (.inl (Windows.client_connects rfl rfl))
      (run_runOf default 1 cs Windows.client) _ (List.mem_cons_self ..)
    rcases hw.found 1 rfl with ⟨socket, addr, w, ⟨⟩, -⟩ | ⟨⟨⟩⟩

end TokioTfo
