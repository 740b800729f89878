/-
  The two ways in which a Linux client opens its connection.

  A script answers the calls into the kernel, from what was exchanged with it before.
  Whichever way a client opens, its writes do no more than go through the script
  (`exchange`): they open the connection, wait for it, and write; a `Pending`
  interrupts them, and the next poll resumes them.  `fallback_refines`: two clients
  that play the same script, one with `TCP_FASTOPEN_CONNECT` and one with the
  fallback, return the same results, queue the same bytes, and consume the script
  in the same order.
-/
import TokioTfo.Validity
import TokioTfo.Delivery

namespace TokioTfo.Linux

/-! ## Scripts -/

/-- A call into the kernel with its answer; `none` stands for a would-block. -/
inductive Exchange where
  | opening (buf : Bytes) (r : Except Errno ℕ)
  | soError (r : Result (Option Error))
  | write (buf : Bytes) (r : Option (Result ℕ))
  deriving DecidableEq

/-- The bytes that an exchange puts into the kernel. -/
def Exchange.queued : Exchange → Bytes
  | opening buf (.ok n) => buf.take n
  | write buf (some (.ok n)) => buf.take n
  | _ => []

/-- A script of kernel answers, each from what was exchanged before, the newest first. -/
structure Script where
  opening : List Exchange → (buf : Bytes) → Except Errno (Count buf.length)
  soError : List Exchange → Result (Option Error)
  write : List Exchange → (buf : Bytes) → Option (Result (Count buf.length))
  /-- An opening call is not answered with a would-block. -/
  opens : ∀ l buf e, opening l buf = .error e → (Error.os e).kind ≠ .wouldBlock

/-- What was exchanged with the kernel in a history, the newest first. -/
def exchanged (env : Env) : Trace → List Exchange
  | [] => []
  | .sendto _ buf _ _ r :: h => .opening buf r :: exchanged env h
  | .send _ buf r :: h => .opening buf r :: exchanged env h
  | .takeError _ r :: h => .soError r :: exchanged env h
  | .pollWrite _ _ buf (.ready r) :: h => .write buf (some r) :: exchanged env h
  | .pollWrite _ fd buf .pending :: h =>
    match env.pollWrite h fd buf with
    | .wouldBlock => .write buf none :: exchanged env h
    | _ => exchanged env h
  | _ :: h => exchanged env h

/-- The answer of a socket that is written to: `none` is a would-block. -/
def attempt {α : Type} : Option (Result α) → IoAnswer α
  | some r => .ready r
  | none => .wouldBlock

/-- The environment plays the script `k`.  Tokio may decline a write without asking the kernel; it
does not fail, and takes the socket. -/
structure Plays (env : Env) (k : Script) : Prop where
  sendto : ∀ h fd buf flags addr, env.sendto h fd buf flags addr = k.opening (exchanged env h) buf
  send : ∀ h fd buf, env.send h fd buf = k.opening (exchanged env h) buf
  takeError : ∀ h fd, env.takeError h fd = k.soError (exchanged env h)
  pollWrite : ∀ h fd buf, env.pollWrite h fd buf = .budget ∨
    env.pollWrite h fd buf = attempt (k.write (exchanged env h) buf)
  pollWriteReady : ∀ h fd e, env.pollWriteReady h fd ≠ .shutdown e
  fromStd : ∀ h fd, env.fromStd h fd = .ok ()

theorem exchanged_idle (env : Env) : IgnoresIdle (exchanged env) := by
  intro e h he
  cases e <;> first | rfl | exact he.elim

/-! ## A stream, as the kernel sees it -/

inductive Stage where
  | opening
  | connecting
  | connected
  deriving DecidableEq

def TcpStreamState.stage : TcpStreamState → Stage
  | .fastOpenConnect | .fastOpenWrite => .opening
  | .fastOpenConnecting => .connecting
  | .connected => .connected

/-- The next exchange of a write of `buf`, and its result, if the write is then over. -/
def exchange (k : Script) (buf : Bytes) :
    Stage × List Exchange → Loop.Step (Stage × List Exchange) (Result ℕ)
  | (.opening, l) => match k.opening l buf with
    | .ok n => .done (.ok n) (.connected, .opening buf (.ok n) :: l)
    | .error .EINPROGRESS => .again (.connecting, .opening buf (.error .EINPROGRESS) :: l)
    | .error e => .done (.error (.os e)) (.opening, .opening buf (.error e) :: l)
  | (.connecting, l) => match k.soError l with
    | .ok none => .again (.connected, .soError (.ok none) :: l)
    | .ok (some e) => .done (.error e) (.connecting, .soError (.ok (some e)) :: l)
    | .error e => .done (.error e) (.connecting, .soError (.error e) :: l)
  | (.connected, l) => match k.write l buf with
    | none => .again (.connected, .write buf none :: l)
    | some (.ok n) => .done (.ok n) (.connected, .write buf (some (.ok n)) :: l)
    | some (.error e) => .done (.error e) (.connected, .write buf (some (.error e)) :: l)

/-- What a stream has exchanged, and the stage it is in. -/
def dialogue (env : Env) (x : TcpStream × Trace) : Stage × List Exchange :=
  (x.1.state.stage, exchanged env x.2)

/-- A call of `poll_write` goes through the script from `s` to `s'`: to the result of the write, or
to where it is interrupted. -/
def Answers (k : Script) (buf : Bytes) (s : Stage × List Exchange) :
    Outcome (Poll (Result ℕ)) → Stage × List Exchange → Prop
  | .returned (.ready r), s' => Loop.Returns (exchange k buf) s r s'
  | .returned .pending, s' => Loop.Reaches (exchange k buf) s s'
  | .panicked _, _ => False

/-- The exchanges that a stage may still need before an ordinary write. -/
def Stage.rank : Stage → ℕ
  | .opening => 2
  | .connecting => 1
  | .connected => 0

/-- An iteration goes through the script; one that goes round again enters a later stage. -/
def Exchanges (env : Env) (k : Script) (buf : Bytes) (x : TcpStream × Trace) :
    Loop.Step (TcpStream × Trace) (Outcome (Poll (Result ℕ))) → Prop
  | .again y => y.1.Valid .fastOpenConnect ∧
    exchange k buf (dialogue env x) = .again (dialogue env y) ∧
      y.1.state.stage.rank < x.1.state.stage.rank
  | .done r y => y.1.Valid .fastOpenConnect ∧ Answers k buf (dialogue env x) r (dialogue env y)

/-! ## One iteration -/

section
variable {k : Script} {buf : Bytes} {s s' : Stage × List Exchange}

theorem Answers.of_done {r : Result ℕ} (h : exchange k buf s = .done r s') :
    Answers k buf s (.returned (.ready r)) s' :=
  ⟨1, Loop.run_succ_done h 0⟩

theorem Answers.of_again (h : exchange k buf s = .again s') :
    Answers k buf s (.returned .pending) s' :=
  Loop.Reaches.of_again h

theorem Answers.of_eq (h : s' = s) : Answers k buf s (.returned .pending) s' := by
  subst h
  exact Loop.Reaches.refl _

end

section
variable {env : Env} {k : Script} (hk : Plays env k) (cx : Waker) (buf : Bytes)
include hk

/-- `Connected`. -/
theorem Plays.delegate (s : TokioTcpStream) (h : Trace) :
    Exchanges env k buf (⟨.connected, .connected s⟩, h)
      ((LazyTcpStream.mk .connected (.connected s)).withConnected h
        (TokioTfo.delegate env cx buf .connected)) := by
  simp only [LazyTcpStream.withConnected, TokioTfo.delegate, TokioTcpStream.pollWrite]
  rcases hk.pollWrite h s.fd buf with hb | hb
  · rw [hb]
    refine ⟨by simp, .of_eq ?_⟩
    simp [dialogue, exchanged, hb]
  · rcases hw : k.write (exchanged env h) buf with _ | (e | n)
    · rw [hw] at hb
      simp only [hb, attempt]
      refine ⟨by simp, .of_again ?_⟩
      simp [dialogue, exchanged, exchange, hb, hw, TcpStreamState.stage, attempt]
    · rw [hw] at hb
      simp only [hb, attempt]
      refine ⟨by simp, .of_done ?_⟩
      simp [dialogue, exchanged, exchange, hw, TcpStreamState.stage]
    · rw [hw] at hb
      simp only [hb, attempt]
      refine ⟨by simp, .of_done ?_⟩
      simp [dialogue, exchanged, exchange, hw, TcpStreamState.stage]

/-- `poll_write_ready` does not fail. -/
theorem Plays.ready (s : TokioTcpStream) (h : Trace) :
    s.pollWriteReady env cx h = (.pending, .pollWriteReady cx s.fd .pending :: h) ∨
    (s.writable = true ∧ s.pollWriteReady env cx h =
      (.ready (.ok ()), .pollWriteReady cx s.fd (.ready (.ok ())) :: h)) := by
  unfold TokioTcpStream.pollWriteReady
  cases hr : env.pollWriteReady h s.fd with
  | cached => cases hw : s.writable <;> simp
  | budget => exact .inl rfl
  | shutdown e => exact absurd hr (hk.pollWriteReady h s.fd e)

/-- The socket is handed over to tokio. -/
theorem Plays.registerSocket (socket : TcpSocket) (h : Trace) :
    LazyTcpStream.registerSocket env socket h =
      (.ok ⟨socket.fd, false⟩, registered socket.fd h) := by
  rcases registerSocket_cases env socket h with hr | ⟨e, ⟨h', he⟩, -⟩
  · exact hr
  · rw [hk.fromStd] at he
    cases he

/-- `FastOpenConnecting`. -/
theorem Plays.awaitConnect (s : TokioTcpStream) (h : Trace) :
    Exchanges env k buf (⟨.fastOpenConnecting, .connected s⟩, h)
      ((LazyTcpStream.mk .fastOpenConnecting (.connected s)).withConnected h
        (TokioTfo.awaitConnect env cx .fastOpenConnecting .connected)) := by
  simp only [LazyTcpStream.withConnected, TokioTfo.awaitConnect]
  rcases hk.ready cx s h with hr | ⟨-, hr⟩
  · rw [hr]
    exact ⟨by simp, .of_eq rfl⟩
  · have ht : env.takeError (.handle (.fromRawFd s.fd) ::
        .pollWriteReady cx s.fd (.ready (.ok ())) :: h) s.fd = k.soError (exchanged env h) :=
      hk.takeError _ _
    rw [hr]
    simp only [socketTakeError, ht]
    rcases hs : k.soError (exchanged env h) with e | _ | e
    · refine ⟨by simp, .of_done ?_⟩
      simp [dialogue, exchanged, exchange, hs, TcpStreamState.stage]
    · refine ⟨by simp, ?_, Nat.zero_lt_one⟩
      simp [dialogue, exchanged, exchange, hs, TcpStreamState.stage]
    · refine ⟨by simp, .of_done ?_⟩
      simp [dialogue, exchanged, exchange, hs, TcpStreamState.stage]

/-- `FastOpenWrite`. -/
theorem Plays.fastOpenWrite (s : TokioTcpStream) (h : Trace) :
    Exchanges env k buf (⟨.fastOpenWrite, .connected s⟩, h)
      ((LazyTcpStream.mk .fastOpenWrite (.connected s)).withConnected h
        (TokioTfo.fastOpenWrite env cx buf .fastOpenWrite .fastOpenConnecting .connected)) := by
  simp only [LazyTcpStream.withConnected, TokioTfo.fastOpenWrite]
  rcases hk.ready cx s h with hr | ⟨hw, hr⟩
  · rw [hr]
    exact ⟨by simp, .of_eq rfl⟩
  · have hs : env.send (.pollWriteReady cx s.fd (.ready (.ok ())) :: h) s.fd buf =
        k.opening (exchanged env h) buf := hk.send _ _ _
    rw [hr]
    simp only [TokioTcpStream.tryIo, hw, if_true, sendFirst, TokioTfo.send, hs]
    rcases ho : k.opening (exchanged env h) buf with e | n
    · by_cases he : e = .EINPROGRESS
      · subst he
        refine ⟨by simp, ?_, Nat.one_lt_two⟩
        simp [dialogue, exchanged, exchange, ho, TcpStreamState.stage, Except.map]
      · have hne := k.opens _ _ _ ho
        simp only [Except.map, hne, if_false]
        refine ⟨by simp, .of_done ?_⟩
        simp [dialogue, exchanged, exchange, ho, TcpStreamState.stage]
    · refine ⟨by simp, .of_done ?_⟩
      simp [dialogue, exchanged, exchange, ho, TcpStreamState.stage, Except.map]

/-- `FastOpenConnect`. -/
theorem Plays.fastOpenConnect (socket : TcpSocket) (addr : SocketAddr) (reader : Option Waker)
    (h : Trace) :
    Exchanges env k buf (⟨.fastOpenConnect, .connecting socket addr reader⟩, h)
      (TokioTfo.fastOpenConnect env cx buf msgFastopen .fastOpenConnecting .connected
        ⟨.fastOpenConnect, .connecting socket addr reader⟩ h) := by
  simp only [TokioTfo.fastOpenConnect, TokioTfo.sendto, hk.sendto, hk.registerSocket]
  rcases ho : k.opening (exchanged env h) buf with e | n
  · by_cases he : e = .EINPROGRESS
    · subst he
      simp only [Except.map]
      refine ⟨by simp, ?_, Nat.one_lt_two⟩
      simp [dialogue, (exchanged_idle env).wakeReader, (exchanged_idle env).registered, exchanged,
        exchange, ho, TcpStreamState.stage]
    · simp only [Except.map]
      refine ⟨by simp, .of_done ?_⟩
      simp [dialogue, exchanged, exchange, ho, TcpStreamState.stage]
  · simp only [Except.map]
    refine ⟨by simp, .of_done ?_⟩
    simp [dialogue, (exchanged_idle env).wakeReader, (exchanged_idle env).registered, exchanged,
      exchange, ho, TcpStreamState.stage]

/-- **An iteration goes through the script**, on whichever way the stream opens. -/
theorem Plays.body (x : TcpStream × Trace) (hv : x.1.Valid .fastOpenConnect) :
    Exchanges env k buf x (SysTcpStream.pollWriteBody env cx buf x) := by
  obtain ⟨⟨st, s | ⟨socket, addr, reader⟩ | _⟩, h⟩ := x
  · cases st with
    | connected => exact hk.delegate cx buf s h
    | fastOpenConnecting => exact hk.awaitConnect cx buf s h
    | fastOpenWrite => exact hk.fastOpenWrite cx buf s h
    | fastOpenConnect => simp at hv
  · obtain rfl : st = .fastOpenConnect := by simpa using hv
    exact hk.fastOpenConnect cx buf socket addr reader h
  · simp at hv

end

/-! ## One call -/

theorem Answers.after {k : Script} {buf : Bytes} {s t s' : Stage × List Exchange}
    {r : Outcome (Poll (Result ℕ))} (h : Answers k buf t r s')
    (hr : Loop.Reaches (exchange k buf) s t) : Answers k buf s r s' := by
  rcases r with (r | _) | p
  · exact hr.returns h
  · exact hr.trans h
  · exact h

section
variable {env : Env} {k : Script}

/-- **A call of `poll_write` goes through the script.** -/
theorem Plays.call (hk : Plays env k) {cx : Waker} {buf : Bytes} {x x' : TcpStream × Trace}
    {r : Outcome (Poll (Result ℕ))} (hv : x.1.Valid .fastOpenConnect)
    (h : PollWriteReturns env cx buf x r x') :
    x'.1.Valid .fastOpenConnect ∧ Answers k buf (dialogue env x) r (dialogue env x') := by
  refine pollWrite_post (I := fun y => y.1.Valid .fastOpenConnect ∧
      Loop.Reaches (exchange k buf) (dialogue env x) (dialogue env y))
    (Q := fun r y => y.1.Valid .fastOpenConnect ∧ Answers k buf (dialogue env x) r (dialogue env y))
    ?_ ?_ ?_ ⟨hv, .refl _⟩ h
  · rintro st s h ⟨hy, hr⟩
    exact ⟨by simpa using hy, hr⟩
  · rintro y z ⟨hy, hr⟩ hb
    have hz := hk.body cx buf y hy
    rw [hb] at hz
    exact ⟨hz.1, hr.trans (.of_again hz.2.1)⟩
  · rintro y r z ⟨hy, hr⟩ hb
    have hz := hk.body cx buf y hy
    rw [hb] at hz
    exact ⟨hz.1, hz.2.after hr⟩

/-- The other calls exchange nothing. -/
theorem dialogue_other {c : Call} {x x' : TcpStream × Trace} {o : Outcome Ret}
    (hv : x.1.Valid .fastOpenConnect) (h : Other env c x o x') :
    x'.1.Valid .fastOpenConnect ∧ dialogue env x' = dialogue env x := by
  have he : exchanged env x'.2 = exchanged env x.2 := h.ignored (exchanged_idle env)
  cases h with
  | read => exact ⟨hv, by simp [dialogue, he]⟩
  | park => exact ⟨by simpa using hv, by simp [dialogue, he]⟩
  | readEmpty => exact absurd hv not_valid_empty
  | quiet => exact ⟨hv, by simp [dialogue, he]⟩

/-- What a step does, whatever the call is. -/
theorem Plays.step (hk : Plays env k) {x x' : TfoStream TcpStream × Trace} {l : Done}
    (hv : x.1.inner.Valid .fastOpenConnect) (hs : (system TcpStream env).step x l x') :
    x'.1.inner.Valid .fastOpenConnect ∧
      (l.call.payload = none →
        dialogue env (x'.1.inner, x'.2) = dialogue env (x.1.inner, x.2)) ∧
      ∀ cx buf, l.call.payload = some (cx, buf) → ∃ r, l.outcome = r.map .write ∧
        Answers k buf (dialogue env (x.1.inner, x.2)) r (dialogue env (x'.1.inner, x'.2)) := by
  obtain ⟨c, o⟩ := l
  obtain ⟨h, hp, hx'⟩ := hs
  have hcall : dialogue env (x.1.inner, .call c :: x.2) = dialogue env (x.1.inner, x.2) := rfl
  have hret : dialogue env (x'.1.inner, x'.2) = dialogue env (x'.1.inner, h) := by
    rw [hx']
    rfl
  rw [hret]
  rcases performs_cases hp with ⟨cx, buf, r, hc, hr, rfl⟩ | ho
  · obtain ⟨hv', ha⟩ := hk.call (x := (x.1.inner, .call c :: x.2)) hv hr
    rw [hcall] at ha
    refine ⟨hv', fun hn => ?_, fun cx' buf' hc' => ?_⟩
    · rw [hc] at hn
      cases hn
    · rw [hc] at hc'
      cases hc'
      exact ⟨r, rfl, ha⟩
  · obtain ⟨hv', hd⟩ := dialogue_other (x := (x.1.inner, .call c :: x.2)) hv ho
    refine ⟨hv', fun _ => hd.trans hcall, fun cx buf hc => ?_⟩
    rw [ho.payload] at hc
    cases hc

end

/-! ## Whole runs -/

/-- The calls, the newest first, poll each of the buffers `bs` until its call is ready, and are
polling `c` now, if it is a buffer.  Between them there may be calls that are not writes. -/
inductive Drives : List Bytes → Option Bytes → List Done → Prop
  | nil : Drives [] none []
  | other {bs : List Bytes} {c : Option Bytes} {l : Done} {ls : List Done} :
      l.call.payload = none → Drives bs c ls → Drives bs c (l :: ls)
  | poll {bs : List Bytes} {c : Option Bytes} {buf : Bytes} {cx : Waker} {o : Outcome Ret}
      {ls : List Done} : (∀ b, c = some b → b = buf) →
      (∀ r, o ≠ .returned (.write (.ready r))) → Drives bs c ls →
      Drives bs (some buf) (⟨.pollWrite cx buf, o⟩ :: ls)
  | ready {bs : List Bytes} {c : Option Bytes} {buf : Bytes} {cx : Waker} {r : Result ℕ}
      {ls : List Done} : (∀ b, c = some b → b = buf) → Drives bs c ls →
      Drives (buf :: bs) none (⟨.pollWrite cx buf, .returned (.write (.ready r))⟩ :: ls)

/-- The results of the calls of `poll_write` that are ready, the newest first. -/
def readyResults : List Done → List (Result ℕ)
  | [] => []
  | ⟨.pollWrite _ _, .returned (.write (.ready r))⟩ :: ls => r :: readyResults ls
  | _ :: ls => readyResults ls

/-- Writing the buffers `bs` in their order, the last one first in the list, has the results `rs`
and leads to `s`. -/
inductive Evaluates (k : Script) : List Bytes → List (Result ℕ) → Stage × List Exchange → Prop
  | nil : Evaluates k [] [] (.opening, [])
  | cons {bs : List Bytes} {rs : List (Result ℕ)} {s s' : Stage × List Exchange} {buf : Bytes}
      {r : Result ℕ} : Evaluates k bs rs s → Loop.Returns (exchange k buf) s r s' →
      Evaluates k (buf :: bs) (r :: rs) s'

/-- **The script determines the results**, and what is exchanged. -/
theorem Evaluates.unique {k : Script} {bs : List Bytes} {rs rs' : List (Result ℕ)}
    {s s' : Stage × List Exchange} (h : Evaluates k bs rs s) (h' : Evaluates k bs rs' s') :
    rs = rs' ∧ s = s' := by
  induction h generalizing rs' s' with
  | nil =>
    cases h'
    exact ⟨rfl, rfl⟩
  | cons _ hr ih =>
    cases h' with
    | cons he' hr' =>
      obtain ⟨rfl, rfl⟩ := ih he'
      obtain ⟨rfl, rfl⟩ := hr.unique hr'
      exact ⟨rfl, rfl⟩

/-- The buffer that is being written goes from `s` to `s'`; without one nothing happens. -/
def Writing (k : Script) : Option Bytes → Stage × List Exchange → Stage × List Exchange → Prop
  | some buf, s, s' => Loop.Reaches (exchange k buf) s s'
  | none, s, s' => s' = s

theorem Writing.reaches {k : Script} {c : Option Bytes} {s s' : Stage × List Exchange}
    {buf : Bytes} (h : Writing k c s s') (hc : ∀ b, c = some b → b = buf) :
    Loop.Reaches (exchange k buf) s s' := by
  cases c with
  | none =>
    obtain rfl : s' = s := h
    exact .refl _
  | some b =>
    obtain rfl := hc b rfl
    exact h

/-- **A run goes through the script**: its ready results are those of the buffers that have been
written, and no write panics. -/
theorem Plays.run {env : Env} {k : Script} (hk : Plays env k) {x₀ x : TfoStream TcpStream × Trace}
    {t : List (Lts.Taken (TfoStream TcpStream × Trace) Done)} {bs : List Bytes} {c : Option Bytes}
    (hv : x₀.1.inner.Valid .fastOpenConnect)
    (h₀ : dialogue env (x₀.1.inner, x₀.2) = (.opening, []))
    (h : (system TcpStream env).Run x₀ t x) (hd : Drives bs c (t.map Lts.Taken.label)) :
    x.1.inner.Valid .fastOpenConnect ∧
      ∃ s, Evaluates k bs (readyResults (t.map Lts.Taken.label)) s ∧
        Writing k c s (dialogue env (x.1.inner, x.2)) := by
  induction h generalizing bs c with
  | nil =>
    cases hd
    exact ⟨hv, _, .nil, h₀⟩
  | @snoc t y y' l _ hs ih =>
    cases hd with
    | other hl hd =>
      obtain ⟨hy, s, he, hw⟩ := ih hd
      obtain ⟨hy', ho, -⟩ := hk.step hy hs
      have hr : readyResults (l :: t.map Lts.Taken.label) =
          readyResults (t.map Lts.Taken.label) := by
        obtain ⟨c, o⟩ := l
        cases c with
        | pollWrite => cases hl
        | _ => rfl
      rw [List.map_cons, hr, ho hl]
      exact ⟨hy', s, he, hw⟩
    | @poll _ c buf cx o _ hc ho hd =>
      obtain ⟨hy, s, he, hw⟩ := ih hd
      obtain ⟨hy', -, hp⟩ := hk.step hy hs
      obtain ⟨r, hr, ha⟩ := hp cx buf rfl
      rcases r with (r | _) | p
      · exact absurd hr (ho r)
      · obtain rfl : o = .returned (.write .pending) := hr
        exact ⟨hy', s, he, (hw.reaches hc).trans ha⟩
      · exact ha.elim
    | @ready _ c buf cx r _ hc hd =>
      obtain ⟨hy, s, he, hw⟩ := ih hd
      obtain ⟨hy', -, hp⟩ := hk.step hy hs
      obtain ⟨r', hr, ha⟩ := hp cx buf rfl
      rcases r' with (r' | _) | p
      · cases hr
        exact ⟨hy', _, .cons he ((hw.reaches hc).returns ha), rfl⟩
      · cases hr
      · cases hr

/-- A write on a valid stream returns: it neither hangs nor panics. -/
theorem Plays.returns {env : Env} {k : Script} (hk : Plays env k) {x : TcpStream × Trace}
    (hv : x.1.Valid .fastOpenConnect) (cx : Waker) (buf : Bytes) :
    ∃ p x', PollWriteReturns env cx buf x (.returned p) x' := by
  have hag : ∀ y z : TcpStream × Trace, y.1.Valid .fastOpenConnect →
      iterate env cx buf y = .again z →
      z.1.Valid .fastOpenConnect ∧ z.1.state.stage.rank < y.1.state.stage.rank := by
    intro y z hy hb
    have hd : (deliver env y).1.Valid .fastOpenConnect ∧
        (deliver env y).1.state = y.1.state := by
      rcases @deliver_cases TcpStreamState _ _ env y with he | ⟨st, s, h, rfl, he⟩
      · rw [he]
        exact ⟨hy, rfl⟩
      · rw [he]
        exact ⟨by simpa using hy, rfl⟩
    have hz := hk.body cx buf _ hd.1
    rw [show SysTcpStream.pollWriteBody env cx buf (deliver env y) = .again z from hb] at hz
    exact ⟨hz.1, hd.2 ▸ hz.2.2⟩
  obtain ⟨r, x', hr⟩ := Loop.returns_of_rank (fun y z hy hb => (hag y z hy hb).1)
    (fun y z hy hb => (hag y z hy hb).2) hv
  rcases r with p | p
  · exact ⟨p, x', hr⟩
  · exact (hk.call hv hr).2.elim

/-- What is queued is determined by what was exchanged. -/
theorem queuedBytes_eq (env : Env) (h : Trace) :
    queuedBytes h = (exchanged env h).reverse.flatMap Exchange.queued := by
  induction h with
  | nil => rfl
  | cons e h ih =>
    have hq : ∀ q, ((q :: exchanged env h).reverse.flatMap Exchange.queued) =
        queuedBytes h ++ q.queued := fun q => by
      rw [ih, List.reverse_cons, List.flatMap_append, List.flatMap_singleton]
    have hnil : ∀ q : Exchange, q.queued = [] → queuedBytes h =
        ((q :: exchanged env h).reverse.flatMap Exchange.queued) := fun q hn => by
      rw [hq, hn, List.append_nil]
    cases e with
    | sendto fd buf flags addr r =>
      rcases r with e | n
      · exact hnil _ rfl
      · exact (hq (.opening buf (.ok n))).symm
    | send fd buf r =>
      rcases r with e | n
      · exact hnil _ rfl
      · exact (hq (.opening buf (.ok n))).symm
    | takeError fd r => exact hnil _ rfl
    | pollWrite cx fd buf r =>
      rcases r with (e | n) | _
      · exact hnil _ rfl
      · exact (hq (.write buf (some (.ok n)))).symm
      · simp only [exchanged]
        split
        · exact hnil _ rfl
        · exact ih
    | _ => exact ih

/-- A client of the address `addr`, as `connect_with_socket` returns it, in the state `st`. -/
def Opens (env : Env) (addr : SocketAddr) (st : TcpStreamState) (x : TfoStream TcpStream × Trace) :
    Prop :=
  x.1.inner.state = st ∧ ∃ support socket support',
    TcpStream.connectWithSocket env support socket addr [] =
      (.returned (.ok x.1.inner), support', x.2)

theorem Opens.start {env : Env} {addr : SocketAddr} {st : TcpStreamState}
    {x : TfoStream TcpStream × Trace} (h : Opens env addr st x)
    (hst : st = .fastOpenConnect ∨ st = .fastOpenWrite) :
    x.1.inner.Valid .fastOpenConnect ∧ dialogue env (x.1.inner, x.2) = (.opening, []) := by
  obtain ⟨rfl, support, socket, support', hc⟩ := h
  have hcl : Client env x := ⟨support, socket, addr, support', hc⟩
  have ho := UnixConnect.opening hcl
  refine ⟨(valid_view _).1 ho.valid.1, ?_⟩
  have he : exchanged env x.2 = [] := (exchanged_idle env).setup ho.setup
  rw [dialogue, he]
  rcases hst with hst | hst
  · rw [hst]
    rfl
  · rw [hst]
    rfl

/-- Two runs have returned the same results, queued the same bytes, and exchanged the same with the
kernel, in the same order. -/
structure Agree (env₁ env₂ : Env) (t₁ t₂ : List (Lts.Taken (TfoStream TcpStream × Trace) Done))
    (y₁ y₂ : TfoStream TcpStream × Trace) : Prop where
  results : readyResults (t₁.map Lts.Taken.label) = readyResults (t₂.map Lts.Taken.label)
  queued : queuedBytes y₁.2 = queuedBytes y₂.2
  exchanged : exchanged env₁ y₁.2 = exchanged env₂ y₂.2

/-- Every write returns a result, or `Pending`. -/
def Responds (env : Env) (x₀ : TfoStream TcpStream × Trace) : Prop :=
  ∀ t x, (system TcpStream env).Run x₀ t x → ∀ cx buf, ∃ p x',
    PollWriteReturns env cx buf (x.1.inner, x.2) (.returned p) x'

theorem Plays.responds {env : Env} {k : Script} (hk : Plays env k)
    {x₀ : TfoStream TcpStream × Trace} (hv : x₀.1.inner.Valid .fastOpenConnect) :
    Responds env x₀ := fun _ _ hr cx buf =>
  hk.returns (hr.inv' (I := fun x => x.1.inner.Valid .fastOpenConnect) hv
    fun _ _ _ hx hs => (hk.step hx hs).1) cx buf

/-- **The fallback refines the fast path.**  Two clients of an address that play the same script,
one of which opens with `sendto` and one with `send`, agree whenever both have written the same
buffers, however many calls were `Pending`; and no write of either hangs or panics. -/
theorem fallback_refines {k : Script} {env₁ env₂ : Env} (h₁ : Plays env₁ k) (h₂ : Plays env₂ k)
    {addr : SocketAddr} {x₁ x₂ : TfoStream TcpStream × Trace}
    (hx₁ : Opens env₁ addr .fastOpenConnect x₁) (hx₂ : Opens env₂ addr .fastOpenWrite x₂) :
    (∀ bs t₁ t₂ y₁ y₂, (system TcpStream env₁).Run x₁ t₁ y₁ → (system TcpStream env₂).Run x₂ t₂ y₂ →
      Drives bs none (t₁.map Lts.Taken.label) → Drives bs none (t₂.map Lts.Taken.label) →
        Agree env₁ env₂ t₁ t₂ y₁ y₂) ∧
      Responds env₁ x₁ ∧ Responds env₂ x₂ := by
  obtain ⟨hv₁, ho₁⟩ := hx₁.start (.inl rfl)
  obtain ⟨hv₂, ho₂⟩ := hx₂.start (.inr rfl)
  refine ⟨fun bs t₁ t₂ y₁ y₂ hr₁ hr₂ hd₁ hd₂ => ?_, h₁.responds hv₁, h₂.responds hv₂⟩
  obtain ⟨-, s₁, he₁, hw₁⟩ := h₁.run hv₁ ho₁ hr₁ hd₁
  obtain ⟨-, s₂, he₂, hw₂⟩ := h₂.run hv₂ ho₂ hr₂ hd₂
  obtain ⟨hres, rfl⟩ := he₁.unique he₂
  have hd : dialogue env₁ (y₁.1.inner, y₁.2) = dialogue env₂ (y₂.1.inner, y₂.2) :=
    Eq.trans hw₁ hw₂.symm
  have hex : exchanged env₁ y₁.2 = exchanged env₂ y₂.2 := (Prod.mk.inj hd).2
  refine ⟨hres, ?_, hex⟩
  rw [queuedBytes_eq env₁, queuedBytes_eq env₂, hex]

/-- The connect is in progress, and succeeds; every write is accepted. -/
def obliging : Script where
  opening _ _ := .error .EINPROGRESS
  soError _ := .ok none
  write _ buf := some (.ok (Fin.last buf.length))
  opens := by simp [Error.kind]

/-- An environment that plays it, with the events `writeEvent`. -/
def playing (writeEvent : Trace → Bool) : Env :=
  { (default : Env) with
    writeEvent := writeEvent
    sendto := fun _ _ _ _ _ => .error .EINPROGRESS
    send := fun _ _ _ => .error .EINPROGRESS }

theorem plays_obliging (writeEvent : Trace → Bool) : Plays (playing writeEvent) obliging where
  sendto _ _ _ _ _ := rfl
  send _ _ _ := rfl
  takeError _ _ := rfl
  pollWrite _ _ _ := .inr rfl
  pollWriteReady := by simp [playing, default]
  fromStd _ _ := rfl

/-- No event arrives during the first call. -/
def afterFirst (h : Trace) : Bool := h.any fun e => e matches .ret ..

/-- A client of the fallback writes in one call, and one of the fast path in two, since its event is
late: they agree. -/
theorem fallback_refines_late :
    let r₁ := runOf (playing fun _ => true) 3 [.pollWrite ⟨1, 1⟩ [7]] client
    let r₂ := runOf (playing afterFirst) 3 [.pollWrite ⟨1, 1⟩ [7], .pollWrite ⟨1, 1⟩ [7]] fastClient
    Agree (playing fun _ => true) (playing afterFirst) r₁.1 r₂.1 r₁.2 r₂.2 ∧
      readyResults (r₂.1.map Lts.Taken.label) = [.ok 1] ∧ r₂.1.length = 2 := by
  intro r₁ r₂
  have h₁ : Opens (playing fun _ => true) (.v4 0 0) .fastOpenConnect client :=
    ⟨rfl, false, ⟨0⟩, false, rfl⟩
  have h₂ : Opens (playing afterFirst) (.v4 0 0) .fastOpenWrite fastClient :=
    ⟨rfl, true, ⟨0⟩, true, rfl⟩
  have h := fallback_refines (plays_obliging _) (plays_obliging _) h₁ h₂
  refine ⟨h.1 [[7]] r₁.1 r₂.1 r₁.2 r₂.2 (run_runOf _ _ _ _) (run_runOf _ _ _ _) ?_ ?_, rfl, rfl⟩
  · exact .ready (by simp) .nil
  · exact .ready (fun b hb => (Option.some.inj hb).symm) (.poll (by simp) (by simp) .nil)

end TokioTfo.Linux
