/-
  The streams that FreeBSD and macOS make from a tokio stream: those that
  `TfoListener` accepts, and those that the user passes.

  They start in `Connected`, with the retry that is meant for the first write of a
  client.  `behavesLike_iff_not_masked`: such a stream behaves like the tokio stream
  itself, whatever the calls are answered that only it makes, iff no write of the
  tokio stream fails with one of the errors that are retried (`maskedFirst`) before
  its first successful one.
-/
import TokioTfo.Starts

namespace TokioTfo

/-! ## The tokio stream itself

Its `poll_write_vectored` is not the default of `AsyncWrite` that `Performs` gives to every
stream, and so the statements about it leave that call out (`Call.Polls`). -/

instance : SysTcpStream TokioTcpStream where
  setWritable s := some s.setWritable
  pollRead env cx room x :=
    let r := x.1.pollRead env cx room x.2
    (.returned r.1, x.1, r.2)
  pollWriteBody env cx buf x :=
    let r := x.1.pollWrite env cx buf x.2
    .done (.returned r.1) r.2
  pollFlush env s h := s.pollFlush env h
  pollShutdown env s h := s.pollShutdown env h
  peerAddr env s h :=
    let r := s.peerAddr env h
    (.returned r.1, r.2)
  asRawFd s := .returned s.fd
  socketApi env op s h :=
    let r := socketApi env s.fd op h
    (.returned r.1, r.2)

/-- The four polls. -/
def Call.Polls : Call → Prop
  | pollRead .. | pollWrite .. | pollFlush .. | pollShutdown .. => True
  | _ => False

/-! ## Monitors -/

/-- An ordinary write has succeeded. -/
def wroteOnce : Trace → Bool
  | [] => false
  | .pollWrite _ _ _ (.ready (.ok _)) :: _ => true
  | _ :: h => wroteOnce h

/-- An ordinary write failed with an error that is retried before any had succeeded. -/
def maskedFirst (retry : Error → Bool) : Trace → Bool
  | [] => false
  | .pollWrite _ _ _ (.ready (.error e)) :: h => retry e && !wroteOnce h || maskedFirst retry h
  | _ :: h => maskedFirst retry h

theorem wroteOnce_idle : IgnoresIdle wroteOnce := by
  intro e h he
  cases e <;> first | rfl | exact he.elim

theorem maskedFirst_idle (retry : Error → Bool) : IgnoresIdle (maskedFirst retry) := by
  intro e h he
  cases e <;> first | rfl | exact he.elim

/-- The ordinary writes, with their results, newest first. -/
def writes (h : Trace) : Trace :=
  h.filter fun e => match e with
    | .pollWrite .. => true
    | _ => false

/-! ## The calls of the tokio stream -/

section
variable {env : Env}

/-- The reactor makes no other event. -/
theorem tokio_deliver (x : TokioTcpStream × Trace) :
    deliver env x = x ∨ deliver env x = (x.1.setWritable, .writeEvent :: x.2) := by
  simp only [deliver, SysTcpStream.setWritable]
  split
  · exact .inr rfl
  · exact .inl rfl

theorem maskedFirst_deliver (retry : Error → Bool) (x : TokioTcpStream × Trace) :
    maskedFirst retry (deliver env x).2 = maskedFirst retry x.2 := by
  rcases @tokio_deliver env x with hd | hd <;> rw [hd]
  rfl

/-- An iteration of the tokio stream is an ordinary write, after the reactor has run. -/
theorem tokio_iterate (cx : Waker) (buf : Bytes) (x : TokioTcpStream × Trace) :
    ∃ r s', iterate env cx buf x = .done (.returned r)
      (s', .pollWrite cx (deliver env x).1.fd buf r :: (deliver env x).2) := by
  obtain ⟨r, s', hr, -⟩ := (deliver env x).1.pollWrite_spec env cx buf (deliver env x).2
  exact ⟨r, s', by simp only [iterate, SysTcpStream.pollWriteBody, hr]⟩

/-- A poll of the tokio stream is one iteration of a write, or adds idle events. -/
theorem tokio_performs {c : Call} (hc : c.Polls) {x x' : TokioTcpStream × Trace} {o : Outcome Ret}
    (h : Performs env c x o x') :
    (∃ cx buf r, c = .pollWrite cx buf ∧ o = .returned (.write r) ∧
      iterate env cx buf x = .done (.returned r) x') ∨
      ∀ {α : Type} {f : Trace → α}, IgnoresIdle f → f x'.2 = f x.2 := by
  cases c with
  | pollWrite cx buf =>
    obtain ⟨o', ho', rfl⟩ := h
    obtain ⟨r, s', hi⟩ := @tokio_iterate env cx buf x
    obtain ⟨rfl, rfl⟩ := ho'.unique ⟨1, Loop.run_succ_done hi 0⟩
    exact .inl ⟨cx, buf, r, rfl, rfl, hi⟩
  | pollRead cx room =>
    obtain ⟨rfl, rfl⟩ := h
    exact .inr fun hf => (hf (.pollRead ..) _ trivial).trans (hf.deliverRead env _)
  | pollFlush cx =>
    obtain ⟨rfl, rfl⟩ := h
    exact .inr fun hf => hf (.pollFlush ..) _ trivial
  | pollShutdown cx =>
    obtain ⟨rfl, rfl⟩ := h
    exact .inr fun hf => hf (.pollShutdown ..) _ trivial
  | _ => exact hc.elim

/-- A masked failure stays in the history. -/
theorem tokio_step (retry : Error → Bool) {x x' : TfoStream TokioTcpStream × Trace} {l : Done}
    (hl : l.call.Polls) (h : (system TokioTcpStream env).step x l x')
    (hm : maskedFirst retry x'.2 = false) : maskedFirst retry x.2 = false := by
  obtain ⟨t, hp, hx'⟩ := h
  rw [hx', (maskedFirst_idle retry).ret] at hm
  rcases tokio_performs hl hp with ⟨cx, buf, r, -, -, hi⟩ | hidle
  · obtain ⟨r', s', hi'⟩ := @tokio_iterate env cx buf (x.1.inner, .call l.call :: x.2)
    rw [hi] at hi'
    obtain ⟨-, hx⟩ := Loop.Step.done.inj hi'
    obtain ⟨-, rfl⟩ := Prod.mk.inj hx
    have hd := @maskedFirst_deliver env retry (x.1.inner, .call l.call :: x.2)
    rcases r' with (e | n) | _
    · exact hd ▸ (Bool.or_eq_false_iff.1 hm).2
    · exact hd ▸ hm
    · exact hd ▸ hm
  · have ht : maskedFirst retry t = maskedFirst retry x.2 :=
      (hidle (maskedFirst_idle retry)).trans ((maskedFirst_idle retry).call _ _)
    rwa [ht] at hm

/-- `env'` answers the calls that a tokio stream makes in the four polls as `env` does. -/
structure SameAnswers (env env' : Env) : Prop where
  readEvent : env'.readEvent = env.readEvent
  writeEvent : env'.writeEvent = env.writeEvent
  pollRead : env'.pollRead = env.pollRead
  pollWrite : env'.pollWrite = env.pollWrite
  pollFlush : env'.pollFlush = env.pollFlush
  pollShutdown : env'.pollShutdown = env.pollShutdown

/-- `env`, but `SO_ERROR` holds an error that is not retried. -/
def otherSoError (env : Env) : Env :=
  { env with
    pollWriteReady := fun _ _ => .cached
    takeError := fun _ _ => .ok (some (.simple .other)) }

theorem sameAnswers_otherSoError (env : Env) : SameAnswers env (otherSoError env) :=
  ⟨rfl, rfl, rfl, rfl, rfl, rfl⟩

variable {env' : Env}

theorem SameAnswers.iterate (h : SameAnswers env env') (cx : Waker) (buf : Bytes)
    (x : TokioTcpStream × Trace) : iterate env' cx buf x = iterate env cx buf x := by
  simp only [TokioTfo.iterate, deliver, SysTcpStream.pollWriteBody, TokioTcpStream.pollWrite,
    h.writeEvent, h.pollWrite]

theorem SameAnswers.performs (h : SameAnswers env env') {c : Call} (hc : c.Polls)
    {x x' : TokioTcpStream × Trace} {o : Outcome Ret} (hp : Performs env c x o x') :
    Performs env' c x o x' := by
  cases c with
  | pollWrite cx buf =>
    obtain ⟨r, hr, rfl⟩ := hp
    refine ⟨r, ?_, rfl⟩
    rw [PollWriteReturns, funext (h.iterate cx buf)]
    exact hr
  | pollRead cx room =>
    obtain ⟨rfl, rfl⟩ := hp
    simp [Performs, SysTcpStream.pollRead, TokioTcpStream.pollRead, deliverRead, h.readEvent,
      h.pollRead]
  | pollFlush cx =>
    obtain ⟨rfl, rfl⟩ := hp
    simp [Performs, SysTcpStream.pollFlush, TokioTcpStream.pollFlush, h.pollFlush]
  | pollShutdown cx =>
    obtain ⟨rfl, rfl⟩ := hp
    simp [Performs, SysTcpStream.pollShutdown, TokioTcpStream.pollShutdown, h.pollShutdown]
  | _ => exact hc.elim

/-- The tokio stream has the same run with the same answers. -/
theorem SameAnswers.run (h : SameAnswers env env') {x₀ x : TfoStream TokioTcpStream × Trace}
    {t : List (Lts.Taken (TfoStream TokioTcpStream × Trace) Done)}
    (hr : (system TokioTcpStream env).Run x₀ t x) (hpolls : ∀ y ∈ t, y.label.call.Polls) :
    (system TokioTcpStream env').Run x₀ t x := by
  induction hr with
  | nil => exact .nil
  | snoc _ hs ih =>
    obtain ⟨t', hp, hx'⟩ := hs
    exact .snoc (ih fun y hy => hpolls y (List.mem_cons_of_mem _ hy))
      ⟨t', h.performs (hpolls _ (List.mem_cons_self ..)) hp, hx'⟩

end

/-! ## The tokio stream in the handshake machine -/

namespace Handshake
variable {p : Profile} {env : Env}

/-- The stream made from a tokio stream, when the tokio stream has the history `x.2`. -/
def ofTokio (x : TokioTcpStream × Trace) : Handshake p × Trace :=
  (⟨if wroteOnce x.2 then .established else .connected, .connected x.1⟩, x.2)

theorem deliver_ofTokio (x : TokioTcpStream × Trace) :
    deliver env (ofTokio x : Handshake p × Trace) = ofTokio (deliver env x) := by
  simp only [deliver, SysTcpStream.setWritable]
  show (if env.writeEvent x.2 then _ else _) = _
  split <;> rfl

/-- A write that is not masked is the same in both. -/
theorem iterate_ofTokio (hp : p.settles = true) (cx : Waker) (buf : Bytes)
    {x : TokioTcpStream × Trace} {o : Outcome (Poll (Result ℕ))} {y : TokioTcpStream × Trace}
    (h : iterate env cx buf x = .done o y) (hm : maskedFirst p.retry y.2 = false) :
    iterate env cx buf (ofTokio x : Handshake p × Trace) = .done o (ofTokio y) := by
  rw [iterate, deliver_ofTokio]
  simp only [iterate, SysTcpStream.pollWriteBody] at h
  generalize deliver env x = z at h
  obtain ⟨s, t⟩ := z
  obtain ⟨r, s', hr, -⟩ := s.pollWrite_spec env cx buf t
  rw [hr] at h
  cases h
  cases ho : wroteOnce t with
  | true =>
    have ho' : wroteOnce (.pollWrite cx s.fd buf r :: t) = true := by
      rcases r with (e | n) | _ <;> simp [wroteOnce, ho]
    simp [ofTokio, ho, ho', SysTcpStream.pollWriteBody, pollWriteBody, LazyTcpStream.withConnected,
      delegate, hr]
  | false =>
    have hfirst : ∀ e, r = .ready (.error e) → p.retry e = false := by
      rintro e rfl
      simpa [ho] using (Bool.or_eq_false_iff.1 hm).1
    rcases r with (e | n) | _
    · simp [ofTokio, ho, wroteOnce, SysTcpStream.pollWriteBody, pollWriteBody, hp,
        LazyTcpStream.withConnected, firstWrite, hr, hfirst e rfl]
    · simp [ofTokio, ho, wroteOnce, SysTcpStream.pollWriteBody, pollWriteBody, hp,
        LazyTcpStream.withConnected, firstWrite, hr]
    · simp [ofTokio, ho, wroteOnce, SysTcpStream.pollWriteBody, pollWriteBody, hp,
        LazyTcpStream.withConnected, firstWrite, hr]

theorem performs_ofTokio (hp : p.settles = true) {c : Call} (hc : c.Polls)
    {x y : TokioTcpStream × Trace} {o : Outcome Ret} (h : Performs env c x o y)
    (hm : maskedFirst p.retry y.2 = false) :
    Performs env c (ofTokio x : Handshake p × Trace) o (ofTokio y) := by
  cases c with
  | pollWrite cx buf =>
    obtain ⟨o', ho', rfl⟩ := h
    obtain ⟨r, s', hi⟩ := @tokio_iterate env cx buf x
    obtain ⟨rfl, rfl⟩ := ho'.unique ⟨1, Loop.run_succ_done hi 0⟩
    exact ⟨_, ⟨1, Loop.run_succ_done (iterate_ofTokio hp cx buf hi hm) 0⟩, rfl⟩
  | pollRead cx room =>
    obtain ⟨rfl, rfl⟩ := h
    have hw : wroteOnce (SysTcpStream.pollRead env cx room x).2.2 = wroteOnce x.2 :=
      wroteOnce_idle.deliverRead env x.2
    refine ⟨rfl, ?_⟩
    rw [ofTokio, hw]
    rfl
  | pollFlush cx | pollShutdown cx =>
    obtain ⟨rfl, rfl⟩ := h
    exact ⟨rfl, rfl⟩
  | _ => exact hc.elim

/-- The same for the public streams. -/
def ofTokioTfo (x : TfoStream TokioTcpStream × Trace) : TfoStream (Handshake p) × Trace :=
  (⟨(ofTokio (x.1.inner, x.2)).1⟩, x.2)

/-- **A run of the tokio stream that masks nothing** is a run of the stream made from it. -/
theorem run_ofTokio (hp : p.settles = true) {x₀ x : TfoStream TokioTcpStream × Trace}
    {t : List (Lts.Taken (TfoStream TokioTcpStream × Trace) Done)}
    (h : (system TokioTcpStream env).Run x₀ t x) (hpolls : ∀ y ∈ t, y.label.call.Polls)
    (hm : maskedFirst p.retry x.2 = false) :
    (system (Handshake p) env).Run (ofTokioTfo x₀) (t.map (Lts.Taken.map ofTokioTfo))
      (ofTokioTfo x) := by
  induction h with
  | nil => exact .nil
  | @snoc t x x' l hr hs ih =>
    have hl : l.call.Polls := hpolls ⟨x, l, x'⟩ (List.mem_cons_self ..)
    have hm' := tokio_step p.retry hl hs hm
    refine .snoc (ih (fun y hy => hpolls y (List.mem_cons_of_mem _ hy)) hm') ?_
    obtain ⟨t', hp', hx'⟩ := hs
    rw [hx', (maskedFirst_idle _).ret] at hm
    refine ⟨t', ?_, hx'⟩
    have h := performs_ofTokio hp hl hp' hm
    have h₁ : (ofTokioTfo x').1.inner = (ofTokio (x'.1.inner, t') : Handshake p × Trace).1 := by
      rw [ofTokioTfo, hx']
      rfl
    rw [h₁]
    exact h

/-- A write in `FastOpenConnecting` waits, or returns what `SO_ERROR` holds. -/
theorem iterate_otherSoError (cx : Waker) (buf : Bytes) (s : TokioTcpStream) (h : Trace) :
    ∃ r y, iterate (otherSoError env) cx buf
        ((⟨.fastOpenConnecting, .connected s⟩, h) : Handshake p × Trace) = .done (.returned r) y ∧
      (r = .pending ∨ r = .ready (.error (.simple .other))) := by
  have hbody : ∀ s h, ∃ r y, pollWriteBody (otherSoError env) cx buf
        ((⟨.fastOpenConnecting, .connected s⟩, h) : Handshake p × Trace) = .done (.returned r) y ∧
      (r = .pending ∨ r = .ready (.error (.simple .other))) := by
    rintro ⟨fd, writable⟩ h
    cases writable with
    | false => exact ⟨_, _, rfl, .inl rfl⟩
    | true => exact ⟨_, _, rfl, .inr rfl⟩
  rcases @deliver_cases _ _ _ (otherSoError env)
      ((⟨.fastOpenConnecting, .connected s⟩, h) : Handshake p × Trace) with
    hd | ⟨st, s', h', he, hd⟩
  · rw [iterate, hd]
    exact hbody s h
  · cases he
    rw [iterate, hd]
    exact hbody _ _

/-- **A write that is masked** returns the error from the tokio stream, and something else from the
stream made from it if `SO_ERROR` holds another error. -/
theorem pollWrite_masked (hp : p.settles = true) (hother : p.retry (.simple .other) = false)
    {cx : Waker} {buf : Bytes} {x y : TokioTcpStream × Trace} {o : Outcome (Poll (Result ℕ))}
    (h : iterate (otherSoError env) cx buf x = .done o y) (hx : maskedFirst p.retry x.2 = false)
    (hy : maskedFirst p.retry y.2 = true) :
    ∃ r z, PollWriteReturns (otherSoError env) cx buf (ofTokio x : Handshake p × Trace)
      (.returned r) z ∧ o ≠ .returned r := by
  rw [← @maskedFirst_deliver (otherSoError env)] at hx
  simp only [iterate, SysTcpStream.pollWriteBody] at h
  have hi : iterate (otherSoError env) cx buf (ofTokio x : Handshake p × Trace) =
      pollWriteBody (otherSoError env) cx buf (ofTokio (deliver (otherSoError env) x)) := by
    rw [iterate, deliver_ofTokio]
    rfl
  generalize deliver (otherSoError env) x = z at h hx hi
  obtain ⟨s, t⟩ := z
  obtain ⟨r, s', hr, -⟩ := s.pollWrite_spec (otherSoError env) cx buf t
  rw [hr] at h
  cases h
  rcases r with (e | n) | _
  · have hm : (p.retry e && !wroteOnce t || maskedFirst p.retry t) = true := hy
    rw [hx, Bool.or_false, Bool.and_eq_true, Bool.not_eq_true'] at hm
    obtain ⟨he, ho⟩ := hm
    have h₁ : iterate (otherSoError env) cx buf (ofTokio x : Handshake p × Trace) =
        .again (⟨.fastOpenConnecting, .connected s'⟩,
          .pollWrite cx s.fd buf (.ready (.error e)) :: t) := by
      rw [hi]
      simp [ofTokio, ho, pollWriteBody, hp, LazyTcpStream.withConnected, firstWrite, hr, he]
    obtain ⟨r, z, h₂, hr⟩ := @iterate_otherSoError p env cx buf s'
      (.pollWrite cx s.fd buf (.ready (.error e)) :: t)
    refine ⟨r, z, ⟨2, (Loop.run_succ_again h₁ 1).trans (Loop.run_succ_done h₂ 0)⟩, ?_⟩
    intro he'
    rcases hr with rfl | rfl
    · cases he'
    · cases he'
      rw [hother] at he
      cases he
  · have hm : maskedFirst p.retry t = true := hy
    rw [hx] at hm
    cases hm
  · have hm : maskedFirst p.retry t = true := hy
    rw [hx] at hm
    cases hm

/-- **A run of the tokio stream that masks a failure** is none of the stream made from it, if
`SO_ERROR` holds another error. -/
theorem masked_differs (hp : p.settles = true) (hother : p.retry (.simple .other) = false)
    {x₀ x : TfoStream TokioTcpStream × Trace}
    {t : List (Lts.Taken (TfoStream TokioTcpStream × Trace) Done)}
    (h : (system TokioTcpStream (otherSoError env)).Run x₀ t x)
    (hpolls : ∀ y ∈ t, y.label.call.Polls)
    (h₀ : maskedFirst p.retry x₀.2 = false) (hm : maskedFirst p.retry x.2 = true)
    {t' : List (Lts.Taken (TfoStream (Handshake p) × Trace) Done)}
    {x' : TfoStream (Handshake p) × Trace}
    (h' : (system (Handshake p) (otherSoError env)).Run (ofTokioTfo x₀) t' x') :
    t'.map (fun z => z.label) ≠ t.map fun z => z.label := by
  induction h generalizing t' x' with
  | nil =>
    rw [h₀] at hm
    cases hm
  | @snoc t x y l hr hs ih =>
    intro heq
    cases h' with
    | nil => cases heq
    | @snoc t' x' y' l' hr' hs' =>
      obtain ⟨rfl, ht⟩ := List.cons.inj heq
      have hpolls' := fun y hy => hpolls y (List.mem_cons_of_mem _ hy)
      cases hmx : maskedFirst p.retry x.2 with
      | true => exact ih hpolls' hmx hr' ht
      | false =>
        -- up to here nothing was masked, and the two are in the same state
        have hsame := run_ofTokio hp hr hpolls' hmx
        obtain ⟨-, rfl⟩ := run_unique hr' hsame (by
          have := congrArg (List.map Done.call) ht
          simpa [List.map_map, Function.comp_def, Lts.Taken.map] using this)
        obtain ⟨u, hq, hy⟩ := hs
        obtain ⟨u', hq', -⟩ := hs'
        rw [hy, (maskedFirst_idle _).ret] at hm
        have hl : l'.call.Polls := hpolls ⟨x, l', y⟩ (List.mem_cons_self ..)
        rcases tokio_performs hl hq with ⟨cx, buf, r, hc, ho, hi⟩ | hidle
        · obtain ⟨c, o⟩ := l'
          obtain rfl : c = _ := hc
          obtain rfl : o = _ := ho
          obtain ⟨r', hr', ho'⟩ := hq'
          obtain ⟨r'', z, hz, hne⟩ := pollWrite_masked hp hother hi hmx hm
          obtain ⟨rfl, -⟩ := hr'.unique hz
          cases ho'
          exact hne rfl
        · have hmx' : maskedFirst p.retry u = maskedFirst p.retry x.2 :=
            (hidle (maskedFirst_idle _)).trans ((maskedFirst_idle _).call _ _)
          rw [hmx', hmx] at hm
          cases hm

end Handshake

/-! ## FreeBSD and macOS -/

section
variable {S : Type} [SysTcpStream S] [SysConnect S] {env : Env} {s : TokioTcpStream}
  {t : List (Lts.Taken (TfoStream TokioTcpStream × Trace) Done)}
  {y : TfoStream TokioTcpStream × Trace}

/-- The stream made from `s`, given the calls of the run `t` of `s` to `y`, has one run: its calls
return what those of `s` return, and it issues the same writes. -/
structure BehavesLike (S : Type) [SysTcpStream S] [SysConnect S] (env : Env) (s : TokioTcpStream)
    (t : List (Lts.Taken (TfoStream TokioTcpStream × Trace) Done))
    (y : TfoStream TokioTcpStream × Trace) : Prop where
  runs : ∃ t' x', (system S env).Run (.ofTokio SysConnect.ofTokio s, []) t' x' ∧
    t'.map (fun z => z.label.call) = t.map fun z => z.label.call
  same : ∀ t' x', (system S env).Run (.ofTokio SysConnect.ofTokio s, []) t' x' →
    t'.map (fun z => z.label.call) = t.map (fun z => z.label.call) →
    t'.map (fun z => z.label) = t.map (fun z => z.label) ∧ writes x'.2 = writes y.2

variable [UnixTcpStream S] [UnixConnect S]

theorem Unix.viewTfo_ofTokio (s : TokioTcpStream) :
    UnixTcpStream.viewTfo ((.ofTokio SysConnect.ofTokio s, []) : TfoStream S × Trace) =
      Handshake.ofTokioTfo (⟨s⟩, []) := by
  simp [UnixTcpStream.viewTfo, TfoStream.ofTokio, UnixConnect.ofTokio, Handshake.ofTokioTfo,
    Handshake.ofTokio, wroteOnce]

/-- The stream behaves like the tokio stream if nothing is masked. -/
theorem Unix.behavesLike (hp : (UnixTcpStream.profile S).settles = true)
    (h : (system TokioTcpStream env).Run (⟨s⟩, []) t y) (hpolls : ∀ z ∈ t, z.label.call.Polls)
    (hm : maskedFirst (UnixTcpStream.profile S).retry y.2 = false) : BehavesLike S env s t y := by
  have hr := Handshake.run_ofTokio hp h hpolls hm
  rw [← Unix.viewTfo_ofTokio (S := S)] at hr
  obtain ⟨t', x', hr', ht, hx⟩ := hr.lift fun x l y hs => UnixTcpStream.step_lift env hs
  have hlabels : t'.map (fun z => z.label) = t.map fun z => z.label := by
    have := congrArg (List.map fun z => z.label) ht
    simpa [List.map_map, Function.comp_def, Lts.Taken.map] using this
  have hcalls : t'.map (fun z => z.label.call) = t.map fun z => z.label.call := by
    have := congrArg (List.map Done.call) hlabels
    simpa [List.map_map, Function.comp_def] using this
  have hy : x'.2 = y.2 := congrArg Prod.snd hx
  refine ⟨⟨t', x', hr', hcalls⟩, fun t'' x'' hr'' hc => ?_⟩
  obtain ⟨rfl, rfl⟩ := run_unique hr'' hr' (hc.trans hcalls.symm)
  exact ⟨hlabels, by rw [hy]⟩

/-- If something is masked, it does not if `SO_ERROR` holds another error. -/
theorem Unix.not_behavesLike (hp : (UnixTcpStream.profile S).settles = true)
    (hother : (UnixTcpStream.profile S).retry (.simple .other) = false)
    (h : (system TokioTcpStream (otherSoError env)).Run (⟨s⟩, []) t y)
    (hpolls : ∀ z ∈ t, z.label.call.Polls)
    (hm : maskedFirst (UnixTcpStream.profile S).retry y.2 = true) :
    ¬BehavesLike S (otherSoError env) s t y := by
  rintro ⟨⟨t', x', hr, hcalls⟩, hsame⟩
  have hlabels := (hsame t' x' hr hcalls).1
  have hr' := UnixTcpStream.run_view (otherSoError env) hr
  rw [Unix.viewTfo_ofTokio] at hr'
  refine Handshake.masked_differs hp hother h hpolls rfl hm hr' ?_
  rw [← hlabels]
  simp [List.map_map, Function.comp_def, Lts.Taken.map]

/-- **The stream made from a tokio stream** behaves like it, whatever the calls are answered that
the tokio stream does not make, iff nothing is masked. -/
theorem Unix.behavesLike_iff (hp : (UnixTcpStream.profile S).settles = true)
    (hother : (UnixTcpStream.profile S).retry (.simple .other) = false)
    (h : (system TokioTcpStream env).Run (⟨s⟩, []) t y) (hpolls : ∀ z ∈ t, z.label.call.Polls) :
    (∀ env', SameAnswers env env' → BehavesLike S env' s t y) ↔
      maskedFirst (UnixTcpStream.profile S).retry y.2 = false := by
  constructor
  · intro hb
    by_contra hm
    have hsame := sameAnswers_otherSoError env
    exact Unix.not_behavesLike hp hother (hsame.run h hpolls) hpolls (by simpa using hm)
      (hb _ hsame)
  · intro hm env' hsame
    exact Unix.behavesLike hp (hsame.run h hpolls) hpolls hm

end

/-- `TfoListener` returns streams made from tokio streams. -/
theorem accepted_ofTokio {S : Type} {sysFrom : TokioTcpStream → S} {env : Env} {h : Trace}
    {x : TfoStream S} {peer : SocketAddr}
    (ha : TfoListener.pollAccept sysFrom env h = .returned (.ready (.ok (x, peer)))) :
    ∃ s, x = .ofTokio sysFrom s := by
  simp only [TfoListener.pollAccept] at ha
  split at ha
  · cases ha
  · exact absurd ha (Unregistered.ready_ne_ok _ _)
  · cases ha
    exact ⟨_, rfl⟩

/-- What a module promises about the streams it makes from tokio streams. -/
def FromBehaves (S : Type) [SysTcpStream S] [SysConnect S] : Prop :=
  ∀ (env : Env) (s : TokioTcpStream) (t : List (Lts.Taken (TfoStream TokioTcpStream × Trace) Done))
    (y : TfoStream TokioTcpStream × Trace), (system TokioTcpStream env).Run (⟨s⟩, []) t y →
      (∀ z ∈ t, z.label.call.Polls) → BehavesLike S env s t y

/-- **The streams made from tokio streams.** -/
theorem behavesLike_iff_not_masked {env : Env} {s : TokioTcpStream}
    {t : List (Lts.Taken (TfoStream TokioTcpStream × Trace) Done)}
    {y : TfoStream TokioTcpStream × Trace} (h : (system TokioTcpStream env).Run (⟨s⟩, []) t y)
    (hpolls : ∀ z ∈ t, z.label.call.Polls) :
    ((∀ env', SameAnswers env env' → BehavesLike FreeBsd.TcpStream env' s t y) ↔
      maskedFirst FreeBsd.TcpStream.retry y.2 = false) ∧
    ((∀ env', SameAnswers env env' → BehavesLike MacOs.TcpStream env' s t y) ↔
      maskedFirst MacOs.TcpStream.retry y.2 = false) :=
  ⟨Unix.behavesLike_iff rfl rfl h hpolls, Unix.behavesLike_iff rfl rfl h hpolls⟩

/-- A first write that succeeds. -/
theorem behavesLike_first_write :
    let r := runOf (default : Env) 1 [.pollWrite ⟨1, 1⟩ [7]] (⟨(⟨0, true⟩ : TokioTcpStream)⟩, [])
    BehavesLike FreeBsd.TcpStream default ⟨0, true⟩ r.1 r.2 ∧
      BehavesLike MacOs.TcpStream default ⟨0, true⟩ r.1 r.2 := by
  have hpolls : ∀ z ∈ (runOf (default : Env) 1 [.pollWrite ⟨1, 1⟩ [7]]
      (⟨(⟨0, true⟩ : TokioTcpStream)⟩, [])).1, z.label.call.Polls := by
    intro z hz
    obtain rfl := List.mem_singleton.1 hz
    trivial
  have hb := behavesLike_iff_not_masked (run_runOf default 1 [.pollWrite ⟨1, 1⟩ [7]] _) hpolls
  exact ⟨hb.1.2 rfl default ⟨rfl, rfl, rfl, rfl, rfl, rfl⟩,
    hb.2.2 rfl default ⟨rfl, rfl, rfl, rfl, rfl, rfl⟩⟩

/-- The peer has reset the connection: `SO_ERROR` holds `ECONNRESET`, and writes fail with
`ENOTCONN`. -/
def wasReset : Env :=
  { (default : Env) with
    pollWrite := fun _ _ _ => .ready (.error (.os .ENOTCONN))
    takeError := fun _ _ => .ok (some (.os (.other 54))) }

/-- The first write of the tokio stream returns `ENOTCONN`, that of the stream made from it
`ECONNRESET`. -/
theorem not_fromBehaves : ¬FromBehaves FreeBsd.TcpStream ∧ ¬FromBehaves MacOs.TcpStream := by
  let cs : List Call := [.pollWrite ⟨1, 1⟩ [1, 2, 3]]
  constructor
  · intro h
    have hb := h wasReset ⟨0, true⟩ _ _ (run_runOf wasReset 1 cs _) (by
      intro z hz
      obtain rfl := List.mem_singleton.1 hz
      trivial)
    have hs := hb.same _ _ (run_runOf wasReset 2 cs _) rfl
    exact absurd hs.1 (by decide)
  · intro h
    have hb := h wasReset ⟨0, true⟩ _ _ (run_runOf wasReset 1 cs _) (by
      intro z hz
      obtain rfl := List.mem_singleton.1 hz
      trivial)
    have hs := hb.same _ _ (run_runOf wasReset 2 cs _) rfl
    exact absurd hs.1 (by decide)

end TokioTfo
