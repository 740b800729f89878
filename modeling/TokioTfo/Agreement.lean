/-
  The FreeBSD and macOS streams compared with the Linux stream.

  But for `Connected`, a client of FreeBSD does what the fallback of Linux does, and
  one of macOS what its fast path does; on Linux `Connected` is left for no error and
  `Established` is the same state (`merge`).  The histories differ in the flags of
  `sendto`, and in the temporary `Socket` that macOS does not make to read a socket
  option (`onLinux`).

  * `Alike`: what a machine that settles, and one that does not, need to have in common.
  * `agree_iff_not_masked`: with the same answers the calls of a run return the same,
    with the same calls into the kernel and tokio and the same wake-ups, iff no
    ordinary write fails with one of the errors that are retried before the first has
    succeeded.
-/
import TokioTfo.FromSocket
import TokioTfo.Handshake.Iteration

namespace TokioTfo

/-! ## The methods that are not writes -/

namespace Renames
variable {σ τ : Type} {env env' : Env} {tr : Trace → Trace} (hr : Renames env env' tr) (f : σ → τ)
  (cx : Waker) (self : LazyTcpStream σ) (h : Trace)
include hr

theorem deliverRead : deliverRead env' (tr h) = tr (deliverRead env h) := by
  simp only [TokioTfo.deliverRead, hr.readEvent]
  split
  · exact (hr.cons .readEvent h trivial).symm
  · rfl

theorem poll_read (room : ℕ) :
    LazyTcpStream.pollRead env' cx room (self.mapState f, tr h) =
      Prod.map id (Prod.map (LazyTcpStream.mapState f) tr)
        (LazyTcpStream.pollRead env cx room (self, h)) := by
  obtain ⟨st, s | ⟨socket, addr, reader⟩ | _⟩ := self
  · simp only [LazyTcpStream.pollRead, LazyTcpStream.mapState, TokioTcpStream.pollRead,
      hr.deliverRead, hr.pollRead, ← hr.cons (.pollRead ..) _ trivial]
    rfl
  · simp only [LazyTcpStream.pollRead, LazyTcpStream.mapState, hr.wakeReader]
    rfl
  · rfl

theorem poll_flush : LazyTcpStream.pollFlush env' (self.mapState f) (tr h) =
    Prod.map id tr (LazyTcpStream.pollFlush env self h) := by
  obtain ⟨st, s | _ | _⟩ := self
  · simp only [LazyTcpStream.pollFlush, LazyTcpStream.mapState, TokioTcpStream.pollFlush,
      hr.pollFlush, ← hr.cons (.pollFlush ..) _ trivial]
    rfl
  · rfl
  · rfl

theorem poll_shutdown : LazyTcpStream.pollShutdown env' (self.mapState f) (tr h) =
    Prod.map id tr (LazyTcpStream.pollShutdown env self h) := by
  obtain ⟨st, s | _ | _⟩ := self
  · simp only [LazyTcpStream.pollShutdown, LazyTcpStream.mapState, TokioTcpStream.pollShutdown,
      hr.pollShutdown, ← hr.cons (.pollShutdown ..) _ trivial]
    rfl
  · rfl
  · rfl

theorem peer_addr : LazyTcpStream.peerAddr env' (self.mapState f) (tr h) =
    Prod.map id tr (LazyTcpStream.peerAddr env self h) := by
  obtain ⟨st, s | _ | _⟩ := self
  · simp only [LazyTcpStream.peerAddr, LazyTcpStream.mapState, TokioTcpStream.peerAddr,
      hr.peerAddr, ← hr.cons (.peerAddr ..) _ trivial]
    rfl
  · rfl
  · rfl

end Renames

/-! ## The machine that does not settle -/

/-- The phase of a machine that does not settle. -/
def Phase.merge {p q : Profile} : Phase p → Phase q
  | fastOpenConnect => .fastOpenConnect
  | fastOpenWrite => .fastOpenWrite
  | fastOpenConnecting => .fastOpenConnecting
  | connected | established => .connected

/-- The answer to a getter that only `call_socket_api!` unwraps. -/
def noIpAddr : Outcome (Result SocketVal) := .returned (.ok (.addr none))

namespace Handshake
variable {p q : Profile} {env env' : Env} {tr : Trace → Trace}

/-- The stream in a machine that does not settle, with its history renamed. -/
def merge (tr : Trace → Trace) : Handshake p × Trace → Handshake q × Trace :=
  Prod.map (LazyTcpStream.mapState Phase.merge) tr

/-- The same for the public streams. -/
def mergeTfo (tr : Trace → Trace) (x : TfoStream (Handshake p) × Trace) :
    TfoStream (Handshake q) × Trace :=
  (⟨x.1.inner.mapState Phase.merge⟩, tr x.2)

/-- A machine that settles, one that does not, and environments that give them the same answers.
The second one may record more than the first. -/
structure Alike (p q : Profile) (env env' : Env) (tr : Trace → Trace) : Prop
    extends Renames env env' tr where
  settles : p.settles = true
  stays : q.settles = false
  opens : RenamesSendto env env' tr p.flags q.flags
  socketApi : ∀ op (self : Handshake p) h, (self.socketApi env op h).1 ≠ noIpAddr →
    Handshake.socketApi env' op (self.mapState Phase.merge : Handshake q) (tr h) =
      Prod.map id tr (self.socketApi env op h)
  longer : ∀ h h', h <:+ h' → h.length < h'.length → (tr h).length < (tr h').length

/-- The stream is `Established` from the first ordinary write that succeeds. -/
def Settled (x : Handshake p × Trace) : Prop := x.1.state = .established ↔ wroteOnce x.2 = true

theorem settled_idle (s : Handshake p) : IgnoresIdle fun h => Settled (s, h) := by
  intro e h he
  simp only [Settled, wroteOnce_idle e h he]

section
variable {cx : Waker} {buf : Bytes}

theorem Iter.settled (hp : p.settles = true) {x : Handshake p × Trace}
    {y : Loop.Step (Handshake p × Trace) (Outcome (Poll (Result ℕ)))} (h : Iter env cx buf x y)
    (hx : Settled x) : Settled y.state := by
  unfold Settled at hx ⊢
  cases h with
  | @write ph s s' h r hph =>
    rcases hph with rfl | ⟨-, hs⟩
    · have hw : wroteOnce h = true := hx.1 rfl
      rcases r with (e | n) | _ <;> simp [wroteOnce, hw]
    · rw [hp] at hs
      cases hs
  | settle => simp [wroteOnce]
  | openCount | openProgress =>
    simpa [wroteOnce_idle.wakeReader, wroteOnce_idle.registered, wroteOnce] using hx
  | wait | waitError => exact hx
  | _ => simpa [queried, notRegistered, wroteOnce] using hx

theorem settled_invariant (hp : p.settles = true) : Invariant env (Settled (p := p)) :=
  .of_idle settled_idle (fun _ _ _ _ _ _ hx => hx) (fun _ _ _ hx => hx)
    fun cx buf x hx => (body_iter env cx buf x).settled hp hx

/-- What an iteration masks, it does not unmask. -/
theorem Iter.masked_back {x : Handshake p × Trace}
    {y : Loop.Step (Handshake p × Trace) (Outcome (Poll (Result ℕ)))} (h : Iter env cx buf x y)
    (hm : maskedFirst p.retry y.state.2 = false) : maskedFirst p.retry x.2 = false := by
  have hi := maskedFirst_idle p.retry
  cases h with
  | @write _ _ _ _ r =>
    rcases r with (e | n) | _
    · exact (Bool.or_eq_false_iff.1 hm).2
    · exact hm
    · exact hm
  | failed | retry => exact (Bool.or_eq_false_iff.1 hm).2
  | openCount | openProgress => simpa [hi.wakeReader, hi.registered, maskedFirst] using hm
  | _ => simpa [queried, notRegistered, maskedFirst] using hm

end

/-- **The loop bodies agree** as long as nothing is masked. -/
theorem body_merge (ha : Alike p q env env' tr) {cx : Waker} {buf : Bytes}
    {x : Handshake p × Trace} (hx : Settled x)
    (hm : maskedFirst p.retry (pollWriteBody env cx buf x).state.2 = false) :
    pollWriteBody env' cx buf (merge tr x : Handshake q × Trace) =
      (pollWriteBody env cx buf x).map (merge tr) := by
  obtain ⟨⟨ph, o⟩, h⟩ := x
  cases ph with
  | fastOpenConnect =>
    exact ha.fastOpenConnect cx buf Phase.merge ha.opens .fastOpenConnecting .connected
      ⟨.fastOpenConnect, o⟩ h
  | fastOpenWrite =>
    exact withConnected_rename Phase.merge ⟨.fastOpenWrite, o⟩ h _ _
      (ha.fastOpenWrite cx buf Phase.merge .fastOpenWrite .fastOpenConnecting .connected)
  | fastOpenConnecting =>
    exact withConnected_rename Phase.merge ⟨.fastOpenConnecting, o⟩ h _ _
      (ha.awaitConnect cx Phase.merge .fastOpenConnecting .connected)
  | established =>
    have := withConnected_rename Phase.merge ⟨.established, o⟩ h _ _
      (ha.delegate cx buf (Phase.merge (q := q)) (.established : Phase p))
    simpa [pollWriteBody, merge, LazyTcpStream.mapState, Phase.merge, ha.stays] using this
  | connected =>
    have ho : wroteOnce h = false := by simpa [Settled] using hx
    cases o with
    | connecting | empty =>
      simp [pollWriteBody, merge, LazyTcpStream.mapState, Phase.merge, LazyTcpStream.withConnected]
    | connected s =>
      have hw := ha.poll_write cx buf s h
      obtain ⟨r, s', hr, -⟩ := s.pollWrite_spec env cx buf h
      have hfirst : ∀ e, r = .ready (.error e) → p.retry e = false := by
        rintro e rfl
        cases he : p.retry e with
        | false => rfl
        | true =>
          simp [pollWriteBody, ha.settles, LazyTcpStream.withConnected, firstWrite, hr, he,
            maskedFirst, ho] at hm
      rcases r with (e | n) | _
      · simp [pollWriteBody, merge, LazyTcpStream.mapState, Phase.merge, ha.settles, ha.stays,
          LazyTcpStream.withConnected, firstWrite, delegate, hw, hr, hfirst e rfl]
      · simp [pollWriteBody, merge, LazyTcpStream.mapState, Phase.merge, ha.settles, ha.stays,
          LazyTcpStream.withConnected, firstWrite, delegate, hw, hr]
      · simp [pollWriteBody, merge, LazyTcpStream.mapState, Phase.merge, ha.settles, ha.stays,
          LazyTcpStream.withConnected, firstWrite, delegate, hw, hr]

theorem deliver_merge (ha : Alike p q env env' tr) (x : Handshake p × Trace) :
    deliver env' (merge tr x : Handshake q × Trace) = merge tr (deliver env x) := by
  obtain ⟨⟨ph, s | _ | _⟩, h⟩ := x
  · show (if env'.writeEvent (tr h) then _ else _) = _
    simp only [deliver, SysTcpStream.setWritable, LazyTcpStream.setWritable, ha.writeEvent]
    split
    · exact congrArg (Prod.mk _) (ha.cons .writeEvent h trivial).symm
    · rfl
  · rfl
  · rfl

theorem settled_deliver (hp : p.settles = true) {x : Handshake p × Trace} (hx : Settled x) :
    Settled (deliver env x) :=
  have hi : Invariant env (Settled (p := p)) := settled_invariant hp
  deliver_inv hi.event hx

theorem masked_deliver (x : Handshake p × Trace) :
    maskedFirst p.retry (deliver env x).2 = maskedFirst p.retry x.2 := by
  rcases @deliver_cases _ _ _ env x with hd | ⟨st, s, h, rfl, hd⟩ <;> rw [hd]
  rfl

section
variable {cx : Waker} {buf : Bytes} {x : Handshake p × Trace}

theorem iterate_merge (ha : Alike p q env env' tr) (hx : Settled x)
    (hm : maskedFirst p.retry (iterate env cx buf x).state.2 = false) :
    iterate env' cx buf (merge tr x : Handshake q × Trace) =
      (iterate env cx buf x).map (merge tr) := by
  rw [iterate, deliver_merge ha]
  exact body_merge ha (settled_deliver ha.settles hx) hm

theorem masked_back (hm : maskedFirst p.retry (iterate env cx buf x).state.2 = false) :
    maskedFirst p.retry x.2 = false := by
  rw [← @masked_deliver p env x]
  exact (body_iter env cx buf _).masked_back hm

theorem settled_iterate (hp : p.settles = true) {y : Handshake p × Trace} (hx : Settled x)
    (h : iterate env cx buf x = .again y) : Settled y :=
  (settled_invariant hp).again (settled_deliver hp hx) h

/-- The loops of a write run in lockstep as long as nothing is masked. -/
theorem run_merge (ha : Alike p q env env' tr) {n : ℕ} (hx : Settled x)
    (hm : maskedFirst p.retry (Loop.run (iterate env cx buf) n x).state.2 = false) :
    Loop.run (iterate env' cx buf) n (merge tr x : Handshake q × Trace) =
      (Loop.run (iterate env cx buf) n x).map (merge tr) :=
  Loop.run_map_while (I := Settled) (G := fun y => maskedFirst p.retry y.2 = false)
    (fun _ _ => settled_iterate ha.settles) (fun _ => masked_back) (fun _ => iterate_merge ha) hx hm

end

/-- The results on which the modules agree: `call_socket_api!` would unwrap the others. -/
def SameApi (o : Outcome Ret) : Prop := o ≠ noIpAddr.map .value

theorem performs_merge (ha : Alike p q env env' tr) {c : Call} {x y : Handshake p × Trace}
    {o : Outcome Ret} (ho : SameApi o) (hx : Settled x) (h : Performs env c x o y)
    (hm : maskedFirst p.retry y.2 = false) :
    Performs env' c (merge tr x : Handshake q × Trace) o (merge tr y) := by
  cases c with
  | pollWrite cx buf | pollWriteVectored cx bufs =>
    obtain ⟨r, ⟨n, hn⟩, ho⟩ := h
    refine ⟨r, ⟨n, ?_⟩, ho⟩
    rw [run_merge ha hx (by rw [hn]; exact hm), hn]
    rfl
  | pollRead cx room =>
    obtain ⟨rfl, rfl⟩ := h
    have hr : SysTcpStream.pollRead env' cx room (merge tr x : Handshake q × Trace) =
        Prod.map id (merge tr) (SysTcpStream.pollRead env cx room x) :=
      ha.poll_read Phase.merge cx x.1 x.2 room
    simp only [Performs, hr]
    exact ⟨rfl, rfl⟩
  | socketApi op =>
    obtain ⟨rfl, rfl⟩ := h
    have hr : SysTcpStream.socketApi env' op (merge tr x : Handshake q × Trace).1 (tr x.2) =
        Prod.map id tr (SysTcpStream.socketApi env op x.1 x.2) :=
      ha.socketApi op x.1 x.2 fun he => ho (congrArg (Outcome.map Ret.value) he)
    simp only [Performs, show (merge tr x : Handshake q × Trace).2 = tr x.2 from rfl, hr]
    exact ⟨rfl, rfl⟩
  | pollFlush cx =>
    obtain ⟨rfl, rfl⟩ := h
    have hr : SysTcpStream.pollFlush env' (merge tr x : Handshake q × Trace).1 (tr x.2) =
        Prod.map id tr (SysTcpStream.pollFlush env x.1 x.2) :=
      ha.poll_flush Phase.merge x.1 x.2
    simp only [Performs, show (merge tr x : Handshake q × Trace).2 = tr x.2 from rfl, hr]
    exact ⟨rfl, rfl⟩
  | pollShutdown cx =>
    obtain ⟨rfl, rfl⟩ := h
    have hr : SysTcpStream.pollShutdown env' (merge tr x : Handshake q × Trace).1 (tr x.2) =
        Prod.map id tr (SysTcpStream.pollShutdown env x.1 x.2) :=
      ha.poll_shutdown Phase.merge x.1 x.2
    simp only [Performs, show (merge tr x : Handshake q × Trace).2 = tr x.2 from rfl, hr]
    exact ⟨rfl, rfl⟩
  | peerAddr =>
    obtain ⟨rfl, rfl⟩ := h
    have hr : SysTcpStream.peerAddr env' (merge tr x : Handshake q × Trace).1 (tr x.2) =
        Prod.map id tr (SysTcpStream.peerAddr env x.1 x.2) :=
      ha.peer_addr Phase.merge x.1 x.2
    simp only [Performs, show (merge tr x : Handshake q × Trace).2 = tr x.2 from rfl, hr]
    exact ⟨rfl, rfl⟩
  | asRawFd =>
    obtain ⟨rfl, rfl⟩ := h
    exact ⟨rfl, rfl⟩

/-! ## A write that is masked -/

section
variable {cx : Waker} {buf : Bytes} {x : Handshake p × Trace}

/-- An iteration that masks an error goes round again, and without the retry it returns the
error. -/
theorem body_masks (ha : Alike p q env env' tr) (hx : Settled x)
    (h₀ : maskedFirst p.retry x.2 = false)
    (h₁ : ¬maskedFirst p.retry (pollWriteBody env cx buf x).state.2 = false) :
    ∃ s h e, pollWriteBody env cx buf x =
        .again (⟨.fastOpenConnecting, .connected s⟩,
          .pollWrite cx s.fd buf (.ready (.error e)) :: h) ∧
      pollWriteBody env' cx buf (merge tr x : Handshake q × Trace) =
        .done (.returned (.ready (.error e)))
          (⟨.connected, .connected s⟩, tr (.pollWrite cx s.fd buf (.ready (.error e)) :: h)) := by
  have hi := body_iter env cx buf x
  generalize hb : pollWriteBody env cx buf x = y at hi h₁
  cases hi with
  | @retry s h e _ he =>
    refine ⟨s, h, e, rfl, ?_⟩
    have hq := ha.poll_write cx buf s h
    obtain ⟨r, s', hr, hw⟩ := s.pollWrite_spec env cx buf h
    simp only [pollWriteBody, ha.settles, if_true, LazyTcpStream.withConnected, firstWrite, hr]
      at hb
    rcases r with (e' | n) | _
    · obtain rfl := hw.kept (by simp)
      obtain rfl : e' = e := by
        cases hre : p.retry e' <;> simp [hre] at hb
        exact hb
      simp [merge, LazyTcpStream.mapState, Phase.merge, pollWriteBody, ha.stays,
        LazyTcpStream.withConnected, delegate, hq, hr]
    · simp at hb
    · simp at hb
  | @write ph s s' h r hph =>
    rcases hph with rfl | ⟨-, hs⟩
    · have ho : wroteOnce h = true := hx.1 rfl
      rcases r with (e | n) | _ <;> simp_all [maskedFirst]
    · rw [ha.settles] at hs
      cases hs
  | openCount | openProgress =>
    simp_all [(maskedFirst_idle p.retry).wakeReader, (maskedFirst_idle p.retry).registered,
      maskedFirst]
  | wait | waitError => exact absurd h₀ h₁
  | _ => simp_all [queried, notRegistered, maskedFirst]

theorem suffix_wakeReader (reader : Option Waker) (cx : Waker) (h : Trace) :
    h <:+ wakeReader reader cx h := by
  rcases wakeReader_cases reader cx h with hw | ⟨w, hw⟩ <;> simp [hw]

/-- An iteration only adds to the history. -/
theorem Iter.suffix {y : Loop.Step (Handshake p × Trace) (Outcome (Poll (Result ℕ)))}
    (h : Iter env cx buf x y) : x.2 <:+ y.state.2 := by
  cases h with
  | openCount | openProgress =>
    exact List.IsSuffix.trans (List.suffix_append [_, _, _, _] _) (suffix_wakeReader _ _ _)
  | unreachable => exact List.suffix_rfl
  | _ => simp [Loop.Step.state, queried, notRegistered, List.suffix_cons_iff]

/-- An iteration in `FastOpenConnecting` makes a call. -/
theorem Iter.length_lt {s : TokioTcpStream} {h : Trace}
    {y : Loop.Step (Handshake p × Trace) (Outcome (Poll (Result ℕ)))}
    (hi : Iter env cx buf (⟨.fastOpenConnecting, .connected s⟩, h) y) :
    h.length < y.state.2.length := by
  cases hi with
  | unreachable hx => simp at hx
  | write hph => simp at hph
  | _ =>
    simp only [Loop.Step.state, queried, List.length_cons]
    omega

theorem suffix_deliver (x : Handshake p × Trace) : x.2 <:+ (deliver env x).2 := by
  rcases @deliver_cases _ _ _ env x with hd | ⟨st, s, h, rfl, hd⟩
  · simp [hd]
  · simp [hd]

/-- A write from `FastOpenConnecting` makes a call before it returns. -/
theorem suffix_returns {s : TokioTcpStream} {h : Trace} {m : ℕ} {r : Outcome (Poll (Result ℕ))}
    {y : Handshake p × Trace}
    (hm : Loop.run (iterate env cx buf) m (⟨.fastOpenConnecting, .connected s⟩, h) = .done r y) :
    h <:+ y.2 ∧ h.length < y.2.length := by
  have hsuf : ∀ z : Handshake p × Trace, z.2 <:+ (iterate env cx buf z).state.2 :=
    fun z => (suffix_deliver z).trans (body_iter env cx buf _).suffix
  have hfirst : ∀ x : Handshake p × Trace, x = (⟨.fastOpenConnecting, .connected s⟩, h) →
      h <:+ (iterate env cx buf x).state.2 ∧ h.length < (iterate env cx buf x).state.2.length := by
    rintro x rfl
    refine ⟨hsuf (⟨.fastOpenConnecting, .connected s⟩, h), ?_⟩
    rw [iterate]
    rcases @deliver_cases _ _ _ env ((⟨.fastOpenConnecting, .connected s⟩, h) : Handshake p × Trace)
      with hd | ⟨st, s', h', he, hd⟩
    · rw [hd]
      exact (body_iter env cx buf _).length_lt
    · cases he
      rw [hd]
      have : (Event.writeEvent :: h).length < _ := (body_iter env cx buf
        ((⟨.fastOpenConnecting, .connected s.setWritable⟩, .writeEvent :: h) :
          Handshake p × Trace)).length_lt
      exact Nat.lt_trans (Nat.lt_succ_self _) this
  have hstep : ∀ z z' : Handshake p × Trace, (z = (⟨.fastOpenConnecting, .connected s⟩, h) ∨
      h <:+ z.2 ∧ h.length < z.2.length) → (iterate env cx buf z).state = z' →
        h <:+ z'.2 ∧ h.length < z'.2.length := by
    rintro z z' (hz | ⟨hz, hl⟩) rfl
    · exact hfirst z hz
    · exact ⟨hz.trans (hsuf z), Nat.lt_of_lt_of_le hl (hsuf z).length_le⟩
  refine Loop.Returns.post (I := fun z => z = (⟨.fastOpenConnecting, .connected s⟩, h) ∨
    h <:+ z.2 ∧ h.length < z.2.length) (Q := fun _ z => h <:+ z.2 ∧ h.length < z.2.length)
    ?_ ?_ (.inl rfl) ⟨m, hm⟩
  · intro z z' hz hb
    exact .inr (hstep z z' hz (by rw [hb]; rfl))
  · intro z r z' hz hb
    exact hstep z z' hz (by rw [hb]; rfl)

end

/-- **A call that masks an error** makes calls that the stream which does not settle does not
make. -/
theorem not_performs_merge (ha : Alike p q env env' tr) {c : Call} {x y : Handshake p × Trace}
    {o : Outcome Ret} (hx : Settled x) (h₀ : maskedFirst p.retry x.2 = false)
    (h : Performs env c x o y) (h₁ : ¬maskedFirst p.retry y.2 = false) :
    ¬Performs env' c (merge tr x : Handshake q × Trace) o (merge tr y) := by
  intro hperf
  rcases performs_cases h with ⟨cx, buf, r, hc, ⟨n, hn⟩, rfl⟩ | ho
  · obtain ⟨k, z, hk, hz, hlost, m, hm⟩ :=
      Loop.run_loses (G := fun z : Handshake p × Trace => maskedFirst p.retry z.2 = false) hn h₀ h₁
    -- up to `z` the two run in lockstep
    have hk' := run_merge ha hx (n := k) (by rw [hk]; exact hz)
    rw [hk] at hk'
    have hzs : Settled z := Loop.run_again_inv (fun _ _ => settled_iterate ha.settles) hx hk
    obtain ⟨s, t, e, hb, hb'⟩ := body_masks ha (settled_deliver ha.settles hzs)
      (by rw [masked_deliver]; exact hz) hlost
    have hdone : iterate env' cx buf (merge tr z : Handshake q × Trace) =
        .done (.returned (.ready (.error e)))
          (⟨.connected, .connected s⟩, tr (.pollWrite cx s.fd buf (.ready (.error e)) :: t)) := by
      rw [iterate, deliver_merge ha]
      exact hb'
    have hq' := Loop.run_last hk' hdone
    -- the one has returned, the other goes on
    rcases performs_cases hperf with ⟨cx', buf', r', hc', ⟨n', hn'⟩, -⟩ | ho
    · rw [hc] at hc'
      cases hc'
      obtain ⟨-, hy⟩ := Loop.Returns.unique ⟨n', hn'⟩ ⟨k + 1, hq'⟩
      have hlen : (tr y.2).length =
          (tr (.pollWrite cx s.fd buf (.ready (.error e)) :: t)).length :=
        congrArg (fun w : Handshake q × Trace => w.2.length) hy
      cases m with
      | zero => cases hm
      | succ m =>
        have hagain : iterate env cx buf z = _ := hb
        rw [Loop.run_succ_again hagain] at hm
        obtain ⟨hsuf, hlt⟩ := suffix_returns hm
        exact Nat.lt_irrefl _ (hlen ▸ ha.longer _ _ hsuf hlt)
    · rw [ho.payload] at hc
      cases hc
  · rw [ho.ignored (maskedFirst_idle p.retry)] at h₁
    exact h₁ h₀

/-! ## Runs -/

/-- A step is one of the machine that does not settle iff it masks nothing. -/
theorem step_merge_iff (ha : Alike p q env env' tr) {x y : TfoStream (Handshake p) × Trace}
    {l : Done} (hl : SameApi l.outcome) (hx : Settled (x.1.inner, x.2))
    (h₀ : maskedFirst p.retry x.2 = false) (h : (system (Handshake p) env).step x l y) :
    (system (Handshake q) env').step (mergeTfo tr x) l (mergeTfo tr y) ↔
      maskedFirst p.retry y.2 = false := by
  obtain ⟨t, hperf, hy⟩ := h
  have hx' : Settled (x.1.inner, .call l.call :: x.2) := ((settled_idle _).call _ _).mpr hx
  have hm : maskedFirst p.retry y.2 = maskedFirst p.retry t := by
    rw [hy, (maskedFirst_idle _).ret]
  have hcall : .call l.call :: tr x.2 = tr (.call l.call :: x.2) :=
    (ha.cons (.call _) _ trivial).symm
  have hret : tr y.2 = .ret l.call l.outcome :: tr t := by
    rw [hy, ha.cons (.ret ..) _ trivial]
  rw [hm]
  constructor
  · rintro ⟨t', hperf', hy'⟩
    have hyt : tr y.2 = .ret l.call l.outcome :: t' := hy'
    obtain rfl : tr t = t' := List.tail_eq_of_cons_eq (hret.symm.trans hyt)
    by_contra hne
    refine not_performs_merge ha hx' h₀ hperf hne ?_
    rw [show (mergeTfo tr x).2 = tr x.2 from rfl, hcall] at hperf'
    exact hperf'
  · intro hne
    refine ⟨tr t, ?_, hret⟩
    rw [show (mergeTfo tr x).2 = tr x.2 from rfl, hcall]
    exact performs_merge ha hl hx' hperf hne

theorem masked_step_back {x y : TfoStream (Handshake p) × Trace} {l : Done}
    (h : (system (Handshake p) env).step x l y) (hm : maskedFirst p.retry y.2 = false) :
    maskedFirst p.retry x.2 = false := by
  obtain ⟨t, hperf, hy⟩ := h
  rw [hy, (maskedFirst_idle _).ret] at hm
  rcases performs_cases hperf with ⟨cx, buf, r, hc, ⟨n, hn⟩, -⟩ | ho
  · have := Loop.run_back (G := fun z : Handshake p × Trace => maskedFirst p.retry z.2 = false)
      (fun _ => masked_back) (n := n) (by rw [hn]; exact hm)
    exact this
  · rw [ho.ignored (maskedFirst_idle p.retry)] at hm
    exact hm

/-- A run has masked nothing iff none of its steps had. -/
theorem masked_run_iff {x₀ x : TfoStream (Handshake p) × Trace}
    {t : List (Lts.Taken (TfoStream (Handshake p) × Trace) Done)}
    (h : (system (Handshake p) env).Run x₀ t x) (h₀ : maskedFirst p.retry x₀.2 = false) :
    maskedFirst p.retry x.2 = false ↔ ∀ y ∈ t, maskedFirst p.retry y.post.2 = false := by
  induction h with
  | nil => simpa using h₀
  | snoc _ hs ih =>
    rw [List.forall_mem_cons, ← ih]
    exact ⟨fun hm => ⟨hm, masked_step_back hs hm⟩, And.left⟩

/-- **A run is one of the machine that does not settle** iff it masks nothing. -/
theorem run_merge_iff (ha : Alike p q env env' tr) {x₀ x : TfoStream (Handshake p) × Trace}
    {t : List (Lts.Taken (TfoStream (Handshake p) × Trace) Done)}
    (h : (system (Handshake p) env).Run x₀ t x) (hc : ∀ y ∈ t, SameApi y.label.outcome)
    (hx₀ : Settled (x₀.1.inner, x₀.2)) (h₀ : maskedFirst p.retry x₀.2 = false) :
    (system (Handshake q) env').Run (mergeTfo tr x₀) (t.map (Lts.Taken.map (mergeTfo tr)))
        (mergeTfo tr x) ↔ maskedFirst p.retry x.2 = false := by
  rw [h.map_iff, masked_run_iff h h₀]
  refine h.forall_iff
    (I := fun y => Settled (y.1.inner, y.2) ∧ maskedFirst p.retry y.2 = false)
    (P := fun y => (system (Handshake q) env').step (mergeTfo tr y.pre) y.label
      (mergeTfo tr y.post))
    (C := fun y => maskedFirst p.retry y.post.2 = false) (D := fun y => SameApi y.label.outcome)
    ⟨hx₀, h₀⟩ ?_ ?_ hc
  · rintro y l z ⟨hy, -⟩ hs hm
    exact ⟨(settled_invariant ha.settles).step hy hs, hm⟩
  · rintro y l z ⟨hy, hm⟩ hs hl
    exact step_merge_iff ha hl hy hm hs

end Handshake

/-! ## FreeBSD, macOS and Linux -/

/-- What Linux records for an event of FreeBSD or macOS.  The flags of `sendto` are others, and
macOS, which does not wrap the socket, reads its options without a temporary `Socket`. -/
def Event.onLinux (wraps : Bool) : Event → Trace
  | sendto fd buf _ addr r => [sendto fd buf msgFastopen addr r]
  | socketApi fd op r => if wraps then [socketApi fd op r] else
      [handle (.intoRawFd fd), socketApi fd op r, handle (.fromRawFd fd)]
  | e => [e]

def onLinux (wraps : Bool) (h : Trace) : Trace := h.flatMap (Event.onLinux wraps)

/-- The kernel and tokio as a stream of FreeBSD or macOS sees them, if `env` are those that a stream
of Linux sees: the answers are the same. -/
def Env.seenBy (wraps : Bool) (env : Env) : Env :=
  { env with
    readEvent := fun h => env.readEvent (onLinux wraps h)
    writeEvent := fun h => env.writeEvent (onLinux wraps h)
    sendto := fun h fd buf _ addr => env.sendto (onLinux wraps h) fd buf msgFastopen addr
    send := fun h fd buf => env.send (onLinux wraps h) fd buf
    takeError := fun h fd => env.takeError (onLinux wraps h) fd
    fromStd := fun h fd => env.fromStd (onLinux wraps h) fd
    pollWriteReady := fun h fd => env.pollWriteReady (onLinux wraps h) fd
    pollWrite := fun h fd buf => env.pollWrite (onLinux wraps h) fd buf
    pollRead := fun h fd room => env.pollRead (onLinux wraps h) fd room
    pollFlush := fun h fd => env.pollFlush (onLinux wraps h) fd
    pollShutdown := fun h fd => env.pollShutdown (onLinux wraps h) fd
    peerAddr := fun h fd => env.peerAddr (onLinux wraps h) fd
    socketApi := fun h fd op => env.socketApi
      (if wraps then onLinux wraps h else .handle (.fromRawFd fd) :: onLinux wraps h) fd op }

section
variable (wraps : Bool)

theorem onLinux_plain {e : Event} (he : e.Plain) (h : Trace) :
    onLinux wraps (e :: h) = e :: onLinux wraps h := by
  cases e <;> first | exact he.elim | rfl

theorem renames_onLinux (env : Env) : Renames (env.seenBy wraps) env (onLinux wraps) where
  cons _ h he := onLinux_plain wraps he h
  readEvent _ := rfl
  writeEvent _ := rfl
  send _ _ _ := rfl
  takeError _ _ := rfl
  fromStd _ _ := rfl
  pollWriteReady _ _ := rfl
  pollWrite _ _ _ := rfl
  pollRead _ _ _ := rfl
  pollFlush _ _ := rfl
  pollShutdown _ _ := rfl
  peerAddr _ _ := rfl

theorem length_le_onLinux (h : Trace) : h.length ≤ (onLinux wraps h).length := by
  induction h with
  | nil => exact Nat.le_refl _
  | cons e h ih =>
    have he : 1 ≤ (e.onLinux wraps).length := by
      unfold Event.onLinux
      split
      · exact Nat.le_refl _
      · split <;> simp
      · exact Nat.le_refl _
    simp only [onLinux, List.flatMap_cons, List.length_append, List.length_cons] at ih ⊢
    omega

theorem onLinux_longer {h h' : Trace} (hs : h <:+ h') (hl : h.length < h'.length) :
    (onLinux wraps h).length < (onLinux wraps h').length := by
  obtain ⟨es, rfl⟩ := hs
  have := length_le_onLinux wraps es
  simp only [onLinux, List.flatMap_append, List.length_append] at this hl ⊢
  omega

/-- `call_socket_api!` returns an answer that it does not have to unwrap. -/
theorem callSocketApi_eq {σ : Type} {env : Env} {op : SocketApi} {self : LazyTcpStream σ} {fd : Fd}
    {h : Trace} (hfd : self.asRawFd = .returned fd)
    (hne : env.socketApi (.handle (.fromRawFd fd) :: h) fd op ≠ .ok (.addr none)) :
    self.callSocketApi env op h =
      (.returned (env.socketApi (.handle (.fromRawFd fd) :: h) fd op),
        .handle (.intoRawFd fd) ::
          .socketApi fd op (env.socketApi (.handle (.fromRawFd fd) :: h) fd op) ::
            .handle (.fromRawFd fd) :: h) := by
  simp only [LazyTcpStream.callSocketApi, hfd, socketApi]

/-- FreeBSD and macOS are alike Linux. -/
theorem Handshake.alike {p : Profile} (hp : p.settles = true) (env : Env) :
    Alike p Linux.profile (env.seenBy p.wraps) env (onLinux p.wraps) where
  toRenames := renames_onLinux p.wraps env
  settles := hp
  stays := rfl
  opens := ⟨fun _ _ _ _ _ => rfl, fun _ _ _ _ => rfl⟩
  longer _ _ := onLinux_longer p.wraps
  socketApi op self h hne := by
    obtain ⟨st, o⟩ := self
    cases hw : p.wraps with
    | true =>
      have hp : ∀ self : Handshake p, self.socketApi (env.seenBy true) op h =
          self.callSocketApi (env.seenBy true) op h := fun self => by simp [socketApi, hw]
      rw [hp]
      cases o <;> rfl
    | false =>
      rw [hw] at hne
      simp only [socketApi, hw, Bool.false_eq_true, if_false] at hne ⊢
      cases o with
      | empty => rfl
      | connected s =>
        have hfd : LazyTcpStream.asRawFd (⟨st.merge, .connected s⟩ : Handshake Linux.profile) =
          .returned s.fd := rfl
        exact callSocketApi_eq hfd fun he => hne (congrArg Outcome.returned he)
      | connecting socket addr reader =>
        have hfd : LazyTcpStream.asRawFd
          (⟨st.merge, .connecting socket addr reader⟩ : Handshake Linux.profile) =
            .returned socket.fd := rfl
        exact callSocketApi_eq hfd fun he => hne (congrArg Outcome.returned he)

end

/-- The Linux stream in the state of a FreeBSD stream. -/
def FreeBsd.asLinux (self : FreeBsd.TcpStream) : Linux.TcpStream :=
  self.mapState fun
    | .established | .connected => .connected
    | .fastOpenConnect => .fastOpenConnect
    | .fastOpenConnecting => .fastOpenConnecting

/-- The Linux stream in the state of a macOS stream. -/
def MacOs.asLinux (self : MacOs.TcpStream) : Linux.TcpStream :=
  ⟨match self.state with
    | .established | .connected => .connected
    | .fastOpenConnecting => .fastOpenConnecting
    | .fastOpenWrite => .fastOpenWrite, .connected self.inner⟩

/-- What it means that `S` does what Linux does iff it masks nothing: with the same answers, the
Linux streams in the states of a run make a run with the same calls and results, and with the
history that Linux records for it. -/
def AgreesIffNotMasked (S : Type) [SysTcpStream S] [SysConnect S] (wraps : Bool)
    (asLinux : S → Linux.TcpStream) (retry : Error → Bool) : Prop :=
  ∀ (env : Env) (x₀ x : TfoStream S × Trace) (t : List (Lts.Taken (TfoStream S × Trace) Done)),
    Started (env.seenBy wraps) x₀ → (system S (env.seenBy wraps)).Run x₀ t x →
      (∀ y ∈ t, y.label.outcome ≠ .returned (.value (.ok (.addr none)))) →
        ((system Linux.TcpStream env).Run (⟨asLinux x₀.1.inner⟩, onLinux wraps x₀.2)
            (t.map (Lts.Taken.map fun y => (⟨asLinux y.1.inner⟩, onLinux wraps y.2)))
            (⟨asLinux x.1.inner⟩, onLinux wraps x.2) ↔
          maskedFirst retry x.2 = false)

/-- A view that forgets nothing carries runs back. -/
theorem UnixTcpStream.run_view_iff {S : Type} [SysTcpStream S] [UnixTcpStream S] {env : Env}
    (hinj : Function.Injective (UnixTcpStream.view : S → _)) {x₀ x : TfoStream S × Trace}
    {t : List (Lts.Taken (TfoStream S × Trace) Done)} :
    (system (Handshake (UnixTcpStream.profile S)) env).Run (viewTfo x₀)
        (t.map (Lts.Taken.map viewTfo)) (viewTfo x) ↔ (system S env).Run x₀ t x := by
  have hv : Function.Injective (viewTfo : TfoStream S × Trace → _) := by
    rintro ⟨⟨s⟩, h⟩ ⟨⟨s'⟩, h'⟩ he
    simp only [viewTfo, Prod.mk.injEq, TfoStream.mk.injEq] at he
    obtain ⟨hs, rfl⟩ := he
    rw [hinj hs]
  refine ⟨fun h => ?_, run_view env⟩
  obtain ⟨t', x', hr, ht, hx⟩ := h.lift fun _ _ _ => step_lift env
  have hmap : Function.Injective (Lts.Taken.map (Λ := Done) (viewTfo (S := S))) := by
    rintro ⟨a, l, b⟩ ⟨a', l', b'⟩ he
    simp only [Lts.Taken.map, Lts.Taken.mk.injEq] at he
    rw [hv he.1, he.2.1, hv he.2.2]
  rw [← hmap.list_map ht, ← hv hx]
  exact hr

theorem Linux.view_injective :
    Function.Injective (UnixTcpStream.view : Linux.TcpStream → Handshake profile) := by
  rintro ⟨st, o⟩ ⟨st', o'⟩ h
  obtain ⟨hs, rfl⟩ := LazyTcpStream.mk.inj h
  cases st <;> cases st' <;> first | rfl | cases hs

section
variable {S : Type} [SysTcpStream S] [SysConnect S] [UnixTcpStream S] [UnixConnect S] {env : Env}

theorem Unix.settled_started {x : TfoStream S × Trace} (hx : Started env x) :
    Handshake.Settled (UnixTcpStream.view x.1.inner, x.2) := by
  have hw : wroteOnce x.2 = false := started_unix wroteOnce_idle hx
  rw [Handshake.Settled, hw]
  rcases hx with hc | ⟨s, rfl⟩
  · have ho := UnixConnect.opening hc
    generalize (UnixTcpStream.view x.1.inner, x.2) = y at ho
    cases ho <;> simp
  · rw [show (TfoStream.ofTokio SysConnect.ofTokio s : TfoStream S).inner =
      SysConnect.ofTokio s from rfl, UnixConnect.ofTokio]
    simp

theorem Unix.agreesIffNotMasked {asLinux : S → Linux.TcpStream}
    (hview : ∀ s, UnixTcpStream.view (asLinux s) = (UnixTcpStream.view s).mapState Phase.merge)
    (hp : (UnixTcpStream.profile S).settles = true) :
    AgreesIffNotMasked S (UnixTcpStream.profile S).wraps asLinux
      (UnixTcpStream.profile S).retry := by
  intro env x₀ x t hx₀ h hc
  have hm : maskedFirst (UnixTcpStream.profile S).retry x₀.2 = false :=
    started_unix (maskedFirst_idle _) hx₀
  have hrun := Handshake.run_merge_iff (q := UnixTcpStream.profile Linux.TcpStream)
    (Handshake.alike hp env) (UnixTcpStream.run_view _ h)
    (List.forall_mem_map.2 hc) (Unix.settled_started hx₀) hm
  rw [show (UnixTcpStream.viewTfo x).2 = x.2 from rfl] at hrun
  rw [← UnixTcpStream.run_view_iff Linux.view_injective]
  have hv : ∀ y : TfoStream S × Trace, UnixTcpStream.viewTfo
      ((⟨asLinux y.1.inner⟩, onLinux (UnixTcpStream.profile S).wraps y.2) :
        TfoStream Linux.TcpStream × Trace) =
        Handshake.mergeTfo (onLinux (UnixTcpStream.profile S).wraps) (UnixTcpStream.viewTfo y) := by
    intro y
    simp only [UnixTcpStream.viewTfo, Handshake.mergeTfo, hview]
  simpa only [List.map_map, Function.comp_def, Lts.Taken.map, hv] using hrun

end

/-- **The modules agree** as long as no failure of a write is masked: FreeBSD with the fallback of
Linux, and macOS with its fast path. -/
theorem agree_iff_not_masked :
    AgreesIffNotMasked FreeBsd.TcpStream true FreeBsd.asLinux FreeBsd.TcpStream.retry ∧
    AgreesIffNotMasked MacOs.TcpStream false MacOs.asLinux MacOs.TcpStream.retry := by
  constructor
  · refine Unix.agreesIffNotMasked (fun s => ?_) rfl
    obtain ⟨st, o⟩ := s
    cases st <;> rfl
  · refine Unix.agreesIffNotMasked (fun s => ?_) rfl
    obtain ⟨i, st⟩ := s
    cases st <;> rfl

end TokioTfo
