/-
  The panics of the streams.

  Outside of a runtime `from_std` panics, and with it the write that hands the socket
  over.  After a hand-over has failed the stream has no socket any more (`KeptOrLost`),
  and every call that needs one panics.  Apart from that, `local_addr` of the lazily
  connected modules panics on an address that is no IP address, and the first write on
  Windows if there is no `ConnectEx`; the assertion on Windows fails, where assertions
  are checked, when a write collects more bytes than its own buffer has.

  `panics_exactly`: on every run a call panics in these cases, and in no others.
-/
import TokioTfo.Validity

namespace TokioTfo

def Outcome.panic {α : Type} : Outcome α → Option Panic
  | returned _ => none
  | panicked q => some q

@[simp] theorem Outcome.panic_returned {α : Type} (a : α) : (returned a).panic = none := rfl

@[simp] theorem Outcome.panic_panicked {α : Type} (q : Panic) :
    (panicked q : Outcome α).panic = some q := rfl

@[simp] theorem Outcome.panic_map {α β : Type} (f : α → β) (o : Outcome α) :
    (o.map f).panic = o.panic := by
  cases o <;> rfl

/-! ## What the last call was answered -/

/-- A getter was answered with an address that is no IP address. -/
def unwrapsNone : Trace → Bool
  | [] | .call _ :: _ => false
  | .socketApi _ _ (.ok (.addr none)) :: _ => true
  | _ :: h => unwrapsNone h

/-- `from_std` was called outside of a runtime. -/
def outsideRuntime : Trace → Bool
  | [] | .call _ :: _ => false
  | .fromStd _ (.error .noRuntime) :: _ => true
  | _ :: h => outsideRuntime h

/-- The context was updated for a `ConnectEx` that has sent more than `k` bytes. -/
def Event.overCollects (k : ℕ) (e : Event) (h : Trace) : Bool :=
  match e, h with
  | .setUpdateConnectContext _ (.ok ()), .getOverlappedResult _ _ (.ok n) :: _ => decide (k < n)
  | _, _ => false

def overCollected (k : ℕ) : Trace → Bool
  | [] | .call _ :: _ => false
  | e :: h => e.overCollects k h || overCollected k h

theorem outsideRuntime_wakeReader (reader : Option Waker) (cx : Waker) (h : Trace) :
    outsideRuntime (wakeReader reader cx h) = outsideRuntime h := by
  rcases wakeReader_cases reader cx h with hw | ⟨w, hw⟩ <;> rw [hw]
  rfl

theorem overCollected_wakeReader (k : ℕ) (reader : Option Waker) (cx : Waker) (h : Trace) :
    overCollected k (wakeReader reader cx h) = overCollected k h := by
  rcases wakeReader_cases reader cx h with hw | ⟨w, hw⟩ <;> rw [hw]
  rfl

/-- Such a hand-over has failed. -/
theorem handOverFailed_of_outside {h : Trace} (hh : outsideRuntime h = true) :
    handOverFailed h = true := by
  induction h with
  | nil => cases hh
  | cons e h ih =>
    rw [handOverFailed_cons, Bool.or_eq_true]
    unfold outsideRuntime at hh
    split at hh
    · cases hh
    · cases hh
    · rename_i he
      cases he
      exact .inl rfl
    · rename_i he
      cases he
      exact .inr (ih hh)

/-! ## The streams that have lost their socket -/

/-- The stream is valid, or has lost its socket to a hand-over that failed. -/
def KeptOrLost {σ : Type} (opening : σ) (x : LazyTcpStream σ × Trace) : Prop :=
  if handOverFailed x.2 then x.1 = ⟨opening, .empty⟩ else x.1.Valid opening

section
variable {σ : Type} {opening : σ}

theorem keptOrLost_idle (s : LazyTcpStream σ) : IgnoresIdle fun h => KeptOrLost opening (s, h) := by
  intro e h he
  simp only [KeptOrLost, handOverFailed_idle e h he]

variable [SysTcpStream (LazyTcpStream σ)] {env : Env}

theorem keptOrLost_invariant
    (hbody : ∀ cx buf (x : LazyTcpStream σ × Trace), KeptOrLost opening x →
      KeptOrLost opening (SysTcpStream.pollWriteBody env cx buf x).state) :
    Invariant env (KeptOrLost opening : LazyTcpStream σ × Trace → Prop) := by
  refine .of_idle keptOrLost_idle ?_ ?_ hbody
  · intro st socket addr reader reader' h hx
    simpa [KeptOrLost] using hx
  · intro st s h hx
    rw [KeptOrLost] at *
    simpa [handOverFailed_cons, Event.failsHandOver] using hx

end

theorem Handshake.keptOrLost {p : Profile} (env : Env) (cx : Waker) (buf : Bytes)
    (x : Handshake p × Trace) (hx : KeptOrLost .fastOpenConnect x) :
    KeptOrLost .fastOpenConnect (pollWriteBody env cx buf x).state := by
  have h := body_iter env cx buf x
  generalize pollWriteBody env cx buf x = y at h
  cases h with
  | unreachable => exact hx
  | _ =>
    simp_all [KeptOrLost, handOverFailed_cons, Event.failsHandOver, handOverFailed_idle.wakeReader,
      handOverFailed_idle.registered, notRegistered, queried]

theorem Windows.keptOrLost (env : Env) (cx : Waker) (buf : Bytes) (x : Windows.TcpStream × Trace)
    (hx : KeptOrLost .fastOpenConnect x) :
    KeptOrLost .fastOpenConnect (TcpStream.pollWriteBody env cx buf x).state := by
  have h := body_iter env cx buf x
  generalize TcpStream.pollWriteBody env cx buf x = y at h
  cases h with
  | unreachable | noConnectEx => exact hx
  | _ =>
    simp_all [KeptOrLost, handOverFailed_cons, Event.failsHandOver, handOverFailed_idle.wakeReader,
      handOverFailed_idle.registered, notRegistered, queried]

theorem Handshake.keptOrLost_invariant {p : Profile} (env : Env) :
    Invariant env (KeptOrLost .fastOpenConnect : Handshake p × Trace → Prop) :=
  TokioTfo.keptOrLost_invariant (Handshake.keptOrLost env)

theorem Windows.keptOrLost_invariant (env : Env) :
    Invariant env (KeptOrLost .fastOpenConnect : Windows.TcpStream × Trace → Prop) :=
  TokioTfo.keptOrLost_invariant (Windows.keptOrLost env)

/-! ## The calls that are not writes -/

/-- The panic of a call of a stream that has lost its socket or not, with the history after it. -/
def Call.panic (lost wraps : Bool) (h : Trace) : Call → Option Panic
  | pollWrite .. | pollWriteVectored .. =>
    if lost then some .unreachable
    else if outsideRuntime h then some .noRuntime
    else none
  | pollFlush _ | pollShutdown _ => none
  | socketApi _ =>
    if lost then some .unreachable
    else if wraps && unwrapsNone h then some .unwrap
    else none
  | pollRead .. | peerAddr | asRawFd => if lost then some .unreachable else none

section
variable {σ : Type} [SysTcpStream (LazyTcpStream σ)] {env : Env} {wraps : Bool}

/-- The getters and setters panic on a lost socket, and unwrap the address if `wraps`. -/
def Unwraps (env : Env) (σ : Type) [SysTcpStream (LazyTcpStream σ)] (wraps : Bool) : Prop :=
  ∀ op (x : LazyTcpStream σ) h, unwrapsNone h = false →
    (SysTcpStream.socketApi env op x h).1.panic =
      (Call.socketApi op).panic (x.stream = .empty) wraps (SysTcpStream.socketApi env op x h).2

omit [SysTcpStream (LazyTcpStream σ)] in
theorem unwraps_callSocketApi (op : SocketApi) (x : LazyTcpStream σ) (h : Trace)
    (hh : unwrapsNone h = false) :
    (x.callSocketApi env op h).1.panic =
      (Call.socketApi op).panic (x.stream = .empty) true (x.callSocketApi env op h).2 := by
  obtain ⟨st, s | ⟨socket, addr, reader⟩ | _⟩ := x
  · simp only [LazyTcpStream.callSocketApi, LazyTcpStream.asRawFd, socketApi]
    rcases env.socketApi (.handle (.fromRawFd s.fd) :: h) s.fd op with e | _ | _ | _ | _ | _ | _ <;>
      simp [Call.panic, unwrapsNone, hh]
  · simp only [LazyTcpStream.callSocketApi, LazyTcpStream.asRawFd, socketApi]
    rcases env.socketApi (.handle (.fromRawFd socket.fd) :: h) socket.fd op with
        e | _ | _ | _ | _ | _ | _ <;>
      simp [Call.panic, unwrapsNone, hh]
  · simp [LazyTcpStream.callSocketApi, LazyTcpStream.asRawFd, Call.panic]

theorem Handshake.unwraps {p : Profile} : Unwraps env (Phase p) p.wraps := by
  intro op x h hh
  show (Handshake.socketApi env op x h).1.panic = (Call.socketApi op).panic (x.stream = .empty)
    p.wraps (Handshake.socketApi env op x h).2
  unfold Handshake.socketApi
  cases hp : p.wraps with
  | true => exact unwraps_callSocketApi op x h hh
  | false =>
    obtain ⟨st, s | _ | _⟩ := x <;>
      simp [LazyTcpStream.asRawFd, Call.panic]

variable [LazyModule σ]

/-- **A call that is not a write.** -/
theorem panic_other (hapi : Unwraps env σ wraps) {c : Call} (hc : c.payload = none)
    {x y : LazyTcpStream σ × Trace} {o : Outcome Ret} (h : Performs env c x o y)
    (hx : unwrapsNone x.2 = false) : o.panic = c.panic (x.1.stream = .empty) wraps y.2 := by
  cases c with
  | pollWrite | pollWriteVectored => cases hc
  | pollRead cx room =>
    obtain ⟨rfl, rfl⟩ := h
    rw [LazyModule.pollRead_eq]
    obtain ⟨⟨st, s | _ | _⟩, t⟩ := x <;> simp [LazyTcpStream.pollRead, Call.panic]
  | pollFlush cx | pollShutdown cx =>
    obtain ⟨rfl, rfl⟩ := h
    rfl
  | peerAddr =>
    obtain ⟨rfl, rfl⟩ := h
    rw [LazyModule.peerAddr_eq]
    obtain ⟨⟨st, s | _ | _⟩, t⟩ := x <;> simp [LazyTcpStream.peerAddr, Call.panic]
  | asRawFd =>
    obtain ⟨rfl, rfl⟩ := h
    rw [LazyModule.asRawFd_eq]
    obtain ⟨⟨st, s | _ | _⟩, t⟩ := y <;> simp [LazyTcpStream.asRawFd, Call.panic]
  | socketApi op =>
    obtain ⟨rfl, rfl⟩ := h
    rw [Outcome.panic_map]
    exact hapi op x.1 x.2 hx

end

/-! ## The writes -/

section
variable {env : Env} {cx : Waker} {buf : Bytes} {r : Outcome (Poll (Result ℕ))}

/-- An iteration that goes round again has handed the socket over, or not tried to. -/
theorem Handshake.Iter.outside_again {p : Profile} {x y : Handshake p × Trace}
    (h : Iter env cx buf x (.again y)) : outsideRuntime y.2 = outsideRuntime x.2 := by
  cases h with
  | openProgress =>
    rw [outsideRuntime_wakeReader]
    rfl
  | _ => rfl

/-- An iteration that returns on a stream with a socket panics iff `from_std` does. -/
theorem Handshake.Iter.panic_done {p : Profile} {x y : Handshake p × Trace}
    (h : Iter env cx buf x (.done r y)) (hv : x.1.Valid .fastOpenConnect)
    (hx : outsideRuntime x.2 = false) :
    r.panic = if outsideRuntime y.2 then some .noRuntime else none := by
  cases h with
  | unreachable hu => exact absurd hu hv.reachable
  | openCount =>
    rw [outsideRuntime_wakeReader]
    simpa [registered, outsideRuntime] using hx
  | @openCountLost _ _ _ _ _ u | @openProgressLost _ _ _ _ u =>
    cases u <;> simp_all [notRegistered, outsideRuntime, Unregistered.outcome]
  | _ => simp_all [outsideRuntime, queried]

theorem Handshake.panic_write {p : Profile} {x y : Handshake p × Trace}
    (hx : KeptOrLost .fastOpenConnect x) (ho : outsideRuntime x.2 = false)
    (h : PollWriteReturns env cx buf x r y) :
    r.panic = if handOverFailed x.2 then some .unreachable
      else if outsideRuntime y.2 then some .noRuntime else none := by
  cases hf : handOverFailed x.2 with
  | true =>
    rw [KeptOrLost, if_pos hf] at hx
    refine pollWrite_post (I := fun z => z.1 = ⟨.fastOpenConnect, .empty⟩)
      (Q := fun r _ => r.panic = some .unreachable) (by simp) ?_ ?_ hx h
    · rintro ⟨z, t⟩ w rfl hb
      cases Iter.of_body hb
    · rintro ⟨z, t⟩ r w rfl hb
      cases Iter.of_body hb
      rfl
  | false =>
    rw [KeptOrLost, hf] at hx
    refine pollWrite_post
      (I := fun z => z.1.Valid .fastOpenConnect ∧ handOverFailed z.2 = false ∧
        outsideRuntime z.2 = false)
      (Q := fun r z => r.panic = if outsideRuntime z.2 then some .noRuntime else none)
      ?_ ?_ ?_ ⟨by simpa using hx, hf, ho⟩ h
    · rintro st s t ⟨hv, ht, ho⟩
      exact ⟨by simpa using hv, ht, ho⟩
    · rintro z w ⟨hv, ht, ho⟩ hb
      have hk := body_valid env cx buf z hv ht
      rw [show pollWriteBody env cx buf z = _ from hb] at hk
      exact ⟨hk.1, hk.2, (Iter.of_body hb).outside_again.trans ho⟩
    · rintro z r w ⟨hv, -, ho⟩ hb
      exact (Iter.of_body hb).panic_done hv ho

namespace Windows

/-- The panic of a write on a stream in the state `st` that has lost its socket or not, with the
history after it. -/
def TcpStream.writePanic (env : Env) (st : TcpStreamState) (lost : Bool) (buf : Bytes) (h : Trace) :
    Option Panic :=
  if st = .fastOpenConnect ∧ env.hasConnectEx = false then some .expect
  else if lost then some .unreachable
  else if outsideRuntime h then some .noRuntime
  else if env.debugAssertions && overCollected buf.length h then some .debugAssert
  else none

theorem debugAssertFails_eq (n : ℕ) :
    debugAssertFails env n buf = (env.debugAssertions && decide (buf.length < n)) := by
  rw [debugAssertFails, ← decide_not]
  simp only [Nat.not_le]

/-- An iteration that returns panics iff `from_std` does, or assertions are checked and one has
failed. -/
def Asserts (env : Env) (k : ℕ) :
    Loop.Step (TcpStream × Trace) (Outcome (Poll (Result ℕ))) → Prop
  | .again _ => True
  | .done r y =>
    r.panic = if outsideRuntime y.2 then some .noRuntime
      else if env.debugAssertions && overCollected k y.2 then some .debugAssert
      else none

/-- The assertion after a `ConnectEx` that was pending. -/
theorem asserts_fastOpenConnecting (env : Env) (cx : Waker) (buf : Bytes) (ov : Overlapped)
    (s : TokioTcpStream) {h : Trace} (ho : outsideRuntime h = false)
    (hh : overCollected buf.length h = false) :
    Asserts env buf.length
      (TcpStream.pollWriteBody env cx buf (⟨.fastOpenConnecting ov, .connected s⟩, h)) := by
  simp only [TcpStream.pollWriteBody, LazyTcpStream.withConnected, TcpStream.fastOpenConnecting]
  rcases s.pollWriteReady_cases env cx h with hr | ⟨e, hr⟩ | ⟨hw, hr⟩
  · rw [hr]
    simp [Asserts, outsideRuntime, overCollected, Event.overCollects, ho, hh]
  · rw [hr]
    simp [Asserts, outsideRuntime, overCollected, Event.overCollects, ho, hh]
  · rw [hr]
    simp only [TokioTcpStream.tryIo, hw, if_true, TcpStream.fetchResult, getOverlappedResult]
    rcases env.getOverlappedResult (.pollWriteReady cx s.fd (.ready (.ok ())) :: h) s.fd ov
      with e | n
    · by_cases he : e = .WSA_IO_INCOMPLETE
      · subst he
        trivial
      · by_cases hk : (Error.os e).kind = .wouldBlock
        · simp only [hk, if_true]
          trivial
        · simp [Asserts, outsideRuntime, overCollected, Event.overCollects, ho, hh, hk]
    · simp only [setUpdateConnectContext]
      rcases env.setUpdateConnectContext (.getOverlappedResult s.fd ov (.ok n) ::
          .pollWriteReady cx s.fd (.ready (.ok ())) :: h) s.fd with e | -
      · by_cases hk : (Error.os e).kind = .wouldBlock
        · simp only [hk, if_true]
          trivial
        · simp [Asserts, outsideRuntime, overCollected, Event.overCollects, ho, hh, hk]
      · cases ha : debugAssertFails env n buf with
        | true =>
          rw [debugAssertFails_eq] at ha
          simpa [Asserts, outsideRuntime, overCollected, Event.overCollects, ho, hh] using ha
        | false =>
          simp only [Bool.false_eq_true, if_false, socketTakeError]
          rw [debugAssertFails_eq] at ha
          rcases env.takeError (.handle (.fromRawFd s.fd) ::
              .setUpdateConnectContext s.fd (.ok ()) :: .getOverlappedResult s.fd ov (.ok n) ::
              .pollWriteReady cx s.fd (.ready (.ok ())) :: h) s.fd with e | o
          · simpa [Asserts, outsideRuntime, overCollected, Event.overCollects, queried, ho, hh]
              using ha
          · simpa [Asserts, outsideRuntime, overCollected, Event.overCollects, queried, ho, hh]
              using ha

/-- An iteration that goes round again has handed the socket over, or not tried to, and has not
updated the context. -/
theorem Iter.asserts_again {k : ℕ} {x y : TcpStream × Trace} (h : Iter env cx buf x (.again y)) :
    outsideRuntime y.2 = outsideRuntime x.2 ∧ overCollected k y.2 = overCollected k x.2 := by
  cases h with
  | openPending =>
    rw [outsideRuntime_wakeReader, overCollected_wakeReader]
    simp [registered, outsideRuntime, overCollected, Event.overCollects]
  | _ => simp [outsideRuntime, overCollected, Event.overCollects]

/-- **An iteration** on a valid stream, if there is a `ConnectEx`. -/
theorem asserts_body {x : TcpStream × Trace} (hv : x.1.Valid .fastOpenConnect)
    (hx : x.1.state = .fastOpenConnect → env.hasConnectEx = true)
    (ho : outsideRuntime x.2 = false) (hh : overCollected buf.length x.2 = false) :
    Asserts env buf.length (TcpStream.pollWriteBody env cx buf x) := by
  obtain ⟨⟨st, o⟩, h⟩ := x
  cases st with
  | fastOpenConnecting ov =>
    obtain ⟨s, rfl⟩ := hv.connected.2 (by simp)
    exact asserts_fastOpenConnecting env cx buf ov s ho hh
  | connected =>
    have hi := body_iter env cx buf (⟨.connected, o⟩, h)
    generalize TcpStream.pollWriteBody env cx buf (⟨.connected, o⟩, h) = y at hi
    cases hi with
    | unreachable hu => exact absurd hu hv.reachable
    | write => simp_all [Asserts, outsideRuntime, overCollected, Event.overCollects]
  | fastOpenConnect =>
    have hi := body_iter env cx buf (⟨.fastOpenConnect, o⟩, h)
    generalize TcpStream.pollWriteBody env cx buf (⟨.fastOpenConnect, o⟩, h) = y at hi
    cases hi with
    | unreachable hu => exact absurd hu hv.reachable
    | noConnectEx he =>
      rw [hx rfl] at he
      cases he
    | openPending => trivial
    | @openCountLost _ _ _ _ _ u | @openPendingLost _ _ _ _ u =>
      cases u <;> simp_all [Asserts, notRegistered, outsideRuntime, overCollected,
        Event.overCollects, Unregistered.outcome]
    | _ =>
      simp_all [Asserts, outsideRuntime_wakeReader, overCollected_wakeReader, registered,
        outsideRuntime, overCollected, Event.overCollects]

theorem body_noConnectEx {x : TcpStream × Trace} (hs : x.1.state = .fastOpenConnect)
    (hx : env.hasConnectEx = false) :
    TcpStream.pollWriteBody env cx buf x = .done (.panicked .expect) x := by
  simp only [TcpStream.pollWriteBody, hs, TcpStream.fastOpenConnect, hx, Bool.not_false, if_true]

theorem panic_write {x y : TcpStream × Trace} (hx : KeptOrLost .fastOpenConnect x)
    (ho : outsideRuntime x.2 = false) (hc : overCollected buf.length x.2 = false)
    (h : PollWriteReturns env cx buf x r y) :
    r.panic = TcpStream.writePanic env x.1.state (handOverFailed x.2) buf y.2 := by
  unfold TcpStream.writePanic
  by_cases hex : x.1.state = .fastOpenConnect ∧ env.hasConnectEx = false
  · rw [if_pos hex]
    refine pollWrite_post (I := fun z => z.1.state = .fastOpenConnect)
      (Q := fun r _ => r.panic = some .expect) (fun _ _ _ => id) ?_ ?_ hex.1 h
    · intro z w hz hb
      rw [show SysTcpStream.pollWriteBody env cx buf z = _ from body_noConnectEx hz hex.2] at hb
      cases hb
    · intro z r w hz hb
      rw [show SysTcpStream.pollWriteBody env cx buf z = _ from body_noConnectEx hz hex.2] at hb
      cases hb
      rfl
  · rw [if_neg hex]
    cases hf : handOverFailed x.2 with
    | true =>
      rw [KeptOrLost, if_pos hf] at hx
      refine pollWrite_post (I := fun z => z.1 = ⟨.fastOpenConnect, .empty⟩)
        (Q := fun r _ => r.panic = some .unreachable) (by simp) ?_ ?_ hx h
      · rintro ⟨z, t⟩ w rfl hb
        cases Iter.of_body hb
      · rintro ⟨z, t⟩ r w rfl hb
        cases Iter.of_body hb with
        | unreachable => rfl
        | noConnectEx he => exact absurd ⟨congrArg LazyTcpStream.state hx, he⟩ hex
    | false =>
      rw [KeptOrLost, hf] at hx
      refine pollWrite_post
        (I := fun z => z.1.Valid .fastOpenConnect ∧ handOverFailed z.2 = false ∧
          (z.1.state = .fastOpenConnect → env.hasConnectEx = true) ∧
            outsideRuntime z.2 = false ∧ overCollected buf.length z.2 = false)
        (Q := fun r y => Asserts env buf.length (.done r y)) ?_ ?_ ?_
        ⟨by simpa using hx, hf, ?_, ho, hc⟩ h
      · rintro st s t ⟨hv, ht, he, ho, hc⟩
        exact ⟨by simpa using hv, ht, he, ho, hc⟩
      · rintro z w ⟨hv, ht, he, ho, hc⟩ hb
        have hk := body_valid env cx buf z hv ht
        rw [show TcpStream.pollWriteBody env cx buf z = _ from hb] at hk
        obtain ⟨h₁, h₂⟩ := (Iter.of_body hb).asserts_again (k := buf.length)
        refine ⟨hk.1, hk.2, ?_, h₁.trans ho, h₂.trans hc⟩
        cases Iter.of_body hb <;> simp
      · rintro z r w ⟨hv, ht, he, ho, hc⟩ hb
        have ha : Asserts env buf.length (TcpStream.pollWriteBody env cx buf z) :=
          asserts_body hv he ho hc
        rwa [show TcpStream.pollWriteBody env cx buf z = _ from hb] at ha
      · intro hs
        cases he : env.hasConnectEx with
        | true => rfl
        | false => exact absurd ⟨hs, he⟩ hex

end Windows

end

/-! ## Calls and runs -/

theorem KeptOrLost.empty_eq {σ : Type} {opening : σ} {x : LazyTcpStream σ × Trace}
    (hx : KeptOrLost opening x) : decide (x.1.stream = .empty) = handOverFailed x.2 := by
  rw [KeptOrLost] at hx
  cases hf : handOverFailed x.2 with
  | true =>
    rw [if_pos hf] at hx
    rw [hx]
    rfl
  | false =>
    rw [hf] at hx
    exact decide_eq_false (by simpa using hx : x.1.Valid opening).nonempty

theorem Call.panic_write {c : Call} {a : Waker × Bytes} (hc : c.payload = some a)
    (lost wraps : Bool) (h : Trace) :
    c.panic lost wraps h = if lost then some .unreachable
      else if outsideRuntime h then some .noRuntime else none := by
  cases c <;> first | rfl | cases hc

section
variable {env : Env}

theorem Handshake.step_panic {p : Profile} {x y : TfoStream (Handshake p) × Trace} {l : Done}
    (hx : KeptOrLost .fastOpenConnect (x.1.inner, x.2))
    (h : (system (Handshake p) env).step x l y) :
    l.outcome.panic = l.call.panic (handOverFailed x.2) p.wraps y.2 := by
  obtain ⟨t, hp, hy⟩ := h
  rw [hy]
  cases hc : l.call.payload with
  | none =>
    rw [panic_other Handshake.unwraps hc hp rfl, hx.empty_eq]
    rfl
  | some a =>
    rw [Call.panic_write hc]
    rcases performs_cases hp with ⟨cx, buf, r, -, hr, ho⟩ | ho
    · rw [ho, Outcome.panic_map]
      exact panic_write ((keptOrLost_invariant env).call _ _ _ hx) rfl hr
    · rw [ho.payload] at hc
      cases hc

/-- The panic of a call on a stream in the state `st`. -/
def Windows.panic (env : Env) (st : Windows.TcpStreamState) (lost : Bool) (c : Call) (h : Trace) :
    Option Panic :=
  match c.payload with
  | some (_, buf) => TcpStream.writePanic env st lost buf h
  | none => c.panic lost true h

theorem Windows.step_panic {x y : TfoStream Windows.TcpStream × Trace} {l : Done}
    (hx : KeptOrLost .fastOpenConnect (x.1.inner, x.2))
    (h : (system Windows.TcpStream env).step x l y) :
    l.outcome.panic = Windows.panic env x.1.inner.state (handOverFailed x.2) l.call y.2 := by
  obtain ⟨t, hp, hy⟩ := h
  rw [hy, Windows.panic]
  cases hc : l.call.payload with
  | none =>
    rw [panic_other (fun op x h => unwraps_callSocketApi op x h) hc hp rfl, hx.empty_eq]
    rfl
  | some a =>
    rcases performs_cases hp with ⟨cx, buf, r, hc', hr, ho⟩ | ho
    · rw [hc] at hc'
      cases hc'
      rw [ho, Outcome.panic_map]
      exact panic_write ((keptOrLost_invariant env).call _ _ _ hx) rfl rfl hr
    · rw [ho.payload] at hc
      cases hc

end

/-- What a module promises: the calls of a run panic as `panic` says, from the stream before the
call, whether it has lost its socket, and the history after the call. -/
def PanicsExactly (S : Type) [SysTcpStream S] [SysConnect S]
    (panic : Env → S → Bool → Call → Trace → Option Panic) : Prop :=
  ∀ (env : Env) (x₀ x : TfoStream S × Trace) (t : List (Lts.Taken (TfoStream S × Trace) Done)),
    Started env x₀ → (system S env).Run x₀ t x → ∀ y ∈ t, y.label.outcome.panic =
      panic env y.pre.1.inner (handOverFailed y.pre.2) y.label.call y.post.2

theorem keptOrLost_of_valid {σ : Type} {opening : σ} {x : LazyTcpStream σ × Trace}
    (hv : x.1.Valid opening) (hf : handOverFailed x.2 = false) : KeptOrLost opening x := by
  simpa [KeptOrLost, hf] using hv

theorem Unix.keptOrLost_reached {S : Type} [SysTcpStream S] [SysConnect S] [UnixTcpStream S]
    [UnixConnect S] {env : Env} {x₀ : TfoStream S × Trace} (hx₀ : Started env x₀) {y : S × Trace}
    (h : Reached env x₀ y) : KeptOrLost .fastOpenConnect (UnixTcpStream.view y.1, y.2) := by
  have hv : KeptOrLost .fastOpenConnect (UnixTcpStream.view x₀.1.inner, x₀.2) :=
    keptOrLost_of_valid (Unix.valid_started hx₀) (started_unix handOverFailed_idle hx₀)
  exact (Handshake.keptOrLost_invariant env).reached hv (UnixTcpStream.reached_view env h)

theorem Windows.keptOrLost_reached {env : Env} {x₀ : TfoStream Windows.TcpStream × Trace}
    (hx₀ : Started env x₀) {y : Windows.TcpStream × Trace} (h : Reached env x₀ y) :
    KeptOrLost .fastOpenConnect y := by
  refine (keptOrLost_invariant env).reached ?_ h
  rcases hx₀ with hc | ⟨s, rfl⟩
  · obtain ⟨socket, addr, hi, hh⟩ := Windows.opening hc
    rw [hi]
    exact keptOrLost_of_valid (by simp) (handOverFailed_idle.setup hh)
  · exact keptOrLost_of_valid (valid_connected.2 (by simp)) rfl

theorem Unix.panicsExactly {S : Type} [SysTcpStream S] [SysConnect S] [UnixTcpStream S]
    [UnixConnect S] : PanicsExactly S fun _ _ lost c h =>
      c.panic lost (UnixTcpStream.profile S).wraps h := by
  intro env x₀ x t hx₀ h y hy
  obtain ⟨t', -, hr, hs⟩ := h.mem y hy
  exact Handshake.step_panic (Unix.keptOrLost_reached hx₀ (.between hr))
    (UnixTcpStream.step_view env hs)

/-- **Panics.**  Linux and FreeBSD panic on a lost socket, on an address that is no IP address, and
on a hand-over outside of a runtime, macOS in none of the cases; on Windows there are two more. -/
theorem panics_exactly :
    PanicsExactly Linux.TcpStream (fun _ _ lost c h => c.panic lost true h) ∧
    PanicsExactly FreeBsd.TcpStream (fun _ _ lost c h => c.panic lost true h) ∧
    PanicsExactly MacOs.TcpStream (fun _ _ _ _ _ => none) ∧
    PanicsExactly Windows.TcpStream (fun env s lost c h => Windows.panic env s.state lost c h) := by
  refine ⟨?_, ?_, ?_, ?_⟩
  · exact Unix.panicsExactly (S := Linux.TcpStream)
  · exact Unix.panicsExactly (S := FreeBsd.TcpStream)
  · intro env x₀ x t hx₀ h y hy
    rw [Unix.panicsExactly env x₀ x t hx₀ h y hy]
    obtain ⟨t', -, hr, hs⟩ := h.mem y hy
    -- there is no state without a socket on macOS, so no hand-over has failed
    have hkept : ∀ z, Reached env x₀ z → handOverFailed z.2 = false := fun z hz =>
      (Unix.keptOrLost_reached hx₀ hz).empty_eq.symm
    have hpre : handOverFailed y.pre.2 = false := hkept _ (.between hr)
    have ho : outsideRuntime y.post.2 = false := by
      by_contra ho
      have hpost : handOverFailed y.post.2 = false := hkept _ (.between (.snoc hr hs))
      rw [handOverFailed_of_outside (by simpa using ho)] at hpost
      cases hpost
    have hw : (UnixTcpStream.profile MacOs.TcpStream).wraps = false := rfl
    cases y.label.call <;> simp [Call.panic, hpre, ho, hw]
  · intro env x₀ x t hx₀ h y hy
    obtain ⟨t', -, hr, hs⟩ := h.mem y hy
    exact Windows.step_panic (Windows.keptOrLost_reached hx₀ (.between hr)) hs

end TokioTfo
