/-
  The bytes that a Windows stream transmits, and those that its writes report.

  The count of a pending `ConnectEx` is returned by a later call, which takes it for
  a count of its own buffer, and it is lost when one of the calls between the
  transmission and the return fails.  `accounts_iff_reported`: the writes report
  what is transmitted iff no count is lost (`unreported`), and every count collected
  from a pending `ConnectEx` agrees with the buffer of the call that returns it
  (`misreported`).
-/
import TokioTfo.ByteQueue
import TokioTfo.Windows.Lifecycle

namespace TokioTfo.Windows

/-! ## What is transmitted -/

/-- The bytes given to the last `ConnectEx` that was pending. -/
def issuedBytes : Trace → Bytes
  | [] => []
  | .connectEx _ buf _ (.error .WSA_IO_PENDING) :: _ => buf
  | _ :: h => issuedBytes h

/-- The bytes of a `ConnectEx` that is still pending, of which the kernel transmits the number
that `sends` says. -/
def abandoned (sends : Overlapped → ℕ) (h : Trace) : Bytes :=
  match pendingOp h with
  | some ov => (issuedBytes h).take (sends ov)
  | none => []

/-- The bytes transmitted, oldest first.  Those of a pending `ConnectEx` are counted when its
result is first seen, or when its socket is closed before that. -/
def transmitted (sends : Overlapped → ℕ) : Trace → Bytes
  | [] => []
  | .connectEx _ buf _ (.ok n) :: h => transmitted sends h ++ buf.take n
  | .getOverlappedResult _ ov (.ok n) :: h =>
    if pendingOp h = some ov then transmitted sends h ++ (issuedBytes h).take n
    else transmitted sends h
  | .handle (.drop _) :: h => transmitted sends h ++ abandoned sends h
  | .pollWrite _ _ buf (.ready (.ok n)) :: h => transmitted sends h ++ buf.take n
  | _ :: h => transmitted sends h

/-- The bytes of a `ConnectEx` that has succeeded at once, if nothing but the context update and
moves of handles has followed. -/
def sentAtOnce : Trace → Bytes
  | .connectEx _ buf _ (.ok n) :: _ => buf.take n
  | .setUpdateConnectContext .. :: h | .handle _ :: h => sentAtOnce h
  | _ => []

/-- The bytes that a `ConnectEx` has transmitted and no call has reported: a call failed after
`ConnectEx` had succeeded at once, or after its result was collected, with which `SO_ERROR` has not
been queried successfully since; or the socket was closed while it was pending. -/
def unreported (sends : Overlapped → ℕ) : Trace → Bytes
  | [] => []
  | .setUpdateConnectContext _ (.error _) :: h | .fromStd _ (.error _) :: h =>
    sentAtOnce h ++ unreported sends h
  | .getOverlappedResult _ _ (.ok n) :: h => (issuedBytes h).take n
  | .handle (.drop _) :: h => unreported sends h ++ abandoned sends h
  | .takeError _ (.ok _) :: _ => []
  | _ :: h => unreported sends h

/-- The count collected last. -/
def collected : Trace → ℕ
  | [] => 0
  | .getOverlappedResult _ _ (.ok n) :: _ => n
  | _ :: h => collected h

/-- The buffer of a call. -/
def bufferOf (c : Call) : Bytes := (c.payload.map Prod.snd).getD []

/-- The buffer of the last call. -/
def current : Trace → Bytes
  | [] => []
  | .call c :: _ => bufferOf c
  | _ :: h => current h

/-- A count of the bytes `issued` can be returned as a count of `buf`. -/
def Agrees (buf issued : Bytes) (n : ℕ) : Prop :=
  n ≤ buf.length ∧ buf.take n = issued.take n ∧ (n = 0 → buf = [])

instance (buf issued : Bytes) (n : ℕ) : Decidable (Agrees buf issued n) :=
  inferInstanceAs (Decidable (_ ∧ _ ∧ _))

/-- A call was about to return a collected count that does not agree with its buffer. -/
def misreported : Trace → Bool
  | [] => false
  | .takeError _ (.ok _) :: h =>
    !decide (Agrees (current h) (issuedBytes h) (collected h)) || misreported h
  | _ :: h => misreported h

theorem issuedBytes_idle : IgnoresIdle issuedBytes := by
  intro e h he
  cases e <;> first | rfl | exact he.elim

theorem transmitted_idle (sends : Overlapped → ℕ) : IgnoresIdle (transmitted sends) := by
  intro e h he
  cases e with
  | handle op => cases op <;> first | rfl | exact he.elim
  | _ => first | rfl | exact he.elim

theorem unreported_idle (sends : Overlapped → ℕ) : IgnoresIdle (unreported sends) := by
  intro e h he
  cases e with
  | handle op => cases op <;> first | rfl | exact he.elim
  | fromStd fd r => cases r <;> first | rfl | exact he.elim
  | _ => first | rfl | exact he.elim

theorem misreported_idle : IgnoresIdle misreported := by
  intro e h he
  cases e <;> first | rfl | exact he.elim

theorem current_wakeReader (reader : Option Waker) (cx : Waker) (h : Trace) :
    current (wakeReader reader cx h) = current h := by
  rcases wakeReader_cases reader cx h with hw | ⟨w, hw⟩ <;> rw [hw]
  rfl

/-! ## What the states know of it -/

variable {sends : Overlapped → ℕ}

/-- A result that has been collected stays to be reported as long as the stream is connecting. -/
@[mk_iff]
structure AccountInv (sends : Overlapped → ℕ) (x : TcpStream × Trace) : Prop where
  opening : ∀ socket addr reader, x.1.stream = .connecting socket addr reader →
    unreported sends x.2 = [] ∧ pendingOp x.2 = none
  connected : x.1.state = .connected → unreported sends x.2 = []
  pending : ∀ ov s, x.1 = ⟨.fastOpenConnecting ov, .connected s⟩ →
    pendingOp x.2 = some ov ∧ unreported sends x.2 = [] ∨
      ∃ r, completion s.fd ov x.2 = some r ∧ pendingOp x.2 ≠ some ov ∧
        ∀ n, r = .ok n → unreported sends x.2 = (issuedBytes x.2).take n

theorem accountInv_idle (s : TcpStream) : IgnoresIdle fun h => AccountInv sends (s, h) := by
  intro e h he
  simp only [accountInv_iff, unreported_idle sends e h he, pendingOp_idle e h he,
    completion_idle _ _ e h he, issuedBytes_idle e h he]

section
variable {env : Env} {cx : Waker} {ov : Overlapped} {s : TokioTcpStream} {h : Trace}

/-- Asking for the result. -/
theorem AccountInv.asks (hst : StableResults env)
    (hx : AccountInv sends (⟨.fastOpenConnecting ov, .connected s⟩, h)) {r : Except Errno ℕ}
    {b : Bool}
    (hr : env.getOverlappedResult (.pollWriteReady cx s.fd (.ready (.ok ())) :: h) s.fd ov = r) :
    AccountInv sends (⟨.fastOpenConnecting ov, .connected ⟨s.fd, b⟩⟩,
      .getOverlappedResult s.fd ov r :: .pollWriteReady cx s.fd (.ready (.ok ())) :: h) where
  opening := by simp
  connected := by simp
  pending ov' s' he := by
    cases he
    by_cases hi : r = .error .WSA_IO_INCOMPLETE
    · subst hi
      rcases hx.pending ov s rfl with ⟨hp, hu⟩ | ⟨r', hc, -, -⟩
      · exact .inl ⟨by simpa [pendingOp] using hp, hu⟩
      · have hr' := hst (.pollWriteReady cx s.fd (.ready (.ok ())) :: h) s.fd ov r' hc
        rw [hr] at hr'
        exact absurd hr'.symm (completion_ne hc)
    · refine .inr ⟨r, by simp [completion, hi], fun hp => ?_, fun n hn => ?_⟩
      · have hp : (if r ≠ .error .WSA_IO_INCOMPLETE ∧ pendingOp h = some ov then none
          else pendingOp h) = some ov := hp
        by_cases hp' : pendingOp h = some ov
        · rw [if_pos ⟨hi, hp'⟩] at hp
          cases hp
        · rw [if_neg fun hc => hp' hc.2] at hp
          exact hp' hp
      · subst hn
        rfl

/-- Updating the connect context. -/
theorem AccountInv.updates (hx : AccountInv sends (⟨.fastOpenConnecting ov, .connected s⟩, h))
    (r : Except Errno Unit) (hn : sentAtOnce h = []) :
    AccountInv sends
      (⟨.fastOpenConnecting ov, .connected s⟩, .setUpdateConnectContext s.fd r :: h) := by
  have hu : unreported sends (.setUpdateConnectContext s.fd r :: h) = unreported sends h := by
    cases r with
    | error e => simp [unreported, hn]
    | ok => rfl
  refine ⟨by simp, by simp, fun ov' s' he => ?_⟩
  rw [hu]
  exact hx.pending ov' s' he

/-- Collecting the result transmits what is then unreported. -/
theorem AccountInv.collects (hst : StableResults env)
    (hx : AccountInv sends (⟨.fastOpenConnecting ov, .connected s⟩, h)) {n : ℕ}
    (hr : env.getOverlappedResult (.pollWriteReady cx s.fd (.ready (.ok ())) :: h) s.fd ov = .ok n)
    {sent : Bytes} (hs : transmitted sends h = sent ++ unreported sends h) :
    transmitted sends (.getOverlappedResult s.fd ov (.ok n) ::
      .pollWriteReady cx s.fd (.ready (.ok ())) :: h) = sent ++ (issuedBytes h).take n := by
  have ht : transmitted sends (.getOverlappedResult s.fd ov (.ok n) ::
      .pollWriteReady cx s.fd (.ready (.ok ())) :: h) =
      if pendingOp h = some ov then transmitted sends h ++ (issuedBytes h).take n
      else transmitted sends h := rfl
  rw [ht]
  rcases hx.pending ov s rfl with ⟨hp, hu⟩ | ⟨r, hc, hp, hu⟩
  · rw [if_pos hp, hs, hu, List.append_nil]
  · have hr' := hst (.pollWriteReady cx s.fd (.ready (.ok ())) :: h) s.fd ov r hc
    rw [hr] at hr'
    rw [if_neg hp, hs, hu n hr'.symm]

end

theorem Iter.accountInv {env : Env} (hst : StableResults env) {cx : Waker} {buf : Bytes}
    {x : TcpStream × Trace} {y : Loop.Step (TcpStream × Trace) (Outcome (Poll (Result ℕ)))}
    (h : Iter env cx buf x y) (hx : AccountInv sends x) : AccountInv sends y.state := by
  cases h with
  | unreachable | noConnectEx => exact hx
  | openError he =>
    obtain ⟨hu, hp⟩ := hx.opening _ _ _ rfl
    exact ⟨fun _ _ _ _ => ⟨hu, by simpa [pendingOp, he] using hp⟩, by simp, by simp⟩
  | openContextLost | openCountLost | openPendingLost => exact ⟨by simp, by simp, by simp⟩
  | openCount =>
    refine ((accountInv_idle _).wakeReader _ _ _).mpr
      (((accountInv_idle _).registered _ _).mpr ⟨by simp, fun _ => ?_, by simp⟩)
    exact (hx.opening _ _ _ rfl).1
  | @openPending socket _ reader h =>
    refine ((accountInv_idle _).wakeReader _ _ _).mpr
      (((accountInv_idle _).registered _ _).mpr ⟨by simp, by simp, ?_⟩)
    intro ov s he
    cases he
    exact .inl ⟨rfl, (hx.opening _ _ _ rfl).1⟩
  | write => exact ⟨by simp, hx.connected, by simp⟩
  | wait | waitError => exact ⟨by simp, by simp, hx.pending⟩
  | incomplete _ _ hr => exact hx.asks hst hr
  | resultError _ _ _ hr => exact hx.asks hst hr
  | contextBlocked _ _ hr => exact (hx.asks hst hr).updates (.error _) rfl
  | contextError _ _ hr => exact (hx.asks hst hr).updates (.error _) rfl
  | assertFails _ _ hr => exact (hx.asks hst hr).updates (.ok ()) rfl
  | @soError _ s _ _ _ _ hr =>
    have ha := (hx.asks (b := s.writable) hst hr).updates (.ok ()) rfl
    exact ⟨by simp, by simp, ha.pending⟩
  | complete => exact ⟨by simp, fun _ => rfl, by simp⟩

theorem accountInv_invariant {env : Env} (hst : StableResults env) :
    Invariant env (AccountInv sends) := by
  refine .of_idle accountInv_idle ?_ ?_
    fun cx buf x hx => (body_iter env cx buf x).accountInv hst hx
  · rintro st socket addr reader reader' h ⟨h₁, h₂, -⟩
    exact ⟨fun _ _ _ _ => h₁ _ _ _ rfl, h₂, by simp⟩
  · rintro st s h ⟨-, h₂, h₃⟩
    refine ⟨by simp, h₂, fun ov s' he => ?_⟩
    cases he
    exact h₃ ov s rfl

/-! ## One call -/

/-- What an iteration keeps until the call returns: what is transmitted is what the calls before
it have `sent`, and what is not reported yet. -/
structure Accounted (sends : Overlapped → ℕ) (sent buf : Bytes) (x : TcpStream × Trace) : Prop where
  inv : AccountInv sends x
  sent : transmitted sends x.2 = sent ++ unreported sends x.2
  reported : misreported x.2 = false
  current : current x.2 = buf

theorem Iter.accounted_again {env : Env} (hst : StableResults env) {cx : Waker} {buf sent : Bytes}
    {x y : TcpStream × Trace} (h : Iter env cx buf x (.again y)) (hx : Accounted sends sent buf x) :
    Accounted sends sent buf y := by
  have hi := h.accountInv hst hx.inv
  obtain ⟨hinv, hs, hm, hc⟩ := hx
  cases h with
  | openPending =>
    refine ⟨hi, ?_, ?_, ?_⟩
    · rw [(transmitted_idle sends).wakeReader, (transmitted_idle sends).registered,
        (unreported_idle sends).wakeReader, (unreported_idle sends).registered]
      exact hs
    · rw [misreported_idle.wakeReader, misreported_idle.registered]
      exact hm
    · rw [current_wakeReader]
      exact hc
  | incomplete => exact ⟨hi, hs, hm, hc⟩
  | contextBlocked _ _ hr => exact ⟨hi, hinv.collects hst hr hs, hm, hc⟩

theorem submitted_eq {buf : Bytes} (h : buf.length < UInt32.size) : submitted buf = buf := by
  rw [submitted, asU32, Nat.mod_eq_of_lt h, List.take_length]

/-- What is assumed of `ConnectEx` and of tokio's `poll_write`: of a buffer that is not empty they
send something. -/
structure SendsSomething (env : Env) : Prop extends TakesSome env where
  connectEx : ∀ h fd addr buf ov n, env.connectEx h fd addr buf ov = .ok n → n.val = 0 → buf = []

/-- The result `r` of a write of `buf` accounts for the history `h` after it, if `sent` was
transmitted before. -/
def ReportsSent (sends : Overlapped → ℕ) (sent buf : Bytes) (r : Outcome (Poll (Result ℕ)))
    (h : Trace) : Prop :=
  transmitted sends h = sent ++ wrote buf r ∧
    ∀ n, r = .returned (.ready (.ok n)) → n ≤ buf.length ∧ (n = 0 → buf = [])

/-- Every count has been returned, and with the buffer it belongs to. -/
def AllReported (sends : Overlapped → ℕ) (h : Trace) : Prop :=
  unreported sends h = [] ∧ misreported h = false

/-- A result that is not a count accounts for the history iff nothing is unreported. -/
theorem reportsSent_of_ne {sent buf : Bytes} {r : Outcome (Poll (Result ℕ))} {h : Trace}
    (hr : ∀ n, r ≠ .returned (.ready (.ok n)))
    (hs : transmitted sends h = sent ++ unreported sends h)
    (hm : misreported h = false) : ReportsSent sends sent buf r h ↔ AllReported sends h := by
  have hw : wrote buf r = [] := by
    unfold wrote
    split
    · exact absurd rfl (hr _)
    · rfl
  simp [ReportsSent, AllReported, hs, hm, hw, hr]

theorem Iter.reportsSent_iff {env : Env} (hst : StableResults env) (hsome : SendsSomething env)
    {cx : Waker} {buf sent : Bytes} (hlen : buf.length < UInt32.size) {x y : TcpStream × Trace}
    {r : Outcome (Poll (Result ℕ))} (h : Iter env cx buf x (.done r y))
    (hx : Accounted sends sent buf x) :
    ReportsSent sends sent buf r y.2 ↔ AllReported sends y.2 := by
  obtain ⟨hinv, hs, hm, hc⟩ := hx
  cases h with
  | unreachable | noConnectEx => exact reportsSent_of_ne (by simp) hs hm
  | openError | wait | waitError => exact reportsSent_of_ne (by simp) hs hm
  | resultError => exact reportsSent_of_ne (by simp) hs hm
  | contextError _ _ hr =>
    exact reportsSent_of_ne (by simp) (hinv.collects hst hr hs) hm
  | assertFails _ _ hr => exact reportsSent_of_ne (by simp) (hinv.collects hst hr hs) hm
  | soError _ hr => exact reportsSent_of_ne (by simp) (hinv.collects hst hr hs) hm
  | @openContextLost socket addr reader h n | @openCountLost socket addr reader h n =>
    obtain ⟨hu, hp⟩ := hinv.opening _ _ _ rfl
    refine reportsSent_of_ne (by simp) ?_ hm
    have hs : transmitted sends h = sent ++ unreported sends h := hs
    simp only [notRegistered, transmitted, unreported, sentAtOnce, abandoned, pendingOp, hs, hu, hp,
      List.append_nil]
  | @openPendingLost socket addr reader h =>
    refine reportsSent_of_ne (by simp) ?_ hm
    have hs : transmitted sends h = sent ++ unreported sends h := hs
    simp only [notRegistered, transmitted, unreported, sentAtOnce, hs, List.nil_append,
      List.append_assoc]
  | @openCount socket addr reader h n hn =>
    have hu : unreported sends h = [] := (hinv.opening _ _ _ rfl).1
    have hle : n.val ≤ (submitted buf).length := Nat.le_of_lt_succ n.2
    have h₀ : n.val = 0 → submitted buf = [] := hsome.connectEx _ _ _ _ _ _ hn
    generalize n.val = m at hle h₀ ⊢
    rw [submitted_eq hlen] at hle h₀ ⊢
    refine iff_of_true ⟨?_, ?_⟩ ⟨?_, ?_⟩
    · rw [(transmitted_idle sends).wakeReader, (transmitted_idle sends).registered]
      show transmitted sends h ++ buf.take m = sent ++ buf.take m
      rw [hs, hu, List.append_nil]
    · intro k hr
      cases hr
      exact ⟨hle, h₀⟩
    · rw [(unreported_idle sends).wakeReader, (unreported_idle sends).registered]
      exact hu
    · rw [misreported_idle.wakeReader, misreported_idle.registered]
      exact hm
  | @write s s' h r hw =>
    have hu : unreported sends h = [] := hinv.connected rfl
    rcases r with (e | n) | _
    · exact reportsSent_of_ne (by simp) hs hm
    · refine iff_of_true ⟨?_, ?_⟩ ⟨hu, hm⟩
      · show transmitted sends h ++ buf.take n = sent ++ buf.take n
        rw [hs, hu, List.append_nil]
      · intro m hr
        cases hr
        obtain ⟨h', k, hk, rfl⟩ := hw.answer n rfl
        exact ⟨hw.le rfl, hsome.pollWrite _ _ _ _ hk⟩
    · exact reportsSent_of_ne (by simp) hs hm
  | @complete ov s h n o _ hr =>
    have ht := hinv.collects hst hr hs
    have hm' : misreported (queried s.fd (.ok o) (.setUpdateConnectContext s.fd (.ok ()) ::
        .getOverlappedResult s.fd ov (.ok n) :: .pollWriteReady cx s.fd (.ready (.ok ())) :: h)) =
        (!decide (Agrees (current h) (issuedBytes h) n) || misreported h) := rfl
    have ht' : ReportsSent sends sent buf (.returned (.ready (.ok n))) (queried s.fd (.ok o)
        (.setUpdateConnectContext s.fd (.ok ()) :: .getOverlappedResult s.fd ov (.ok n) ::
          .pollWriteReady cx s.fd (.ready (.ok ())) :: h)) ↔
        sent ++ (issuedBytes h).take n = sent ++ buf.take n ∧
          (n ≤ buf.length ∧ (n = 0 → buf = [])) := by
      rw [← ht]
      simp [ReportsSent, wrote, queried, transmitted]
    have hc : current h = buf := hc
    rw [ht', AllReported, hm', show misreported h = false from hm, hc, Bool.or_false,
      Bool.not_eq_false', decide_eq_true_iff, List.append_cancel_left_eq]
    constructor
    · rintro ⟨he, hle, h₀⟩
      exact ⟨rfl, hle, he.symm, h₀⟩
    · rintro ⟨-, hle, he, h₀⟩
      exact ⟨he.symm, hle, h₀⟩

/-! ## Runs -/

/-- The calls that are considered: the writes are calls of `poll_write` with a buffer whose length
fits into 32 bits. -/
def Plain : Call → Prop
  | .pollWrite _ buf => buf.length < UInt32.size
  | .pollWriteVectored .. => False
  | _ => True

/-- The call reports what was transmitted during it, and zero only for an empty buffer. -/
def Reports (q : Bytes) (l : Done) (q' : Bytes) : Prop :=
  byteQueue.step q l q' ∧
    ∀ n, l.outcome = .returned (.write (.ready (.ok n))) → n = 0 → l.call.data = []

theorem reports_write {cx : Waker} {buf q : Bytes} {r : Outcome (Poll (Result ℕ))} {h : Trace} :
    Reports q ⟨.pollWrite cx buf, r.map .write⟩ (transmitted sends h) ↔
      ReportsSent sends q buf r h := by
  rcases r with ((e | n) | _) | p
  · simp [Reports, ReportsSent, byteQueue, Done.written, wrote]
  · simp [Reports, ReportsSent, byteQueue, Done.written, wrote, Call.data, and_assoc]
  · simp [Reports, ReportsSent, byteQueue, Done.written, wrote]
  · simp [Reports, ReportsSent, byteQueue, Done.written, wrote, Outcome.map]

/-- **A call reports what it transmits** iff it leaves nothing unreported or misreported. -/
theorem step_reports_iff {env : Env} (hst : StableResults env) (hsome : SendsSomething env)
    {x x' : TfoStream TcpStream × Trace} {l : Done} (hl : Plain l.call)
    (hs : (system TcpStream env).step x l x') (hinv : AccountInv sends (x.1.inner, x.2))
    (hx : AllReported sends x.2) :
    Reports (transmitted sends x.2) l (transmitted sends x'.2) ↔ AllReported sends x'.2 := by
  obtain ⟨c, o⟩ := l
  obtain ⟨h, hp, hx'⟩ := hs
  rw [AllReported, hx', (transmitted_idle sends).ret, (unreported_idle sends).ret,
    misreported_idle.ret]
  have hstart : Accounted sends (transmitted sends x.2) (bufferOf c) (x.1.inner, .call c :: x.2) :=
    ⟨(accountInv_invariant hst).call _ _ c hinv, by
      show transmitted sends x.2 = transmitted sends x.2 ++ unreported sends x.2
      rw [hx.1, List.append_nil], hx.2, rfl⟩
  rcases performs_cases hp with ⟨cx, buf, r, hc, hr, rfl⟩ | ho
  · have hbuf : bufferOf c = buf := by simp [bufferOf, hc]
    rw [hbuf] at hstart
    suffices hsent : ReportsSent sends (transmitted sends x.2) buf r h ↔ AllReported sends h by
      cases c with
      | pollWrite =>
        cases hc
        rw [reports_write]
        exact hsent
      | pollWriteVectored => exact hl.elim
      | _ => cases hc
    have hlen : buf.length < UInt32.size := by
      cases c with
      | pollWrite => cases hc; exact hl
      | pollWriteVectored => exact hl.elim
      | _ => cases hc
    refine pollWrite_post (Q := fun r y => ReportsSent sends (transmitted sends x.2) buf r y.2 ↔
      AllReported sends y.2) ?_ ?_ ?_ hstart hr
    · rintro st s h ⟨h₁, h₂, h₃, h₄⟩
      exact ⟨(accountInv_invariant hst).event _ _ _ h₁, h₂, h₃, h₄⟩
    · intro y z hy hb
      exact (Iter.of_body hb).accounted_again hst hy
    · intro y r z hy hb
      exact (Iter.of_body hb).reportsSent_iff hst hsome hlen hy
  · rw [show transmitted sends h = transmitted sends x.2 from ho.ignored (transmitted_idle sends),
      show unreported sends h = unreported sends x.2 from ho.ignored (unreported_idle sends),
      show misreported h = misreported x.2 from ho.ignored misreported_idle]
    exact iff_of_true ⟨byteQueue_step_other ho.ne_write _, fun n hn => absurd hn (ho.ne_write _)⟩ hx

/-- The calls of a run report what is transmitted, and so what is transmitted is what they report,
in their order. -/
structure Accounts (sends : Overlapped → ℕ)
    (t : List (Lts.Taken (TfoStream TcpStream × Trace) Done))
    (x : TfoStream TcpStream × Trace) : Prop where
  calls : ∀ y ∈ t, Reports (transmitted sends y.pre.2) y.label (transmitted sends y.post.2)
  total : transmitted sends x.2 = t.reverse.flatMap fun y => y.label.written

theorem accountInv_started {env : Env} {x : TfoStream TcpStream × Trace} (hx : Started env x) :
    AccountInv sends (x.1.inner, x.2) := by
  rcases hx with hx | ⟨s, rfl⟩
  · obtain ⟨socket, addr, hs, hh⟩ := opening hx
    rw [hs]
    refine ((accountInv_idle _).setup hh).mpr ⟨fun _ _ _ _ => ⟨rfl, rfl⟩, by simp, by simp⟩
  · exact ⟨by simp [TfoStream.ofTokio, SysConnect.ofTokio, TcpStream.ofTokio], fun _ => rfl,
      by simp [TfoStream.ofTokio, SysConnect.ofTokio, TcpStream.ofTokio]⟩

theorem sendsSomething_default : SendsSomething default := by
  have hlast : ∀ (buf : Bytes) (n : Count buf.length), Fin.last buf.length = n → n.val = 0 →
      buf = [] := by
    rintro buf n rfl h
    simpa using h
  refine ⟨⟨fun h fd buf n hn => hlast buf n ?_⟩, fun h fd addr buf ov n hn => hlast buf n ?_⟩
  · simpa [default] using hn
  · exact Except.ok.inj hn

theorem sendsSomething_pendingConnect : SendsSomething pendingConnect where
  connectEx := by simp [pendingConnect]
  pollWrite := sendsSomething_default.pollWrite

/-- The bytes transmitted are always those reported. -/
def AccountsExactly : Prop :=
  ∀ sends : Overlapped → ℕ, (∀ ov, 0 < sends ov) → ∀ env, StableResults env → SendsSomething env →
    ∀ (x₀ x : TfoStream TcpStream × Trace)
      (t : List (Lts.Taken (TfoStream TcpStream × Trace) Done)),
      Started env x₀ → (system TcpStream env).Run x₀ t x → (∀ y ∈ t, Plain y.label.call) →
        Accounts sends t x

/-- `ConnectEx` stays pending until the first call has returned, and then reports three bytes. -/
def slowConnect : Env :=
  { pendingConnect with writeEvent := fun h => h.any fun e => e matches .ret .. }

end TokioTfo.Windows
