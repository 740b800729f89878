/-
  Large first writes on Windows.

  `ConnectEx` is given `buf.len() as u32` bytes, so of a buffer whose length is a
  multiple of 2^32 it is given nothing.  `progress_iff`: the loop that writes a
  buffer, presenting its unsent rest each time, submits a non-empty prefix of it and
  never sees `Ok(0)` before the end iff the buffer is empty or its length is no
  multiple of 2^32.
-/
import TokioTfo.Windows.Accounting

namespace TokioTfo.Windows

/-! ## The write loop -/

/-- The buffers given to `ConnectEx`, newest first. -/
def submissions : Trace → List Bytes
  | [] => []
  | .connectEx _ buf _ _ :: h => buf :: submissions h
  | _ :: h => submissions h

theorem submissions_idle : IgnoresIdle submissions := by
  intro e h he
  cases e <;> first | rfl | exact he.elim

/-- A run from a client stream that writes `b`. -/
structure Writes (env : Env) (b : Bytes)
    (t : List (Lts.Taken (TfoStream TcpStream × Trace) Done)) (x : TfoStream TcpStream × Trace) :
    Prop where
  run : ∃ x₀, Client env x₀ ∧ (system TcpStream env).Run x₀ t x
  presents : PresentsRest b t

/-- The kernel accepts at least one byte of every submission that is not empty. -/
structure AcceptsSome (env : Env) : Prop extends SendsSomething env where
  getOverlappedResult : ∀ h fd ov n, env.getOverlappedResult h fd ov = .ok n → n = 0 →
    issuedBytes h = []

/-- What is submitted of `b` is a prefix of it, and not empty unless `b` is. -/
def SubmitsSome (b : Bytes) : Prop :=
  ∀ env t x, Writes env b t x → ∀ s ∈ submissions x.2, s <+: b ∧ (b ≠ [] → s ≠ [])

/-- No write reports `Ok(0)` before all of `b` has been accepted. -/
def NeverZero (b : Bytes) : Prop :=
  ∀ env t x, AcceptsSome env → Writes env b t x → ∀ y ∈ t,
    y.label.outcome = .returned (.write (.ready (.ok 0))) →
      ∀ cx buf, y.label.call.payload = some (cx, buf) → buf = []

/-! ## What is submitted -/

theorem submitted_front (b : Bytes) : submitted b <+: b := List.take_prefix _ _

/-- **The narrowing of the length** loses everything iff it is a multiple of 2^32. -/
theorem submitted_eq_nil_iff (b : Bytes) :
    submitted b = [] ↔ b = [] ∨ b.length % UInt32.size = 0 := by
  rw [submitted, asU32, List.take_eq_nil_iff]
  exact or_comm

/-- What is submitted is the front of `b`, and what a pending `ConnectEx` was given is it too. -/
@[mk_iff]
structure Loading (b : Bytes) (x : TcpStream × Trace) : Prop where
  given : ∀ s ∈ submissions x.2, s = submitted b
  issued : ∀ ov s, x.1 = ⟨.fastOpenConnecting ov, .connected s⟩ → issuedBytes x.2 = submitted b

theorem loading_idle (b : Bytes) (s : TcpStream) : IgnoresIdle fun h => Loading b (s, h) := by
  intro e h he
  simp only [loading_iff, submissions_idle e h he, issuedBytes_idle e h he]

/-- Before the connection is open nothing has been accepted (`k`), and all of `b` is presented. -/
structure LoadingInv (b : Bytes) (k : ℕ) (x : TcpStream × Trace) : Prop where
  loading : Loading b x
  opening : x.1.state = .fastOpenConnect → k = 0

section
variable {env : Env} {cx : Waker} {b : Bytes} {k : ℕ} {x : TcpStream × Trace}

theorem Iter.loading {y : Loop.Step (TcpStream × Trace) (Outcome (Poll (Result ℕ)))}
    (h : Iter env cx (b.drop k) x y) (hx : LoadingInv b k x) : Loading b y.state := by
  obtain ⟨⟨hs, hi⟩, ho⟩ := hx
  -- the rules that call `ConnectEx` are those of `fastOpenConnect`, where `k` is zero
  have hk : x.1.state = .fastOpenConnect → submitted (b.drop k) = submitted b := fun he => by
    rw [ho he, List.drop_zero]
  cases h with
  | unreachable | noConnectEx => exact ⟨hs, hi⟩
  | openError | openContextLost | openCountLost | openPendingLost =>
    exact ⟨List.forall_mem_cons.2 ⟨hk rfl, hs⟩, by simp⟩
  | openCount =>
    refine ((loading_idle b _).wakeReader _ _ _).mpr (((loading_idle b _).registered _ _).mpr ?_)
    exact ⟨List.forall_mem_cons.2 ⟨hk rfl, hs⟩, by simp⟩
  | openPending =>
    refine ((loading_idle b _).wakeReader _ _ _).mpr (((loading_idle b _).registered _ _).mpr ?_)
    exact ⟨List.forall_mem_cons.2 ⟨hk rfl, hs⟩, fun _ _ _ => hk rfl⟩
  | write | complete => exact ⟨hs, by simp⟩
  | wait | waitError => exact ⟨hs, fun _ _ _ => hi _ _ rfl⟩
  | incomplete | resultError => exact ⟨hs, fun _ _ _ => hi _ _ rfl⟩
  | contextBlocked | contextError => exact ⟨hs, fun _ _ _ => hi _ _ rfl⟩
  | assertFails | soError => exact ⟨hs, fun _ _ _ => hi _ _ rfl⟩

/-- An iteration that leaves the connection unopened has started so, and returns no count. -/
theorem Iter.unopened {buf : Bytes}
    {y : Loop.Step (TcpStream × Trace) (Outcome (Poll (Result ℕ)))} (h : Iter env cx buf x y)
    (hy : y.state.1.state = .fastOpenConnect) :
    x.1.state = .fastOpenConnect ∧ ∀ n z, y ≠ .done (.returned (.ready (.ok n))) z := by
  cases h with
  | unreachable => exact ⟨hy, by simp⟩
  | noConnectEx | openError => exact ⟨rfl, by simp⟩
  | openContextLost | openCountLost | openPendingLost => exact ⟨rfl, by simp⟩
  | _ => cases hy

/-- A write that reports zero has presented nothing, if something was submitted at first. -/
theorem Iter.eq_nil_of_zero (ha : AcceptsSome env) (hb : submitted b ≠ []) {y : TcpStream × Trace}
    (h : Iter env cx (b.drop k) x (.done (.returned (.ready (.ok 0))) y)) (hx : LoadingInv b k x) :
    b.drop k = [] := by
  obtain ⟨⟨-, hi⟩, ho⟩ := hx
  by_contra hne
  generalize hr : Loop.Step.done (Outcome.returned (Poll.ready (Except.ok 0))) y = r at h
  cases h with
  | write hw =>
    cases hr
    obtain ⟨h', m, hm, hz⟩ := hw.answer 0 rfl
    exact hne (ha.pollWrite _ _ _ _ hm hz.symm)
  | @openCount _ _ _ _ n hn =>
    have hz : (0 : ℕ) = n := by injection hr with h₁ h₂; simpa using h₁
    have hk : submitted (b.drop k) = submitted b := by rw [ho rfl, List.drop_zero]
    exact hb (hk ▸ ha.connectEx _ _ _ _ _ _ hn hz.symm)
  | @complete ov s h n o _ hn =>
    have hz : (0 : ℕ) = n := by injection hr with h₁ h₂; simpa using h₁
    have he := ha.getOverlappedResult _ _ _ _ hn hz.symm
    rw [show issuedBytes (.pollWriteReady cx s.fd (.ready (.ok ())) :: h) = submitted b from
      hi _ _ rfl] at he
    exact hb he
  | openCountLost | openPendingLost =>
    exact absurd (Loop.Step.done.inj hr).1.symm (Unregistered.ready_ne_ok _ _)
  | _ => cases hr

end
/-! ## Runs -/

theorem Other.state_eq {env : Env} {c : Call} {x x' : TcpStream × Trace} {o : Outcome Ret}
    (h : Other env c x o x') : x'.1.state = x.1.state := by
  cases h <;> rfl

theorem Other.loading {env : Env} {b : Bytes} {c : Call} {x x' : TcpStream × Trace}
    {o : Outcome Ret} (h : Other env c x o x') (hx : Loading b x) : Loading b x' := by
  refine (h.ignored (loading_idle b x'.1)).mpr ?_
  cases h with
  | park => exact ⟨hx.given, by simp⟩
  | _ => exact hx

/-- A step of a write loop that has accepted `k` bytes of `b` before. -/
theorem step_loading {env : Env} {b : Bytes} {k : ℕ} {x x' : TfoStream TcpStream × Trace} {l : Done}
    (hs : (system TcpStream env).step x l x')
    (hp : ∀ cx buf, l.call.payload = some (cx, buf) → buf = b.drop k)
    (hx : LoadingInv b k (x.1.inner, x.2)) :
    LoadingInv b (k + l.count) (x'.1.inner, x'.2) ∧
      (AcceptsSome env → submitted b ≠ [] → l.outcome = .returned (.write (.ready (.ok 0))) →
        ∀ cx buf, l.call.payload = some (cx, buf) → buf = []) := by
  obtain ⟨c, o⟩ := l
  obtain ⟨h, hperf, hx'⟩ := hs
  have hstart : LoadingInv b k (x.1.inner, .call c :: x.2) :=
    ⟨((loading_idle b _).call c _).mpr hx.loading, hx.opening⟩
  rw [hx']
  rcases performs_cases hperf with ⟨cx, buf, r, hc, hr, rfl⟩ | ho
  · obtain rfl := hp cx buf hc
    have hpost : LoadingInv b k (x'.1.inner, h) ∧
        (x'.1.inner.state = .fastOpenConnect → ∀ n, r ≠ .returned (.ready (.ok n))) ∧
        (AcceptsSome env → submitted b ≠ [] → r = .returned (.ready (.ok 0)) → b.drop k = []) := by
      refine pollWrite_post (I := LoadingInv b k) (Q := fun r z => LoadingInv b k z ∧
        (z.1.state = .fastOpenConnect → ∀ n, r ≠ .returned (.ready (.ok n))) ∧
        (AcceptsSome env → submitted b ≠ [] → r = .returned (.ready (.ok 0)) → b.drop k = []))
        ?_ ?_ ?_ hstart hr
      · rintro st s h ⟨⟨hg, hi⟩, ho⟩
        refine ⟨⟨hg, fun ov s' he => ?_⟩, ho⟩
        cases he
        exact hi ov s rfl
      · intro y z hy hb
        have hi := Iter.of_body hb
        exact ⟨hi.loading hy, fun hz => hy.opening (hi.unopened hz).1⟩
      · intro y r z hy hb
        have hi := Iter.of_body hb
        refine ⟨⟨hi.loading hy, fun hz => hy.opening (hi.unopened hz).1⟩, fun hz n hn => ?_, ?_⟩
        · exact (hi.unopened hz).2 n z (by rw [hn])
        · rintro ha hne rfl
          exact hi.eq_nil_of_zero ha hne hy
    obtain ⟨⟨hl, hk⟩, hn, hz⟩ := hpost
    refine ⟨⟨((loading_idle b _).ret _ _ _).mpr hl, fun he => ?_⟩, fun ha hb ho cx' buf' hc' => ?_⟩
    · -- the connection is still not open, so no count was returned
      rw [hk he, Nat.zero_add]
      have hne := hn he
      rcases r with ((e | n) | _) | p
      · rfl
      · exact absurd rfl (hne n)
      · rfl
      · rfl
    · rw [hc] at hc'
      cases hc'
      obtain ⟨_, rfl, ⟨⟩⟩ := Outcome.map_eq_returned.mp ho
      exact hz ha hb rfl
  · refine ⟨⟨((loading_idle b _).ret _ _ _).mpr (Other.loading ho hstart.loading), fun he => ?_⟩,
      fun _ _ hz => absurd hz (ho.ne_write _)⟩
    rw [count_of_ne_write ho.ne_write, Nat.add_zero]
    exact hx.opening ((Other.state_eq ho).symm.trans he)

theorem loadingInv_client {env : Env} {x : TfoStream TcpStream × Trace} (hx : Client env x)
    (b : Bytes) : LoadingInv b 0 (x.1.inner, x.2) := by
  obtain ⟨socket, addr, hs, hh⟩ := opening hx
  rw [hs]
  exact ⟨((loading_idle b _).setup hh).mpr ⟨by simp [submissions], by simp⟩, fun _ => rfl⟩

/-- **A write loop**: what it has submitted, and, if something, what its zeros mean. -/
theorem Writes.loading {env : Env} {b : Bytes}
    {t : List (Lts.Taken (TfoStream TcpStream × Trace) Done)} {x : TfoStream TcpStream × Trace}
    (h : Writes env b t x) :
    LoadingInv b (accepted t) (x.1.inner, x.2) ∧
      (AcceptsSome env → submitted b ≠ [] → ∀ y ∈ t,
        y.label.outcome = .returned (.write (.ready (.ok 0))) →
          ∀ cx buf, y.label.call.payload = some (cx, buf) → buf = []) := by
  obtain ⟨⟨x₀, hx₀, hr⟩, hp⟩ := h
  induction hr with
  | nil => exact ⟨loadingInv_client hx₀ b, by simp⟩
  | @snoc t s s' l hr hs ih =>
    obtain ⟨hl, hp⟩ := hp
    obtain ⟨hi, hz⟩ := ih hp
    obtain ⟨hi', hz'⟩ := step_loading hs hl hi
    exact ⟨hi', fun ha hb => List.forall_mem_cons.2 ⟨hz' ha hb, hz ha hb⟩⟩

/-! ## A length that is narrowed to zero -/

/-- Everything succeeds at once, and all that is submitted is accepted. -/
def accepting : Env :=
  { (default : Env) with getOverlappedResult := fun h _ _ => .ok (issuedBytes h).length }

theorem acceptsSome_accepting : AcceptsSome accepting where
  toSendsSomething := ⟨⟨sendsSomething_default.pollWrite⟩, sendsSomething_default.connectEx⟩
  getOverlappedResult h fd ov n hn hb := by
    obtain rfl := Except.ok.inj hn
    exact List.length_eq_zero_iff.1 hb

/-- The first write of a buffer submits the front of it, which is accepted, and reports its
length. -/
theorem accepting_write (cx : Waker) (b : Bytes) :
    ∃ t x, Writes accepting b t x ∧ submitted b ∈ submissions x.2 ∧
      ∃ y ∈ t, y.label.call = .pollWrite cx b ∧
        y.label.outcome = .returned (.write (.ready (.ok (submitted b).length))) := by
  have hd : debugAssertFails accepting (submitted b).length b = false := by
    simp [debugAssertFails, length_submitted_le]
  let h := registered 0 (.setUpdateConnectContext 0 (.ok ()) ::
    .connectEx 0 (submitted b) 3 (.ok (submitted b).length) :: .call (.pollWrite cx b) :: client.2)
  have hbody : iterate accepting cx b (client.1.inner, .call (.pollWrite cx b) :: client.2) =
      .done (.returned (.ready (.ok (submitted b).length)))
        (⟨.connected, .connected ⟨0, false⟩⟩, h) := by
    have hi : iterate accepting cx b (client.1.inner, .call (.pollWrite cx b) :: client.2) =
        if debugAssertFails accepting (submitted b).length b = true then _ else
          .done (.returned (.ready (.ok (submitted b).length)))
            (⟨.connected, .connected ⟨0, false⟩⟩, h) := rfl
    rw [hi, hd, if_neg Bool.false_ne_true]
  have hr : PollWriteReturns accepting cx b _ _ _ := ⟨1, Loop.run_succ_done hbody 0⟩
  have hs : (system TcpStream accepting).step client
      ⟨.pollWrite cx b, .returned (.write (.ready (.ok (submitted b).length)))⟩
      (⟨⟨.connected, .connected ⟨0, false⟩⟩⟩, .ret _ _ :: h) := ⟨h, ⟨_, hr, rfl⟩, rfl⟩
  refine ⟨_, _, ⟨⟨client, client_connects rfl rfl, .snoc .nil hs⟩, fun _ _ hp => ?_, trivial⟩, ?_,
    _, List.mem_singleton_self _, rfl, rfl⟩
  · cases hp
    rfl
  · exact List.mem_singleton_self _

theorem submitsSome_iff (b : Bytes) : SubmitsSome b ↔ b = [] ∨ b.length % UInt32.size ≠ 0 := by
  constructor
  · intro h
    by_contra hb
    obtain ⟨t, x, hw, hm, -⟩ := accepting_write ⟨1, 1⟩ b
    rw [not_or, not_not] at hb
    exact (h _ _ _ hw _ hm).2 hb.1 ((submitted_eq_nil_iff b).2 (.inr hb.2))
  · rintro hb env t x hw s hs
    obtain rfl := hw.loading.1.loading.given s hs
    refine ⟨submitted_front b, fun hne he => ?_⟩
    rcases (submitted_eq_nil_iff b).1 he with he | he
    · exact hne he
    · exact hb.elim hne fun hc => hc he

theorem neverZero_iff (b : Bytes) : NeverZero b ↔ b = [] ∨ b.length % UInt32.size ≠ 0 := by
  constructor
  · intro h
    by_contra hb
    obtain ⟨t, x, hw, -, y, hy, hc, ho⟩ := accepting_write ⟨1, 1⟩ b
    rw [not_or, not_not] at hb
    rw [(submitted_eq_nil_iff b).2 (.inr hb.2)] at ho
    exact hb.1 (h _ _ _ acceptsSome_accepting hw y hy ho ⟨1, 1⟩ b (by rw [hc]; rfl))
  · rintro hb env t x ha hw y hy ho cx buf hp
    by_cases hn : b = []
    · subst hn
      obtain ⟨k, hk⟩ := hw.presents.mem y hy
      rw [hk cx buf hp, List.drop_nil]
    · have hs : submitted b ≠ [] := fun he =>
        ((submitted_eq_nil_iff b).1 he).elim hn fun he => hb.elim hn fun hc => hc he
      exact hw.loading.2 ha hs y hy ho cx buf hp

/-- **Progress of large first writes.**  What the loop that writes `b` submits at first is a prefix
of `b`, and not empty, and it sees no `Ok(0)` before its end: iff `b` is empty, or its length is no
multiple of 2^32. -/
theorem progress_iff (b : Bytes) :
    (SubmitsSome b ↔ b = [] ∨ b.length % UInt32.size ≠ 0) ∧
      (NeverZero b ↔ b = [] ∨ b.length % UInt32.size ≠ 0) :=
  ⟨submitsSome_iff b, neverZero_iff b⟩

/-- What the module promises of every buffer there can be. -/
def Progresses : Prop :=
  ∀ b : Bytes, b.length < UInt64.size → SubmitsSome b ∧ NeverZero b

/-- Of a buffer of 4 GiB nothing is submitted, and the first write reports zero. -/
theorem not_progresses : ¬Progresses := by
  intro h
  let b : Bytes := List.replicate UInt32.size 0
  have hlen : b.length = UInt32.size := List.length_replicate
  obtain ⟨-, hz⟩ := h b (by rw [hlen]; decide)
  rcases (neverZero_iff b).1 hz with hb | hb
  · rw [hb] at hlen
    exact absurd hlen (by decide)
  · exact hb (by rw [hlen, Nat.mod_self])

end TokioTfo.Windows
