/-
  The bytes that the Unix modules put into the kernel.

  `delivers_iff_not_spilt`: a run is a run of the byte queue, so that every count is
  the number of bytes queued from the front of the caller's data, and every other
  result means that nothing was queued, iff no bytes are spilt.  They are spilt
  when `sendto` has queued some and the hand-over fails: the caller is told of the
  failure only.
-/
import TokioTfo.Starts
import TokioTfo.Handshake.Iteration
import TokioTfo.ByteQueue

namespace TokioTfo

/-- The bytes queued in the kernel, oldest first. -/
def queuedBytes : Trace → Bytes
  | [] => []
  | .sendto _ buf _ _ (.ok n) :: h => queuedBytes h ++ buf.take n
  | .send _ buf (.ok n) :: h => queuedBytes h ++ buf.take n
  | .pollWrite _ _ buf (.ready (.ok n)) :: h => queuedBytes h ++ buf.take n
  | _ :: h => queuedBytes h

/-- The count of a `sendto` that nothing but moves of handles has followed. -/
def lastSent : Trace → ℕ
  | .sendto _ _ _ _ (.ok n) :: _ => n
  | .handle _ :: h => lastSent h
  | _ => 0

/-- `from_std` has failed right after a `sendto` that had queued some bytes. -/
def spilt : Trace → Bool
  | [] => false
  | .fromStd _ (.error _) :: h => lastSent h != 0 || spilt h
  | _ :: h => spilt h

theorem queuedBytes_idle : IgnoresIdle queuedBytes := by
  intro e h he
  cases e <;> first | rfl | exact he.elim

theorem spilt_idle : IgnoresIdle spilt := by
  intro e h he
  cases e with
  | fromStd fd r => cases r <;> first | rfl | exact he.elim
  | _ => rfl

namespace Handshake
variable {p : Profile} {env : Env}

/-- An iteration that does not return queues nothing. -/
theorem Iter.queuedBytes_again {cx : Waker} {buf : Bytes} {x y : Handshake p × Trace}
    (h : Iter env cx buf x (.again y)) :
    queuedBytes y.2 = queuedBytes x.2 ∧ spilt y.2 = spilt x.2 := by
  cases h with
  | openProgress =>
    simp [queuedBytes_idle.wakeReader, queuedBytes_idle.registered, spilt_idle.wakeReader,
      spilt_idle.registered, queuedBytes, spilt]
  | _ => exact ⟨rfl, rfl⟩

/-- No more is reported than there is. -/
theorem Iter.count_le {cx : Waker} {buf : Bytes} {x y : Handshake p × Trace} {n : ℕ}
    (h : Iter env cx buf x (.done (.returned (.ready (.ok n))) y)) : n ≤ buf.length := by
  generalize hr : Outcome.returned (Poll.ready (Except.ok n)) = r at h
  cases h with
  | write _ hw =>
    cases hr
    exact hw.le rfl
  | settle _ hn | sendCount _ hn | openCount hn =>
    cases hr
    exact hn
  | openCountLost | openProgressLost => exact absurd hr.symm (Unregistered.ready_ne_ok _ _)
  | _ => cases hr

/-- An iteration that returns has queued what it reports iff it spills nothing. -/
theorem Iter.queuedBytes_done {cx : Waker} {buf : Bytes} {x y : Handshake p × Trace}
    {r : Outcome (Poll (Result ℕ))} (h : Iter env cx buf x (.done r y)) (hx : spilt x.2 = false) :
    queuedBytes y.2 = queuedBytes x.2 ++ wrote buf r ↔ spilt y.2 = false := by
  cases h with
  | @write _ _ _ _ r =>
    rcases r with (e | n) | _ <;> simp_all [queuedBytes, spilt, wrote]
  | soError => simp_all [queuedBytes, spilt, wrote, queried]
  | openCount =>
    simp_all [queuedBytes_idle.wakeReader, queuedBytes_idle.registered, spilt_idle.wakeReader,
      spilt_idle.registered, queuedBytes, spilt, wrote]
  | @openCountLost _ _ _ _ n u hn =>
    have hw : wrote buf (u.outcome.map .ready) = [] := by
      cases u <;> rfl
    simp_all [queuedBytes, spilt, notRegistered, lastSent]
    rintro rfl
    simpa using hn
  | @openProgressLost _ _ _ _ u =>
    have hw : wrote buf (u.outcome.map .ready) = [] := by
      cases u <;> rfl
    simp_all [queuedBytes, spilt, notRegistered, lastSent]
  | _ => simp_all [queuedBytes, spilt, wrote]

/-- **A call is a step of the byte queue** iff it spills nothing. -/
theorem byteQueue_step_iff {x x' : TfoStream (Handshake p) × Trace} {l : Done}
    (hs : (system (Handshake p) env).step x l x') (hx : spilt x.2 = false) :
    byteQueue.step (queuedBytes x.2) l (queuedBytes x'.2) ↔ spilt x'.2 = false := by
  obtain ⟨c, o⟩ := l
  obtain ⟨h, hp, hx'⟩ := hs
  rw [hx', spilt_idle.ret, queuedBytes_idle.ret]
  refine performs_post
    (I := fun y => queuedBytes y.2 = queuedBytes x.2 ∧ spilt y.2 = false)
    (Q := fun o y => byteQueue.step (queuedBytes x.2) ⟨c, o⟩ (queuedBytes y.2) ↔ spilt y.2 = false)
    (fun _ _ _ h => h) ?_ ?_ ?_ ⟨rfl, hx⟩ hp
  · intro cx buf y z _ hy hb
    have hi := Iter.of_body hb
    obtain ⟨h₁, h₂⟩ := hi.queuedBytes_again
    exact ⟨h₁.trans hy.1, h₂.trans hy.2⟩
  · intro cx buf y r z hc hy hb
    have hi := Iter.of_body hb
    rw [← hi.queuedBytes_done hy.2, hy.1]
    exact byteQueue_step_write hc fun n hn => by subst hn; exact hi.count_le
  · intro y o z hy ho
    rw [ho.ignored spilt_idle, ho.ignored queuedBytes_idle, hy.1, hy.2]
    exact ⟨fun _ => rfl, fun _ => byteQueue_step_other ho.ne_write _⟩

/-- A stream whose socket is registered spills nothing. -/
theorem registered_invariant : Invariant env fun x : Handshake p × Trace =>
    (∃ s, x.1.stream = .connected s) ∧ spilt x.2 = false := by
  refine .of_idle ?_ ?_ ?_ ?_
  · intro s e h he
    simp only [spilt_idle e h he]
  · rintro st socket addr reader reader' h ⟨⟨s, hs⟩, -⟩
    cases hs
  · rintro st s h ⟨-, hh⟩
    exact ⟨⟨_, rfl⟩, hh⟩
  · rintro cx buf x ⟨hs, hh⟩
    generalize hb : SysTcpStream.pollWriteBody env cx buf x = y
    have h := Iter.of_body hb
    cases h <;> simp_all [Loop.Step.state, spilt, queried]

end Handshake

/-! ## The three modules -/

/-- The calls of a run queue what they report, and so the bytes queued are those reported, in the
order of the calls. -/
structure Delivers {S : Type} (t : List (Lts.Taken (TfoStream S × Trace) Done))
    (x : TfoStream S × Trace) : Prop where
  calls : ∀ y ∈ t, byteQueue.step (queuedBytes y.pre.2) y.label (queuedBytes y.post.2)
  total : queuedBytes x.2 = t.reverse.flatMap fun y => y.label.written

namespace Unix
variable {S : Type} [SysTcpStream S] [SysConnect S] [UnixTcpStream S] [UnixConnect S] {env : Env}
  {x₀ x : TfoStream S × Trace} {t : List (Lts.Taken (TfoStream S × Trace) Done)}

theorem delivers_of_calls (hx₀ : Started env x₀) (h : (system S env).Run x₀ t x)
    (ht : ∀ y ∈ t, byteQueue.step (queuedBytes y.pre.2) y.label (queuedBytes y.post.2)) :
    Delivers t x := by
  refine ⟨ht, ?_⟩
  have hr := byteQueue_run ((h.map_iff (f := fun y => queuedBytes y.2)).2 ht)
  rw [started_unix queuedBytes_idle hx₀] at hr
  simpa [queuedBytes, ← List.map_reverse, List.flatMap_map, Lts.Taken.map] using hr

theorem delivers_iff (hx₀ : Started env x₀) (h : (system S env).Run x₀ t x) :
    Delivers t x ↔ ∀ y ∈ t, spilt y.post.2 = false := by
  have hiff := h.forall_iff (I := fun x => spilt x.2 = false)
    (P := fun y => byteQueue.step (queuedBytes y.pre.2) y.label (queuedBytes y.post.2))
    (C := fun y => spilt y.post.2 = false) (D := fun _ => True) (started_unix spilt_idle hx₀)
    (fun _ _ _ _ _ hC => hC)
    (fun s l s' hI hs _ => Handshake.byteQueue_step_iff (UnixTcpStream.step_view env hs) hI)
    fun _ _ => trivial
  rw [← hiff]
  exact ⟨fun hd => hd.calls, delivers_of_calls hx₀ h⟩

/-- A stream that starts with its socket registered delivers exactly. -/
theorem delivers_of_registered (hx₀ : Started env x₀) (h : (system S env).Run x₀ t x)
    {s : TokioTcpStream} (hs : (UnixTcpStream.view x₀.1.inner).stream = .connected s) :
    Delivers t x := by
  refine (delivers_iff hx₀ h).2 fun y hy => ?_
  obtain ⟨t', -, hr, hstep⟩ := h.mem y hy
  have h₀ : (∃ s, (UnixTcpStream.view x₀.1.inner).stream = .connected s) ∧ spilt x₀.2 = false :=
    ⟨⟨s, hs⟩, started_unix spilt_idle hx₀⟩
  have hy : Reached env x₀ (y.post.1.inner, y.post.2) := .between (.snoc hr hstep)
  exact (Handshake.registered_invariant.reached h₀ (UnixTcpStream.reached_view env hy)).2

end Unix

/-- What a module promises about the bytes it queues. -/
def DeliversExactly (env : Env) (S : Type) [SysTcpStream S] [SysConnect S] : Prop :=
  ∀ (x₀ x : TfoStream S × Trace) (t : List (Lts.Taken (TfoStream S × Trace) Done)),
    Started env x₀ → (system S env).Run x₀ t x → Delivers t x

/-- The promise is kept on the runs that spill nothing, and on no others. -/
def DeliversIffNotSpilt (env : Env) (S : Type) [SysTcpStream S] [SysConnect S] : Prop :=
  ∀ (x₀ x : TfoStream S × Trace) (t : List (Lts.Taken (TfoStream S × Trace) Done)),
    Started env x₀ → (system S env).Run x₀ t x →
      (Delivers t x ↔ ∀ y ∈ t, spilt y.post.2 = false)

/-- **Byte delivery on the Unix modules.** -/
theorem delivers_iff_not_spilt (env : Env) :
    DeliversIffNotSpilt env Linux.TcpStream ∧ DeliversIffNotSpilt env FreeBsd.TcpStream ∧
      DeliversExactly env MacOs.TcpStream := by
  refine ⟨?_, ?_, ?_⟩
  · intro x₀ x t hx₀ h
    exact Unix.delivers_iff hx₀ h
  · intro x₀ x t hx₀ h
    exact Unix.delivers_iff hx₀ h
  · intro x₀ x t hx₀ h
    exact Unix.delivers_of_registered hx₀ h rfl

/-- A first write of one byte. -/
theorem delivers_first_write :
    (let r := runOf default 1 [.pollWrite ⟨1, 1⟩ [7]] Linux.client
     Delivers r.1 r.2) ∧
    (let r := runOf default 1 [.pollWrite ⟨1, 1⟩ [7]] FreeBsd.client
     Delivers r.1 r.2) ∧
    let r := runOf default 1 [.pollWrite ⟨1, 1⟩ [7]] MacOs.client
    Delivers r.1 r.2 := by
  refine ⟨?_, ?_, ?_⟩
  · exact ((delivers_iff_not_spilt default).1 _ _ _ (.inl Linux.client_connects)
      (run_runOf default 1 _ _)).2 (by decide)
  · exact ((delivers_iff_not_spilt default).2.1 _ _ _ (.inl (FreeBsd.client_connects rfl))
      (run_runOf default 1 _ _)).2 (by decide)
  · exact (delivers_iff_not_spilt default).2.2 _ _ _ (.inl (MacOs.client_connects rfl rfl rfl))
      (run_runOf default 1 _ _)

/-- The first write queues three bytes, and returns the error of `from_std`. -/
theorem not_deliversExactly :
    (¬∀ env, DeliversExactly env Linux.TcpStream) ∧
      ¬∀ env, DeliversExactly env FreeBsd.TcpStream := by
  let cs : List Call := [.pollWrite ⟨1, 1⟩ [1, 2, 3]]
  constructor
  · intro h
    have hd := h refusing _ _ _ (.inl Linux.client_connects) (run_runOf refusing 1 cs Linux.client)
    exact absurd hd.total (by decide)
  · intro h
    have hd := h refusing _ _ _ (.inl (FreeBsd.client_connects rfl))
      (run_runOf refusing 1 cs FreeBsd.client)
    exact absurd hd.total (by decide)

end TokioTfo
