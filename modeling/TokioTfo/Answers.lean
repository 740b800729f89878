/-
  The history records what the environment has answered.

  `answered_invariant`, for the Unix modules and for Windows: the answer to every call
  that `poll_write` has made is the one that the environment gives for the history before
  the call.  What is assumed of the environment is thus known of the history.
-/
import TokioTfo.Starts
import TokioTfo.Handshake.Iteration
import TokioTfo.Windows.Iteration

namespace TokioTfo

/-- What `poll_write` of tokio returns for an answer. -/
def IoAnswer.poll {n : ℕ} : IoAnswer (Count n) → Poll (Result ℕ)
  | ready r => .ready (r.map Fin.val)
  | wouldBlock | budget => .pending

/-- After the history `h` the environment gives the answer that the event records, if it records
one of a call made by `poll_write`. -/
def Event.AnsweredBy (env : Env) (h : Trace) : Event → Prop
  | sendto fd buf flags addr r => (env.sendto h fd buf flags addr).map Fin.val = r
  | send fd buf r => (env.send h fd buf).map Fin.val = r
  | connectEx fd buf ov r => ∃ addr, (env.connectEx h fd addr buf ov).map Fin.val = r
  | getOverlappedResult fd ov r => env.getOverlappedResult h fd ov = r
  | setUpdateConnectContext fd r => env.setUpdateConnectContext h fd = r
  | takeError fd r => env.takeError h fd = r
  | fromStd fd (.error e) => env.fromStd h fd = .error e
  | pollWriteReady _ fd (.ready (.error e)) => env.pollWriteReady h fd = .shutdown e
  | pollWrite _ fd buf r => (env.pollWrite h fd buf).poll = r
  | _ => True

/-- Every answer in the history is the environment's. -/
def Answered (env : Env) : Trace → Prop
  | [] => True
  | e :: h => e.AnsweredBy env h ∧ Answered env h

section
variable {env : Env}

@[simp] theorem answered_nil : Answered env [] := trivial

@[simp] theorem answered_cons {e : Event} {h : Trace} :
    Answered env (e :: h) ↔ e.AnsweredBy env h ∧ Answered env h := Iff.rfl

theorem answered_idle : IgnoresIdle (Answered env) := by
  intro e h he
  refine propext ⟨And.right, fun hh => ⟨?_, hh⟩⟩
  cases e with
  | fromStd fd r => cases r <;> trivial
  | _ => trivial

/-! ## The calls -/

variable (cx : Waker) (buf : Bytes) {h : Trace} (hh : Answered env h)
include hh

theorem Answered.pollWrite (s : TokioTcpStream) : Answered env (s.pollWrite env cx buf h).2.2 := by
  unfold TokioTcpStream.pollWrite
  split <;> exact ⟨by simp_all [Event.AnsweredBy, IoAnswer.poll, Except.map], hh⟩

theorem Answered.pollWriteReady (s : TokioTcpStream) :
    Answered env (s.pollWriteReady env cx h).2 := by
  refine ⟨?_, hh⟩
  cases hr : env.pollWriteReady h s.fd with
  | cached => cases hw : s.writable <;> simp [Event.AnsweredBy]
  | budget => trivial
  | shutdown e => exact hr

theorem Answered.registerSocket (socket : TcpSocket) :
    Answered env (LazyTcpStream.registerSocket env socket h).2 := by
  unfold LazyTcpStream.registerSocket TokioTcpStream.fromStd
  split
  · exact ⟨trivial, trivial, trivial, hh⟩
  · rename_i he
    exact ⟨trivial, he, trivial, trivial, hh⟩

theorem Answered.socketTakeError (fd : Fd) : Answered env (socketTakeError env fd h).2 :=
  ⟨trivial, rfl, trivial, hh⟩

theorem Answered.wakeReader (reader : Option Waker) : Answered env (wakeReader reader cx h) :=
  (answered_idle.wakeReader reader cx h).mpr hh

end

/-! ## The loop bodies -/

section
variable {env : Env} {cx : Waker} {buf : Bytes} {σ : Type} {h : Trace}

theorem answered_withConnected {self : LazyTcpStream σ} {k : TokioTcpStream → Trace → Branch σ}
    (hk : ∀ s, Answered env (k s h).state.2) (hh : Answered env h) :
    Answered env (self.withConnected h k).state.2 := by
  obtain ⟨st, o⟩ := self
  cases o with
  | connected s =>
    have := hk s
    simp only [LazyTcpStream.withConnected]
    cases hb : k s h <;> rw [hb] at this <;> exact this
  | connecting | empty => exact hh

theorem answered_delegate (st : σ) (s : TokioTcpStream) (hh : Answered env h) :
    Answered env (delegate env cx buf st s h).state.2 :=
  hh.pollWrite cx buf s

theorem answered_firstWrite (retry : Error → Bool) (a b c : σ) (s : TokioTcpStream)
    (hh : Answered env h) : Answered env (firstWrite env cx buf retry a b c s h).state.2 := by
  have hw := hh.pollWrite cx buf s
  unfold firstWrite
  split <;> rename_i hr <;> rw [hr] at hw
  · exact hw
  · split <;> exact hw
  · exact hw

theorem answered_awaitConnect (a b : σ) (s : TokioTcpStream) (hh : Answered env h) :
    Answered env (awaitConnect env cx a b s h).state.2 := by
  have hw := hh.pollWriteReady cx s
  unfold awaitConnect
  split <;> rename_i hr <;> rw [hr] at hw
  · exact hw
  · exact hw
  · have hq := hw.socketTakeError s.fd
    split <;> rename_i hr <;> rw [hr] at hq <;> exact hq

theorem answered_sendFirst (s : TokioTcpStream) (hh : Answered env h) :
    Answered env (sendFirst env buf s h).2.2 := by
  have hs : Answered env (send env s.fd buf h).2 := ⟨rfl, hh⟩
  unfold sendFirst
  split <;> rename_i hr <;> rw [hr] at hs <;> exact hs

theorem answered_tryIo {α β : Type} (s : TokioTcpStream) (b : β)
    {f : Trace → Outcome (Result α) × β × Trace} (hf : Answered env (f h).2.2)
    (hh : Answered env h) : Answered env (s.tryIo b f h).2.2.2 := by
  unfold TokioTcpStream.tryIo
  split
  · split <;> rename_i hr <;> rw [hr] at hf
    · split <;> exact hf
    · exact hf
  · exact hh

theorem answered_fastOpenWrite (a b c : σ) (s : TokioTcpStream) (hh : Answered env h) :
    Answered env (fastOpenWrite env cx buf a b c s h).state.2 := by
  have hw := hh.pollWriteReady cx s
  unfold fastOpenWrite
  split <;> rename_i hr <;> rw [hr] at hw
  · exact hw
  · exact hw
  · have ht := answered_tryIo s false (@answered_sendFirst env buf _ s hw) hw
    split <;> rename_i hr <;> rw [hr] at ht
    · exact ht
    · split <;> exact ht
    · exact ht

theorem answered_fastOpenConnect (flags : ℕ) (a b : σ) (self : LazyTcpStream σ)
    (hh : Answered env h) :
    Answered env (fastOpenConnect env cx buf flags a b self h).state.2 := by
  unfold fastOpenConnect
  split
  · rename_i socket addr reader _
    have hs : Answered env (sendto env socket.fd buf flags addr h).2 := ⟨rfl, hh⟩
    split <;> rename_i hr <;> rw [hr] at hs
    · have hg := hs.registerSocket socket
      split <;> rename_i hr <;> rw [hr] at hg
      · exact hg.wakeReader cx reader
      · exact hg
    · have hg := hs.registerSocket socket
      split <;> rename_i hr <;> rw [hr] at hg
      · exact hg.wakeReader cx reader
      · exact hg
    · exact hs
  · exact hh

end

theorem Handshake.answered_body {p : Profile} {env : Env} (cx : Waker) (buf : Bytes)
    (x : Handshake p × Trace) (hx : Answered env x.2) :
    Answered env (pollWriteBody env cx buf x).state.2 := by
  unfold pollWriteBody
  split
  · exact answered_fastOpenConnect _ _ _ _ hx
  · exact answered_withConnected (fun s => answered_fastOpenWrite _ _ _ s hx) hx
  · exact answered_withConnected (fun s => answered_awaitConnect _ _ s hx) hx
  · split
    · exact answered_withConnected (fun s => answered_firstWrite _ _ _ _ s hx) hx
    · exact answered_withConnected (fun s => answered_delegate _ s hx) hx
  · exact answered_withConnected (fun s => answered_delegate _ s hx) hx

namespace Windows
variable {env : Env} {cx : Waker} {buf : Bytes} {h : Trace}

theorem answered_fetchResult (ov : Overlapped) (s : TokioTcpStream) (hh : Answered env h) :
    Answered env (TcpStream.fetchResult env buf ov s h).2.2 := by
  have hg : Answered env (getOverlappedResult env s.fd ov h).2 := ⟨rfl, hh⟩
  unfold TcpStream.fetchResult
  split <;> rename_i hr <;> rw [hr] at hg
  · have hu : Answered env (setUpdateConnectContext env s.fd _).2 := ⟨rfl, hg⟩
    split <;> rename_i hr <;> rw [hr] at hu
    · exact hu
    · split <;> exact hu
  · exact hg
  · exact hg

theorem answered_fastOpenConnecting (ov : Overlapped) (s : TokioTcpStream) (hh : Answered env h) :
    Answered env (TcpStream.fastOpenConnecting env cx buf ov s h).state.2 := by
  have hw := hh.pollWriteReady cx s
  unfold TcpStream.fastOpenConnecting
  split <;> rename_i hr <;> rw [hr] at hw
  · exact hw
  · exact hw
  · have ht := answered_tryIo s () (@answered_fetchResult env buf _ ov s hw) hw
    split <;> rename_i hr <;> rw [hr] at ht
    · rename_i s' h'
      have hq := Answered.socketTakeError (h := h') ht s'.fd
      split <;> rename_i hr <;> rw [hr] at hq <;> exact hq
    · split <;> exact ht
    · exact ht

theorem answered_fastOpenConnect (self : TcpStream) (hh : Answered env h) :
    Answered env (TcpStream.fastOpenConnect env cx buf self h).state.2 := by
  unfold TcpStream.fastOpenConnect
  split
  · exact hh
  · simp only
    split
    · rename_i socket addr reader _
      have hc : Answered env (connectEx env socket.fd addr buf h.length h).2 := ⟨⟨addr, rfl⟩, hh⟩
      split <;> rename_i hr <;> rw [hr] at hc
      · split
        · exact hc
        · have hu : Answered env (setUpdateConnectContext env socket.fd _).2 := ⟨rfl, hc⟩
          split <;> rename_i hr <;> rw [hr] at hu
          · exact ⟨trivial, hu⟩
          · have hg := hu.registerSocket socket
            split <;> rename_i hr <;> rw [hr] at hg
            · exact hg.wakeReader cx reader
            · exact hg
      · have hg := hc.registerSocket socket
        split <;> rename_i hr <;> rw [hr] at hg
        · exact hg.wakeReader cx reader
        · exact hg
      · exact hc
    · exact hh

theorem answered_body (x : TcpStream × Trace) (hx : Answered env x.2) :
    Answered env (TcpStream.pollWriteBody env cx buf x).state.2 := by
  unfold TcpStream.pollWriteBody
  split
  · exact answered_withConnected (fun s => answered_delegate _ s hx) hx
  · exact answered_fastOpenConnect _ hx
  · exact answered_withConnected (fun s => answered_fastOpenConnecting _ s hx) hx

end Windows

/-! ## Runs -/

theorem Handshake.answered_invariant {p : Profile} {env : Env} :
    Invariant env fun x : Handshake p × Trace => Answered env x.2 :=
  .of_idle (fun _ => answered_idle) (fun _ _ _ _ _ _ hx => hx) (fun _ _ _ hx => ⟨trivial, hx⟩)
    answered_body

theorem Windows.answered_invariant {env : Env} :
    Invariant env fun x : TcpStream × Trace => Answered env x.2 :=
  .of_idle (fun _ => answered_idle) (fun _ _ _ _ _ _ hx => hx) (fun _ _ _ hx => ⟨trivial, hx⟩)
    fun _ _ => answered_body

/-- **The history of a Windows stream is answered by the environment.** -/
theorem answered_windows {env : Env} {x₀ : TfoStream Windows.TcpStream × Trace}
    (hx₀ : Started env x₀) {y : Windows.TcpStream × Trace} (h : Reached env x₀ y) :
    Answered env y.2 :=
  Windows.answered_invariant.reached ((started_windows answered_idle hx₀).mpr trivial) h

end TokioTfo
