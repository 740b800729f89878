/-
  The static `SUPPORT_TCP_FASTOPEN_CONNECT`, shared by all connecting threads.

  `connect_with_socket` loads the flag, calls `setsockopt`, and clears the flag when
  the kernel does not know the option.  Nothing is awaited in between, so a thread
  works on one call at a time up to there; only then does the call wait for the socket
  to connect, or is dropped while it waits.  The accesses to the flag are relaxed.

  `support_flag`: in whatever order the threads run, and whatever they read of the
  flag, a call does what it does alone for the value it has loaded; the kernel refuses
  the option at most once on each thread; and no call falls back unless it has refused.
-/
import TokioTfo.Lib.Location
import TokioTfo.Lib.Transition
import TokioTfo.Sys.Linux

namespace TokioTfo.Linux

/-! ## The threads -/

/-- A call of `connect_with_socket`, with the answers it will get. -/
structure Request where
  env : Env
  socket : TcpSocket
  addr : SocketAddr

/-- The `setsockopt` of a call. -/
def Request.enable (c : Request) : Except Errno Unit × Trace :=
  setsockopt c.env c.socket.fd .tcpFastopenConnect []

/-- The stream that will call `sendto`. -/
def Request.fallback (c : Request) : TcpStream :=
  ⟨.fastOpenConnect, .connecting c.socket c.addr none⟩

/-- What a thread is doing of a call. -/
inductive Section where
  | idle
  | loaded (c : Request) (support : Bool)
  | refused (c : Request) (h : Trace)

/-- A call that has returned, with the value it has loaded and the calls it has made. -/
structure Returned where
  request : Request
  support : Bool
  result : Outcome (Result TcpStream)
  calls : Trace

/-- The threads `τ`, the calls that wait for their sockets to connect or have returned, and the
threads on which the kernel has refused the option, the last first. -/
structure Threads (τ : Type) where
  support : Location τ Bool
  running : τ → Section
  awaiting : List (Request × Trace)
  returned : List Returned
  refused : List τ

namespace Threads
variable {τ : Type} [DecidableEq τ]

/-- `AtomicBool::new(true)`. -/
def start : Threads τ := ⟨.init true, fun _ => .idle, [], [], []⟩

/-- The thread `t` goes on with `s`. -/
def run (x : Threads τ) (t : τ) (s : Section) : Threads τ :=
  { x with running := Function.update x.running t s }

/-- A call returns. -/
def finish (x : Threads τ) (r : Returned) : Threads τ := { x with returned := r :: x.returned }

/-- `socket.connect(addr).await?`. -/
def connected (c : Request) (h : Trace) : Outcome (Result TcpStream) × Trace :=
  match c.socket.connect c.env c.addr h with
  | (.ok s, h) => (.returned (.ok ⟨.fastOpenWrite, .connected s⟩), h)
  | (.error err, h) => (err.outcome, h)

/-- One step of the thread `t`. -/
inductive Step (x : Threads τ) (t : τ) : Threads τ → Prop
  | load {c : Request} {b : Bool} {l : Location τ Bool} : x.running t = .idle →
      x.support.Does t (.load b) l → Step x t ({ x with support := l }.run t (.loaded c b))
  | unsupported {c : Request} : x.running t = .loaded c false →
      Step x t ((x.run t .idle).finish ⟨c, false, .returned (.ok c.fallback), []⟩)
  | enabled {c : Request} {h : Trace} : x.running t = .loaded c true → c.enable = (.ok (), h) →
      Step x t ({ x with awaiting := (c, h) :: x.awaiting }.run t .idle)
  | refused {c : Request} {h : Trace} : x.running t = .loaded c true →
      c.enable = (.error .ENOPROTOOPT, h) →
      Step x t ({ x with refused := t :: x.refused }.run t (.refused c h))
  | failed {c : Request} {err : Errno} {h : Trace} : x.running t = .loaded c true →
      c.enable = (.error err, h) → err ≠ .ENOPROTOOPT →
      Step x t ((x.run t .idle).finish
        ⟨c, true, .returned (.error (.os err)), .handle (.drop c.socket.fd) :: h⟩)
  | store {c : Request} {h : Trace} {l : Location τ Bool} : x.running t = .refused c h →
      x.support.Does t (.store false) l →
      Step x t (({ x with support := l }.run t .idle).finish
        ⟨c, true, .returned (.ok c.fallback), h⟩)
  | connected {c : Request} {h : Trace} {cs cs' : List (Request × Trace)} :
      x.running t = .idle → x.awaiting = cs ++ (c, h) :: cs' →
      Step x t ({ x with awaiting := cs ++ cs' }.finish
        ⟨c, true, (connected c h).1, (connected c h).2⟩)
  | dropped {c : Request} {h : Trace} {cs cs' : List (Request × Trace)} :
      x.running t = .idle → x.awaiting = cs ++ (c, h) :: cs' →
      Step x t { x with awaiting := cs ++ cs' }

/-- The threads, in any order. -/
def system (τ : Type) [DecidableEq τ] : Lts (Threads τ) τ := ⟨Step⟩

section
variable (x : Threads τ) (t : τ) (s : Section)

@[simp] theorem run_running_self : (x.run t s).running t = s := Function.update_self ..

@[simp] theorem run_running_ne {u : τ} (h : u ≠ t) : (x.run t s).running u = x.running u :=
  Function.update_of_ne h ..

variable {x t s} in
/-- Where a thread stands after a step: at `s`, or where it stood. -/
theorem of_run_running {u : τ} {s' : Section} (h : (x.run t s).running u = s') :
    u = t ∧ s = s' ∨ u ≠ t ∧ x.running u = s' := by
  by_cases hut : u = t
  · subst hut
    exact .inl ⟨rfl, by rwa [run_running_self] at h⟩
  · exact .inr ⟨hut, by rwa [run_running_ne _ _ _ hut] at h⟩

end

end Threads

/-! ## What a call does alone -/

/-- The call has returned what it returns alone, for the value it has loaded. -/
def Returned.Alone (r : Returned) : Prop :=
  ∃ support', TcpStream.connectWithSocket r.request.env r.support r.request.socket r.request.addr []
    = (r.result, support', r.calls)

/-- The call has returned a stream that will call `sendto`. -/
def Returned.FellBack (r : Returned) : Prop := r.result = .returned (.ok r.request.fallback)

section
variable {c : Request} {h : Trace}

theorem alone_unsupported : Returned.Alone ⟨c, false, .returned (.ok c.fallback), []⟩ :=
  ⟨false, rfl⟩

theorem alone_refused (he : c.enable = (.error .ENOPROTOOPT, h)) :
    Returned.Alone ⟨c, true, .returned (.ok c.fallback), h⟩ := by
  refine ⟨false, ?_⟩
  rw [Request.enable] at he
  simp only [TcpStream.connectWithSocket, if_true, he]
  rfl

theorem alone_failed {err : Errno} (he : c.enable = (.error err, h)) (hne : err ≠ .ENOPROTOOPT) :
    Returned.Alone ⟨c, true, .returned (.error (.os err)), .handle (.drop c.socket.fd) :: h⟩ := by
  refine ⟨true, ?_⟩
  rw [Request.enable] at he
  simp only [TcpStream.connectWithSocket, if_true, he]

theorem alone_connected (he : c.enable = (.ok (), h)) :
    Returned.Alone ⟨c, true, (Threads.connected c h).1, (Threads.connected c h).2⟩ := by
  refine ⟨true, ?_⟩
  rw [Request.enable] at he
  rcases hc : c.socket.connect c.env c.addr h with ⟨err | s, h'⟩ <;>
    simp [TcpStream.connectWithSocket, Threads.connected, he, hc]

/-- A call that has enabled the option does not fall back. -/
theorem not_fellBack_connected :
    ¬Returned.FellBack ⟨c, true, (Threads.connected c h).1, (Threads.connected c h).2⟩ := by
  rw [Returned.FellBack, Threads.connected]
  split
  · simp [Request.fallback]
  · simp

end

/-! ## Every step -/

namespace Threads
variable {τ : Type} [DecidableEq τ] {x y : Threads τ} {t : τ}

/-- The invariant of the threads. -/
structure Consistent (x : Threads τ) : Prop where
  /-- The flag is cleared only after a refusal. -/
  latch : x.support.Latch true fun b => b = false ∧ x.refused ≠ []
  /-- A thread has seen the flag cleared if it has loaded that. -/
  loaded : ∀ t c b, x.running t = .loaded c b →
    (x.support.Seen t ↔ b = false) ∧ (b = false → x.refused ≠ [])
  refusing : ∀ t c h, x.running t = .refused c h →
    c.enable = (.error .ENOPROTOOPT, h) ∧ x.refused ≠ []
  /-- A thread that has had a refusal has cleared the flag, or is about to. -/
  refused : ∀ t ∈ x.refused, x.support.Seen t ∨ ∃ c h, x.running t = .refused c h
  awaiting : ∀ a ∈ x.awaiting, a.1.enable = (.ok (), a.2)
  alone : ∀ r ∈ x.returned, r.Alone
  nodup : x.refused.Nodup
  needed : ∀ r ∈ x.returned, r.FellBack → x.refused ≠ []

omit [DecidableEq τ] in
theorem consistent_start : Consistent (start : Threads τ) where
  latch := Location.latch_init ..
  loaded := by simp [start]
  refusing := by simp [start]
  refused := by simp [start]
  awaiting := by simp [start]
  alone := by simp [start]
  nodup := List.nodup_nil
  needed := by simp [start]

namespace Consistent
variable {c : Request} {h : Trace} {l : Location τ Bool} (hx : Consistent x)
include hx

omit [DecidableEq τ] in
theorem finish {r : Returned} (ha : r.Alone) (hn : r.FellBack → x.refused ≠ []) :
    Consistent (x.finish r) :=
  { hx with
    alone := List.forall_mem_cons.2 ⟨ha, hx.alone⟩
    needed := List.forall_mem_cons.2 ⟨hn, hx.needed⟩ }

omit [DecidableEq τ] in
theorem await {as : List (Request × Trace)} (ha : ∀ a ∈ as, a.1.enable = (.ok (), a.2)) :
    Consistent { x with awaiting := as } :=
  { hx with awaiting := ha }

/-- An access to the flag, between two calls or after a refusal. -/
theorem access {a : Location.Access Bool} (hd : x.support.Does t a l)
    (ht : ∀ c b, x.running t ≠ .loaded c b)
    (ha : ∀ b, a = .store b → b = false ∧ x.refused ≠ []) : Consistent { x with support := l } :=
  { hx with
    latch := hd.latch hx.latch ha
    loaded := by
      intro u c b hu
      have hut : u ≠ t := by
        rintro rfl
        exact ht c b hu
      obtain ⟨hs, hn⟩ := hx.loaded u c b hu
      exact ⟨(hd.seen_iff hut).trans hs, hn⟩
    refused := fun u hu => (hx.refused u hu).imp_left hd.seen }

/-- The thread goes on, and loses no refusal. -/
theorem run {s : Section} (hr : ∀ c h, x.running t = .refused c h → x.support.Seen t)
    (hl : ∀ c b, s = .loaded c b →
      (x.support.Seen t ↔ b = false) ∧ (b = false → x.refused ≠ []))
    (hs : ∀ c h, s ≠ .refused c h) : Consistent (x.run t s) :=
  { hx with
    loaded := by
      intro u c b hu
      rcases of_run_running hu with ⟨rfl, hs⟩ | ⟨-, hu⟩
      · exact hl c b hs
      · exact hx.loaded u c b hu
    refusing := by
      intro u c h hu
      rcases of_run_running hu with ⟨-, hu⟩ | ⟨-, hu⟩
      · exact absurd hu (hs c h)
      · exact hx.refusing u c h hu
    refused := by
      intro u hu
      by_cases hut : u = t
      · subst hut
        rcases hx.refused u hu with hseen | ⟨c, h, hrun⟩
        · exact .inl hseen
        · exact .inl (hr c h hrun)
      · rw [run_running_ne _ _ _ hut]
        exact hx.refused u hu }

omit [DecidableEq τ] in
/-- A thread that has loaded `true` has not had a refusal. -/
theorem not_mem_refused (hr : x.running t = .loaded c true) : t ∉ x.refused := by
  intro ht
  rcases hx.refused t ht with hs | ⟨c', h', hr'⟩
  · exact absurd ((hx.loaded t c true hr).1.1 hs) (by simp)
  · rw [hr] at hr'
    cases hr'

/-- The kernel refuses the option. -/
theorem refuse (hr : x.running t = .loaded c true) (he : c.enable = (.error .ENOPROTOOPT, h)) :
    Consistent ({ x with refused := t :: x.refused }.run t (.refused c h)) where
  latch := by
    obtain ⟨rest, hrest, hP⟩ := hx.latch
    exact ⟨rest, hrest, fun b hb => ⟨(hP b hb).1, List.cons_ne_nil _ _⟩⟩
  loaded := by
    intro u c' b hu
    rcases of_run_running hu with ⟨-, hu⟩ | ⟨-, hu⟩
    · cases hu
    · exact ⟨(hx.loaded u c' b hu).1, fun _ => List.cons_ne_nil _ _⟩
  refusing := by
    intro u c' h' hu
    rcases of_run_running hu with ⟨-, hu⟩ | ⟨-, hu⟩
    · cases hu
      exact ⟨he, List.cons_ne_nil _ _⟩
    · exact ⟨(hx.refusing u c' h' hu).1, List.cons_ne_nil _ _⟩
  refused := by
    intro u hu
    by_cases hut : u = t
    · subst hut
      exact .inr ⟨c, h, run_running_self ..⟩
    · rw [run_running_ne _ _ _ hut]
      exact hx.refused u ((List.mem_cons.1 hu).resolve_left hut)
  awaiting := hx.awaiting
  alone := hx.alone
  nodup := List.nodup_cons.2 ⟨hx.not_mem_refused hr, hx.nodup⟩
  needed := fun _ _ _ => List.cons_ne_nil _ _

/-- **Every step** preserves the invariant. -/
theorem step (h : Step x t y) : Consistent y := by
  cases h with
  | @load c b l ht hd =>
    have hl : Consistent { x with support := l } := hx.access hd (by simp [ht]) (by simp)
    refine hl.run (by simp [ht]) ?_ (by simp)
    rintro c' b' ⟨⟩
    refine ⟨⟨fun hs => (hd.load_seen hx.latch hs).1, fun hb => ?_⟩, fun hb => ?_⟩
    · exact hd.seen_of_ne hx.latch (by simp [hb])
    · exact (hd.load_seen hx.latch (hd.seen_of_ne hx.latch (by simp [hb]))).2
  | @unsupported c ht =>
    exact (hx.run (by simp [ht]) (by simp) (by simp)).finish alone_unsupported
      fun _ => (hx.loaded t c false ht).2 rfl
  | enabled ht he =>
    exact (hx.await (List.forall_mem_cons.2 ⟨he, hx.awaiting⟩)).run (by simp [ht]) (by simp)
      (by simp)
  | refused ht he => exact hx.refuse ht he
  | failed ht he hne =>
    exact (hx.run (by simp [ht]) (by simp) (by simp)).finish (alone_failed he hne) nofun
  | @store c h l ht hd =>
    obtain ⟨he, hn⟩ := hx.refusing t c h ht
    have hl : Consistent { x with support := l } := by
      refine hx.access hd (by simp [ht]) ?_
      rintro b ⟨⟩
      exact ⟨rfl, hn⟩
    exact (hl.run (fun _ _ _ => hd.seen_store) (by simp) (by simp)).finish (alone_refused he)
      fun _ => hn
  | @connected c h cs cs' ht has =>
    have ha := hx.awaiting
    rw [has, List.forall_mem_append, List.forall_mem_cons] at ha
    exact (hx.await (List.forall_mem_append.2 ⟨ha.1, ha.2.2⟩)).finish (alone_connected ha.2.1)
      fun hf => absurd hf not_fellBack_connected
  | @dropped c h cs cs' ht has =>
    have ha := hx.awaiting
    rw [has, List.forall_mem_append, List.forall_mem_cons] at ha
    exact hx.await (List.forall_mem_append.2 ⟨ha.1, ha.2.2⟩)

end Consistent

/-- What the flag guarantees. -/
structure Supported (x : Threads τ) : Prop where
  /-- A call returns what it returns alone, for the value it has loaded. -/
  alone : ∀ r ∈ x.returned, r.Alone
  /-- The kernel has refused the option at most once on each thread. -/
  nodup : x.refused.Nodup
  /-- A call has fallen back only if the kernel has refused the option. -/
  needed : ∀ r ∈ x.returned, r.FellBack → x.refused ≠ []
  /-- The next call on a thread that has had a refusal does not ask again. -/
  kept : ∀ t ∈ x.refused, x.running t = .idle → ∀ b l, x.support.Does t (.load b) l → b = false

end Threads

/-- What the flag promises, whatever the threads do. -/
def KeepsSupport (τ : Type) [DecidableEq τ] : Prop :=
  ∀ (t : List (Lts.Taken (Threads τ) τ)) (x : Threads τ),
    (Threads.system τ).Run .start t x → x.Supported

/-- **The flag**, under any interleaving of the threads. -/
theorem support_flag (τ : Type) [DecidableEq τ] : KeepsSupport τ := by
  intro t x h
  have hx : x.Consistent := h.inv' Threads.consistent_start fun _ _ _ hx hs => hx.step hs
  refine ⟨hx.alone, hx.nodup, hx.needed, fun u hu hi b l hd => ?_⟩
  rcases hx.refused u hu with hs | ⟨c, h', hr⟩
  · exact (hd.load_seen hx.latch (hd.seen hs)).1
  · rw [hi] at hr
    cases hr

end TokioTfo.Linux
