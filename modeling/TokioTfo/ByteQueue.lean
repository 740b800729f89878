/-
  What the write side of a stream is for: a queue of bytes.

  A write that returns a count appends that many bytes from the front of its own
  data, and every other call appends nothing.  The modules refine `byteQueue` as
  far as they put into the kernel exactly what their calls report.

  A loop that writes a buffer presents what is left of it each time (`PresentsRest`).
-/
import TokioTfo.Stream

namespace TokioTfo

/-- The bytes that a call is given: for a vectored write all slices. -/
def Call.data : Call → Bytes
  | pollWrite _ buf => buf
  | pollWriteVectored _ bufs => bufs.flatten
  | _ => []

/-- The bytes that a completed call reports as written. -/
def Done.written (l : Done) : Bytes :=
  match l.outcome with
  | .returned (.write (.ready (.ok n))) => l.call.data.take n
  | _ => []

/-- The queue.  Its steps are completed calls. -/
def byteQueue : Lts Bytes Done where
  step q l q' := q' = q ++ l.written ∧
    ∀ n, l.outcome = .returned (.write (.ready (.ok n))) → n ≤ l.call.data.length

/-- **The content of the queue** is what the calls have reported, in order. -/
theorem byteQueue_run {q₀ q : Bytes} {t : List (Lts.Taken Bytes Done)} (h : byteQueue.Run q₀ t q) :
    q = q₀ ++ t.reverse.flatMap fun y => y.label.written := by
  induction h with
  | nil => simp
  | snoc _ hs ih => simp [hs.1, ih]

/-- A call that does not return from a write leaves the queue as it is. -/
theorem byteQueue_step_other {c : Call} {o : Outcome Ret} (ho : ∀ r, o ≠ .returned (.write r))
    (q : Bytes) : byteQueue.step q ⟨c, o⟩ q := by
  refine ⟨?_, fun n hn => absurd hn (ho _)⟩
  unfold Done.written
  split
  · rename_i hw
    exact absurd hw (ho _)
  · simp

/-- `firstNonEmpty` is the front of all slices. -/
theorem take_flatten_firstNonEmpty {bufs : List Bytes} {n : ℕ}
    (hn : n ≤ (firstNonEmpty bufs).length) :
    bufs.flatten.take n = (firstNonEmpty bufs).take n ∧ n ≤ bufs.flatten.length := by
  induction bufs with
  | nil =>
    have : n = 0 := by simpa [firstNonEmpty] using hn
    simp [this]
  | cons b bufs ih =>
    cases b with
    | nil =>
      have hf : firstNonEmpty ([] :: bufs) = firstNonEmpty bufs := by simp [firstNonEmpty]
      rw [hf] at hn ⊢
      simpa using ih hn
    | cons a b =>
      have hf : firstNonEmpty ((a :: b) :: bufs) = a :: b := by simp [firstNonEmpty]
      rw [hf] at hn ⊢
      rw [List.flatten_cons, List.take_append_of_le_length hn, List.length_append]
      exact ⟨rfl, Nat.le_trans hn (Nat.le_add_right _ _)⟩

/-- What is written of the payload of a call is written of its data. -/
theorem take_data {c : Call} {cx : Waker} {buf : Bytes} (hc : c.payload = some (cx, buf)) {n : ℕ}
    (hn : n ≤ buf.length) : c.data.take n = buf.take n ∧ n ≤ c.data.length := by
  cases c with
  | pollWrite cx' buf' =>
    cases hc
    exact ⟨rfl, hn⟩
  | pollWriteVectored cx' bufs =>
    cases hc
    exact take_flatten_firstNonEmpty hn
  | _ => simp [Call.payload] at hc

/-- What a result of `poll_write` says was written of `buf`. -/
def wrote (buf : Bytes) : Outcome (Poll (Result ℕ)) → Bytes
  | .returned (.ready (.ok n)) => buf.take n
  | _ => []

/-- A write is a step of the queue iff it appends what it reports of its payload. -/
theorem byteQueue_step_write {c : Call} {cx : Waker} {buf : Bytes}
    (hc : c.payload = some (cx, buf)) {r : Outcome (Poll (Result ℕ))}
    (hr : ∀ n, r = .returned (.ready (.ok n)) → n ≤ buf.length) {q q' : Bytes} :
    byteQueue.step q ⟨c, r.map .write⟩ q' ↔ q' = q ++ wrote buf r := by
  rcases r with ((e | n) | _) | p
  · simp [byteQueue, Done.written, wrote]
  · obtain ⟨ht, hl⟩ := take_data hc (hr n rfl)
    simp [byteQueue, Done.written, wrote, ht, hl]
  · simp [byteQueue, Done.written, wrote]
  · simp [byteQueue, Done.written, wrote, Outcome.map]

/-! ## A loop that writes a buffer -/

/-- The number of bytes that a completed call reports as accepted. -/
def Done.count (l : Done) : ℕ :=
  match l.outcome with
  | .returned (.write (.ready (.ok n))) => n
  | _ => 0

theorem count_of_ne_write {c : Call} {o : Outcome Ret} (ho : ∀ r, o ≠ .returned (.write r)) :
    Done.count ⟨c, o⟩ = 0 := by
  unfold Done.count
  split
  · rename_i hw
    exact absurd hw (ho _)
  · rfl

section
variable {S S' : Type}

/-- The number of bytes that the calls have reported as accepted. -/
def accepted : List (Lts.Taken (TfoStream S × Trace) Done) → ℕ
  | [] => 0
  | y :: t => accepted t + y.label.count

/-- Every write presents the rest of `b` that the calls before it have not reported as accepted. -/
def PresentsRest (b : Bytes) : List (Lts.Taken (TfoStream S × Trace) Done) → Prop
  | [] => True
  | y :: t =>
    (∀ cx buf, y.label.call.payload = some (cx, buf) → buf = b.drop (accepted t)) ∧
      PresentsRest b t

variable {b : Bytes} {t : List (Lts.Taken (TfoStream S × Trace) Done)}

theorem PresentsRest.mem (h : PresentsRest b t) :
    ∀ y ∈ t, ∃ k, ∀ cx buf, y.label.call.payload = some (cx, buf) → buf = b.drop k := by
  induction t with
  | nil => simp
  | cons y t ih => exact List.forall_mem_cons.2 ⟨⟨_, h.1⟩, ih h.2⟩

/-- If no call reports more than it was given, the loop has not had more accepted than the
buffer. -/
theorem PresentsRest.accepted_le (h : PresentsRest b t)
    (ht : ∀ y ∈ t, y.label.count = 0 ∨ ∃ cx buf, y.label.call.payload = some (cx, buf) ∧
      y.label.count ≤ buf.length) : accepted t ≤ b.length := by
  induction t with
  | nil => exact Nat.zero_le _
  | cons y t ih =>
    have hle := ih h.2 fun z hz => ht z (List.mem_cons_of_mem _ hz)
    rw [accepted]
    rcases ht y (List.mem_cons_self ..) with h₀ | ⟨cx, buf, hc, hn⟩
    · omega
    · rw [h.1 cx buf hc, List.length_drop] at hn
      omega

variable (t) (g : TfoStream S × Trace → TfoStream S' × Trace)

theorem accepted_map : accepted (t.map (Lts.Taken.map g)) = accepted t := by
  induction t with
  | nil => rfl
  | cons y t ih => exact congrArg (· + _) ih

end

/-- tokio's `poll_write` takes something of every buffer that is not empty. -/
structure TakesSome (env : Env) : Prop where
  pollWrite : ∀ h fd buf n, env.pollWrite h fd buf = .ready (.ok n) → n.val = 0 → buf = []

end TokioTfo
