/-
  Loops whose body either goes round again or returns.

  * `run body n s` runs at most `n` iterations from `s`, and `Returns` says that
    the loop returns after finitely many; it is stable in `n` and unique.
  * `Reaches`: a loop that is interrupted and resumed returns what it would have
    returned.
  * `run_again_inv` and `Returns.post`: what every iteration preserves holds as
    long as the loop runs, and what the last one establishes holds on return.
  * `run_map` and `returns_map`: a body that commutes with a map of the states
    loops in lockstep with its image; `run_map_while`: one that does so as long as
    nothing is lost, `run_loses` being the iteration that loses it.
  * `run_amortised`: if the rank falls at every iteration, up to what the iteration
    pays, the number of iterations is bounded by the rank and the payment;
    `returns_of_bounded`, `returns_of_rank` and `diverges`: a loop with a bound or
    a falling rank returns, and a set of states that is never left has none;
    `run_stages`: a run through numbered stages.
-/
import Mathlib.Data.Nat.Init
import Mathlib.Tactic.Common

namespace Loop

universe u v w
variable {σ : Type u} {τ : Type w} {ρ : Type v}

/-- What an iteration does: go round again, or return. -/
inductive Step (σ : Type u) (ρ : Type v) where
  | again (s : σ)
  | done (r : ρ) (s : σ)
  deriving DecidableEq

namespace Step

/-- The state an iteration leaves. -/
def state : Step σ ρ → σ
  | again s | done _ s => s

@[simp] theorem state_again (s : σ) : (again s : Step σ ρ).state = s := rfl
@[simp] theorem state_done (r : ρ) (s : σ) : (done r s).state = s := rfl

/-- What an iteration returns, if it does. -/
def result : Step σ ρ → Option ρ
  | again _ => none
  | done r _ => some r

@[simp] theorem result_again (s : σ) : (again s : Step σ ρ).result = none := rfl
@[simp] theorem result_done (r : ρ) (s : σ) : (done r s).result = some r := rfl

/-- An iteration, its state mapped by `f`. -/
def map (f : σ → τ) : Step σ ρ → Step τ ρ
  | again s => again (f s)
  | done r s => done r (f s)

@[simp] theorem map_again (f : σ → τ) (s : σ) : (again s : Step σ ρ).map f = again (f s) := rfl
@[simp] theorem map_done (f : σ → τ) (r : ρ) (s : σ) : (done r s).map f = done r (f s) := rfl

theorem map_eq_again {f : σ → τ} {x : Step σ ρ} {t : τ} :
    x.map f = again t ↔ ∃ s, x = again s ∧ f s = t := by
  cases x <;> simp

theorem map_eq_done {f : σ → τ} {x : Step σ ρ} {r : ρ} {t : τ} :
    x.map f = done r t ↔ ∃ s, x = done r s ∧ f s = t := by
  cases x with
  | again s => simp
  | done r' s => simp [and_comm]

end Step

/-- At most `n` iterations of the body from `s`. -/
def run (body : σ → Step σ ρ) : ℕ → σ → Step σ ρ
  | 0, s => .again s
  | n + 1, s => match body s with
    | .again s' => run body n s'
    | .done r s' => .done r s'

/-- The loop returns `r` in the state `s'`. -/
def Returns (body : σ → Step σ ρ) (s : σ) (r : ρ) (s' : σ) : Prop :=
  ∃ n, run body n s = .done r s'

/-- The loop goes round from `s` to `s'`. -/
def Reaches (body : σ → Step σ ρ) (s s' : σ) : Prop :=
  ∃ n, run body n s = .again s'

section
variable {body : σ → Step σ ρ}

@[simp] theorem run_zero (s : σ) : run body 0 s = .again s := rfl

theorem run_succ_again {s s' : σ} (h : body s = .again s') (n : ℕ) :
    run body (n + 1) s = run body n s' := by
  simp [run, h]

theorem run_succ_done {s s' : σ} {r : ρ} (h : body s = .done r s') (n : ℕ) :
    run body (n + 1) s = .done r s' := by
  simp [run, h]

/-- A loop that has returned does not change with more iterations. -/
theorem run_done_mono {n m : ℕ} {s s' : σ} {r : ρ} (h : run body n s = .done r s') (hnm : n ≤ m) :
    run body m s = .done r s' := by
  induction n generalizing m s with
  | zero => simp at h
  | succ n ih =>
    obtain ⟨m, rfl⟩ : ∃ k, m = k + 1 := ⟨m - 1, by omega⟩
    cases hb : body s with
    | again t => rw [run_succ_again hb] at h ⊢; exact ih h (by omega)
    | done r' t => rw [run_succ_done hb] at h ⊢; exact h

/-- The iterations after `n` that go round again. -/
theorem run_add {n : ℕ} {s t : σ} (h : run body n s = .again t) (m : ℕ) :
    run body (n + m) s = run body m t := by
  induction n generalizing s with
  | zero =>
    cases h
    rw [Nat.zero_add]
  | succ n ih =>
    rw [Nat.succ_add]
    cases hb : body s with
    | again u =>
      rw [run_succ_again hb] at h ⊢
      exact ih h
    | done r' u => rw [run_succ_done hb] at h; cases h

/-- The iteration after `n` that go round again. -/
theorem run_last {n : ℕ} {s t s' : σ} {r : ρ} (h : run body n s = .again t)
    (hd : body t = .done r s') : run body (n + 1) s = .done r s' := by
  rw [run_add h]
  exact run_succ_done hd 0

/-- A loop that still runs was running before its last iteration. -/
theorem run_again_last {n : ℕ} {s s' : σ} (h : run body (n + 1) s = .again s') :
    ∃ t, run body n s = .again t ∧ body t = .again s' := by
  induction n generalizing s with
  | zero =>
    cases hb : body s with
    | again t => rw [run_succ_again hb] at h; exact ⟨s, rfl, hb.trans h⟩
    | done r t => rw [run_succ_done hb] at h; cases h
  | succ n ih =>
    cases hb : body s with
    | again t => rw [run_succ_again hb] at h ⊢; exact ih h
    | done r t => rw [run_succ_done hb] at h; cases h

/-- A loop that has returned did so in one of its iterations. -/
theorem run_done_last {n : ℕ} {s s' : σ} {r : ρ} (h : run body n s = .done r s') :
    ∃ k t, k < n ∧ run body k s = .again t ∧ body t = .done r s' := by
  induction n generalizing s with
  | zero => simp at h
  | succ n ih =>
    cases hb : body s with
    | again t =>
      rw [run_succ_again hb] at h
      obtain ⟨k, u, hk, hu, hd⟩ := ih h
      exact ⟨k + 1, u, by omega, by rw [run_succ_again hb]; exact hu, hd⟩
    | done r' t =>
      rw [run_succ_done hb] at h
      cases h
      exact ⟨0, s, by omega, rfl, hb⟩

theorem Returns.unique {s s₁ s₂ : σ} {r₁ r₂ : ρ} (h₁ : Returns body s r₁ s₁)
    (h₂ : Returns body s r₂ s₂) : r₁ = r₂ ∧ s₁ = s₂ := by
  obtain ⟨n, hn⟩ := h₁
  obtain ⟨m, hm⟩ := h₂
  have h := run_done_mono hn (Nat.le_max_left n m)
  rw [run_done_mono hm (Nat.le_max_right n m)] at h
  simpa [eq_comm] using h

/-! ## Loops that are interrupted -/

theorem Reaches.refl (s : σ) : Reaches body s s := ⟨0, rfl⟩

theorem Reaches.of_again {s t : σ} (h : body s = .again t) : Reaches body s t :=
  ⟨1, run_succ_again h 0⟩

theorem Reaches.trans {s t u : σ} (h : Reaches body s t) (h' : Reaches body t u) :
    Reaches body s u := by
  obtain ⟨n, hn⟩ := h
  obtain ⟨m, hm⟩ := h'
  exact ⟨n + m, by rw [run_add hn, hm]⟩

/-- A loop that is resumed where it was interrupted returns what it would have returned. -/
theorem Reaches.returns {s t s' : σ} {r : ρ} (h : Reaches body s t) (h' : Returns body t r s') :
    Returns body s r s' := by
  obtain ⟨n, hn⟩ := h
  obtain ⟨m, hm⟩ := h'
  exact ⟨n + m, by rw [run_add hn, hm]⟩

/-! ## Invariants -/

/-- **What every iteration preserves** holds while the loop runs. -/
theorem run_again_inv {I : σ → Prop} (hstep : ∀ s s', I s → body s = .again s' → I s') :
    ∀ {n : ℕ} {s s' : σ}, I s → run body n s = .again s' → I s'
  | 0, s, s', hI, h => by simp at h; exact h ▸ hI
  | n + 1, s, s', hI, h => by
    cases hb : body s with
    | again t => rw [run_succ_again hb] at h; exact run_again_inv hstep (hstep s t hI hb) h
    | done r t => rw [run_succ_done hb] at h; cases h

/-- **What the returning iteration establishes** from the invariant holds on return. -/
theorem Returns.post {I : σ → Prop} {Q : ρ → σ → Prop}
    (hstep : ∀ s s', I s → body s = .again s' → I s')
    (hdone : ∀ s r s', I s → body s = .done r s' → Q r s') {s s' : σ} {r : ρ}
    (hI : I s) (h : Returns body s r s') : Q r s' := by
  obtain ⟨n, hn⟩ := h
  induction n generalizing s with
  | zero => simp at hn
  | succ n ih =>
    cases hb : body s with
    | again t => rw [run_succ_again hb] at hn; exact ih (hstep s t hI hb) hn
    | done r' t => rw [run_succ_done hb] at hn; cases hn; exact hdone s r s' hI hb

/-! ## Bodies that commute with a map of the states -/

variable {body' : τ → Step τ ρ} {f : σ → τ}

theorem run_map (hf : ∀ s, body' (f s) = (body s).map f) (n : ℕ) (s : σ) :
    run body' n (f s) = (run body n s).map f := by
  induction n generalizing s with
  | zero => rfl
  | succ n ih =>
    have h := hf s
    cases hb : body s with
    | again t => rw [hb] at h; rw [run_succ_again hb, run_succ_again h, ih]
    | done r t => rw [hb] at h; rw [run_succ_done hb, run_succ_done h]; rfl

theorem returns_map (hf : ∀ s, body' (f s) = (body s).map f) {s : σ} {r : ρ} {t : τ} :
    Returns body' (f s) r t ↔ ∃ s', Returns body s r s' ∧ f s' = t := by
  simp only [Returns, run_map hf, Step.map_eq_done]
  exact ⟨fun ⟨n, s', h, e⟩ => ⟨s', ⟨n, h⟩, e⟩, fun ⟨s', ⟨n, h⟩, e⟩ => ⟨n, s', h, e⟩⟩

/-- What no iteration establishes has held all along, if it holds at the end. -/
theorem run_back {G : σ → Prop} (hback : ∀ s, G (body s).state → G s) :
    ∀ {n : ℕ} {s : σ}, G (run body n s).state → G s
  | 0, _, h => h
  | n + 1, s, h => by
    refine hback s ?_
    cases hb : body s with
    | again t => rw [run_succ_again hb] at h; exact run_back hback h
    | done r t => rw [run_succ_done hb] at h; exact h

/-- **Lockstep while it lasts.** If the bodies commute with the map as long as `G` holds, which no
iteration establishes, the loops run in lockstep if it holds at the end. -/
theorem run_map_while {I G : σ → Prop} (hstep : ∀ s s', I s → body s = .again s' → I s')
    (hback : ∀ s, G (body s).state → G s)
    (hf : ∀ s, I s → G (body s).state → body' (f s) = (body s).map f) :
    ∀ {n : ℕ} {s : σ}, I s → G (run body n s).state → run body' n (f s) = (run body n s).map f
  | 0, _, _, _ => rfl
  | n + 1, s, hI, hG => by
    cases hb : body s with
    | again t =>
      rw [run_succ_again hb] at hG ⊢
      have hs := hf s hI (by rw [hb]; exact run_back hback hG)
      rw [hb] at hs
      rw [run_succ_again hs, run_map_while hstep hback hf (hstep s t hI hb) hG]
    | done r t =>
      rw [run_succ_done hb] at hG ⊢
      have hs := hf s hI (by rw [hb]; exact hG)
      rw [hb] at hs
      rw [run_succ_done hs]
      rfl

/-- What is lost in a loop is lost in one of its iterations. -/
theorem run_loses {G : σ → Prop} {n : ℕ} {s s' : σ} {r : ρ} (h : run body n s = .done r s')
    (h₀ : G s) (h₁ : ¬G s') : ∃ k t, run body k s = .again t ∧ G t ∧ ¬G (body t).state ∧
      ∃ m, run body m t = .done r s' := by
  induction n generalizing s with
  | zero => simp at h
  | succ n ih =>
    by_cases hG : G (body s).state
    · cases hb : body s with
      | again t =>
        rw [run_succ_again hb] at h
        rw [hb] at hG
        obtain ⟨k, u, hu, hGu, hl, hm⟩ := ih h hG
        exact ⟨k + 1, u, by rw [run_succ_again hb]; exact hu, hGu, hl, hm⟩
      | done r' t =>
        rw [run_succ_done hb] at h
        cases h
        rw [hb] at hG
        exact absurd hG h₁
    · exact ⟨0, s, rfl, h₀, hG, n + 1, h⟩

/-! ## The number of iterations -/

/-- **Amortised bound.** If every iteration that goes round again lowers `rank` by one, up to what
it adds to `cost`, then `n` iterations cost at least `n`, up to the rank at the start. -/
theorem run_amortised {I : σ → Prop} {rank cost : σ → ℕ}
    (hstep : ∀ s s', I s → body s = .again s' → I s')
    (hrank : ∀ s s', I s → body s = .again s' → rank s' + 1 + cost s ≤ rank s + cost s') :
    ∀ {n : ℕ} {s s' : σ}, I s → run body n s = .again s' →
      n + rank s' + cost s ≤ rank s + cost s'
  | 0, s, s', _, h => by simp at h; subst h; omega
  | n + 1, s, s', hI, h => by
    cases hb : body s with
    | again t =>
      rw [run_succ_again hb] at h
      have h₁ := hrank s t hI hb
      have h₂ := run_amortised hstep hrank (hstep s t hI hb) h
      omega
    | done r t => rw [run_succ_done hb] at h; cases h

/-- A loop that goes round at most `b` times returns. -/
theorem returns_of_bounded {s : σ} {b : ℕ} (hb : ∀ n s', run body n s = .again s' → n ≤ b) :
    ∃ r s', Returns body s r s' := by
  cases h : run body (b + 1) s with
  | again s' =>
    have := hb _ _ h
    omega
  | done r s' => exact ⟨r, s', b + 1, h⟩

/-- A loop returns if its rank falls at every iteration that goes round again. -/
theorem returns_of_rank {I : σ → Prop} {rank : σ → ℕ}
    (hstep : ∀ s s', I s → body s = .again s' → I s')
    (hrank : ∀ s s', I s → body s = .again s' → rank s' < rank s) {s : σ} (hI : I s) :
    ∃ r s', Returns body s r s' := by
  induction h : rank s using Nat.strong_induction_on generalizing s with
  | _ n ih =>
    cases hb : body s with
    | again t =>
      obtain ⟨r, s', hr⟩ := ih (rank t) (h ▸ hrank s t hI hb) (hstep s t hI hb) rfl
      exact ⟨r, s', (Reaches.of_again hb).returns hr⟩
    | done r t => exact ⟨r, t, 1, run_succ_done hb 0⟩

/-- **Divergence.** A set of states from which every iteration goes round again into the set is
never left. -/
theorem diverges {I : σ → Prop} (hstep : ∀ s, I s → ∃ s', body s = .again s' ∧ I s') :
    ∀ (n : ℕ) {s : σ}, I s → ∃ s', run body n s = .again s' ∧ I s'
  | 0, s, hI => ⟨s, rfl, hI⟩
  | n + 1, s, hI => by
    obtain ⟨t, ht, hIt⟩ := hstep s hI
    obtain ⟨s', hs', hI'⟩ := diverges hstep n hIt
    exact ⟨s', by rw [run_succ_again ht]; exact hs', hI'⟩

/-- **A run in stages.** If an iteration leads from each stage before the last to the next, then
`n` iterations lead from the stage `0` to the stage `n`. -/
theorem run_stages {I : ℕ → σ → Prop} {n : ℕ}
    (hstep : ∀ k s, k < n → I k s → ∃ s', body s = .again s' ∧ I (k + 1) s') {s : σ} (h₀ : I 0 s) :
    ∃ s', run body n s = .again s' ∧ I n s' := by
  induction n generalizing I s with
  | zero => exact ⟨s, rfl, h₀⟩
  | succ n ih =>
    obtain ⟨t, ht, h₁⟩ := hstep 0 s (by omega) h₀
    obtain ⟨s', hs', hn⟩ := ih (I := fun k => I (k + 1))
      (fun k s hk hs => hstep (k + 1) s (by omega) hs) h₁
    exact ⟨s', by rw [run_succ_again ht]; exact hs', hn⟩

end

end Loop
