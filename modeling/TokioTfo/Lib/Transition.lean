/-
  Labelled transition systems and their finite runs.

  A run is the list of the steps taken, the newest first.

  * `Run.inv`: an invariant of the steps that meet a condition holds at the end of
    every run all of whose steps meet it.
  * `Run.forall_iff`: if, as long as the condition has held, a step has the property
    `P` iff it meets the condition `C`, then all steps of a run have `P` iff all
    meet `C`.
  * `Run.map_iff` and `Run.map`: a map of the states that preserves the steps
    carries runs forward; `Run.lift`: one along which steps lift carries them back.
  * `Run.unique`: if the inputs determine the steps, they determine the run.
-/
import Mathlib.Data.List.Basic

universe u v w

/-- A labelled transition system. -/
structure Lts (σ : Type u) (Λ : Type v) where
  step : σ → Λ → σ → Prop

namespace Lts

variable {σ : Type u} {τ : Type w} {Λ : Type v}

/-- A step that was taken: its state before, its label, and its state after. -/
structure Taken (σ : Type u) (Λ : Type v) where
  pre : σ
  label : Λ
  post : σ

/-- A step with its states mapped by `f`. -/
def Taken.map (f : σ → τ) (x : Taken σ Λ) : Taken τ Λ := ⟨f x.pre, x.label, f x.post⟩

/-- The runs from `s₀`, with the steps taken (newest first) and the state reached. -/
inductive Run (A : Lts σ Λ) (s₀ : σ) : List (Taken σ Λ) → σ → Prop where
  | nil : Run A s₀ [] s₀
  | snoc {t : List (Taken σ Λ)} {s s' : σ} {l : Λ} :
      Run A s₀ t s → A.step s l s' → Run A s₀ (⟨s, l, s'⟩ :: t) s'

variable {A : Lts σ Λ} {s₀ : σ}

namespace Run

/-- **Invariant rule.** -/
theorem inv {I : σ → Prop} {C : Taken σ Λ → Prop} (h₀ : I s₀)
    (hstep : ∀ s l s', I s → A.step s l s' → C ⟨s, l, s'⟩ → I s') {t : List (Taken σ Λ)} {s : σ}
    (h : Run A s₀ t s) (hC : ∀ x ∈ t, C x) : I s := by
  induction h with
  | nil => exact h₀
  | snoc _ hs ih =>
    exact hstep _ _ _ (ih fun x hx => hC x (List.mem_cons_of_mem _ hx)) hs
      (hC _ (List.mem_cons_self ..))

/-- The invariant rule without a condition on the steps. -/
theorem inv' {I : σ → Prop} (h₀ : I s₀) (hstep : ∀ s l s', I s → A.step s l s' → I s')
    {t : List (Taken σ Λ)} {s : σ} (h : Run A s₀ t s) : I s :=
  h.inv (C := fun _ => True) h₀ (fun s l s' hI hs _ => hstep s l s' hI hs) fun _ _ => trivial

/-- Every step of a run starts in a state that a run over the earlier steps reaches. -/
theorem mem {t : List (Taken σ Λ)} {s : σ} (h : Run A s₀ t s) :
    ∀ x ∈ t, ∃ t', t' ⊆ t ∧ Run A s₀ t' x.pre ∧ A.step x.pre x.label x.post := by
  induction h with
  | nil => simp
  | snoc hr hs ih =>
    intro x hx
    rcases List.mem_cons.1 hx with rfl | hx
    · exact ⟨_, List.subset_cons_self .., hr, hs⟩
    · obtain ⟨t', ht', h⟩ := ih x hx
      exact ⟨t', List.subset_cons_of_subset _ ht', h⟩

/-- What holds of every step that starts where the invariant holds, holds of all steps. -/
theorem forall_mem {I : σ → Prop} {P C : Taken σ Λ → Prop} (h₀ : I s₀)
    (hstep : ∀ s l s', I s → A.step s l s' → C ⟨s, l, s'⟩ → I s')
    (hP : ∀ s l s', I s → A.step s l s' → C ⟨s, l, s'⟩ → P ⟨s, l, s'⟩)
    {t : List (Taken σ Λ)} {s : σ} (h : Run A s₀ t s) (hC : ∀ x ∈ t, C x) : ∀ x ∈ t, P x := by
  intro x hx
  obtain ⟨t', ht', hr, hs⟩ := h.mem x hx
  exact hP _ _ _ (hr.inv h₀ hstep fun y hy => hC y (ht' hy)) hs (hC x hx)

/-- **The first step that goes wrong.** Let the steps of a run have `D`.  If such a step from a
state where the invariant holds has `P` iff it meets `C`, and the steps that meet `C` preserve the
invariant, then all steps of the run have `P` iff all of them meet `C`. -/
theorem forall_iff {I : σ → Prop} {P C D : Taken σ Λ → Prop} (h₀ : I s₀)
    (hstep : ∀ s l s', I s → A.step s l s' → C ⟨s, l, s'⟩ → I s')
    (hPC : ∀ s l s', I s → A.step s l s' → D ⟨s, l, s'⟩ → (P ⟨s, l, s'⟩ ↔ C ⟨s, l, s'⟩))
    {t : List (Taken σ Λ)} {s : σ} (h : Run A s₀ t s) (hD : ∀ x ∈ t, D x) :
    (∀ x ∈ t, P x) ↔ ∀ x ∈ t, C x := by
  refine ⟨fun hP => ?_, fun hC => ?_⟩
  · induction h with
    | nil => simp
    | snoc hr hs ih =>
      have hC := ih (fun x hx => hD x (List.mem_cons_of_mem _ hx))
        fun x hx => hP x (List.mem_cons_of_mem _ hx)
      intro x hx
      rcases List.mem_cons.1 hx with rfl | hx
      · exact (hPC _ _ _ (hr.inv h₀ hstep hC) hs (hD _ (List.mem_cons_self ..))).1
          (hP _ (List.mem_cons_self ..))
      · exact hC x hx
  · exact h.forall_mem (C := fun x => C x ∧ D x) h₀
      (fun s l s' hI hs hCs => hstep s l s' hI hs hCs.1)
      (fun s l s' hI hs hCs => (hPC s l s' hI hs hCs.2).2 hCs.1) fun x hx => ⟨hC x hx, hD x hx⟩

variable {B : Lts τ Λ} {f : σ → τ}

/-- A map of the states carries a run to a run iff it carries each of its steps to a step. -/
theorem map_iff {t : List (Taken σ Λ)} {s : σ} (h : Run A s₀ t s) :
    Run B (f s₀) (t.map (Taken.map f)) (f s) ↔ ∀ x ∈ t, B.step (f x.pre) x.label (f x.post) := by
  induction h with
  | nil => exact ⟨fun _ => by simp, fun _ => .nil⟩
  | @snoc t s s' l _ _ ih =>
    rw [List.forall_mem_cons, ← ih]
    constructor
    · rintro (_ | ⟨hr, hs⟩)
      exact ⟨hs, hr⟩
    · rintro ⟨hs, hr⟩
      exact .snoc hr hs

/-- **Forward simulation** along a map of the states. -/
theorem map (hf : ∀ s l s', A.step s l s' → B.step (f s) l (f s')) {t : List (Taken σ Λ)} {s : σ}
    (h : Run A s₀ t s) : Run B (f s₀) (t.map (Taken.map f)) (f s) := by
  refine h.map_iff.2 fun x hx => ?_
  obtain ⟨-, -, -, hs⟩ := h.mem x hx
  exact hf _ _ _ hs

/-- **Backward simulation** along a map of the states. -/
theorem lift (hf : ∀ s l y, B.step (f s) l y → ∃ s', A.step s l s' ∧ f s' = y)
    {t' : List (Taken τ Λ)} {y : τ} (h : Run B (f s₀) t' y) :
    ∃ t s, Run A s₀ t s ∧ t.map (Taken.map f) = t' ∧ f s = y := by
  induction h with
  | nil => exact ⟨[], s₀, .nil, rfl, rfl⟩
  | @snoc t' y y' l _ hs ih =>
    obtain ⟨t, s, hr, rfl, rfl⟩ := ih
    obtain ⟨s', hs', rfl⟩ := hf s l y' hs
    exact ⟨_, s', .snoc hr hs', rfl, rfl⟩

/-- **Determinism.** -/
theorem unique {ι : Type w} {input : Λ → ι}
    (hdet : ∀ s l₁ s₁ l₂ s₂, A.step s l₁ s₁ → A.step s l₂ s₂ → input l₁ = input l₂ →
      l₁ = l₂ ∧ s₁ = s₂) {t₁ t₂ : List (Taken σ Λ)} {s₁ s₂ : σ} (h₁ : Run A s₀ t₁ s₁)
    (h₂ : Run A s₀ t₂ s₂)
    (h : t₁.map (fun x => input x.label) = t₂.map fun x => input x.label) :
    t₁ = t₂ ∧ s₁ = s₂ := by
  induction h₁ generalizing t₂ s₂ with
  | nil =>
    cases h₂ with
    | nil => exact ⟨rfl, rfl⟩
    | snoc => cases h
  | snoc _ hs₁ ih =>
    cases h₂ with
    | nil => cases h
    | snoc hr₂ hs₂ =>
      obtain ⟨hl, ht⟩ := List.cons.inj h
      obtain ⟨rfl, rfl⟩ := ih hr₂ ht
      obtain ⟨rfl, rfl⟩ := hdet _ _ _ _ _ hs₁ hs₂ hl
      exact ⟨rfl, rfl⟩

end Run

end Lts
