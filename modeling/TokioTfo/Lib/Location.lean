/-
  An atomic location under relaxed accesses.

  The writes to the location are in one modification order.  A thread may read any of
  them that is not earlier in the order than what it has read or written before, and
  its own writes come after that; nothing else orders the accesses of two threads.

  `Latch`: if every write after the initial one has a property, a thread that has seen
  one of them reads nothing else from then on.
-/
import Mathlib.Data.List.InsertIdx
import Mathlib.Data.Nat.Notation
import Mathlib.Logic.Function.Basic

universe u v

/-- A location, as the threads `τ` see it. -/
structure Location (τ : Type u) (α : Type v) where
  /-- The values written, in modification order. -/
  order : List α
  /-- The latest position in it that a thread has read or written. -/
  view : τ → ℕ

namespace Location
variable {τ : Type u} {α : Type v} [DecidableEq τ]

/-- The location before any thread has seen it. -/
def init (a : α) : Location τ α := ⟨[a], fun _ => 0⟩

inductive Access (α : Type v) where
  | load (a : α)
  | store (a : α)

/-- A thread's position, when a write has been put at `i`. -/
def shift (i v : ℕ) : ℕ := if i ≤ v then v + 1 else v

/-- The thread `t` reads what was written at `i`. -/
def read (x : Location τ α) (t : τ) (i : ℕ) : Location τ α :=
  { x with view := Function.update x.view t i }

/-- The thread `t` puts a write at `i`. -/
def write (x : Location τ α) (t : τ) (i : ℕ) (a : α) : Location τ α :=
  ⟨x.order.insertIdx i a, Function.update (fun u => shift i (x.view u)) t i⟩

/-- An access of the thread `t`. -/
inductive Does (x : Location τ α) (t : τ) : Access α → Location τ α → Prop
  | load {i : ℕ} {a : α} : x.view t ≤ i → x.order[i]? = some a → Does x t (.load a) (x.read t i)
  | store {i : ℕ} {a : α} : x.view t < i → i ≤ x.order.length → Does x t (.store a) (x.write t i a)

section
variable (x : Location τ α) (t : τ) (i : ℕ) (a : α)

@[simp] theorem read_view_self : (x.read t i).view t = i := Function.update_self ..

@[simp] theorem read_view_ne {u : τ} (h : u ≠ t) : (x.read t i).view u = x.view u :=
  Function.update_of_ne h ..

@[simp] theorem write_order : (x.write t i a).order = x.order.insertIdx i a := rfl

@[simp] theorem write_view_self : (x.write t i a).view t = i := by simp [write]

@[simp] theorem write_view_ne {u : τ} (h : u ≠ t) :
    (x.write t i a).view u = shift i (x.view u) := by
  simp [write, h]

end

/-- The thread has read or written a later value than the initial one. -/
def Seen (x : Location τ α) (t : τ) : Prop := 0 < x.view t

/-- The initial value is `a`, and every later one has `P`. -/
def Latch (a : α) (P : α → Prop) (x : Location τ α) : Prop :=
  ∃ rest, x.order = a :: rest ∧ ∀ b ∈ rest, P b

omit [DecidableEq τ] in
theorem latch_init (a : α) (P : α → Prop) : Latch a P (init a : Location τ α) := ⟨[], rfl, by simp⟩

variable {x y : Location τ α} {t : τ} {a b : α} {P : α → Prop}

namespace Does

/-- A thread forgets nothing, and the accesses of another one take nothing from it. -/
theorem seen {c : Access α} (h : x.Does t c y) {u : τ} (hu : x.Seen u) : y.Seen u := by
  unfold Seen at *
  cases h with
  | @load i a hi _ =>
    by_cases ht : u = t
    · subst ht
      rw [read_view_self]
      omega
    · rwa [read_view_ne _ _ _ ht]
  | @store i a hi _ =>
    by_cases ht : u = t
    · subst ht
      rw [write_view_self]
      omega
    · rw [write_view_ne _ _ _ _ ht, shift]
      split <;> omega

/-- The accesses of another thread show a thread nothing. -/
theorem seen_iff {c : Access α} (h : x.Does t c y) {u : τ} (hu : u ≠ t) : y.Seen u ↔ x.Seen u := by
  refine ⟨fun hy => ?_, h.seen⟩
  unfold Seen at *
  cases h with
  | load => rwa [read_view_ne _ _ _ hu] at hy
  | @store i a hi _ =>
    rw [write_view_ne _ _ _ _ hu, shift] at hy
    split at hy <;> omega

theorem seen_store (h : x.Does t (.store a) y) : y.Seen t := by
  cases h with
  | store hi _ =>
    unfold Seen
    rw [write_view_self]
    exact Nat.zero_lt_of_lt hi

/-- An access preserves the latch if it stores nothing but `P`. -/
theorem latch {c : Access α} (h : x.Does t c y) (hx : x.Latch a P)
    (hc : ∀ b, c = .store b → P b) : y.Latch a P := by
  obtain ⟨rest, hr, hP⟩ := hx
  cases h with
  | load => exact ⟨rest, hr, hP⟩
  | @store i b hi hle =>
    obtain ⟨j, rfl⟩ := Nat.exists_eq_succ_of_ne_zero (Nat.ne_zero_of_lt hi)
    rw [hr, List.length_cons] at hle
    refine ⟨rest.insertIdx j b, ?_, fun d hd => ?_⟩
    · rw [write_order, hr, List.insertIdx_succ_cons]
    · rcases (List.mem_insertIdx (Nat.le_of_succ_le_succ hle)).1 hd with rfl | hd
      · exact hc _ rfl
      · exact hP d hd

/-- **The latch.**  A thread that has seen a later value than the initial one loads no other. -/
theorem load_seen (h : x.Does t (.load b) y) (hx : x.Latch a P) (ht : y.Seen t) : P b := by
  obtain ⟨rest, hr, hP⟩ := hx
  cases h with
  | @load i b hi hb =>
    unfold Seen at ht
    rw [read_view_self] at ht
    obtain ⟨j, rfl⟩ := Nat.exists_eq_succ_of_ne_zero (Nat.ne_zero_of_lt ht)
    rw [hr, List.getElem?_cons_succ] at hb
    exact hP b (List.mem_of_getElem? hb)

/-- A thread that loads something else than the initial value has seen a later one. -/
theorem seen_of_ne (h : x.Does t (.load b) y) (hx : x.Latch a P) (hb : b ≠ a) : y.Seen t := by
  obtain ⟨rest, hr, -⟩ := hx
  cases h with
  | @load i b hi hl =>
    unfold Seen
    rw [read_view_self]
    refine Nat.pos_of_ne_zero fun h0 => hb ?_
    rw [h0, hr, List.getElem?_cons_zero] at hl
    exact (Option.some.inj hl).symm

end Does

end Location
