/-
  The table of handles of a process.

  A handle is closed, or open with a number of owners.  It is issued with one owner;
  owners are made and give it up; it is used while it is open; and its only owner
  closes it, after which it may be issued again.  Everything else (a second close, a
  use after the close, a close under another owner) has no result, so replaying a
  list of moves is partial.

  * `Takes`: moves that take one handle from a status to another, whatever the rest
    of the table is, and leave the rest alone; they compose (`Takes.trans`).
  * `Transfers`: the moves of one owner, which has a handle or none before and after.
  * `replay_owned`: moves of one of the owners lead from the table in which every
    owner has its handle to the table in which every owner has its handle.
  * `Logged`: the same, read from a log of which some entries are moves.
-/
import Mathlib.Data.List.Nodup
import Mathlib.Logic.Function.Basic

universe u

/-- A table: `none` for a closed handle, and the number of owners of an open one. -/
abbrev HandleTable (κ : Type u) := κ → Option ℕ

namespace HandleTable
variable {κ : Type u}

/-- What happens to the handle `k`. -/
inductive Move (κ : Type u) where
  | issue (k : κ)
  | acquire (k : κ)
  | release (k : κ)
  | use (k : κ)
  | close (k : κ)
  deriving DecidableEq

section
variable [DecidableEq κ]

/-- The status after a move. -/
def Move.next : Move κ → Option ℕ → Option (Option ℕ)
  | issue _, none => some (some 1)
  | acquire _, some n => some (some (n + 1))
  | release _, some (n + 1) => some (some n)
  | use _, some n => some (some n)
  | close _, some 1 => some none
  | _, _ => none

/-- The handle of a move. -/
def Move.handle : Move κ → κ
  | issue k | acquire k | release k | use k | close k => k

/-- One move. -/
def apply (t : HandleTable κ) (m : Move κ) : Option (HandleTable κ) :=
  (m.next (t m.handle)).map fun s => Function.update t m.handle s

/-- The table after the moves, the newest first. -/
def replay (t : HandleTable κ) : List (Move κ) → Option (HandleTable κ)
  | [] => some t
  | m :: ms => (replay t ms).bind fun t => t.apply m

theorem replay_append (t : HandleTable κ) (ms ms' : List (Move κ)) :
    replay t (ms' ++ ms) = (replay t ms).bind fun t => replay t ms' := by
  induction ms' with
  | nil => exact (Option.bind_fun_some _).symm
  | cons m ms' ih => simp only [List.cons_append, replay, ih, Option.bind_assoc]

omit [DecidableEq κ] in
/-- Moves are made of open handles, and only a close closes one. -/
theorem Move.next_open {m : Move κ} {s s' : Option ℕ} (hm : m ≠ .issue m.handle)
    (h : m.next s = some s') : s ≠ none ∧ (s' = none ↔ m = .close m.handle) := by
  unfold next at h
  split at h
  · exact absurd rfl hm
  · cases h
    simp [handle]
  · cases h
    simp [handle]
  · cases h
    simp [handle]
  · cases h
    simp [handle]
  · cases h

/-- **A handle that is not issued again** was closed as often as it is open before and not after. -/
theorem replay_closes {t t' : HandleTable κ} {ms : List (Move κ)} {k : κ}
    (hi : .issue k ∉ ms) (h : replay t ms = some t') :
    ms.count (.close k) + (if t' k = none then 0 else 1) = if t k = none then 0 else 1 := by
  induction ms generalizing t' with
  | nil =>
    cases h
    simp
  | cons m ms ih =>
    obtain ⟨hm, hi⟩ : Move.issue k ≠ m ∧ .issue k ∉ ms := by simpa using hi
    obtain ⟨u, hu, ha⟩ := Option.bind_eq_some_iff.1 h
    obtain ⟨s, hs, rfl⟩ := Option.map_eq_some_iff.1 ha
    rw [← ih hi hu]
    by_cases hk : m.handle = k
    · subst hk
      obtain ⟨hopen, hclose⟩ := Move.next_open (Ne.symm hm) hs
      by_cases hc : m = .close m.handle
      · simp [hopen, hclose.2 hc, ← hc]
      · simp [hopen, hclose, hc, List.count_cons_of_ne hc]
    · have hne : m ≠ .close k := by
        rintro rfl
        exact hk rfl
      rw [List.count_cons_of_ne hne, Function.update_of_ne (Ne.symm hk)]

/-! ## Moves on one handle -/

/-- The moves take `k` from the status `s` to `s'`, in any table, and no other handle anywhere. -/
def Takes (ms : List (Move κ)) (k : κ) (s s' : Option ℕ) : Prop :=
  ∀ t : HandleTable κ, t k = s → replay t ms = some (Function.update t k s')

namespace Takes
variable {ms ms' : List (Move κ)} {k : κ} {s s' s'' : Option ℕ}

theorem nil : Takes [] k s s := by
  rintro t rfl
  rw [Function.update_eq_self]
  rfl

theorem trans (h : Takes ms k s s') (h' : Takes ms' k s' s'') : Takes (ms' ++ ms) k s s'' := by
  intro t ht
  rw [replay_append, h t ht, Option.bind_some, h' _ (Function.update_self ..),
    Function.update_idem]

theorem of_next {m : Move κ} (hm : m.next s = some s') : Takes [m] m.handle s s' := by
  rintro t rfl
  simp [replay, apply, hm]

theorem cons {m : Move κ} (h : Takes ms k s s') (hk : m.handle = k) (hm : m.next s' = some s'') :
    Takes (m :: ms) k s s'' := by
  subst hk
  exact h.trans (of_next hm)

/-- A temporary owner, which uses the handle and gives it back. -/
theorem borrow (h : Takes ms k s (some 1)) :
    Takes (.release k :: .use k :: .acquire k :: ms) k s (some 1) :=
  ((h.cons rfl rfl).cons rfl rfl).cons rfl rfl

/-- From one owner to the next. -/
theorem handOver (h : Takes ms k s (some 1)) :
    Takes (.acquire k :: .release k :: ms) k s (some 1) :=
  (h.cons rfl rfl).cons rfl rfl

theorem use (h : Takes ms k s (some 1)) : Takes (.use k :: ms) k s (some 1) := h.cons rfl rfl

theorem close (h : Takes ms k s (some 1)) : Takes (.close k :: ms) k s none := h.cons rfl rfl

end Takes

/-! ## Owners -/

/-- The status of the handle that an owner has, or had: open with this one owner, or closed. -/
def held : Option κ → Option ℕ
  | some _ => some 1
  | none => none

/-- The moves of an owner that has the handle `o` before and `o'` after: it keeps its handle, or
closes it; without one it makes no move. -/
def Transfers : Option κ → Option κ → List (Move κ) → Prop
  | some k, o', ms => (∀ k' ∈ o', k' = k) ∧ Takes ms k (some 1) (held o')
  | none, o', ms => o' = none ∧ ms = []

namespace Transfers
variable {o o' o'' : Option κ} {ms ms' : List (Move κ)} {k : κ}

theorem refl (o : Option κ) : Transfers o o [] := by
  cases o with
  | none => exact ⟨rfl, rfl⟩
  | some k => exact ⟨by simp, .nil⟩

theorem trans (h : Transfers o o' ms) (h' : Transfers o' o'' ms') :
    Transfers o o'' (ms' ++ ms) := by
  cases o with
  | none =>
    obtain ⟨rfl, rfl⟩ := h
    obtain ⟨rfl, rfl⟩ := h'
    exact ⟨rfl, rfl⟩
  | some k =>
    obtain ⟨hk, ht⟩ := h
    cases o' with
    | none =>
      obtain ⟨rfl, rfl⟩ := h'
      exact ⟨by simp, ht⟩
    | some k' =>
      obtain rfl := hk k' rfl
      exact ⟨h'.1, ht.trans h'.2⟩

theorem keep (h : Takes ms k (some 1) (some 1)) : Transfers (some k) (some k) ms :=
  ⟨by simp, h⟩

theorem lose (h : Takes ms k (some 1) none) : Transfers (some k) none ms := ⟨by simp, h⟩

end Transfers

/-- The table in which the handles `ks` have one owner each. -/
def owned (ks : List κ) : HandleTable κ := fun k => if k ∈ ks then some 1 else none

theorem owned_perm {ks ks' : List κ} (h : ks.Perm ks') : owned ks = owned ks' := by
  funext k
  simp only [owned, h.mem_iff]

@[simp] theorem update_owned_one (ks : List κ) (k : κ) :
    Function.update (owned ks) k (some 1) = owned (k :: ks) := by
  funext k'
  by_cases hk : k' = k
  · subst hk
    simp [owned]
  · simp [owned, hk]

theorem update_owned_none {ks : List κ} {k : κ} (hk : k ∉ ks) :
    Function.update (owned (k :: ks)) k none = owned ks := by
  funext k'
  by_cases he : k' = k
  · subst he
    simp [owned, hk]
  · simp [owned, he]

/-- **One owner among others**, which have the handles `ks`. -/
theorem replay_owned {ks : List κ} {o o' : Option κ} {ms : List (Move κ)}
    (hn : (o.toList ++ ks).Nodup) (h : Transfers o o' ms) :
    replay (owned (o.toList ++ ks)) ms = some (owned (o'.toList ++ ks)) ∧
      (o'.toList ++ ks).Nodup := by
  cases o with
  | none =>
    obtain ⟨rfl, rfl⟩ := h
    exact ⟨rfl, hn⟩
  | some k =>
    obtain ⟨hk, ht⟩ := h
    have hk₁ : owned (k :: ks) k = some 1 := by simp [owned]
    have hr := ht _ hk₁
    have hn : k ∉ ks ∧ ks.Nodup := List.nodup_cons.1 hn
    cases o' with
    | none =>
      refine ⟨hr.trans ?_, hn.2⟩
      rw [held, update_owned_none hn.1]
      rfl
    | some k' =>
      obtain rfl := hk k' rfl
      refine ⟨hr.trans ?_, List.nodup_cons.2 hn⟩
      rw [held, ← hk₁, Function.update_eq_self]
      rfl

/-- **A new owner**, whose handle is issued. -/
theorem replay_issued {ks : List κ} {k : κ} {o : Option κ} {ms : List (Move κ)} (hk : k ∉ ks)
    (hn : ks.Nodup) (h : Transfers (some k) o ms) :
    replay (owned ks) (ms ++ [.issue k]) = some (owned (o.toList ++ ks)) ∧
      (o.toList ++ ks).Nodup := by
  have hi : replay (owned ks) [.issue k] = some (owned (k :: ks)) := by
    have : Takes [Move.issue k] k none (some 1) := .of_next rfl
    rw [this (owned ks) (by simp [owned, hk]), update_owned_one]
  rw [replay_append, hi, Option.bind_some]
  exact replay_owned (List.nodup_cons.2 ⟨hk, hn⟩) h

/-! ## Owners that keep a log -/

section
variable {ε : Type u} {f : ε → Option (Move κ)}

/-- From an owner with a log to an owner with a longer one: the moves that `f` reads from what was
added are moves of the owner. -/
def Logged (f : ε → Option (Move κ)) (x y : Option κ × List ε) : Prop :=
  ∃ es, y.2 = es ++ x.2 ∧ Transfers x.1 y.1 (es.filterMap f)

namespace Logged
variable {x y z : Option κ × List ε} {o : Option κ} {k : κ} {h : List ε} {e : ε}

theorem refl (x : Option κ × List ε) : Logged f x x := ⟨[], rfl, .refl _⟩

theorem trans (h : Logged f x y) (h' : Logged f y z) : Logged f x z := by
  obtain ⟨es, he, ht⟩ := h
  obtain ⟨es', he', ht'⟩ := h'
  refine ⟨es' ++ es, by rw [he', he, List.append_assoc], ?_⟩
  rw [List.filterMap_append]
  exact ht.trans ht'

/-- An entry that is no move. -/
theorem silent (he : f e = none) : Logged f (o, h) (o, e :: h) := by
  refine ⟨[e], rfl, ?_⟩
  rw [List.filterMap_cons_none he]
  exact .refl o

/-- The owner uses its handle. -/
theorem use (he : f e = some (.use k)) : Logged f (some k, h) (some k, e :: h) := by
  refine ⟨[e], rfl, .keep ?_⟩
  rw [List.filterMap_cons_some he]
  exact Takes.nil.use

/-- It closes its handle. -/
theorem close (he : f e = some (.close k)) : Logged f (some k, h) (none, e :: h) := by
  refine ⟨[e], rfl, .lose ?_⟩
  rw [List.filterMap_cons_some he]
  exact Takes.nil.close

variable {a b : ε}

/-- It hands its handle over. -/
theorem handOver (ha : f a = some (.release k)) (hb : f b = some (.acquire k)) :
    Logged f (some k, h) (some k, b :: a :: h) := by
  refine ⟨[b, a], rfl, .keep ?_⟩
  rw [List.filterMap_cons_some hb, List.filterMap_cons_some ha]
  exact Takes.nil.handOver

/-- A temporary owner uses the handle once. -/
theorem borrow (ha : f a = some (.acquire k)) (he : f e = some (.use k))
    (hb : f b = some (.release k)) : Logged f (some k, h) (some k, b :: e :: a :: h) := by
  refine ⟨[b, e, a], rfl, .keep ?_⟩
  rw [List.filterMap_cons_some hb, List.filterMap_cons_some he, List.filterMap_cons_some ha]
  exact Takes.nil.borrow

end Logged

end

end

end HandleTable
