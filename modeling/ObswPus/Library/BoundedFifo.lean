import Mathlib.Tactic

/-! # Bounded first-in first-out lists, and simulation of answering machines

`BoundedFifo α capacity limit` is the specification of a queue that drops what it cannot
hold: a list that never exceeds its capacity and a count of dropped elements that stays
at its limit. A machine answers calls; one machine simulates another if related states
answer alike and stay related, and then it does so for every sequence of calls.
-/
namespace ObswPus.Library

@[ext] structure BoundedFifo (α : Type*) (capacity limit : ℕ) where
  items : List α
  dropped : ℕ
  items_le : items.length ≤ capacity
  dropped_le : dropped ≤ limit

namespace BoundedFifo
variable {α : Type*} {capacity limit : ℕ}

def empty : BoundedFifo α capacity limit := ⟨[], 0, Nat.zero_le _, Nat.zero_le _⟩

def Full (f : BoundedFifo α capacity limit) : Prop := capacity ≤ f.items.length

instance decidableFull (f : BoundedFifo α capacity limit) : Decidable f.Full :=
  inferInstanceAs (Decidable (capacity ≤ f.items.length))

/-- A full queue keeps its elements, and the new one is counted as dropped. -/
def offer (f : BoundedFifo α capacity limit) (x : α) : BoundedFifo α capacity limit :=
  if h : f.Full then ⟨f.items, min (f.dropped + 1) limit, f.items_le, Nat.min_le_right _ _⟩
  else ⟨f.items ++ [x], f.dropped, by
    rw [Full] at h
    rw [List.length_append, List.length_singleton]
    omega, f.dropped_le⟩

def rest (f : BoundedFifo α capacity limit) : BoundedFifo α capacity limit :=
  ⟨f.items.tail, f.dropped, by
    rw [List.length_tail]
    exact (Nat.sub_le _ _).trans f.items_le, f.dropped_le⟩

variable (f : BoundedFifo α capacity limit) (x : α)

@[simp] theorem items_offer : (f.offer x).items = if f.Full then f.items else f.items ++ [x] := by
  unfold offer
  split <;> simp [*]

@[simp] theorem dropped_offer :
    (f.offer x).dropped = if f.Full then min (f.dropped + 1) limit else f.dropped := by
  unfold offer
  split <;> simp [*]

@[simp] theorem items_rest : f.rest.items = f.items.tail := rfl

@[simp] theorem dropped_rest : f.rest.dropped = f.dropped := rfl

end BoundedFifo

namespace Machine
variable {σ τ ι ο : Type*}

def answers (step : σ → ι → ο × σ) : σ → List ι → List ο
  | _, [] => []
  | s, i :: calls => (step s i).1 :: answers step (step s i).2 calls

def final (step : σ → ι → ο × σ) (s : σ) (calls : List ι) : σ :=
  calls.foldl (fun s i => (step s i).2) s

/-- Related states answer every call alike and stay related. -/
structure Simulates (step : σ → ι → ο × σ) (step' : τ → ι → ο × τ) (R : σ → τ → Prop) :
    Prop where
  answer : ∀ s t i, R s t → (step s i).1 = (step' t i).1
  next : ∀ s t i, R s t → R (step s i).2 (step' t i).2

variable {step : σ → ι → ο × σ} {step' : τ → ι → ο × τ} {R : σ → τ → Prop}

theorem Simulates.answers_eq (h : Simulates step step' R) {s : σ} {t : τ} (hR : R s t)
    (calls : List ι) : answers step s calls = answers step' t calls := by
  induction calls generalizing s t with
  | nil => rfl
  | cons i calls ih => rw [answers, answers, h.answer s t i hR, ih (h.next s t i hR)]

theorem Simulates.final (h : Simulates step step' R) {s : σ} {t : τ} (hR : R s t)
    (calls : List ι) : R (Machine.final step s calls) (Machine.final step' t calls) := by
  induction calls generalizing s t with
  | nil => exact hR
  | cons i calls ih => exact ih (h.next s t i hR)

end Machine

end ObswPus.Library
