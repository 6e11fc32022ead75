import Mathlib.Tactic

/-! # Circular buffers as first-in first-out lists

`contents cells n head count` reads `count` cells starting at `head`, wrapping at
`n`. Appending at the tail and advancing the head act on that list as the two
operations of a queue; cells outside the live window are never observed.
-/
namespace ObswPus.Library.Ring
variable {α : Type*} {n : ℕ}

def contents (cells : ℕ → α) (n head count : ℕ) : List α :=
  (List.range count).map (fun k => cells ((head + k) % n))

@[simp] theorem contents_length (cells : ℕ → α) (n head count : ℕ) :
    (contents cells n head count).length = count := by
  simp [contents]

/-- Two live positions share a cell only if they are the same position. -/
theorem index_injective {head i j : ℕ} (hi : i < n) (hj : j < n)
    (h : (head + i) % n = (head + j) % n) : i = j := by
  have hmod : i ≡ j [MOD n] := Nat.ModEq.add_left_cancel' head h
  simpa [Nat.ModEq, Nat.mod_eq_of_lt hi, Nat.mod_eq_of_lt hj] using hmod

theorem contents_congr {cells cells' : ℕ → α} {head count : ℕ}
    (h : ∀ k, k < count → cells ((head + k) % n) = cells' ((head + k) % n)) :
    contents cells n head count = contents cells' n head count := by
  apply List.map_congr_left
  intro k hk
  exact h k (List.mem_range.mp hk)

/-- Writing the cell behind the last live one appends to the list. -/
theorem contents_push (cells cells' : ℕ → α) {head count : ℕ} (hcount : count < n)
    (hother : ∀ i, i < n → i ≠ (head + count) % n → cells' i = cells i) :
    contents cells' n head (count + 1) =
      contents cells n head count ++ [cells' ((head + count) % n)] := by
  have hlive : contents cells' n head count = contents cells n head count := by
    apply contents_congr
    intro k hk
    apply hother _ (Nat.mod_lt _ (by omega))
    intro he
    have := index_injective (by omega) hcount he
    omega
  rw [← hlive]
  simp [contents, List.range_succ]

/-- Advancing the head removes the oldest element. -/
theorem contents_pop (cells : ℕ → α) {head count : ℕ} (hhead : head < n) :
    contents cells n head (count + 1) = cells head :: contents cells n ((head + 1) % n) count := by
  simp only [contents, List.range_succ_eq_map, List.map_cons, List.map_map, Nat.add_zero,
    Nat.mod_eq_of_lt hhead, List.cons.injEq, true_and]
  apply List.map_congr_left
  intro k _
  have hk : (head + 1 + k) % n = ((head + 1) % n + k) % n := by rw [Nat.mod_add_mod]
  simp only [Function.comp_apply, ← hk]
  congr 2
  omega

end ObswPus.Library.Ring
