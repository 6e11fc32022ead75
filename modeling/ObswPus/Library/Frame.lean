import Mathlib.Tactic

/-! # Frame conditions

A state is seen through a family of named components. `Changes read owned s s'` says that
on the way from `s` to `s'` only owned components change; operations in sequence change
what either owns, and branches what both branches own.
-/
namespace ObswPus.Library
variable {σ κ : Type*} {ν : κ → Type*}

/-- Every component outside `owned` reads the same in both states. -/
def Changes (read : ∀ k, σ → ν k) (owned : Set κ) (s s' : σ) : Prop :=
  ∀ k, k ∉ owned → read k s' = read k s

namespace Changes
variable {read : ∀ k, σ → ν k} {owned owned' : Set κ} {s m s' : σ}

theorem refl (s : σ) : Changes read owned s s := fun _ _ => rfl

theorem trans (first : Changes read owned s m) (second : Changes read owned m s') :
    Changes read owned s s' := by
  intro k hk
  rw [second k hk, first k hk]

theorem mono (h : Changes read owned s s') (hsubset : owned ⊆ owned') :
    Changes read owned' s s' := by
  intro k hk
  exact h k fun howned => hk (hsubset howned)

theorem ite {p : Prop} [Decidable p] (hpos : p → Changes read owned s m)
    (hneg : ¬p → Changes read owned s s') : Changes read owned s (if p then m else s') := by
  split
  · rename_i hp
    exact hpos hp
  · rename_i hp
    exact hneg hp

end Changes

/-- A place that no write of a sequence touches keeps its value. -/
theorem foldl_apply_of_untouched {ι α β : Type*} {write : (ι → α) → β → ι → α} {i : ι}
    (bs : List β) (a : ι → α) (h : ∀ b ∈ bs, ∀ a, write a b i = a i) :
    bs.foldl write a i = a i := by
  induction bs generalizing a with
  | nil => rfl
  | cons b bs ih =>
    rw [List.foldl_cons, ih _ fun b hb => h b (List.mem_cons_of_mem _ hb),
      h b List.mem_cons_self]

end ObswPus.Library
