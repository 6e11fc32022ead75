import Mathlib.Tactic

/-! # Error patterns of a cyclic code

A message of `n` bits, first bit first, stands for the sum of `x ^ (n - 1 - i)` over the
indices of its set bits, in a commutative ring of characteristic two. The code words are
the messages that stand for zero, so an error pattern goes undetected exactly if it
stands for zero itself. Three kinds of pattern never do: short bursts where the low
powers of `x` are independent, two errors closer than the order of `x`, and an odd number
of errors where `x` can be evaluated at one.

`wordValue` is what a word stands for, its least significant bit having the lowest power.
-/
namespace ObswPus.Library.ErrorPattern
open Finset
variable {R : Type*} [CommRing R] (x : R)

/-- What the bits at the indices `E` of a message of `n` bits contribute. -/
def locator (n : ℕ) (E : Finset ℕ) : R := ∑ i ∈ E, x ^ (n - 1 - i)

/-- The powers below `w` are independent: no sum of some of them is zero. -/
def Independent (w : ℕ) : Prop := ∀ B ⊆ range w, B.Nonempty → ∑ i ∈ B, x ^ i ≠ 0

variable {x} {n : ℕ} {E : Finset ℕ}

theorem locator_eq_mul {m : ℕ} (hm : m < n) (hE : ∀ i ∈ E, i ≤ m) :
    locator x n E = x ^ (n - 1 - m) * ∑ i ∈ E, x ^ (m - i) := by
  rw [locator, mul_sum]
  apply sum_congr rfl
  intro i hi
  have hle := hE i hi
  rw [← pow_add]
  congr 1
  omega

/-- Errors within a window no longer than the independent powers are detected. -/
theorem locator_burst {w a : ℕ} (hx : IsUnit x) (hw : Independent x w) (hne : E.Nonempty)
    (hE : ∀ i ∈ E, i < n) (hwindow : ∀ i ∈ E, a ≤ i ∧ i < a + w) : locator x n E ≠ 0 := by
  let m := E.max' hne
  have hmem : m ∈ E := E.max'_mem hne
  have hle : ∀ i ∈ E, i ≤ m := fun i hi => E.le_max' i hi
  have hinj : Set.InjOn (fun i => m - i) E := by
    intro i hi j hj hij
    have hi' := hle i hi
    have hj' := hle j hj
    dsimp only at hij
    omega
  have hsum : ∑ i ∈ E, x ^ (m - i) = ∑ k ∈ E.image (fun i => m - i), x ^ k :=
    (sum_image hinj).symm
  rw [locator_eq_mul (hE m hmem) hle, hsum]
  intro hzero
  rw [(hx.pow _).mul_right_eq_zero] at hzero
  apply hw (E.image fun i => m - i) _ (hne.image _) hzero
  intro k hk
  obtain ⟨i, hi, rfl⟩ := mem_image.mp hk
  have hi' := hwindow i hi
  have hm' := hwindow m hmem
  rw [mem_range]
  omega

/-- Two errors are detected if no power of `x` up to their distance is one. -/
theorem locator_pair [CharP R 2] (hx : IsUnit x) (horder : ∀ d, 0 < d → d < n → x ^ d ≠ 1)
    (hE : ∀ i ∈ E, i < n) (hcard : E.card = 2) : locator x n E ≠ 0 := by
  obtain ⟨i, j, hij, rfl⟩ := card_eq_two.mp hcard
  wlog hlt : i < j generalizing i j with hswap
  · rw [pair_comm] at hE hcard ⊢
    exact hswap j i hij.symm hE hcard (lt_of_le_of_ne (not_lt.mp hlt) hij.symm)
  have hj := hE j (by simp)
  have hle : ∀ k ∈ ({i, j} : Finset ℕ), k ≤ j := by
    intro k hk
    rcases mem_insert.mp hk with rfl | hk
    · exact hlt.le
    · rw [mem_singleton.mp hk]
  rw [locator_eq_mul hj hle, sum_pair hij, Nat.sub_self, pow_zero]
  intro hzero
  rw [(hx.pow _).mul_right_eq_zero, CharTwo.add_eq_zero] at hzero
  exact horder (j - i) (by omega) (by omega) hzero

/-- An odd number of errors is detected by evaluation at one. -/
theorem locator_odd (eval : R →+* ZMod 2) (heval : eval x = 1) (hodd : Odd E.card) :
    locator x n E ≠ 0 := by
  intro hzero
  have hcount := congrArg eval hzero
  simp only [locator, map_sum, map_pow, heval, one_pow, sum_const, nsmul_eq_mul, mul_one,
    map_zero] at hcount
  rw [ZMod.natCast_eq_one_iff_odd.mpr hodd] at hcount
  exact one_ne_zero hcount

variable (x) in
/-- What the low `w` bits of a number stand for. -/
def wordValue (w v : ℕ) : R := ∑ i ∈ range w, if v.testBit i then x ^ i else 0

@[simp] theorem wordValue_zero (w : ℕ) : wordValue x w 0 = 0 := by
  simp [wordValue]

theorem wordValue_one (v : ℕ) : wordValue x 1 v = if v.testBit 0 then 1 else 0 := by
  simp [wordValue]

theorem wordValue_xor [CharP R 2] (w a b : ℕ) :
    wordValue x w (a ^^^ b) = wordValue x w a + wordValue x w b := by
  simp only [wordValue, ← sum_add_distrib, Nat.testBit_xor]
  apply sum_congr rfl
  intro i _
  cases a.testBit i <;> cases b.testBit i <;> simp [CharTwo.add_self_eq_zero]

theorem wordValue_split {u b : ℕ} (w a : ℕ) (hb : b < 2 ^ u) :
    wordValue x (u + w) (2 ^ u * a + b) = wordValue x u b + x ^ u * wordValue x w a := by
  simp only [wordValue, sum_range_add, mul_sum]
  congr 1 <;> apply sum_congr rfl <;> intro i hi
  · rw [Nat.testBit_two_pow_mul_add a hb, if_pos (mem_range.mp hi)]
  · rw [Nat.testBit_two_pow_mul_add a hb, if_neg (Nat.not_lt.mpr (Nat.le_add_right u i)),
      Nat.add_sub_cancel_left, mul_ite, mul_zero, pow_add]

theorem wordValue_ne_zero {w v : ℕ} (hw : Independent x w) (hv : v < 2 ^ w) (hne : v ≠ 0) :
    wordValue x w v ≠ 0 := by
  rw [wordValue, ← sum_filter]
  apply hw _ (filter_subset _ _)
  by_contra hempty
  rw [not_nonempty_iff_eq_empty] at hempty
  apply hne
  apply Nat.eq_of_testBit_eq
  intro i
  rw [Nat.zero_testBit]
  by_cases hi : i < w
  · by_contra hbit
    rw [Bool.not_eq_false] at hbit
    have hmem : i ∈ (range w).filter fun i => v.testBit i = true :=
      mem_filter.mpr ⟨mem_range.mpr hi, hbit⟩
    rw [hempty] at hmem
    exact notMem_empty i hmem
  · exact Nat.testBit_lt_two_pow (lt_of_lt_of_le hv (Nat.pow_le_pow_right (by decide) (by omega)))

/-- Squaring a word doubles the powers of its bits. -/
theorem wordValue_sq [CharP R 2] (w v : ℕ) :
    wordValue x w v ^ 2 = ∑ i ∈ range w, if v.testBit i then x ^ (2 * i) else 0 := by
  rw [wordValue, CharTwo.sum_sq]
  apply sum_congr rfl
  intro i _
  rw [ite_pow, ← pow_mul, Nat.mul_comm i 2, zero_pow (by decide)]

end ObswPus.Library.ErrorPattern
