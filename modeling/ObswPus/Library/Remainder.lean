import Mathlib.RingTheory.AdjoinRoot
import ObswPus.Library.ErrorPattern

/-! # Words as remainders

Over two elements, a word of `w` bits is a polynomial of degree less than `w`, its least
significant bit the constant coefficient. If it stands for the same residue as another
polynomial, modulo a monic one of degree `w`, it is the remainder of the division.
-/
noncomputable section
namespace ObswPus.Library.Remainder
open Polynomial Finset
variable {w v : ℕ} {g p r : (ZMod 2)[X]}

/-- The polynomial whose coefficients are the low `w` bits of a number. -/
def wordPolynomial (w v : ℕ) : (ZMod 2)[X] := ErrorPattern.wordValue X w v

theorem degree_wordPolynomial_lt (w v : ℕ) : (wordPolynomial w v).degree < w := by
  rw [wordPolynomial, ErrorPattern.wordValue, degree_lt_iff_coeff_zero]
  intro k hk
  rw [finsetSum_coeff]
  apply sum_eq_zero
  intro i hi
  have hne : k ≠ i := by
    rw [mem_range] at hi
    omega
  split
  · rw [coeff_X_pow, if_neg hne]
  · exact coeff_zero k

theorem mk_wordPolynomial (g : (ZMod 2)[X]) (w v : ℕ) :
    AdjoinRoot.mk g (wordPolynomial w v) = ErrorPattern.wordValue (AdjoinRoot.root g) w v := by
  rw [wordPolynomial, ErrorPattern.wordValue, map_sum]
  apply sum_congr rfl
  intro i _
  rw [apply_ite (AdjoinRoot.mk g), map_pow, AdjoinRoot.mk_X, map_zero]

/-- What is of smaller degree and has the same residue is the remainder. -/
theorem eq_modByMonic_of_mk_eq (hg : g.Monic) (hdegree : r.degree < g.degree)
    (h : AdjoinRoot.mk g r = AdjoinRoot.mk g p) : r = p %ₘ g :=
  calc r = r %ₘ g := ((modByMonic_eq_self_iff hg).mpr hdegree).symm
    _ = p %ₘ g := modByMonic_eq_of_dvd_sub hg (AdjoinRoot.mk_eq_mk.mp h)

end ObswPus.Library.Remainder
end
