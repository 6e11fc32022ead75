import Mathlib.Data.Nat.Bitwise
import Mathlib.RingTheory.AdjoinRoot
import ObswPus.Flight.Packet
import ObswPus.Library.ErrorPattern

/-! # The checksum register as a residue

The polynomials over two elements modulo the generator of the packet error control field,
and the sixteen bits of the checksum register as such a residue: shifting the register is
multiplication by the root, and no register but zero stands for zero. The root can be
evaluated at one, and it is a unit.
-/
noncomputable section
namespace ObswPus.Codec
open Flight Library Polynomial

/-- The polynomial `0x11021`. -/
def generator : (ZMod 2)[X] := X ^ 16 + X ^ 12 + X ^ 5 + 1

abbrev Residue : Type := AdjoinRoot generator

def x : Residue := AdjoinRoot.root generator

theorem natDegree_generator : generator.natDegree = 16 := by
  unfold generator
  compute_degree!

theorem monic_generator : generator.Monic := by
  unfold generator
  monicity!

instance residueNontrivial : Nontrivial Residue := by
  apply AdjoinRoot.nontrivial
  rw [degree_eq_natDegree monic_generator.ne_zero, natDegree_generator]
  decide

instance residueCharTwo : CharP Residue 2 :=
  charP_of_injective_algebraMap (algebraMap (ZMod 2) Residue).injective 2

theorem x_pow_sixteen : x ^ 16 = x ^ 12 + x ^ 5 + 1 := by
  have hroot : AdjoinRoot.mk generator (X ^ 16 + X ^ 12 + X ^ 5 + 1) = 0 := AdjoinRoot.mk_self
  simp only [map_add, map_pow, map_one, AdjoinRoot.mk_X] at hroot
  rw [← CharTwo.add_eq_zero, ← hroot]
  simp only [x, add_assoc]

theorem isUnit_x : IsUnit x := by
  apply IsUnit.of_mul_eq_one (x ^ 15 + x ^ 11 + x ^ 4)
  have hexpand : x * (x ^ 15 + x ^ 11 + x ^ 4) = x ^ 16 + (x ^ 12 + x ^ 5) := by ring
  rw [hexpand, x_pow_sixteen, add_right_comm, CharTwo.add_self_eq_zero, zero_add]

/-- Fewer than seventeen powers cannot cancel, the generator having degree sixteen. -/
theorem independent_x : ErrorPattern.Independent x 16 := by
  intro B hB hne hzero
  have hmk : AdjoinRoot.mk generator (∑ i ∈ B, X ^ i) = ∑ i ∈ B, x ^ i := by
    simp only [map_sum, map_pow, AdjoinRoot.mk_X]
    rfl
  rw [hzero, AdjoinRoot.mk_eq_zero] at hmk
  have hcoeff (k : ℕ) : (∑ i ∈ B, (X : (ZMod 2)[X]) ^ i).coeff k = if k ∈ B then 1 else 0 := by
    simp [coeff_X_pow]
  have hdegree : (∑ i ∈ B, (X : (ZMod 2)[X]) ^ i).natDegree < generator.natDegree := by
    rw [natDegree_generator]
    apply Nat.lt_succ_of_le
    apply natDegree_sum_le_of_forall_le
    intro i hi
    rw [natDegree_X_pow]
    exact Nat.le_of_lt_succ (Finset.mem_range.mp (hB hi))
  apply monic_generator.not_dvd_of_natDegree_lt _ hdegree hmk
  obtain ⟨k, hk⟩ := hne
  intro hpoly
  have hone := hcoeff k
  rw [hpoly, if_pos hk, coeff_zero] at hone
  exact zero_ne_one hone

/-- Evaluation at one, where the generator has a root. -/
def evalOne : Residue →+* ZMod 2 :=
  AdjoinRoot.lift (RingHom.id (ZMod 2)) 1 (by
    simp only [generator, eval₂_add, eval₂_X_pow, eval₂_one, one_pow]
    decide)

theorem evalOne_x : evalOne x = 1 := AdjoinRoot.lift_root _

/-- The register as a residue, its most significant bit having the highest power. -/
def registerValue (c : UInt16) : Residue := ErrorPattern.wordValue x 16 c.toNat

theorem registerValue_xor (a b : UInt16) :
    registerValue (a ^^^ b) = registerValue a + registerValue b := by
  rw [registerValue, UInt16.toNat_xor, ErrorPattern.wordValue_xor]
  rfl

theorem registerValue_eq_zero_iff (c : UInt16) : registerValue c = 0 ↔ c = 0 := by
  constructor
  · intro h
    by_contra hne
    apply ErrorPattern.wordValue_ne_zero independent_x c.toNat_lt _ h
    rw [ne_eq, ← UInt16.toNat_zero, UInt16.toNat_inj]
    exact hne
  · rintro rfl
    exact ErrorPattern.wordValue_zero 16

theorem registerValue_feedback : registerValue 0x1021 = x ^ 16 := by
  have hbits : (0x1021 : UInt16).toNat = 4129 := rfl
  rw [registerValue, hbits, x_pow_sixteen]
  simp [ErrorPattern.wordValue, Finset.sum_range_succ, Nat.testBit, Nat.shiftRight_eq_div_pow]
  ring

theorem registerValue_shiftLeft (c : UInt16) :
    registerValue (c <<< 1) = x * ErrorPattern.wordValue x 15 (c.toNat % 2 ^ 15) := by
  have hbits : (c <<< 1).toNat = 2 ^ 1 * (c.toNat % 2 ^ 15) + 0 := by
    rw [UInt16.toNat_shiftLeft]
    simp only [UInt16.reduceToNat, Nat.reduceMod, Nat.shiftLeft_eq]
    omega
  have hsplit := ErrorPattern.wordValue_split (x := x) 15 (c.toNat % 2 ^ 15)
    (show 0 < 2 ^ 1 by decide)
  rw [registerValue, hbits, hsplit, ErrorPattern.wordValue_zero, zero_add, pow_one]

theorem topBit_iff (c : UInt16) : c &&& 0x8000 ≠ 0 ↔ c.toNat.testBit 15 = true := by
  have hmask : (0x8000 : UInt16).toNat = 2 ^ 15 := rfl
  rw [ne_eq, ← UInt16.toNat_inj, UInt16.toNat_and, hmask, Nat.and_two_pow, UInt16.toNat_zero]
  cases c.toNat.testBit 15 <;> simp

/-- Shifting the register multiplies by the root. -/
theorem registerValue_shift (c : UInt16) : registerValue (crc16Shift c) = x * registerValue c := by
  have hlow : c.toNat % 2 ^ 15 < 2 ^ 15 := Nat.mod_lt _ (by decide)
  have hparts := ErrorPattern.wordValue_split (x := x) 1 (c.toNat / 2 ^ 15) hlow
  rw [Nat.div_add_mod, ErrorPattern.wordValue_one, Nat.testBit_div_two_pow, Nat.add_zero] at hparts
  have hvalue : x * registerValue c = registerValue (c <<< 1) +
      x ^ 16 * if c.toNat.testBit 15 then 1 else 0 := by
    rw [registerValue_shiftLeft, registerValue, hparts]
    ring
  unfold crc16Shift
  simp only [topBit_iff]
  rw [hvalue]
  split
  · rw [registerValue_xor, registerValue_feedback, mul_one]
  · rw [mul_zero, add_zero]

theorem registerValue_shifts (n : ℕ) (c : UInt16) :
    registerValue (crc16Shift^[n] c) = x ^ n * registerValue c := by
  induction n generalizing c with
  | zero => rw [Function.iterate_zero, id, pow_zero, one_mul]
  | succ n ih =>
    rw [Function.iterate_succ_apply, ih, registerValue_shift]
    ring

def octetValue (octet : UInt8) : Residue := ErrorPattern.wordValue x 8 octet.toNat

theorem registerValue_high (octet : UInt8) :
    registerValue (octet.toUInt16 <<< 8) = x ^ 8 * octetValue octet := by
  have hbits : (octet.toUInt16 <<< 8).toNat = 2 ^ 8 * octet.toNat + 0 := by
    have hlt := octet.toNat_lt
    rw [UInt16.toNat_shiftLeft]
    simp only [UInt8.toNat_toUInt16, UInt16.reduceToNat, Nat.reduceMod, Nat.shiftLeft_eq]
    omega
  have hsplit := ErrorPattern.wordValue_split (x := x) 8 octet.toNat (show 0 < 2 ^ 8 by decide)
  rw [registerValue, hbits, hsplit, ErrorPattern.wordValue_zero, zero_add]
  rfl

/-- Taking an octet in: eight shifts, and the octet beyond the register. -/
theorem registerValue_octet (c : UInt16) (octet : UInt8) :
    registerValue (crc16Octet c octet) = x ^ 8 * registerValue c + x ^ 16 * octetValue octet := by
  rw [crc16Octet, registerValue_shifts, registerValue_xor, registerValue_high]
  ring

theorem registerValue_one : registerValue 1 = 1 := by
  have hbits : (1 : UInt16).toNat = 2 ^ 1 * 0 + 1 := rfl
  have hsplit := ErrorPattern.wordValue_split (x := x) 15 0 (show 1 < 2 ^ 1 by decide)
  rw [registerValue, hbits, hsplit, ErrorPattern.wordValue_zero, mul_zero, add_zero,
    ErrorPattern.wordValue_one]
  rfl

theorem registerValue_two : registerValue 2 = x := by
  have hshift : crc16Shift 1 = 2 := rfl
  rw [← hshift, registerValue_shift, registerValue_one, mul_one]

theorem registerValue_eq_one_iff (c : UInt16) : registerValue c = 1 ↔ c = 1 := by
  rw [← registerValue_one, ← CharTwo.add_eq_zero, ← registerValue_xor, registerValue_eq_zero_iff,
    UInt16.xor_eq_zero_iff]

/-- The word of the square: the doubled power of each set bit, reduced by shifting. -/
def square (c : UInt16) : UInt16 :=
  ((List.range 16).filter c.toNat.testBit).foldr (fun i sum => crc16Shift^[2 * i] 1 ^^^ sum) 0

theorem registerValue_square (c : UInt16) : registerValue (square c) = registerValue c ^ 2 := by
  have hsum (bits : List ℕ) :
      registerValue (bits.foldr (fun i sum => crc16Shift^[2 * i] 1 ^^^ sum) 0) =
        (bits.map fun i => x ^ (2 * i)).sum := by
    induction bits with
    | nil => exact (registerValue_eq_zero_iff 0).mpr rfl
    | cons i bits ih =>
      rw [List.foldr_cons, registerValue_xor, registerValue_shifts, registerValue_one, mul_one, ih,
        List.map_cons, List.sum_cons]
  have hnodup : ((List.range 16).filter c.toNat.testBit).Nodup := List.nodup_range.filter _
  rw [square, hsum, registerValue, ErrorPattern.wordValue_sq, ← Finset.sum_filter,
    ← List.sum_toFinset _ hnodup, List.toFinset_filter, List.toFinset_range]

theorem registerValue_squares (n : ℕ) (c : UInt16) :
    registerValue (square^[n] c) = registerValue c ^ 2 ^ n := by
  induction n generalizing c with
  | zero => rw [Function.iterate_zero, id, pow_zero, pow_one]
  | succ n ih => rw [Function.iterate_succ_apply, ih, registerValue_square, ← pow_mul, pow_succ']

theorem x_pow_period : x ^ 32767 = 1 := by
  have hfixed : square^[15] 2 = 2 := by decide +kernel
  have hpower := registerValue_squares 15 2
  rw [hfixed, registerValue_two] at hpower
  apply isUnit_x.mul_left_cancel
  rw [mul_one, ← pow_succ']
  exact hpower.symm

/-- No prime divisor of the period leaves a shorter one. -/
theorem x_pow_period_div_ne_one {p : ℕ} (hp : p.Prime) (hdvd : p ∣ 32767) :
    x ^ (32767 / p) ≠ 1 := by
  have hfactors : 32767 = 7 * (31 * 151) := by norm_num
  rw [hfactors, hp.dvd_mul, hp.dvd_mul, Nat.prime_dvd_prime_iff_eq hp (by norm_num),
    Nat.prime_dvd_prime_iff_eq hp (by norm_num),
    Nat.prime_dvd_prime_iff_eq hp (by norm_num)] at hdvd
  rcases hdvd with rfl | rfl | rfl
  · have hword : crc16Shift (square^[3] (crc16Shift (square^[3] (crc16Shift^[73] 1)))) ≠ 1 := by
      decide +kernel
    rw [ne_eq, ← registerValue_eq_one_iff, registerValue_shift, registerValue_squares,
      registerValue_shift, registerValue_squares, registerValue_shifts, registerValue_one] at hword
    convert hword using 2
    ring
  · have hword : crc16Shift^[33] (square^[10] 2) ≠ 1 := by decide +kernel
    rw [ne_eq, ← registerValue_eq_one_iff, registerValue_shifts, registerValue_squares,
      registerValue_two, ← pow_add] at hword
    exact hword
  · have hword : crc16Shift^[217] 1 ≠ 1 := by decide +kernel
    rw [ne_eq, ← registerValue_eq_one_iff, registerValue_shifts, registerValue_one,
      mul_one] at hword
    exact hword

theorem orderOf_x : orderOf x = 32767 := by
  apply orderOf_eq_of_pow_and_pow_div_prime (by decide) x_pow_period
  intro p hp hdvd
  exact x_pow_period_div_ne_one hp hdvd

end ObswPus.Codec
end
