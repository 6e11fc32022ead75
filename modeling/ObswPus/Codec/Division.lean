import ObswPus.Codec.ErrorDetection
import ObswPus.Library.Remainder

/-! # The checksum as a polynomial division

What the bitwise loop computes, without its register: the octets, the first bit having the
highest power, are a polynomial over two elements; moved up by sixteen and with the seed on
top of them they are divided by the generator, and the checksum is the remainder.
-/
namespace ObswPus.Codec
open Flight Library Polynomial Finset

noncomputable def octetsPolynomial (b : List UInt8) : (ZMod 2)[X] :=
  ∑ i ∈ range (8 * b.length), if bitAt b i then X ^ (8 * b.length - 1 - i) else 0

noncomputable def registerPolynomial (c : UInt16) : (ZMod 2)[X] :=
  Remainder.wordPolynomial 16 c.toNat

theorem mk_octetsPolynomial (b : List UInt8) :
    AdjoinRoot.mk generator (octetsPolynomial b) = octetsValue b := by
  rw [octetsPolynomial, octetsValue_eq, map_sum]
  apply sum_congr rfl
  intro i _
  rw [apply_ite (AdjoinRoot.mk generator), map_pow, AdjoinRoot.mk_X, map_zero]
  rfl

theorem mk_registerPolynomial (c : UInt16) :
    AdjoinRoot.mk generator (registerPolynomial c) = registerValue c :=
  Remainder.mk_wordPolynomial generator 16 c.toNat

theorem degree_registerPolynomial_lt (c : UInt16) :
    (registerPolynomial c).degree < generator.degree := by
  rw [degree_eq_natDegree monic_generator.ne_zero, natDegree_generator]
  exact Remainder.degree_wordPolynomial_lt 16 c.toNat

/-- The loop over the octets divides, whatever the register holds at its start. -/
theorem registerPolynomial_foldl (b : List UInt8) (c : UInt16) :
    registerPolynomial (b.foldl crc16Octet c) =
      (octetsPolynomial b * X ^ 16 + registerPolynomial c * X ^ (8 * b.length)) %ₘ generator := by
  apply Remainder.eq_modByMonic_of_mk_eq monic_generator (degree_registerPolynomial_lt _)
  have hroot (n : ℕ) : AdjoinRoot.mk generator (X ^ n) = x ^ n := by
    rw [map_pow, AdjoinRoot.mk_X]
    rfl
  rw [mk_registerPolynomial, registerValue_foldl, map_add, map_mul, map_mul, hroot, hroot,
    mk_octetsPolynomial, mk_registerPolynomial]
  ring

theorem crc16Ccitt_length (b : List UInt8) :
    crc16Ccitt (some b) b.length = b.foldl crc16Octet crc16Seed := by
  rw [crc16Ccitt, List.take_length]

theorem crc16Ccitt_append_self (b : List UInt8) :
    crc16Ccitt (some (b ++ pusPutU16 (crc16Ccitt (some b) b.length)))
      (b ++ pusPutU16 (crc16Ccitt (some b) b.length)).length = 0 := by
  rw [← registerValue_eq_zero_iff, crc16Ccitt_length, crc16Ccitt_length, List.foldl_append,
    registerValue_foldl, octetsValue_pusPutU16, length_pusPutU16, CharTwo.add_self_eq_zero]

def xorOctets (a b : List UInt8) : List UInt8 := List.zipWith (· ^^^ ·) a b

theorem length_xorOctets {a b : List UInt8} (hlen : b.length = a.length) :
    (xorOctets a b).length = a.length := by
  rw [xorOctets, List.length_zipWith, hlen, min_self]

theorem octetValue_xor (u v : UInt8) : octetValue (u ^^^ v) = octetValue u + octetValue v := by
  rw [octetValue, UInt8.toNat_xor, ErrorPattern.wordValue_xor]
  rfl

theorem octetsValue_xorOctets {a b : List UInt8} (hlen : b.length = a.length) :
    octetsValue (xorOctets a b) = octetsValue a + octetsValue b := by
  induction a generalizing b with
  | nil =>
    rw [List.length_eq_zero_iff.mp hlen, octetsValue, add_zero]
    rfl
  | cons u a ih =>
    cases b with
    | nil => cases hlen
    | cons v b =>
      have hrest : b.length = a.length := Nat.succ.inj hlen
      have hcons : xorOctets (u :: a) (v :: b) = (u ^^^ v) :: xorOctets a b := rfl
      rw [hcons, octetsValue, ih hrest, length_xorOctets hrest, octetValue_xor, octetsValue,
        octetsValue, hrest]
      ring

theorem crc16Ccitt_xor {a b : List UInt8} (hlen : b.length = a.length) :
    crc16Ccitt (some a) a.length ^^^ crc16Ccitt (some b) b.length =
      (xorOctets a b).foldl crc16Octet 0 := by
  rw [← registerValue_inj, registerValue_xor, crc16Ccitt_length, crc16Ccitt_length,
    registerValue_foldl, registerValue_foldl, registerValue_foldl, octetsValue_xorOctets hlen,
    (registerValue_eq_zero_iff 0).mpr rfl, hlen, add_add_add_comm, CharTwo.add_self_eq_zero]
  ring

/-- The checksum of `b` is the remainder of `b(x) x^16 + 0xFFFF(x) x^(8n)` divided by
`x^16 + x^12 + x^5 + 1`. With its checksum behind it, a string has the checksum zero, and the
checksums of two strings of one length differ by a function of what these differ in. -/
theorem crc16Ccitt_divides (b : List UInt8) :
    registerPolynomial (crc16Ccitt (some b) b.length) =
        (octetsPolynomial b * X ^ 16 + registerPolynomial 0xFFFF * X ^ (8 * b.length)) %ₘ
          (X ^ 16 + X ^ 12 + X ^ 5 + 1) ∧
      crc16Ccitt (some (b ++ pusPutU16 (crc16Ccitt (some b) b.length)))
        (b ++ pusPutU16 (crc16Ccitt (some b) b.length)).length = 0 ∧
      ∀ a, a.length = b.length →
        crc16Ccitt (some a) a.length ^^^ crc16Ccitt (some b) b.length =
          (xorOctets a b).foldl crc16Octet 0 := by
  refine ⟨?_, crc16Ccitt_append_self b, fun a hlen => crc16Ccitt_xor hlen.symm⟩
  rw [crc16Ccitt_length]
  exact registerPolynomial_foldl b crc16Seed

end ObswPus.Codec
