import ObswPus.Codec.Acceptance
import ObswPus.Codec.Generator

/-! # Errors that the packet error control detects

The checksum of a packet read as a polynomial: the register after the whole packet is zero
exactly if the checksum is right, and for two packets of one length it differs by what the
differing bits stand for. A telecommand with a burst of errors, with two errors or with an
odd number of them is refused for its length or for its checksum, and for nothing else.
-/
namespace ObswPus.Codec
open Flight Library Finset

/-- The bit at index `i`, counted from the most significant bit of the first octet on. -/
def bitAt (b : List UInt8) (i : ℕ) : Bool := (b.getD (i / 8) 0).toNat.testBit (7 - i % 8)

/-- The indices of the bits in which two octet strings differ. -/
def bitErrors (p q : List UInt8) : Finset ℕ :=
  (range (8 * p.length)).filter fun i => bitAt p i ≠ bitAt q i

theorem mem_bitErrors {p q : List UInt8} {i : ℕ} :
    i ∈ bitErrors p q ↔ i < 8 * p.length ∧ bitAt p i ≠ bitAt q i := by
  rw [bitErrors, mem_filter, mem_range]

theorem bitErrors_nonempty {p q : List UInt8} (hlen : q.length = p.length) (hne : p ≠ q) :
    (bitErrors p q).Nonempty := by
  by_contra hempty
  apply hne
  have hbits (i : ℕ) (hi : i < 8 * p.length) : bitAt p i = bitAt q i := by
    by_contra hbit
    exact hempty ⟨i, mem_bitErrors.mpr ⟨hi, hbit⟩⟩
  apply List.ext_getElem hlen.symm
  intro k hkp hkq
  apply UInt8.toNat_inj.mp
  apply Nat.eq_of_testBit_eq
  intro j
  by_cases hj : j < 8
  · have hbit := hbits (8 * k + (7 - j)) (by omega)
    have hoctet : (8 * k + (7 - j)) / 8 = k := by omega
    have hplace : 7 - (8 * k + (7 - j)) % 8 = j := by omega
    simpa only [bitAt, hoctet, hplace, List.getD_eq_getElem _ _ hkp,
      List.getD_eq_getElem _ _ hkq] using hbit
  · have hwide : 2 ^ 8 ≤ 2 ^ j := Nat.pow_le_pow_right (by decide) (Nat.not_lt.mp hj)
    rw [Nat.testBit_lt_two_pow (lt_of_lt_of_le p[k].toNat_lt hwide),
      Nat.testBit_lt_two_pow (lt_of_lt_of_le q[k].toNat_lt hwide)]

/-- What a string of octets stands for, its last bit having the power zero. -/
noncomputable def octetsValue : List UInt8 → Residue
  | [] => 0
  | octet :: b => x ^ (8 * b.length) * octetValue octet + octetsValue b

/-- The register after a string: what it held before, moved past the string, and the string
moved past the register. -/
theorem registerValue_foldl (b : List UInt8) (c : UInt16) :
    registerValue (b.foldl crc16Octet c) =
      x ^ (8 * b.length) * registerValue c + x ^ 16 * octetsValue b := by
  induction b generalizing c with
  | nil => simp [octetsValue]
  | cons octet b ih =>
    rw [List.foldl_cons, ih, registerValue_octet, octetsValue, List.length_cons]
    ring

theorem octetValue_eq (octet : UInt8) :
    octetValue octet = ∑ i ∈ range 8, if octet.toNat.testBit (7 - i) then x ^ (7 - i) else 0 := by
  rw [octetValue, ErrorPattern.wordValue, ← sum_range_reflect]

theorem octetsValue_eq (b : List UInt8) :
    octetsValue b = ∑ i ∈ range (8 * b.length),
      if bitAt b i then x ^ (8 * b.length - 1 - i) else 0 := by
  induction b with
  | nil => rfl
  | cons octet b ih =>
    have hlen : 8 * (octet :: b).length = 8 + 8 * b.length := by
      rw [List.length_cons]
      ring
    rw [octetsValue, ih, octetValue_eq, hlen, sum_range_add, mul_sum]
    congr 1 <;> apply sum_congr rfl <;> intro i hi <;> rw [mem_range] at hi
    · have hfirst : bitAt (octet :: b) i = octet.toNat.testBit (7 - i) := by
        rw [bitAt, Nat.div_eq_of_lt hi, Nat.mod_eq_of_lt hi, List.getD_cons_zero]
      rw [hfirst, mul_ite, mul_zero, ← pow_add]
      congr 2
      omega
    · have hrest : bitAt (octet :: b) (8 + i) = bitAt b i := by
        rw [bitAt, Nat.add_div_left i (by decide), List.getD_cons_succ, Nat.add_mod_left, bitAt]
      rw [hrest]
      congr 2
      omega

theorem octetsValue_add {p q : List UInt8} (hlen : q.length = p.length) :
    octetsValue p + octetsValue q = ErrorPattern.locator x (8 * p.length) (bitErrors p q) := by
  rw [octetsValue_eq, octetsValue_eq, hlen, ← sum_add_distrib, ErrorPattern.locator, bitErrors,
    sum_filter]
  apply sum_congr rfl
  intro i _
  cases bitAt p i <;> cases bitAt q i <;> simp [CharTwo.add_self_eq_zero]

theorem registerValue_inj {a b : UInt16} : registerValue a = registerValue b ↔ a = b := by
  rw [← CharTwo.add_eq_zero, ← registerValue_xor, registerValue_eq_zero_iff, UInt16.xor_eq_zero_iff]

theorem octetsValue_pusPutU16 (v : UInt16) : octetsValue (pusPutU16 v) = registerValue v := by
  have hbits : v.toNat = 2 ^ 8 * (v.toNat / 256) + v.toNat % 256 := (Nat.div_add_mod _ _).symm
  have hlow : v.toNat % 256 < 2 ^ 8 := Nat.mod_lt _ (by decide)
  have hv := v.toNat_lt
  have hhigh : ((v >>> 8 &&& 0xFF).toUInt8).toNat = v.toNat / 256 := by
    rw [BigEndian.toNat_high16]
  rw [registerValue, hbits, ErrorPattern.wordValue_split (x := x) 8 _ hlow]
  simp only [octetsValue, pusPutU16, octetValue, hhigh, BigEndian.toNat_low16, List.length_cons,
    List.length_nil]
  ring

/-- The checksum is right if the register ends up empty. -/
theorem checksumRight_iff {b : List UInt8} (hlen : 2 ≤ b.length) :
    ChecksumRight b ↔ registerValue (b.foldl crc16Octet crc16Seed) = 0 := by
  have htwo : (b.drop (b.length - 2)).length = 2 := by
    rw [List.length_drop]
    omega
  have htail : pusPutU16 (pusGetU16 (b.drop (b.length - 2))) = b.drop (b.length - 2) := by
    rw [pusPutU16_pusGetU16 _ (by omega), List.take_of_length_le (by omega)]
  have hfold : b.foldl crc16Octet crc16Seed =
      (b.drop (b.length - 2)).foldl crc16Octet (crc16Ccitt (some b) (b.length - 2)) := by
    rw [crc16Ccitt, ← List.foldl_append, List.take_append_drop]
  have hvalue := octetsValue_pusPutU16 (pusGetU16 (b.drop (b.length - 2)))
  rw [htail] at hvalue
  rw [hfold, registerValue_foldl, htwo, hvalue, ← mul_add, (isUnit_x.pow _).mul_right_eq_zero,
    CharTwo.add_eq_zero, registerValue_inj, crc_eq_iff b hlen, ChecksumRight]

theorem registerValue_foldl_add {p q : List UInt8} (hlen : q.length = p.length) (c : UInt16) :
    registerValue (p.foldl crc16Octet c) + registerValue (q.foldl crc16Octet c) =
      x ^ 16 * ErrorPattern.locator x (8 * p.length) (bitErrors p q) := by
  rw [registerValue_foldl, registerValue_foldl, hlen, add_add_add_comm, CharTwo.add_self_eq_zero,
    zero_add, ← mul_add, octetsValue_add hlen]

theorem checksumRight_iff_locator {p q : List UInt8} (hlong : 2 ≤ p.length)
    (hlen : q.length = p.length) (hp : ChecksumRight p) :
    ChecksumRight q ↔ ErrorPattern.locator x (8 * p.length) (bitErrors p q) = 0 := by
  have hsum := registerValue_foldl_add hlen crc16Seed
  rw [(checksumRight_iff hlong).mp hp, zero_add] at hsum
  rw [checksumRight_iff (hlen ▸ hlong), hsum, (isUnit_x.pow _).mul_right_eq_zero]

section Detected
variable {p q : List UInt8}

theorem bitErrors_lt : ∀ i ∈ bitErrors p q, i < 8 * p.length :=
  fun _ hi => (mem_bitErrors.mp hi).1

theorem locator_burst_ne_zero {a : ℕ} (hne : (bitErrors p q).Nonempty)
    (hwindow : ∀ i ∈ bitErrors p q, a ≤ i ∧ i < a + 16) :
    ErrorPattern.locator x (8 * p.length) (bitErrors p q) ≠ 0 :=
  ErrorPattern.locator_burst isUnit_x independent_x hne bitErrors_lt hwindow

/-- Two errors cancel only at a distance that the order of the root divides. -/
theorem locator_pair_ne_zero (hshort : p.length ≤ 4095) (hcard : (bitErrors p q).card = 2) :
    ErrorPattern.locator x (8 * p.length) (bitErrors p q) ≠ 0 := by
  apply ErrorPattern.locator_pair isUnit_x _ bitErrors_lt hcard
  intro d hpos hlt
  apply pow_ne_one_of_lt_orderOf hpos.ne'
  rw [orderOf_x]
  omega

theorem locator_odd_ne_zero (hodd : Odd (bitErrors p q).card) :
    ErrorPattern.locator x (8 * p.length) (bitErrors p q) ≠ 0 :=
  ErrorPattern.locator_odd evalOne evalOne_x hodd

theorem locator_scattered_ne_zero (hshort : p.length ≤ 4095)
    (herrors : (bitErrors p q).card = 2 ∨ Odd (bitErrors p q).card) :
    ErrorPattern.locator x (8 * p.length) (bitErrors p q) ≠ 0 := by
  rcases herrors with hpair | hodd
  · exact locator_pair_ne_zero hshort hpair
  · exact locator_odd_ne_zero hodd

/-- At least four bits lie between two strings whose checksums are right. -/
theorem four_le_card_bitErrors (hlong : 2 ≤ p.length) (hshort : p.length ≤ 4095)
    (hlen : q.length = p.length) (hne : p ≠ q) (hp : ChecksumRight p) (hq : ChecksumRight q) :
    4 ≤ (bitErrors p q).card := by
  have hzero := (checksumRight_iff_locator hlong hlen hp).mp hq
  have hpos := card_pos.mpr (bitErrors_nonempty hlen hne)
  by_contra hfew
  apply locator_scattered_ne_zero hshort _ hzero
  have hcases : (bitErrors p q).card = 1 ∨ (bitErrors p q).card = 2 ∨
      (bitErrors p q).card = 3 := by omega
  rcases hcases with hcard | hcard | hcard <;> rw [hcard]
  · exact Or.inr (by decide)
  · exact Or.inl rfl
  · exact Or.inr (by decide)

end Detected

/-- The octets of the packet length field. -/
def lengthField (b : List UInt8) : List UInt8 := (b.drop 4).take 2

theorem lengthField_eq {b : List UInt8} (hlen : 6 ≤ b.length) :
    lengthField b = pusPutU16 (pusGetU16 (b.drop 4)) := by
  rw [lengthField, pusPutU16_pusGetU16]
  rw [List.length_drop]
  omega

theorem lengthField_inj {p q : List UInt8} (hp : 6 ≤ p.length) (hq : 6 ≤ q.length) :
    lengthField q = lengthField p ↔
      octetAt q 4 * 256 + octetAt q 5 = octetAt p 4 * 256 + octetAt p 5 := by
  rw [← toNat_pusGetU16_drop, ← toNat_pusGetU16_drop, UInt16.toNat_inj, lengthField_eq hp,
    lengthField_eq hq]
  constructor
  · intro h
    have hget := congrArg (fun field => pusGetU16 (field ++ [])) h
    simpa only [pusGetU16_pusPutU16] using hget
  · intro h
    rw [h]

/-- Errors that do not cancel: the packet is refused for its length if that is hit, and for
its checksum otherwise. -/
theorem pusTcParse_errors {p q : List UInt8} {tc : PusTc}
    (haccepted : pusTcParse (some p) p.length = .ok tc) (hlen : q.length = p.length)
    (herrors : ErrorPattern.locator x (8 * p.length) (bitErrors p q) ≠ 0) :
    pusTcParse (some q) q.length =
      .error (if lengthField q ≠ lengthField p then .badLength else .badCrc) := by
  obtain ⟨hlong, htotal, hcrc⟩ := firstFailing_ok (pusTcParse_ok haccepted).1
  have hfield := lengthField_inj (p := p) (q := q) (by omega) (by omega)
  have hwrong : ¬ChecksumRight q := by
    rw [checksumRight_iff_locator (by omega) hlen hcrc]
    exact herrors
  have hfirst : firstFailing q = if lengthField q ≠ lengthField p then .badLength else .badCrc := by
    rw [firstFailing, if_neg (by omega)]
    by_cases hdiffer : lengthField q = lengthField p
    · have hsame := hfield.mp hdiffer
      rw [if_neg (by omega), if_pos hwrong, if_neg (not_not.mpr hdiffer)]
    · have hother := mt hfield.mpr hdiffer
      rw [if_pos (by omega), if_pos hdiffer]
  have hfail : firstFailing q ≠ .ok := by
    rw [hfirst]
    split_ifs <;> decide
  rw [pusTcParse_eq, if_neg hfail, hfirst]

/-- A connection test, and the same with three bits flipped in the version field. -/
def connectionTest : List UInt8 := [24, 12, 192, 0, 0, 6, 32, 17, 1, 0, 0, 251, 223]

def versionHit : List UInt8 := [248, 12, 192, 0, 0, 6, 32, 17, 1, 0, 0, 251, 223]

theorem pusTcParse_connectionTest :
    pusTcParse (some connectionTest) connectionTest.length = .ok (decodedTc connectionTest) := by
  rw [pusTcParse_eq, if_pos (by decide +kernel)]

theorem bitErrors_versionHit : bitErrors connectionTest versionHit = {0, 1, 2} := by
  decide +kernel

/-- A burst of at most sixteen bits is never accepted, and never taken for a fault of the
version or of the address. -/
theorem burst_refused (p q : List UInt8) (tc : PusTc) (a : ℕ)
    (haccepted : pusTcParse (some p) p.length = .ok tc) (hlen : q.length = p.length)
    (hdiffer : (bitErrors p q).Nonempty)
    (hwindow : ∀ i ∈ bitErrors p q, a ≤ i ∧ i < a + 16) :
    pusTcParse (some q) q.length =
      .error (if lengthField q ≠ lengthField p then .badLength else .badCrc) :=
  pusTcParse_errors haccepted hlen (locator_burst_ne_zero hdiffer hwindow)

theorem burst_refused_versionHit :
    pusTcParse (some versionHit) versionHit.length = .error .badCrc := by
  have hrefused := burst_refused connectionTest versionHit _ 0 pusTcParse_connectionTest rfl
    (by rw [bitErrors_versionHit]; decide) (by rw [bitErrors_versionHit]; decide)
  rw [hrefused, if_neg (by decide)]

/-- Two errors anywhere, and any odd number of them, are never accepted: two packets of that
size whose checksums are right differ in at least four bits. -/
theorem scattered_refused (p q : List UInt8) (tc : PusTc) (hshort : p.length ≤ 4095)
    (haccepted : pusTcParse (some p) p.length = .ok tc) (hlen : q.length = p.length) :
    ((bitErrors p q).card = 2 ∨ Odd (bitErrors p q).card →
      pusTcParse (some q) q.length = .error .badLength ∨
        pusTcParse (some q) q.length = .error .badCrc) ∧
    (p ≠ q → ChecksumRight q → 4 ≤ (bitErrors p q).card) := by
  obtain ⟨hlong, -, hcrc⟩ := firstFailing_ok (pusTcParse_ok haccepted).1
  constructor
  · intro herrors
    rw [pusTcParse_errors haccepted hlen (locator_scattered_ne_zero hshort herrors)]
    split_ifs
    · exact Or.inl rfl
    · exact Or.inr rfl
  · intro hne hq
    exact four_le_card_bitErrors (by omega) hshort hlen hne hcrc hq

theorem scattered_refused_versionHit :
    pusTcParse (some versionHit) versionHit.length = .error .badLength ∨
      pusTcParse (some versionHit) versionHit.length = .error .badCrc := by
  apply (scattered_refused connectionTest versionHit _ (by decide) pusTcParse_connectionTest
    rfl).1
  rw [bitErrors_versionHit]
  decide

end ObswPus.Codec
