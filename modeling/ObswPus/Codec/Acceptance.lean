import ObswPus.Codec.PrimaryHeader

/-! # Acceptance of telecommand packets

The acceptance checks over the octets of a packet, in their mandated order, and the
proof that the parser applies exactly these and loses nothing of what it accepts.
-/
namespace ObswPus.Codec
open Flight Library

def octetAt (b : List UInt8) (i : ℕ) : ℕ := (b.getD i 0).toNat

/-- The last two octets are the checksum of those before them. -/
def ChecksumRight (b : List UInt8) : Prop :=
  pusPutU16 (crc16Ccitt (some b) (b.length - 2)) = b.drop (b.length - 2)

instance (b : List UInt8) : Decidable (ChecksumRight b) := inferInstanceAs (Decidable (_ = _))

/-- The code of the first acceptance check that the octets fail. -/
def firstFailing (b : List UInt8) : PusStatus :=
  if b.length < 13 then .truncated
  else if 7 + (octetAt b 4 * 256 + octetAt b 5) ≠ b.length then .badLength
  else if ¬ChecksumRight b then .badCrc
  else if octetAt b 0 / 32 ≠ 0 then .badVersion
  else if octetAt b 0 / 16 % 2 ≠ 1 then .badPacketType
  else if octetAt b 0 / 8 % 2 ≠ 1 then .noSecHeader
  else if octetAt b 0 % 8 * 256 + octetAt b 1 ≠ 0x00C then .badApid
  else if octetAt b 6 / 16 ≠ 2 then .badVersion
  else .ok

section Checks
variable (b : List UInt8)

theorem toNat_pusGetU16_drop (i : ℕ) :
    (pusGetU16 (b.drop i)).toNat = octetAt b i * 256 + octetAt b (i + 1) := by
  simp only [pusGetU16, BigEndian.toNat_join16, octetAt, List.getD_eq_getElem?_getD,
    List.getElem?_drop, Nat.add_zero]

theorem toNat_pusGetU16 : (pusGetU16 b).toNat = octetAt b 0 * 256 + octetAt b 1 :=
  toNat_pusGetU16_drop b 0

theorem octetAt_lt (i : ℕ) : octetAt b i < 256 := (b.getD i 0).toNat_lt

theorem totalLength_unpackedHeader :
    ccsdsTotalLength (some (unpackedHeader b)) = 7 + (octetAt b 4 * 256 + octetAt b 5) := by
  have h6 : ccsdsPrimaryHeaderLen = 6 := rfl
  simp only [ccsdsTotalLength, unpackedHeader, toNat_pusGetU16_drop, Nat.reduceAdd]
  omega

theorem crc_eq_iff (hlen : 2 ≤ b.length) (crc : UInt16) :
    crc = pusGetU16 (b.drop (b.length - 2)) ↔ pusPutU16 crc = b.drop (b.length - 2) := by
  have htwo : (b.drop (b.length - 2)).length = 2 := by
    rw [List.length_drop]
    omega
  constructor
  · rintro rfl
    rw [pusPutU16_pusGetU16 _ (by omega), List.take_of_length_le (by omega)]
  · intro h
    rw [← h]
    simpa using (pusGetU16_pusPutU16 crc []).symm

theorem version_ne_iff : (unpackedHeader b).version ≠ 0 ↔ octetAt b 0 / 32 ≠ 0 := by
  have hfield := toNat_field (pusGetU16 b) 13 0x07 3 (by decide) (by decide) rfl
  have h0 := octetAt_lt b 0
  have h1 := octetAt_lt b 1
  simp only [UInt16.reduceToNat, Nat.reducePow, toNat_pusGetU16] at hfield
  rw [ne_eq, ← UInt8.toNat_inj, unpackedHeader, hfield, UInt8.toNat_zero]
  omega

theorem packetType_ne_iff :
    (unpackedHeader b).packetType ≠ ccsdsTypeTc ↔ octetAt b 0 / 16 % 2 ≠ 1 := by
  have hfield := toNat_field (pusGetU16 b) 12 0x01 1 (by decide) (by decide) rfl
  have h1 := octetAt_lt b 1
  simp only [UInt16.reduceToNat, Nat.reducePow, toNat_pusGetU16] at hfield
  rw [ne_eq, ← UInt8.toNat_inj, unpackedHeader, hfield, UInt8.toNat_one]
  omega

theorem secHdrFlag_ne_iff : (unpackedHeader b).secHdrFlag ≠ 1 ↔ octetAt b 0 / 8 % 2 ≠ 1 := by
  have hfield := toNat_field (pusGetU16 b) 11 0x01 1 (by decide) (by decide) rfl
  have h1 := octetAt_lt b 1
  simp only [UInt16.reduceToNat, Nat.reducePow, toNat_pusGetU16] at hfield
  rw [ne_eq, ← UInt8.toNat_inj, unpackedHeader, hfield, UInt8.toNat_one]
  omega

theorem apid_ne_iff :
    (unpackedHeader b).apid ≠ pusTcApid ↔ octetAt b 0 % 8 * 256 + octetAt b 1 ≠ 0x00C := by
  have hfield := toNat_lowField (pusGetU16 b) 0x07FF 11 rfl
  have h1 := octetAt_lt b 1
  have hapid : pusTcApid.toNat = 0x00C := rfl
  simp only [Nat.reducePow, toNat_pusGetU16] at hfield
  rw [ne_eq, ← UInt16.toNat_inj, unpackedHeader, hfield, hapid]
  omega

theorem toNat_highNibble (v : UInt8) : ((v >>> 4) &&& 0x0F).toNat = v.toNat / 16 := by
  have hv := v.toNat_lt
  have hmask := Nat.and_two_pow_sub_one_eq_mod (v.toNat / 16) 4
  simp only [Nat.reducePow, Nat.add_one_sub_one] at hmask
  simp only [UInt8.toNat_and, UInt8.toNat_shiftRight, UInt8.reduceToNat, Nat.reduceMod,
    Nat.shiftRight_eq_div_pow, Nat.reducePow, hmask]
  omega

theorem pusVersion_ne_iff :
    (b.getD 6 0 >>> 4) &&& 0x0F ≠ pusVersionC ↔ octetAt b 6 / 16 ≠ 2 := by
  rw [ne_eq, ← UInt8.toNat_inj, toNat_highNibble]
  rfl

end Checks

/-- What the parser decodes from a packet that passes. -/
def decodedTc (b : List UInt8) : PusTc :=
  { prim := unpackedHeader b
    pusVersion := (b.getD 6 0 >>> 4) &&& 0x0F
    ackFlags := b.getD 6 0 &&& 0x0F
    serviceType := b.getD 7 0
    serviceSubtype := b.getD 8 0
    sourceId := pusGetU16 (b.drop 9)
    appData := if 0 < b.length - 13 then some (b.drop 11) else none
    appDataLen := b.length - 13
    requestId := pusGetU32 b }

theorem check_step {p q : Prop} [Decidable p] [Decidable q] {e f : PusStatus} {tc : PusTc}
    {r : Except PusStatus PusTc} (hpq : p ↔ q) (he : e ≠ .ok)
    (h : ¬q → r = if f = .ok then .ok tc else .error f) :
    (if p then .error e else r) =
      if (if q then e else f) = .ok then .ok tc else .error (if q then e else f) := by
  by_cases hq : q
  · rw [if_pos (hpq.mpr hq), if_pos hq, if_neg he]
  · rw [if_neg (fun hp => hq (hpq.mp hp)), if_neg hq, h hq]

/-- The parser returns the first failing check, or the decoded packet. -/
theorem pusTcParse_eq (b : List UInt8) : pusTcParse (some b) b.length =
    if firstFailing b = .ok then .ok (decodedTc b) else .error (firstFailing b) := by
  unfold pusTcParse firstFailing
  refine check_step Iff.rfl (by decide) fun hshort => ?_
  have hlen : ccsdsPrimaryHeaderLen ≤ b.length := by
    have h6 : ccsdsPrimaryHeaderLen = 6 := rfl
    omega
  simp only [ccsdsUnpackPrimary_eq b hlen, totalLength_unpackedHeader]
  refine check_step Iff.rfl (by decide) fun htotal => ?_
  rw [not_not] at htotal
  simp only [htotal]
  refine check_step (not_congr (crc_eq_iff b (by omega) _)) (by decide) fun _ => ?_
  refine check_step (version_ne_iff b) (by decide) fun _ => ?_
  refine check_step (packetType_ne_iff b) (by decide) fun _ => ?_
  refine check_step (secHdrFlag_ne_iff b) (by decide) fun _ => ?_
  refine check_step (apid_ne_iff b) (by decide) fun _ => ?_
  exact check_step (pusVersion_ne_iff b) (by decide) fun _ => rfl

/-- Everything before the packet error control field, from a decoded telecommand. -/
def tcBody (tc : PusTc) : List UInt8 :=
  ((ccsdsPackPrimary (some tc.prim) (some (List.replicate 6 0)) 6).2.getD []) ++
    [(tc.pusVersion <<< 4) ||| tc.ackFlags, tc.serviceType, tc.serviceSubtype] ++
    pusPutU16 tc.sourceId ++ (tc.appData.getD []).take tc.appDataLen

/-- A decoded telecommand written out again, with a checksum of its own. -/
def serialiseTc (tc : PusTc) : List UInt8 :=
  tcBody tc ++ pusPutU16 (crc16Ccitt (some (tcBody tc)) (tcBody tc).length)

theorem tcBody_eq (tc : PusTc) : tcBody tc = packedHeader tc.prim ++
    [(tc.pusVersion <<< 4) ||| tc.ackFlags, tc.serviceType, tc.serviceSubtype] ++
    pusPutU16 tc.sourceId ++ (tc.appData.getD []).take tc.appDataLen := by
  have hbuf : storeAt (List.replicate 6 0) 0 (packedHeader tc.prim) = packedHeader tc.prim := by
    simp [storeAt, length_packedHeader]
  rw [tcBody, ccsdsPackPrimary_eq _ _ _ (le_refl _), Option.getD_some, hbuf]

theorem nibbles (v : UInt8) : (((v >>> 4) &&& 0x0F) <<< 4) ||| (v &&& 0x0F) = v := by
  have hv := v.toNat_lt
  have hlow := Nat.and_two_pow_sub_one_eq_mod v.toNat 4
  simp only [Nat.reducePow, Nat.add_one_sub_one] at hlow
  have hjoin := mul_two_pow_or (v.toNat / 16) (v.toNat % 16) 4 (by omega)
  apply UInt8.toNat_inj.mp
  rw [UInt8.toNat_or, UInt8.toNat_shiftLeft, toNat_highNibble, UInt8.toNat_and]
  simp only [UInt8.reduceToNat, Nat.reduceMod, Nat.shiftLeft_eq, hlow]
  rw [Nat.mod_eq_of_lt (by omega), hjoin]
  omega

theorem tcBody_decodedTc {b : List UInt8} (hlen : 13 ≤ b.length) :
    tcBody (decodedTc b) = b.take (b.length - 2) := by
  have hsplit : b.take (b.length - 2) = b.take 6 ++ (b.drop 6).take 3 ++ (b.drop 9).take 2 ++
      (b.drop 11).take (b.length - 13) := by
    rw [← List.take_add, ← List.take_add, ← List.take_add]
    congr 1
    omega
  have hservice : (b.drop 6).take 3 = [b.getD 6 0, b.getD 7 0, b.getD 8 0] := by
    apply List.ext_getElem
    · simp
      omega
    · intro i hi _
      rw [List.length_take] at hi
      have hcases : i = 0 ∨ i = 1 ∨ i = 2 := by omega
      have h6 : 6 < b.length := by omega
      have h7 : 7 < b.length := by omega
      have h8 : 8 < b.length := by omega
      rcases hcases with rfl | rfl | rfl <;> simp [h6, h7, h8]
  have hdata : ((decodedTc b).appData.getD []).take (b.length - 13) =
      (b.drop 11).take (b.length - 13) := by
    simp only [decodedTc]
    split
    · rfl
    · rename_i hempty
      rw [Nat.eq_zero_of_not_pos hempty, List.take_zero, List.take_zero]
  rw [tcBody_eq, hsplit, ← hdata, hservice]
  simp only [decodedTc, nibbles]
  rw [packedHeader_unpackedHeader b (le_trans (by decide) hlen),
    pusPutU16_pusGetU16 _ (by simp; omega)]

theorem check_ok_iff {p : Prop} [Decidable p] {e f : PusStatus} (he : e ≠ .ok) :
    (if p then e else f) = .ok ↔ ¬p ∧ f = .ok := by
  by_cases hp : p
  · simp only [hp, he, if_true, not_true_eq_false, false_and]
  · simp only [hp, if_false, not_false_eq_true, true_and]

/-- What passes the checks is long enough, as long as declared, and ends in its own
checksum. -/
theorem firstFailing_ok {b : List UInt8} (h : firstFailing b = .ok) :
    13 ≤ b.length ∧ 7 + (octetAt b 4 * 256 + octetAt b 5) = b.length ∧ ChecksumRight b := by
  rw [firstFailing, check_ok_iff (by decide), check_ok_iff (by decide),
    check_ok_iff (by decide)] at h
  obtain ⟨hshort, htotal, hcrc, -⟩ := h
  exact ⟨Nat.not_lt.mp hshort, not_not.mp htotal, not_not.mp hcrc⟩

theorem serialiseTc_decodedTc {b : List UInt8} (h : firstFailing b = .ok) :
    serialiseTc (decodedTc b) = b := by
  obtain ⟨hlen, -, hcrc⟩ := firstFailing_ok h
  have htake : crc16Ccitt (some (b.take (b.length - 2))) (b.take (b.length - 2)).length =
      crc16Ccitt (some b) (b.length - 2) := by
    simp only [crc16Ccitt, List.take_length]
  rw [serialiseTc, tcBody_decodedTc hlen, htake, hcrc, List.take_append_drop]

theorem pusTcParse_ok {octets : List UInt8} {tc : PusTc}
    (h : pusTcParse (some octets) octets.length = .ok tc) :
    firstFailing octets = .ok ∧ tc = decodedTc octets := by
  rw [pusTcParse_eq] at h
  split at h
  · rename_i hok
    exact ⟨hok, (Except.ok.inj h).symm⟩
  · cases h

theorem pusTcParse_error {octets : List UInt8} {st : PusStatus}
    (h : pusTcParse (some octets) octets.length = .error st) :
    st = firstFailing octets ∧ st ≠ .ok := by
  rw [pusTcParse_eq] at h
  split at h
  · cases h
  · rename_i hfails
    cases h
    exact ⟨rfl, hfails⟩

/-- The parser applies exactly the checks, in their order, and what it accepts can be written
out again without loss. -/
theorem acceptance_exact_and_lossless (b : List UInt8) :
    match pusTcParse (some b) b.length with
    | .error st => st = firstFailing b ∧ st ≠ .ok
    | .ok tc => firstFailing b = .ok ∧ tc.appDataLen = b.length - 13 ∧ serialiseTc tc = b ∧
        pusPutU32 tc.requestId = b.take 4 := by
  rcases hparse : pusTcParse (some b) b.length with st | tc
  · exact pusTcParse_error hparse
  · obtain ⟨hok, rfl⟩ := pusTcParse_ok hparse
    have hlen := (firstFailing_ok hok).1
    exact ⟨hok, rfl, serialiseTc_decodedTc hok, pusPutU32_pusGetU32 b (by omega)⟩

end ObswPus.Codec
