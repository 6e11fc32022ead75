import ObswPus.Codec.Acceptance
import ObswPus.Ground.Packets

/-! # Packets from the ground builder

The two checksums are the same function, and a packet of the ground builder passes or
fails the acceptance checks of the flight software by its header options alone.
-/
namespace ObswPus.Ground
open Flight Codec Library

theorem and_ffff (n : ℕ) : n &&& 0xFFFF = n % 2 ^ 16 := Nat.and_two_pow_sub_one_eq_mod n 16

theorem toNat_crc16Shift (crc : UInt16) :
    (Flight.crc16Shift crc).toNat = crc16Shift crc.toNat := by
  have hbit : crc &&& 0x8000 ≠ 0 ↔ crc.toNat &&& 0x8000 ≠ 0 := by
    rw [ne_eq, ← UInt16.toNat_inj, UInt16.toNat_and]
    rfl
  have hshift : (crc <<< 1).toNat = crc.toNat <<< 1 % 2 ^ 16 := by
    rw [UInt16.toNat_shiftLeft]
    rfl
  have hpoly : (0x1021 : UInt16).toNat = 0x1021 % 2 ^ 16 := rfl
  unfold Flight.crc16Shift crc16Shift
  simp only [hbit, and_ffff]
  split
  · rw [UInt16.toNat_xor, hshift, hpoly]
    exact Nat.xor_mod_two_pow.symm
  · exact hshift

theorem toNat_crc16Octet (crc : UInt16) (byte : UInt8) :
    (Flight.crc16Octet crc byte).toNat = crc16Octet crc.toNat byte := by
  have hbyte : (byte.toUInt16 <<< 8).toNat = byte.toNat <<< 8 := by
    have hlt := byte.toNat_lt
    rw [UInt16.toNat_shiftLeft, UInt8.toNat_toUInt16]
    simp only [UInt16.reduceToNat, Nat.reduceMod, Nat.shiftLeft_eq]
    omega
  have hbits := Function.Semiconj.iterate_right
    (show Function.Semiconj UInt16.toNat Flight.crc16Shift crc16Shift from toNat_crc16Shift) 8
  rw [Flight.crc16Octet, crc16Octet, hbits, UInt16.toNat_xor, hbyte]

/-- Both implementations compute the same checksum. -/
theorem toNat_crc16Ccitt (data : List UInt8) (len : ℕ) :
    (Flight.crc16Ccitt (some data) len).toNat = crc16Ccitt (data.take len) := by
  have hfold (octets : List UInt8) (crc : UInt16) :
      (octets.foldl Flight.crc16Octet crc).toNat = octets.foldl crc16Octet crc.toNat := by
    induction octets generalizing crc with
    | nil => rfl
    | cons byte octets ih => rw [List.foldl_cons, List.foldl_cons, ih, toNat_crc16Octet]
  exact hfold (data.take len) crc16Seed

theorem crc16Ccitt_lt (data : List UInt8) : crc16Ccitt data < 65536 := by
  have hsame := toNat_crc16Ccitt data data.length
  rw [List.take_length] at hsame
  rw [← hsame]
  exact (Flight.crc16Ccitt (some data) data.length).toNat_lt

theorem toNat_ofNat_octet {v : ℕ} (h : v < 256) : (UInt8.ofNat v).toNat = v := by
  rw [UInt8.toNat_ofNat']
  exact Nat.mod_eq_of_lt h

theorem pusPutU16_eq (v : UInt16) : pusPutU16 v = bigEndian2 v.toNat := by
  have hv := v.toNat_lt
  have hhigh := BigEndian.toNat_high16 v
  have hlow := BigEndian.toNat_low16 v
  rw [pusPutU16, bigEndian2]
  congr 1
  · rw [← UInt8.toNat_inj, hhigh, toNat_ofNat_octet (by omega)]
  · congr 1
    rw [← UInt8.toNat_inj, hlow, toNat_ofNat_octet (by omega)]

theorem bigEndian2_inj {v w : ℕ} (hv : v < 65536) (hw : w < 65536) :
    bigEndian2 v = bigEndian2 w ↔ v = w := by
  constructor
  · intro h
    simp only [bigEndian2, List.cons.injEq, and_true, ← UInt8.toNat_inj] at h
    rw [toNat_ofNat_octet (by omega), toNat_ofNat_octet (by omega), toNat_ofNat_octet (by omega),
      toNat_ofNat_octet (by omega)] at h
    omega
  · exact congrArg bigEndian2

section Built
variable (a : TcArguments)

def headerWord0 : ℕ := a.ccsdsVersion % 8 * 8192 + a.packetType % 2 * 4096 +
  a.secHdrFlag % 2 * 2048 + a.apid % 2048

def headerWord1 : ℕ := seqFlagUnsegmented * 16384 + a.seqCount % 16384

/-- The declared length, the true one by default, cut to the width of its field. -/
def lengthField : ℕ := a.declaredLength.getD (a.data.length + 6) % 65536

def versionAck : ℕ := a.pusVersion % 16 * 16 + a.ack % 16

/-- Everything before the packet error control field. -/
def packetBody : List UInt8 :=
  bigEndian2 (headerWord0 a) ++ bigEndian2 (headerWord1 a) ++ bigEndian2 (lengthField a) ++
    ([UInt8.ofNat (versionAck a), UInt8.ofNat (a.service % 256), UInt8.ofNat (a.subtype % 256)] ++
      bigEndian2 a.sourceId ++ a.data)

def packetCrc : ℕ :=
  if a.validCrc then crc16Ccitt (packetBody a) else crc16Ccitt (packetBody a) ^^^ 0x0001

def builtPacket : List UInt8 := packetBody a ++ bigEndian2 (packetCrc a)

theorem headerWord0_lt : headerWord0 a < 65536 := by
  rw [headerWord0]
  omega

theorem headerWord1_lt : headerWord1 a < 65536 := by
  have hflags : seqFlagUnsegmented = 3 := rfl
  rw [headerWord1]
  omega

theorem lengthField_lt : lengthField a < 65536 := Nat.mod_lt _ (by decide)

theorem versionAck_lt : versionAck a < 256 := by
  rw [versionAck]
  omega

theorem packetCrc_lt : packetCrc a < 65536 := by
  have hlt := crc16Ccitt_lt (packetBody a)
  rw [packetCrc]
  split
  · exact hlt
  · exact Nat.xor_lt_two_pow (n := 16) hlt (by decide)

theorem toBytes2_eq {v : ℕ} (h : v < 65536) : toBytes2 v = some (bigEndian2 v) := if_pos h

theorem word0_eq : ((a.ccsdsVersion &&& 0x07) <<< 13) ||| ((a.packetType &&& 0x01) <<< 12) |||
    ((a.secHdrFlag &&& 0x01) <<< 11) ||| (a.apid &&& 0x07FF) = headerWord0 a := by
  have hversion := Nat.and_two_pow_sub_one_eq_mod a.ccsdsVersion 3
  have htype := Nat.and_two_pow_sub_one_eq_mod a.packetType 1
  have hflag := Nat.and_two_pow_sub_one_eq_mod a.secHdrFlag 1
  have hapid := Nat.and_two_pow_sub_one_eq_mod a.apid 11
  simp only [Nat.reducePow, Nat.add_one_sub_one] at hversion htype hflag hapid
  rw [hversion, htype, hflag, hapid, Nat.or_assoc, Nat.or_assoc,
    BigEndian.shiftLeft_or (a.secHdrFlag % 2) (a.apid % 2048) 11 (by omega),
    BigEndian.shiftLeft_or (a.packetType % 2) _ 12 (by omega),
    BigEndian.shiftLeft_or (a.ccsdsVersion % 8) _ 13 (by omega), headerWord0]
  omega

theorem word1_eq : (seqFlagUnsegmented <<< 14) ||| (a.seqCount &&& 0x3FFF) = headerWord1 a := by
  have hcount := Nat.and_two_pow_sub_one_eq_mod a.seqCount 14
  simp only [Nat.reducePow, Nat.add_one_sub_one] at hcount
  rw [hcount, BigEndian.shiftLeft_or seqFlagUnsegmented (a.seqCount % 16384) 14 (by omega)]
  rfl

theorem versionAck_eq :
    ((a.pusVersion &&& 0x0F) <<< 4) ||| (a.ack &&& 0x0F) = versionAck a := by
  have hversion := Nat.and_two_pow_sub_one_eq_mod a.pusVersion 4
  have hack := Nat.and_two_pow_sub_one_eq_mod a.ack 4
  simp only [Nat.reducePow, Nat.add_one_sub_one] at hversion hack
  rw [hversion, hack, BigEndian.shiftLeft_or _ (a.ack % 16) 4 (by omega)]
  rfl

theorem buildTc_eq (hsource : a.sourceId < 65536) : buildTc a = some (builtPacket a) := by
  have hoctet (v : ℕ) : v &&& 0xFF = v % 256 := Nat.and_two_pow_sub_one_eq_mod v 8
  have hword (v : ℕ) : v &&& 0xFFFF = v % 65536 := Nat.and_two_pow_sub_one_eq_mod v 16
  have htotal (x y z : UInt8) : primaryHeaderLen + ([x, y, z] ++ bigEndian2 a.sourceId ++
      a.data).length + crcLen - primaryHeaderLen - 1 = a.data.length + 6 := by
    have hheader : primaryHeaderLen = 6 := rfl
    have hcrc : crcLen = 2 := rfl
    simp only [bigEndian2, List.length_append, List.length_cons, List.length_nil]
    omega
  simp only [buildTc, toBytes2_eq hsource, word0_eq, word1_eq, versionAck_eq, hoctet, hword,
    Option.bind_eq_bind, Option.bind_some, toBytes2_eq (headerWord0_lt a),
    toBytes2_eq (headerWord1_lt a), htotal]
  have hfield := toBytes2_eq (lengthField_lt a)
  have hcrc := toBytes2_eq (packetCrc_lt a)
  rw [packetCrc, packetBody] at hcrc
  rw [← lengthField, hfield, Option.bind_some, hcrc]
  rfl

theorem length_packetBody : (packetBody a).length = a.data.length + 11 := by
  simp only [packetBody, bigEndian2, List.length_append, List.length_cons, List.length_nil]
  omega

theorem length_builtPacket : (builtPacket a).length = a.data.length + 13 := by
  rw [builtPacket, List.length_append, length_packetBody]
  rfl

theorem octetAt_builtPacket :
    octetAt (builtPacket a) 0 = headerWord0 a / 256 ∧
      octetAt (builtPacket a) 1 = headerWord0 a % 256 ∧
      octetAt (builtPacket a) 2 = headerWord1 a / 256 ∧
      octetAt (builtPacket a) 3 = headerWord1 a % 256 ∧
      octetAt (builtPacket a) 4 = lengthField a / 256 ∧
      octetAt (builtPacket a) 5 = lengthField a % 256 ∧
      octetAt (builtPacket a) 6 = versionAck a := by
  have hword0 := headerWord0_lt a
  have hword1 := headerWord1_lt a
  have hlength := lengthField_lt a
  refine ⟨toNat_ofNat_octet ?_, toNat_ofNat_octet ?_, toNat_ofNat_octet ?_, toNat_ofNat_octet ?_,
    toNat_ofNat_octet ?_, toNat_ofNat_octet ?_, toNat_ofNat_octet (versionAck_lt a)⟩ <;> omega

/-- The packet error control field verifies unless the builder was told to spoil it. -/
theorem crc_builtPacket : ¬ChecksumRight (builtPacket a) ↔ a.validCrc = false := by
  have hlen : (builtPacket a).length - 2 = (packetBody a).length := by
    rw [length_builtPacket, length_packetBody]
    omega
  have htake : (builtPacket a).take (packetBody a).length = packetBody a := List.take_left
  have hdrop : (builtPacket a).drop (packetBody a).length = bigEndian2 (packetCrc a) :=
    List.drop_left
  rw [ChecksumRight, hlen, pusPutU16_eq, toNat_crc16Ccitt, htake, hdrop,
    bigEndian2_inj (crc16Ccitt_lt _) (packetCrc_lt a), packetCrc]
  cases a.validCrc with
  | true => simp
  | false =>
    have hspoiled : crc16Ccitt (packetBody a) ≠ crc16Ccitt (packetBody a) ^^^ 0x0001 := by
      intro h
      have hbit := congrArg (Nat.testBit · 0) h
      simp at hbit
      omega
    simp [hspoiled]

/-- A built packet passes or fails by its header options. -/
theorem firstFailing_builtPacket : firstFailing (builtPacket a) =
    if lengthField a ≠ a.data.length + 6 then .badLength
    else if a.validCrc = false then .badCrc
    else if a.ccsdsVersion % 8 ≠ 0 then .badVersion
    else if a.packetType % 2 ≠ 1 then .badPacketType
    else if a.secHdrFlag % 2 ≠ 1 then .noSecHeader
    else if a.apid % 2048 ≠ 0x00C then .badApid
    else if a.pusVersion % 16 ≠ 2 then .badVersion
    else .ok := by
  obtain ⟨h0, h1, -, -, h4, h5, h6⟩ := octetAt_builtPacket a
  have hlength := lengthField_lt a
  have hlong : ¬(builtPacket a).length < 13 := by
    rw [length_builtPacket]
    omega
  have htotal : 7 + (octetAt (builtPacket a) 4 * 256 + octetAt (builtPacket a) 5) ≠
      (builtPacket a).length ↔ lengthField a ≠ a.data.length + 6 := by
    rw [h4, h5, length_builtPacket]
    omega
  have hversion : octetAt (builtPacket a) 0 / 32 = a.ccsdsVersion % 8 := by
    rw [h0, headerWord0]
    omega
  have htype : octetAt (builtPacket a) 0 / 16 % 2 = a.packetType % 2 := by
    rw [h0, headerWord0]
    omega
  have hflag : octetAt (builtPacket a) 0 / 8 % 2 = a.secHdrFlag % 2 := by
    rw [h0, headerWord0]
    omega
  have hapid : octetAt (builtPacket a) 0 % 8 * 256 + octetAt (builtPacket a) 1 = a.apid % 2048 := by
    rw [h0, h1, headerWord0]
    omega
  have hpus : octetAt (builtPacket a) 6 / 16 = a.pusVersion % 16 := by
    rw [h6, versionAck]
    omega
  simp only [firstFailing, if_neg hlong, htotal, crc_builtPacket, hversion, htype, hflag, hapid,
    hpus]

end Built

end ObswPus.Ground
