import ObswPus.Flight.Packet

/-! # Bit fields of the primary header

The numeric values of the words that the header codec packs, and of the fields that
it unpacks. Both are place values: no field carries into a neighbouring one.
-/
namespace ObswPus.Codec
open Flight Library

theorem toNat_field (w k m : UInt16) (j : ℕ) (hk : k.toNat < 16) (hj : j ≤ 8)
    (hm : m.toNat = 2 ^ j - 1) :
    ((w >>> k) &&& m).toUInt8.toNat = w.toNat / 2 ^ k.toNat % 2 ^ j := by
  have hpow : 2 ^ j ≤ 2 ^ 8 := Nat.pow_le_pow_right (by decide) hj
  have hlt : w.toNat / 2 ^ k.toNat % 2 ^ j < 2 ^ j := Nat.mod_lt _ (Nat.two_pow_pos j)
  simp only [UInt16.toNat_toUInt8, UInt16.toNat_and, UInt16.toNat_shiftRight, Nat.mod_eq_of_lt hk,
    hm, Nat.and_two_pow_sub_one_eq_mod, Nat.shiftRight_eq_div_pow]
  exact Nat.mod_eq_of_lt (by omega)

theorem toNat_lowField (w m : UInt16) (j : ℕ) (hm : m.toNat = 2 ^ j - 1) :
    (w &&& m).toNat = w.toNat % 2 ^ j := by
  rw [UInt16.toNat_and, hm, Nat.and_two_pow_sub_one_eq_mod]

theorem toNat_placed (v m : UInt8) (k : UInt16) (j : ℕ) (hk : k.toNat < 16)
    (hfit : j + k.toNat ≤ 16) (hm : m.toNat = 2 ^ j - 1) :
    ((v &&& m).toUInt16 <<< k).toNat = v.toNat % 2 ^ j * 2 ^ k.toNat := by
  have hlt : v.toNat % 2 ^ j * 2 ^ k.toNat < 2 ^ 16 :=
    calc v.toNat % 2 ^ j * 2 ^ k.toNat < 2 ^ j * 2 ^ k.toNat :=
          Nat.mul_lt_mul_of_pos_right (Nat.mod_lt _ (Nat.two_pow_pos j)) (Nat.two_pow_pos _)
      _ = 2 ^ (j + k.toNat) := (Nat.pow_add 2 j k.toNat).symm
      _ ≤ 2 ^ 16 := Nat.pow_le_pow_right (by decide) hfit
  simp only [UInt16.toNat_shiftLeft, UInt8.toNat_toUInt16, UInt8.toNat_and, hm,
    Nat.and_two_pow_sub_one_eq_mod, Nat.mod_eq_of_lt hk, Nat.shiftLeft_eq]
  exact Nat.mod_eq_of_lt hlt

theorem mul_two_pow_or (a b k : ℕ) (hb : b < 2 ^ k) : a * 2 ^ k ||| b = a * 2 ^ k + b := by
  rw [← Nat.shiftLeft_eq, BigEndian.shiftLeft_or a b k hb, Nat.shiftLeft_eq]

theorem toNat_ccsdsWord0 (hdr : CcsdsPrimaryHeader) : (ccsdsWord0 hdr).toNat =
    hdr.version.toNat % 8 * 8192 + hdr.packetType.toNat % 2 * 4096 +
      hdr.secHdrFlag.toNat % 2 * 2048 + hdr.apid.toNat % 2048 := by
  have hversion := toNat_placed hdr.version 0x07 13 3 (by decide) (by decide) rfl
  have htype := toNat_placed hdr.packetType 0x01 12 1 (by decide) (by decide) rfl
  have hflag := toNat_placed hdr.secHdrFlag 0x01 11 1 (by decide) (by decide) rfl
  have hapid := toNat_lowField hdr.apid 0x07FF 11 rfl
  simp only [UInt16.reduceToNat, Nat.reducePow, Nat.pow_one] at hversion htype hflag hapid
  simp only [ccsdsWord0, UInt16.toNat_or, hversion, htype, hflag, hapid, Nat.or_assoc]
  have hb := mul_two_pow_or (hdr.secHdrFlag.toNat % 2) (hdr.apid.toNat % 2048) 11 (by omega)
  have ht := mul_two_pow_or (hdr.packetType.toNat % 2)
    (hdr.secHdrFlag.toNat % 2 * 2048 + hdr.apid.toNat % 2048) 12 (by omega)
  have hv := mul_two_pow_or (hdr.version.toNat % 8)
    (hdr.packetType.toNat % 2 * 4096 +
      (hdr.secHdrFlag.toNat % 2 * 2048 + hdr.apid.toNat % 2048)) 13 (by omega)
  simp only [Nat.reducePow] at hb ht hv
  rw [hb, ht, hv]
  omega

theorem toNat_ccsdsWord1 (hdr : CcsdsPrimaryHeader) : (ccsdsWord1 hdr).toNat =
    hdr.seqFlags.toNat % 4 * 16384 + hdr.seqCount.toNat % 16384 := by
  have hflags := toNat_placed hdr.seqFlags 0x03 14 2 (by decide) (by decide) rfl
  have hcount := toNat_lowField hdr.seqCount 0x3FFF 14 rfl
  have hjoin := mul_two_pow_or (hdr.seqFlags.toNat % 4) (hdr.seqCount.toNat % 16384) 14 (by omega)
  simp only [UInt16.reduceToNat, Nat.reducePow] at hflags hcount hjoin
  rw [ccsdsWord1, UInt16.toNat_or, hflags, hcount, hjoin]

/-- The six octets of a packed header. -/
def packedHeader (hdr : CcsdsPrimaryHeader) : List UInt8 :=
  pusPutU16 (ccsdsWord0 hdr) ++ pusPutU16 (ccsdsWord1 hdr) ++ pusPutU16 hdr.dataLength

theorem length_packedHeader (hdr : CcsdsPrimaryHeader) : (packedHeader hdr).length = 6 := by
  simp [packedHeader]

/-- Packing writes the six octets of the header and no others. -/
theorem ccsdsPackPrimary_eq (hdr : CcsdsPrimaryHeader) (buf : List UInt8) (bufLen : ℕ)
    (hlen : ccsdsPrimaryHeaderLen ≤ bufLen) :
    ccsdsPackPrimary (some hdr) (some buf) bufLen =
      (.ok, some (storeAt buf 0 (packedHeader hdr))) := by
  have h2 := storeAt_storeAt buf (pusPutU16 (ccsdsWord0 hdr)) (pusPutU16 (ccsdsWord1 hdr)) 0
    (Nat.zero_le _)
  have h4 := storeAt_storeAt buf (pusPutU16 (ccsdsWord0 hdr) ++ pusPutU16 (ccsdsWord1 hdr))
    (pusPutU16 hdr.dataLength) 0 (Nat.zero_le _)
  simp only [Nat.zero_add, List.length_append, length_pusPutU16, Nat.reduceAdd] at h2 h4
  simp only [ccsdsPackPrimary, if_neg (Nat.not_lt.mpr hlen), h2, h4, packedHeader]

/-- The header that the first six octets encode. -/
def unpackedHeader (octets : List UInt8) : CcsdsPrimaryHeader :=
  { version := ((pusGetU16 octets >>> 13) &&& 0x07).toUInt8
    packetType := ((pusGetU16 octets >>> 12) &&& 0x01).toUInt8
    secHdrFlag := ((pusGetU16 octets >>> 11) &&& 0x01).toUInt8
    apid := pusGetU16 octets &&& 0x07FF
    seqFlags := ((pusGetU16 (octets.drop 2) >>> 14) &&& 0x03).toUInt8
    seqCount := pusGetU16 (octets.drop 2) &&& 0x3FFF
    dataLength := pusGetU16 (octets.drop 4) }

theorem ccsdsUnpackPrimary_eq (octets : List UInt8) {len : ℕ} (hlen : ccsdsPrimaryHeaderLen ≤ len) :
    ccsdsUnpackPrimary (some octets) len = .ok (unpackedHeader octets) := by
  simp only [ccsdsUnpackPrimary, if_neg (Nat.not_lt.mpr hlen), unpackedHeader]

theorem ccsdsWord0_unpackedHeader (octets : List UInt8) :
    ccsdsWord0 (unpackedHeader octets) = pusGetU16 octets := by
  have hlt := (pusGetU16 octets).toNat_lt
  have hversion := toNat_field (pusGetU16 octets) 13 0x07 3 (by decide) (by decide) rfl
  have htype := toNat_field (pusGetU16 octets) 12 0x01 1 (by decide) (by decide) rfl
  have hflag := toNat_field (pusGetU16 octets) 11 0x01 1 (by decide) (by decide) rfl
  have hapid := toNat_lowField (pusGetU16 octets) 0x07FF 11 rfl
  simp only [UInt16.reduceToNat, Nat.reducePow] at hversion htype hflag hapid
  apply UInt16.toNat_inj.mp
  rw [toNat_ccsdsWord0]
  simp only [unpackedHeader, hversion, htype, hflag, hapid]
  omega

theorem ccsdsWord1_unpackedHeader (octets : List UInt8) :
    ccsdsWord1 (unpackedHeader octets) = pusGetU16 (octets.drop 2) := by
  have hlt := (pusGetU16 (octets.drop 2)).toNat_lt
  have hflags := toNat_field (pusGetU16 (octets.drop 2)) 14 0x03 2 (by decide) (by decide) rfl
  have hcount := toNat_lowField (pusGetU16 (octets.drop 2)) 0x3FFF 14 rfl
  simp only [UInt16.reduceToNat, Nat.reducePow] at hflags hcount
  apply UInt16.toNat_inj.mp
  rw [toNat_ccsdsWord1]
  simp only [unpackedHeader, hflags, hcount]
  omega

theorem packedHeader_unpackedHeader (octets : List UInt8)
    (h : ccsdsPrimaryHeaderLen ≤ octets.length) :
    packedHeader (unpackedHeader octets) = octets.take 6 := by
  have h6 : ccsdsPrimaryHeaderLen = 6 := rfl
  have hsplit : octets.take 6 =
      octets.take 2 ++ (octets.drop 2).take 2 ++ (octets.drop 4).take 2 := by
    rw [← List.take_add, ← List.take_add]
  rw [packedHeader, ccsdsWord0_unpackedHeader, ccsdsWord1_unpackedHeader, unpackedHeader, hsplit,
    pusPutU16_pusGetU16 _ (by omega), pusPutU16_pusGetU16 _ (by simp; omega),
    pusPutU16_pusGetU16 _ (by simp; omega)]

def reduced (hdr : CcsdsPrimaryHeader) : CcsdsPrimaryHeader :=
  { version := hdr.version % 8
    packetType := hdr.packetType % 2
    secHdrFlag := hdr.secHdrFlag % 2
    apid := hdr.apid % 2048
    seqFlags := hdr.seqFlags % 4
    seqCount := hdr.seqCount % 16384
    dataLength := hdr.dataLength }

/-- What a packed header reads as, whatever follows it: no field has met another. -/
theorem unpackedHeader_packedHeader (hdr : CcsdsPrimaryHeader) (rest : List UInt8) :
    unpackedHeader (packedHeader hdr ++ rest) = reduced hdr := by
  have hword0 : pusGetU16 (packedHeader hdr ++ rest) = ccsdsWord0 hdr := by
    rw [packedHeader, List.append_assoc, List.append_assoc, pusGetU16_pusPutU16]
  have hword1 : pusGetU16 ((packedHeader hdr ++ rest).drop 2) = ccsdsWord1 hdr := by
    rw [packedHeader, List.append_assoc, List.append_assoc, List.drop_left' (length_pusPutU16 _),
      pusGetU16_pusPutU16]
  have hlength : pusGetU16 ((packedHeader hdr ++ rest).drop 4) = hdr.dataLength := by
    rw [packedHeader, List.append_assoc, List.drop_left' (by simp), pusGetU16_pusPutU16]
  have hversion := toNat_field (ccsdsWord0 hdr) 13 0x07 3 (by decide) (by decide) rfl
  have htype := toNat_field (ccsdsWord0 hdr) 12 0x01 1 (by decide) (by decide) rfl
  have hflag := toNat_field (ccsdsWord0 hdr) 11 0x01 1 (by decide) (by decide) rfl
  have hapid := toNat_lowField (ccsdsWord0 hdr) 0x07FF 11 rfl
  have hflags := toNat_field (ccsdsWord1 hdr) 14 0x03 2 (by decide) (by decide) rfl
  have hcount := toNat_lowField (ccsdsWord1 hdr) 0x3FFF 14 rfl
  simp only [UInt16.reduceToNat, Nat.reducePow, toNat_ccsdsWord0, toNat_ccsdsWord1]
    at hversion htype hflag hapid hflags hcount
  simp only [unpackedHeader, hword0, hword1, hlength, reduced, CcsdsPrimaryHeader.mk.injEq,
    ← UInt8.toNat_inj, ← UInt16.toNat_inj, UInt8.toNat_mod, UInt16.toNat_mod, UInt8.reduceToNat,
    UInt16.reduceToNat, hversion, htype, hflag, hapid, hflags, hcount, and_true]
  omega

/-- A header that was packed is unpacked with every field cut to its width, and no octet behind
the sixth is touched; a header that was unpacked is packed as the octets it was read from. -/
theorem primaryHeader_lossless (hdr : CcsdsPrimaryHeader) (buf : List UInt8) (len : ℕ)
    (hlen : ccsdsPrimaryHeaderLen ≤ len) (hbuf : len ≤ buf.length) :
    (∃ out, ccsdsPackPrimary (some hdr) (some buf) len = (.ok, some out) ∧
      out.length = buf.length ∧ out.drop 6 = buf.drop 6 ∧
      ccsdsUnpackPrimary (some out) len = .ok (reduced hdr)) ∧
    ∃ read, ccsdsUnpackPrimary (some buf) len = .ok read ∧
      ∀ target : List UInt8, ccsdsPrimaryHeaderLen ≤ target.length →
        ∃ out, ccsdsPackPrimary (some read) (some target) target.length = (.ok, some out) ∧
          out.take 6 = buf.take 6 := by
  have hsix (hdr : CcsdsPrimaryHeader) := length_packedHeader hdr
  have h6 : ccsdsPrimaryHeaderLen = 6 := rfl
  constructor
  · refine ⟨_, ccsdsPackPrimary_eq hdr buf len hlen, ?_, ?_, ?_⟩
    · apply length_storeAt
      rw [hsix]
      omega
    · rw [storeAt, List.take_zero, List.nil_append, hsix, List.drop_left' (hsix hdr)]
    · rw [ccsdsUnpackPrimary_eq _ hlen, storeAt, List.take_zero, List.nil_append,
        unpackedHeader_packedHeader]
  · refine ⟨_, ccsdsUnpackPrimary_eq buf hlen, ?_⟩
    intro target htarget
    refine ⟨_, ccsdsPackPrimary_eq _ target _ htarget, ?_⟩
    rw [storeAt, List.take_zero, List.nil_append, List.take_left' (hsix _),
      packedHeader_unpackedHeader buf (hlen.trans hbuf)]

/-- A header whose every field is too wide, packed into a buffer of eight octets. -/
def overwideHeader : CcsdsPrimaryHeader :=
  { version := 255
    packetType := 254
    secHdrFlag := 255
    apid := 65535
    seqFlags := 254
    seqCount := 65535
    dataLength := 65535 }

theorem primaryHeader_lossless_overwide :
    ∃ out, ccsdsPackPrimary (some overwideHeader) (some [0, 0, 0, 0, 0, 0, 170, 85]) 8 =
        (.ok, some out) ∧
      out.length = 8 ∧ out.drop 6 = [170, 85] ∧
      ccsdsUnpackPrimary (some out) 8 =
        .ok ⟨7, 0, 1, 2047, 2, 16383, 65535⟩ :=
  (primaryHeader_lossless overwideHeader [0, 0, 0, 0, 0, 0, 170, 85] 8 (by decide)
    (by decide)).1

end ObswPus.Codec
