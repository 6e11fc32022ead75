import ObswPus.Codec.Acceptance
import ObswPus.Downlink.PacketFields

/-! # Telemetry packets under the telecommand checks

The header octets of the packets that the builder makes, whatever report they carry,
and what the acceptance checks of the uplink make of such a packet: its length and
its checksum are right, and it is refused for its packet type.
-/
namespace ObswPus.Codec
open Flight Downlink Library

section Octets
variable (tm : PusTm) (time : UInt32 × UInt16) (r : Report)

theorem toNat_ccsdsWord0_tmPrimary : (ccsdsWord0 (tmPrimary tm r)).toNat = 0x080C := by
  have hapid : pusTmApid.toNat = 0x00C := rfl
  simp only [toNat_ccsdsWord0, tmPrimary, hapid]
  decide

theorem toNat_ccsdsWord1_tmPrimary : (ccsdsWord1 (tmPrimary tm r)).toNat =
    3 * 16384 + tm.seqCount.toNat % 16384 := by
  have hcount := toNat_lowField tm.seqCount 0x3FFF 14 rfl
  have hflags : ccsdsSeqFlagUnsegmented.toNat % 4 = 3 := rfl
  simp only [Nat.reducePow] at hcount
  simp only [toNat_ccsdsWord1, tmPrimary, hcount, hflags, Nat.mod_mod]

theorem toNat_dataLength_tmPrimary :
    (tmPrimary tm r).dataLength.toNat = r.data.length + 14 := by
  have hmin : pusTmMinLen = 21 := rfl
  have hprimary : ccsdsPrimaryHeaderLen = 6 := rfl
  have hmax : pusMaxPacketSize = 256 := rfl
  have hfits := r.fits
  rw [tmPrimary, UInt16.toNat_ofNat', Nat.mod_eq_of_lt (by omega)]
  omega

theorem drop_zero_tmPacket : tmPacket tm time r =
    pusPutU16 (ccsdsWord0 (tmPrimary tm r)) ++ (tmPacket tm time r).drop 2 := by rfl

theorem drop_two_tmPacket : (tmPacket tm time r).drop 2 =
    pusPutU16 (ccsdsWord1 (tmPrimary tm r)) ++ (tmPacket tm time r).drop 4 := by rfl

theorem drop_four_tmPacket : (tmPacket tm time r).drop 4 =
    pusPutU16 (tmPrimary tm r).dataLength ++ (tmPacket tm time r).drop 6 := by rfl

theorem word0_tmPacket :
    octetAt (tmPacket tm time r) 0 * 256 + octetAt (tmPacket tm time r) 1 = 0x080C := by
  rw [← toNat_pusGetU16, drop_zero_tmPacket, pusGetU16_pusPutU16, toNat_ccsdsWord0_tmPrimary]

theorem word1_tmPacket :
    octetAt (tmPacket tm time r) 2 * 256 + octetAt (tmPacket tm time r) 3 =
      3 * 16384 + tm.seqCount.toNat % 16384 := by
  rw [← toNat_pusGetU16_drop, drop_two_tmPacket, pusGetU16_pusPutU16, toNat_ccsdsWord1_tmPrimary]

theorem lengthField_tmPacket :
    octetAt (tmPacket tm time r) 4 * 256 + octetAt (tmPacket tm time r) 5 =
      r.data.length + 14 := by
  rw [← toNat_pusGetU16_drop, drop_four_tmPacket, pusGetU16_pusPutU16, toNat_dataLength_tmPrimary]

theorem version_tmPacket : octetAt (tmPacket tm time r) 6 = 32 := rfl

theorem checksumRight_tmPacket : ChecksumRight (tmPacket tm time r) := by
  have hlen : (tmPacket tm time r).length - 2 = (tmBody tm time r).length := by
    have hmin : pusTmMinLen = 21 := rfl
    rw [tmPacket_length, tmBody_length]
    omega
  have htake : (tmPacket tm time r).take (tmBody tm time r).length = tmBody tm time r :=
    List.take_left
  have hdrop : (tmPacket tm time r).drop (tmBody tm time r).length =
      pusPutU16 (crc16Ccitt (some (tmBody tm time r)) (tmBody tm time r).length) :=
    List.drop_left
  rw [ChecksumRight, hlen, hdrop]
  simp only [crc16Ccitt, htake, List.take_length]

/-- The packet type is the first check that a telemetry packet fails. -/
theorem firstFailing_tmPacket : firstFailing (tmPacket tm time r) = .badPacketType := by
  have hmin : pusTmMinLen = 21 := rfl
  have hlen := tmPacket_length tm time r
  have hword := word0_tmPacket tm time r
  have h1 := octetAt_lt (tmPacket tm time r) 1
  have htotal := lengthField_tmPacket tm time r
  have hfirst : octetAt (tmPacket tm time r) 0 = 8 := by omega
  have hlong : ¬(tmPacket tm time r).length < 13 := by omega
  have hlength : 7 + (octetAt (tmPacket tm time r) 4 * 256 + octetAt (tmPacket tm time r) 5) =
      (tmPacket tm time r).length := by omega
  simp only [firstFailing, if_neg hlong, hlength, ne_eq, not_true_eq_false, if_false,
    checksumRight_tmPacket, hfirst]
  exact if_pos (by decide)

end Octets

theorem pusTmBuild_ok {s : Obsw} {buf src : Option (List UInt8)} {cap srcLen : ℕ}
    {service subtype : UInt8} {out : Option ℕ} (hlen : srcLen ≤ pusMaxPacketSize)
    (h : (pusTmBuild s buf cap service subtype src srcLen out).status = .ok) :
    (∃ octets, buf = some octets) ∧ (∃ n, out = some n) ∧ pusTmMinLen + srcLen ≤ cap := by
  have hmin : pusTmMinLen = 21 := rfl
  have hmax : pusMaxPacketSize = 256 := rfl
  have htotal : (pusTmMinLen + srcLen) % sizeModulus = pusTmMinLen + srcLen :=
    Nat.mod_eq_of_lt (lt_of_le_of_lt (b := 512) (by omega) (by decide))
  unfold pusTmBuild at h
  split at h
  · cases h
  rename_i hpointers
  split at h
  · cases h
  rw [htotal] at h
  simp only at h
  split at h
  · cases h
  rename_i hroom
  rw [not_or, Bool.not_eq_true, Bool.not_eq_true, Option.isNone_eq_false_iff,
    Option.isNone_eq_false_iff, Option.isSome_iff_exists, Option.isSome_iff_exists] at hpointers
  exact ⟨hpointers.1, hpointers.2, by omega⟩

/-- The unit refuses each of its own telemetry packets for being telemetry, although the
addresses are the same. The source data is a null pointer or as long as declared. -/
theorem own_telemetry_refused (s : Obsw) (buf : Option (List UInt8)) (cap : ℕ)
    (service subtype : UInt8) (src : Option (List UInt8)) (out : Option ℕ)
    (hsrc : (src.getD []).length ≤ 235)
    (hok : (pusTmBuild s buf cap service subtype src (src.getD []).length out).status = .ok) :
    ∃ octets total,
      (pusTmBuild s buf cap service subtype src (src.getD []).length out).buf = some octets ∧
      (pusTmBuild s buf cap service subtype src (src.getD []).length out).outLen = some total ∧
      (octets.take total).length = total ∧
      pusTcParse (some (octets.take total)) total = .error .badPacketType := by
  have hmin : pusTmMinLen = 21 := rfl
  have hmax : pusMaxPacketSize = 256 := rfl
  obtain ⟨⟨octets, rfl⟩, ⟨n, rfl⟩, hcap⟩ := pusTmBuild_ok (by omega) hok
  let r : Report := ⟨service, subtype, src.getD [], by omega⟩
  have hnull : src.isNone → src.getD [] = [] := by
    intro h
    rw [Option.isNone_iff_eq_none.mp h, Option.getD_none]
  have hbuild := pusTmBuild_eq s octets r cap n hcap src rfl hnull
  have hlen := tmPacket_length s.tm (halGetCucTime s.hal) r
  have htake := take_storeAt_zero octets (tmPacket s.tm (halGetCucTime s.hal) r)
  rw [hlen] at htake
  refine ⟨_, _, congrArg BuildResult.buf hbuild, congrArg BuildResult.outLen hbuild, ?_, ?_⟩
  · rw [htake, hlen]
  · rw [htake, ← hlen, pusTcParse_eq, firstFailing_tmPacket]
    exact if_neg (by decide)

/-- A unit that has sent many packets, its sequence counter about to wrap. -/
def longInService : Obsw :=
  { (default : Obsw) with tm := { seqCount := 0x3FFF, msgCounter := .fill 256 412 } }

theorem own_telemetry_refused_housekeeping :
    (pusTmBuild longInService (some (List.replicate 256 0xEE)) 256 3 25 (some [1, 0, 200]) 3
        (some 0)).status = .ok ∧
      ∃ octets total,
        (pusTmBuild longInService (some (List.replicate 256 0xEE)) 256 3 25 (some [1, 0, 200]) 3
          (some 0)).buf = some octets ∧
        (pusTmBuild longInService (some (List.replicate 256 0xEE)) 256 3 25 (some [1, 0, 200]) 3
          (some 0)).outLen = some total ∧
        (octets.take total).length = total ∧
        pusTcParse (some (octets.take total)) total = .error .badPacketType := by
  have hstatus : (pusTmBuild longInService (some (List.replicate 256 0xEE)) 256 3 25
      (some [1, 0, 200]) 3 (some 0)).status = .ok :=
    congrArg BuildResult.status (pusTmBuild_eq longInService _ ⟨3, 25, [1, 0, 200], by decide⟩ 256 0
      (by decide) _ rfl (by simp))
  exact ⟨hstatus, own_telemetry_refused longInService (some (List.replicate 256 0xEE)) 256 3 25
    (some [1, 0, 200]) (some 0) (by decide) hstatus⟩

end ObswPus.Codec
