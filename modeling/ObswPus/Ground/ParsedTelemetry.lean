import ObswPus.Codec.OwnTelemetry
import ObswPus.Ground.BuiltPacket

/-! # Telemetry as ground decodes it

The ground decoder takes every packet that the on-board builder makes, whatever report
it carries, and finds in it the report, the counters and the time it was built with.
-/
namespace ObswPus.Ground
open Flight Downlink Codec Library

theorem fromBytes_pusPutU16 (v : UInt16) : fromBytes (pusPutU16 v) = v.toNat := by
  have hv := v.toNat_lt
  simp only [fromBytes, pusPutU16, List.foldl_cons, List.foldl_nil]
  rw [BigEndian.toNat_high16, BigEndian.toNat_low16]
  omega

theorem fromBytes_pusPutU32 (v : UInt32) : fromBytes (pusPutU32 v) = v.toNat := by
  have hv := v.toNat_lt
  simp only [fromBytes, pusPutU32, List.foldl_cons, List.foldl_nil]
  rw [BigEndian.toNat_octet32 v 24 (by decide), BigEndian.toNat_octet32 v 16 (by decide),
    BigEndian.toNat_octet32 v 8 (by decide), BigEndian.toNat_low32]
  simp only [UInt32.reduceToNat]
  omega

theorem slice_of_drop {raw xs : List UInt8} (rest : List UInt8) {start stop : ℕ}
    (h : raw.drop start = xs ++ rest) (hlen : stop = start + xs.length) :
    slice raw start stop = xs := by
  rw [slice, List.drop_take, h, hlen, Nat.add_sub_cancel_left, List.take_left]

theorem and_07ff (n : ℕ) : n &&& 0x07FF = n % 2048 := Nat.and_two_pow_sub_one_eq_mod n 11

theorem and_3fff (n : ℕ) : n &&& 0x3FFF = n % 16384 := Nat.and_two_pow_sub_one_eq_mod n 14

section Parsed
variable (tm : PusTm) (time : UInt32 × UInt16) (r : Report)

/-- What ground finds in the packet of a report. -/
def parsedPacket : TmPacket :=
  { apid := 0x00C
    seqCount := tm.seqCount.toNat % 16384
    service := r.service.toNat
    subtype := r.subtype.toNat
    msgCounter := (tm.msgCounter.get r.service.toNat).toNat
    destinationId := 0x0001
    timeCoarse := time.1.toNat
    timeFine := time.2.toNat
    data := r.data
    raw := tmPacket tm time r }

theorem parseTm_tmPacket : parseTm (tmPacket tm time r) = .ok (parsedPacket tm time r) := by
  have hmin : pusTmMinLen = 21 := rfl
  have hlen := tmPacket_length tm time r
  have hbody := tmBody_length tm time r
  have hword0 : slice (tmPacket tm time r) 0 2 = pusPutU16 (ccsdsWord0 (tmPrimary tm r)) :=
    slice_of_drop _ (drop_zero_tmPacket tm time r) rfl
  have hword1 : slice (tmPacket tm time r) 2 4 = pusPutU16 (ccsdsWord1 (tmPrimary tm r)) :=
    slice_of_drop _ (drop_two_tmPacket tm time r) rfl
  have hlength : slice (tmPacket tm time r) 4 6 = pusPutU16 (tmPrimary tm r).dataLength :=
    slice_of_drop _ (drop_four_tmPacket tm time r) rfl
  have hcounter : slice (tmPacket tm time r) 9 11 =
      pusPutU16 (tm.msgCounter.get r.service.toNat) :=
    slice_of_drop ((tmPacket tm time r).drop 11) (by rfl) rfl
  have hdestination : slice (tmPacket tm time r) 11 13 = pusPutU16 pusTmDestinationId :=
    slice_of_drop ((tmPacket tm time r).drop 13) (by rfl) rfl
  have hcoarse : slice (tmPacket tm time r) 13 17 = pusPutU32 time.1 :=
    slice_of_drop ((tmPacket tm time r).drop 17) (by rfl) rfl
  have hfine : slice (tmPacket tm time r) 17 19 = pusPutU16 time.2 :=
    slice_of_drop ((tmPacket tm time r).drop 19) (by rfl) rfl
  have hdata : slice (tmPacket tm time r) 19 ((tmPacket tm time r).length - 2) = r.data :=
    slice_of_drop
      (pusPutU16 (Flight.crc16Ccitt (some (tmBody tm time r)) (tmBody tm time r).length))
      (by rfl) (by omega)
  have hcrc : crc16Ccitt ((tmPacket tm time r).take ((tmPacket tm time r).length - 2)) =
      fromBytes ((tmPacket tm time r).drop ((tmPacket tm time r).length - 2)) := by
    rw [← checksumRight_tmPacket, fromBytes_pusPutU16, toNat_crc16Ccitt]
  have hlong : ¬(tmPacket tm time r).length < 21 := by omega
  have htotal : 6 + (r.data.length + 14) + 1 = (tmPacket tm time r).length := by omega
  have hversion : ((tmPacket tm time r).getD 6 0).toNat = 32 := version_tmPacket tm time r
  have hservice : (tmPacket tm time r).getD 7 0 = r.service := tmService_tmPacket tm time r
  have hsubtype : (tmPacket tm time r).getD 8 0 = r.subtype := tmSubtype_tmPacket tm time r
  have hseqCount : (3 * 16384 + tm.seqCount.toNat % 16384) % 16384 =
      tm.seqCount.toNat % 16384 := by omega
  have htype : 0x080C >>> 12 &&& 0x01 = 0 := rfl
  have hpus : 32 >>> 4 &&& 0x0F = pusVersionC := rfl
  simp only [parseTm, primaryHeaderLen, tmSecHeaderLen, crcLen, Nat.reduceAdd, if_neg hlong, hword0,
    hword1, hlength, hcounter, hdestination, hcoarse, hfine, hdata, fromBytes_pusPutU16,
    fromBytes_pusPutU32, toNat_ccsdsWord0_tmPrimary, toNat_ccsdsWord1_tmPrimary,
    toNat_dataLength_tmPrimary, htotal, hcrc, hversion, hservice, hsubtype, and_07ff, and_3fff,
    hseqCount, ne_eq, not_true_eq_false, if_false, htype, hpus]
  rfl

end Parsed

end ObswPus.Ground
