import ObswPus.Downlink.Report

/-! # Reading a packet back

Ground's view of a telemetry packet: each field at its fixed place. The packets the
builder makes show the report they carry and the counters they were built with.
-/
namespace ObswPus.Downlink
open Flight Library

def tmSeqCount (p : List UInt8) : UInt16 := pusGetU16 (p.drop 2) &&& 0x3FFF
def tmService (p : List UInt8) : UInt8 := p.getD 7 0
def tmSubtype (p : List UInt8) : UInt8 := p.getD 8 0
def tmMsgCounter (p : List UInt8) : UInt16 := pusGetU16 (p.drop 9)
def tmTime (p : List UInt8) : UInt32 × UInt16 := (pusGetU32 (p.drop 13), pusGetU16 (p.drop 17))
def tmData (p : List UInt8) : List UInt8 := (p.drop 19).take (p.length - pusTmMinLen)

/-- Service, subtype and source data: what a packet says, counters and time left aside. -/
abbrev Content := UInt8 × UInt8 × List UInt8

def tmContent (p : List UInt8) : Content := (tmService p, tmSubtype p, tmData p)

/-- The content that a report asks for. -/
def Report.content (r : Report) : Content := (r.service, r.subtype, r.data)

section Fields
variable (tm : PusTm) (time : UInt32 × UInt16) (r : Report)

theorem tmSeqCount_tmPacket : tmSeqCount (tmPacket tm time r) = tm.seqCount &&& 0x3FFF := by
  have hword : ccsdsWord1 (tmPrimary tm r) &&& 0x3FFF = tm.seqCount &&& 0x3FFF := by
    simp only [ccsdsWord1, tmPrimary, UInt16.and_assoc, UInt16.and_self]
    exact BigEndian.or_and_mask _ _ _ (by decide)
  have hdrop : (tmPacket tm time r).drop 2 = pusPutU16 (ccsdsWord1 (tmPrimary tm r)) ++
      (tmPacket tm time r).drop 4 := rfl
  rw [tmSeqCount, hdrop, pusGetU16_pusPutU16, hword]

@[simp] theorem tmService_tmPacket : tmService (tmPacket tm time r) = r.service := by
  simp [tmService, tmPacket, tmBody, pusPutU16]

@[simp] theorem tmSubtype_tmPacket : tmSubtype (tmPacket tm time r) = r.subtype := by
  simp [tmSubtype, tmPacket, tmBody, pusPutU16]

theorem tmMsgCounter_tmPacket :
    tmMsgCounter (tmPacket tm time r) = tm.msgCounter.get r.service.toNat := by
  have hdrop : (tmPacket tm time r).drop 9 = pusPutU16 (tm.msgCounter.get r.service.toNat) ++
      (tmPacket tm time r).drop 11 := rfl
  rw [tmMsgCounter, hdrop, pusGetU16_pusPutU16]

@[simp] theorem tmTime_tmPacket : tmTime (tmPacket tm time r) = time := by
  have hcoarse : (tmPacket tm time r).drop 13 = pusPutU32 time.1 ++
      (tmPacket tm time r).drop 17 := rfl
  have hfine : (tmPacket tm time r).drop 17 = pusPutU16 time.2 ++
      (tmPacket tm time r).drop 19 := rfl
  rw [tmTime, hcoarse, pusGetU32_pusPutU32, hfine, pusGetU16_pusPutU16]

@[simp] theorem tmData_tmPacket : tmData (tmPacket tm time r) = r.data := by
  have hdrop : (tmPacket tm time r).drop 19 = r.data ++
      pusPutU16 (crc16Ccitt (some (tmBody tm time r)) (tmBody tm time r).length) := rfl
  rw [tmData, tmPacket_length, hdrop, Nat.add_sub_cancel_left, List.take_left' rfl]

@[simp] theorem tmContent_tmPacket : tmContent (tmPacket tm time r) = r.content := by
  simp [tmContent, Report.content]

end Fields

end ObswPus.Downlink
