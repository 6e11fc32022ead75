import ObswPus.Flight.Packet
import ObswPus.Flight.Hal
import ObswPus.Flight.TmQueue

/-! # Telemetry packet construction

The packet builder of `pus_tm.c` with its sequence count and per-service message
counters, and the one function through which every packet reaches the queue.
-/
namespace ObswPus.Flight
open Library

/-- version/time-status, type, subtype, message counter, destination ID, CUC time. -/
abbrev pusTmSecHeaderLen : ℕ := 13

abbrev pusTmMinLen : ℕ := ccsdsPrimaryHeaderLen + pusTmSecHeaderLen + ccsdsCrcLen

/-- 0 = time not synchronised to ground. -/
abbrev pusTmTimeRefStatus : UInt8 := 0

def pusTmReset : PusTm := { seqCount := 0, msgCounter := .fill 256 0 }

/-- What `pus_tm_build` returns and leaves in `*buf`, `*out_len` and the statics. -/
structure BuildResult where
  status : PusStatus
  buf : Option (List UInt8)
  outLen : Option ℕ
  obsw : Obsw

def pusTmBuild (s : Obsw) (buf : Option (List UInt8)) (cap : ℕ) (service subtype : UInt8)
    (srcData : Option (List UInt8)) (srcLen : ℕ) (outLen : Option ℕ) : BuildResult :=
  if buf.isNone ∨ outLen.isNone then ⟨.null, buf, outLen, s⟩
  else if srcData.isNone ∧ 0 < srcLen then ⟨.null, buf, outLen, s⟩
  else
    let total := (pusTmMinLen + srcLen) % sizeModulus
    if cap < total ∨ pusMaxPacketSize < total then ⟨.bufferTooSmall, buf, outLen, s⟩
    else
      let hdr : CcsdsPrimaryHeader :=
        { version := 0
          packetType := ccsdsTypeTm
          secHdrFlag := 1
          apid := pusTmApid
          seqFlags := ccsdsSeqFlagUnsegmented
          seqCount := s.tm.seqCount &&& 0x3FFF
          dataLength := UInt16.ofNat (sizeSub (sizeSub total ccsdsPrimaryHeaderLen) 1) }
      let packed := ccsdsPackPrimary (some hdr) buf cap
      if packed.1 ≠ .ok then ⟨packed.1, packed.2, outLen, s⟩
      else
        let off := ccsdsPrimaryHeaderLen
        let time := halGetCucTime s.hal
        let octets := packed.2.getD []
        let octets := storeAt octets off [(pusVersionC <<< 4) ||| pusTmTimeRefStatus]
        let octets := storeAt octets (off + 1) [service]
        let octets := storeAt octets (off + 2) [subtype]
        let octets := storeAt octets (off + 3) (pusPutU16 (s.tm.msgCounter.get service.toNat))
        let octets := storeAt octets (off + 5) (pusPutU16 pusTmDestinationId)
        let octets := storeAt octets (off + 7) (pusPutU32 time.1)
        let octets := storeAt octets (off + 11) (pusPutU16 time.2)
        let off := off + pusTmSecHeaderLen
        let octets := storeAt octets off ((srcData.getD []).take srcLen)
        let off := off + srcLen
        let octets := storeAt octets off (pusPutU16 (crc16Ccitt (some octets) off))
        ⟨.ok, some octets, some total,
          { s with tm :=
            { seqCount := (s.tm.seqCount + 1) &&& 0x3FFF
              msgCounter :=
                s.tm.msgCounter.set service.toNat (s.tm.msgCounter.get service.toNat + 1) } }⟩

/-- The local `packet` buffer is overwritten from its start; its old contents are not used. -/
def pusTmSend (s : Obsw) (service subtype : UInt8) (srcData : Option (List UInt8))
    (srcLen : ℕ) : PusStatus × Obsw :=
  let packet : List UInt8 := List.replicate pusMaxPacketSize 0
  let built := pusTmBuild s (some packet) pusMaxPacketSize service subtype srcData srcLen (some 0)
  if built.status ≠ .ok then (built.status, built.obsw)
  else
    let len := built.outLen.getD 0
    let pushed := tmQueuePush built.obsw.queue built.buf len
    (pushed.1,
      { built.obsw with
        queue := pushed.2
        history := built.obsw.history ++
          [{ packet := (built.buf.getD []).take len, queued := pushed.1 = .ok }] })

end ObswPus.Flight
