import Mathlib.Tactic

/-! # Ground packet encoding

The telecommand builder, the telemetry decoder and the checksum of the test ground segment
(`tests/integration/gsw/packets.py`). They are a second implementation, independent of
the flight sources: Python integers are natural numbers, and an exception is `none` or an
error.
-/
namespace ObswPus.Ground

/-- `APID`. -/
abbrev obcApid : ℕ := 0x00C

abbrev pusVersionC : ℕ := 2
abbrev primaryHeaderLen : ℕ := 6
abbrev crcLen : ℕ := 2
abbrev seqFlagUnsegmented : ℕ := 0b11
abbrev ackAcceptance : ℕ := 0x1
abbrev ackCompletion : ℕ := 0x8

def crc16Shift (crc : ℕ) : ℕ :=
  if crc &&& 0x8000 ≠ 0 then ((crc <<< 1) ^^^ 0x1021) &&& 0xFFFF else (crc <<< 1) &&& 0xFFFF

def crc16Octet (crc : ℕ) (byte : UInt8) : ℕ := crc16Shift^[8] (crc ^^^ (byte.toNat <<< 8))

def crc16Ccitt (data : List UInt8) : ℕ := data.foldl crc16Octet 0xFFFF

/-- The two octets of a number, most significant first. -/
def bigEndian2 (v : ℕ) : List UInt8 := [UInt8.ofNat (v / 256), UInt8.ofNat (v % 256)]

/-- `v.to_bytes(2, "big")`, which raises an exception where two octets do not suffice. -/
def toBytes2 (v : ℕ) : Option (List UInt8) := if v < 65536 then some (bigEndian2 v) else none

/-- The arguments of `build_tc` in their order, with their defaults. -/
structure TcArguments where
  service : ℕ
  subtype : ℕ
  data : List UInt8 := []
  ack : ℕ := ackAcceptance ||| ackCompletion
  seqCount : ℕ := 0
  apid : ℕ := obcApid
  sourceId : ℕ := 0x0101
  pusVersion : ℕ := pusVersionC
  ccsdsVersion : ℕ := 0
  packetType : ℕ := 1
  secHdrFlag : ℕ := 1
  declaredLength : Option ℕ := none
  validCrc : Bool := true

def buildTc (a : TcArguments) : Option (List UInt8) := do
  let source ← toBytes2 a.sourceId
  let body := [UInt8.ofNat (((a.pusVersion &&& 0x0F) <<< 4) ||| (a.ack &&& 0x0F)),
    UInt8.ofNat (a.service &&& 0xFF), UInt8.ofNat (a.subtype &&& 0xFF)] ++ source ++ a.data
  let total := primaryHeaderLen + body.length + crcLen
  let lengthField := a.declaredLength.getD (total - primaryHeaderLen - 1)
  let word0 := ((a.ccsdsVersion &&& 0x07) <<< 13) ||| ((a.packetType &&& 0x01) <<< 12) |||
    ((a.secHdrFlag &&& 0x01) <<< 11) ||| (a.apid &&& 0x07FF)
  let word1 := (seqFlagUnsegmented <<< 14) ||| (a.seqCount &&& 0x3FFF)
  let word0Octets ← toBytes2 word0
  let word1Octets ← toBytes2 word1
  let lengthOctets ← toBytes2 (lengthField &&& 0xFFFF)
  let packet := word0Octets ++ word1Octets ++ lengthOctets ++ body
  let crc := crc16Ccitt packet
  let crc := if a.validCrc then crc else crc ^^^ 0x0001
  let crcOctets ← toBytes2 crc
  return packet ++ crcOctets

abbrev tmSecHeaderLen : ℕ := 13

/-- `int.from_bytes(octets, "big")`. -/
def fromBytes (octets : List UInt8) : ℕ := octets.foldl (fun v octet => v * 256 + octet.toNat) 0

/-- `raw[start:stop]`. -/
def slice (raw : List UInt8) (start stop : ℕ) : List UInt8 := (raw.take stop).drop start

/-- A decoded telemetry packet. -/
structure TmPacket where
  apid : ℕ
  seqCount : ℕ
  service : ℕ
  subtype : ℕ
  msgCounter : ℕ
  destinationId : ℕ
  timeCoarse : ℕ
  timeFine : ℕ
  data : List UInt8
  raw : List UInt8
  deriving DecidableEq

/-- Request ID echoed by a service 1 report. -/
def TmPacket.requestId (tm : TmPacket) : ℕ := fromBytes (slice tm.data 0 4)

/-- Failure code carried by a (1,2) or (1,8) report. -/
def TmPacket.failureCode (tm : TmPacket) : ℕ := fromBytes (slice tm.data 4 6)

/-- Event identifier carried by a service 5 report. -/
def TmPacket.eventId (tm : TmPacket) : ℕ := fromBytes (slice tm.data 0 2)

/-- Auxiliary word carried by a service 5 report. -/
def TmPacket.eventAux (tm : TmPacket) : ℕ := fromBytes (slice tm.data 2 4)

/-- The exceptions of `parse_tm`, with the numbers that their texts quote. -/
inductive TmError where
  | tooShort (octets : ℕ)
  | packetTypeSet
  | lengthMismatch (lengthField octets : ℕ)
  | crcMismatch
  | unexpectedPusVersion
  deriving DecidableEq

def parseTm (raw : List UInt8) : Except TmError TmPacket :=
  if raw.length < primaryHeaderLen + tmSecHeaderLen + crcLen then .error (.tooShort raw.length)
  else
    let word0 := fromBytes (slice raw 0 2)
    let word1 := fromBytes (slice raw 2 4)
    let lengthField := fromBytes (slice raw 4 6)
    if (word0 >>> 12) &&& 0x01 ≠ 0 then .error .packetTypeSet
    else if primaryHeaderLen + lengthField + 1 ≠ raw.length then
      .error (.lengthMismatch lengthField raw.length)
    else if crc16Ccitt (raw.take (raw.length - crcLen)) ≠
        fromBytes (raw.drop (raw.length - crcLen)) then .error .crcMismatch
    else
      let off := primaryHeaderLen
      if ((raw.getD off 0).toNat >>> 4) &&& 0x0F ≠ pusVersionC then .error .unexpectedPusVersion
      else
        .ok
          { apid := word0 &&& 0x07FF
            seqCount := word1 &&& 0x3FFF
            service := (raw.getD (off + 1) 0).toNat
            subtype := (raw.getD (off + 2) 0).toNat
            msgCounter := fromBytes (slice raw (off + 3) (off + 5))
            destinationId := fromBytes (slice raw (off + 5) (off + 7))
            timeCoarse := fromBytes (slice raw (off + 7) (off + 11))
            timeFine := fromBytes (slice raw (off + 11) (off + 13))
            data := slice raw (off + tmSecHeaderLen) (raw.length - crcLen)
            raw := raw }

end ObswPus.Ground
