import ObswPus.Flight.Types
import ObswPus.Flight.Bytes

/-! # Space packets

The primary header codec (`ccsds.c`), the packet error control field (`crc16.c`)
and the telecommand acceptance checks (`pus_tc.c`). An out-parameter that a
function only fills is its result.
-/
namespace ObswPus.Flight

abbrev ccsdsPrimaryHeaderLen : ℕ := 6
abbrev ccsdsCrcLen : ℕ := 2
abbrev ccsdsTypeTm : UInt8 := 0
abbrev ccsdsTypeTc : UInt8 := 1
abbrev ccsdsSeqFlagUnsegmented : UInt8 := 3

/-- Decoded CCSDS space packet primary header. -/
structure CcsdsPrimaryHeader where
  version : UInt8
  packetType : UInt8
  secHdrFlag : UInt8
  apid : UInt16
  seqFlags : UInt8
  seqCount : UInt16
  dataLength : UInt16
  deriving DecidableEq

def ccsdsWord0 (hdr : CcsdsPrimaryHeader) : UInt16 :=
  ((hdr.version &&& 0x07).toUInt16 <<< 13) ||| ((hdr.packetType &&& 0x01).toUInt16 <<< 12) |||
    ((hdr.secHdrFlag &&& 0x01).toUInt16 <<< 11) ||| (hdr.apid &&& 0x07FF)

def ccsdsWord1 (hdr : CcsdsPrimaryHeader) : UInt16 :=
  ((hdr.seqFlags &&& 0x03).toUInt16 <<< 14) ||| (hdr.seqCount &&& 0x3FFF)

def ccsdsPackPrimary (hdr : Option CcsdsPrimaryHeader) (buf : Option (List UInt8))
    (bufLen : ℕ) : PusStatus × Option (List UInt8) :=
  match hdr, buf with
  | some hdr, some octets =>
    if bufLen < ccsdsPrimaryHeaderLen then (.bufferTooSmall, buf)
    else
      let octets := storeAt octets 0 (pusPutU16 (ccsdsWord0 hdr))
      let octets := storeAt octets 2 (pusPutU16 (ccsdsWord1 hdr))
      let octets := storeAt octets 4 (pusPutU16 hdr.dataLength)
      (.ok, some octets)
  | _, _ => (.null, buf)

def ccsdsUnpackPrimary (buf : Option (List UInt8)) (bufLen : ℕ) :
    Except PusStatus CcsdsPrimaryHeader :=
  match buf with
  | none => .error .null
  | some octets =>
    if bufLen < ccsdsPrimaryHeaderLen then .error .truncated
    else
      let word0 := pusGetU16 octets
      let word1 := pusGetU16 (octets.drop 2)
      .ok
        { version := ((word0 >>> 13) &&& 0x07).toUInt8
          packetType := ((word0 >>> 12) &&& 0x01).toUInt8
          secHdrFlag := ((word0 >>> 11) &&& 0x01).toUInt8
          apid := word0 &&& 0x07FF
          seqFlags := ((word1 >>> 14) &&& 0x03).toUInt8
          seqCount := word1 &&& 0x3FFF
          dataLength := pusGetU16 (octets.drop 4) }

def ccsdsTotalLength (hdr : Option CcsdsPrimaryHeader) : ℕ :=
  match hdr with
  | none => 0
  | some hdr => ccsdsPrimaryHeaderLen + hdr.dataLength.toNat + 1

abbrev crc16Seed : UInt16 := 0xFFFF

/-- One pass of the inner loop: one bit of the current octet. -/
def crc16Shift (crc : UInt16) : UInt16 :=
  if crc &&& 0x8000 ≠ 0 then (crc <<< 1) ^^^ 0x1021 else crc <<< 1

/-- One pass of the outer loop: one octet. -/
def crc16Octet (crc : UInt16) (octet : UInt8) : UInt16 :=
  crc16Shift^[8] (crc ^^^ (octet.toUInt16 <<< 8))

def crc16Ccitt (data : Option (List UInt8)) (len : ℕ) : UInt16 :=
  match data with
  | none => crc16Seed
  | some octets => (octets.take len).foldl crc16Octet crc16Seed

abbrev pusTcSecHeaderLen : ℕ := 5
abbrev pusVersionC : UInt8 := 2
abbrev pusAckAcceptance : UInt8 := 0x1
abbrev pusAckStart : UInt8 := 0x2
abbrev pusAckProgress : UInt8 := 0x4
abbrev pusAckCompletion : UInt8 := 0x8

/-- Smallest telecommand that can possibly be valid. -/
abbrev pusTcMinLen : ℕ := ccsdsPrimaryHeaderLen + pusTcSecHeaderLen + ccsdsCrcLen

/-- Decoded telecommand packet. `appData` points into the received octets, or is NULL. -/
structure PusTc where
  prim : CcsdsPrimaryHeader
  pusVersion : UInt8
  ackFlags : UInt8
  serviceType : UInt8
  serviceSubtype : UInt8
  sourceId : UInt16
  appData : Option (List UInt8)
  appDataLen : ℕ
  requestId : UInt32
  deriving DecidableEq

/-- The pointer `&tc->app_data[i]`. -/
def PusTc.appDataAt (tc : PusTc) (i : ℕ) : List UInt8 := (tc.appData.getD []).drop i

def pusTcParse (buf : Option (List UInt8)) (len : ℕ) : Except PusStatus PusTc :=
  match buf with
  | none => .error .null
  | some octets =>
    if len < pusTcMinLen then .error .truncated
    else
      match ccsdsUnpackPrimary buf len with
      | .error st => .error st
      | .ok prim =>
        let total := ccsdsTotalLength (some prim)
        if total ≠ len then .error .badLength
        else
          let computed := crc16Ccitt buf (total - ccsdsCrcLen)
          let received := pusGetU16 (octets.drop (total - ccsdsCrcLen))
          if computed ≠ received then .error .badCrc
          else if prim.version ≠ 0 then .error .badVersion
          else if prim.packetType ≠ ccsdsTypeTc then .error .badPacketType
          else if prim.secHdrFlag ≠ 1 then .error .noSecHeader
          else if prim.apid ≠ pusTcApid then .error .badApid
          else
            let pusVersion := (octets.getD ccsdsPrimaryHeaderLen 0 >>> 4) &&& 0x0F
            if pusVersion ≠ pusVersionC then .error .badVersion
            else
              let appDataLen := total - pusTcMinLen
              .ok
                { prim := prim
                  pusVersion := pusVersion
                  ackFlags := octets.getD ccsdsPrimaryHeaderLen 0 &&& 0x0F
                  serviceType := octets.getD (ccsdsPrimaryHeaderLen + 1) 0
                  serviceSubtype := octets.getD (ccsdsPrimaryHeaderLen + 2) 0
                  sourceId := pusGetU16 (octets.drop (ccsdsPrimaryHeaderLen + 3))
                  appData :=
                    if 0 < appDataLen then
                      some (octets.drop (ccsdsPrimaryHeaderLen + pusTcSecHeaderLen))
                    else none
                  appDataLen := appDataLen
                  requestId := pusGetU32 octets }

def pusTcAckRequested (tc : Option PusTc) (ackMask : UInt8) : Bool :=
  match tc with
  | none => false
  | some tc => if tc.ackFlags &&& ackMask ≠ 0 then true else false

end ObswPus.Flight
