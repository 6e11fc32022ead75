import ObswPus.Codec.Acceptance
import ObswPus.Library.Access

/-! # Checked access to packets

The serialisation helpers, the checksum, the header codec and the parser once more, octet by
octet: every octet they read or store is checked against the bounds of the object, and the
loops count as the source does. Each of them does what the function it repeats does.
-/
namespace ObswPus.Bounds
open Flight Library Access

def pusGetU8 (p : Option (List UInt8)) (i : ℕ) : Access UInt8 := do
  let object ← deref p
  read object i

def pusGetU16 (p : Option (List UInt8)) (i : ℕ) : Access UInt16 := do
  let high ← pusGetU8 p i
  let low ← pusGetU8 p (i + 1)
  return (high.toUInt16 <<< 8) ||| low.toUInt16

def pusGetU32 (p : Option (List UInt8)) (i : ℕ) : Access UInt32 := do
  let first ← pusGetU8 p i
  let second ← pusGetU8 p (i + 1)
  let third ← pusGetU8 p (i + 2)
  let fourth ← pusGetU8 p (i + 3)
  return (first.toUInt32 <<< 24) ||| (second.toUInt32 <<< 16) ||| (third.toUInt32 <<< 8) |||
    fourth.toUInt32

def pusGetI16 (p : Option (List UInt8)) (i : ℕ) : Access Int16 := do
  let v ← pusGetU16 p i
  return v.toInt16

def pusPutU8 (buf : List UInt8) (i : ℕ) (v : UInt8) : Access (List UInt8) := write buf i v

def pusPutU16 (buf : List UInt8) (i : ℕ) (v : UInt16) : Access (List UInt8) := do
  let buf ← write buf i ((v >>> 8) &&& 0xFF).toUInt8
  write buf (i + 1) (v &&& 0xFF).toUInt8

def pusPutU32 (buf : List UInt8) (i : ℕ) (v : UInt32) : Access (List UInt8) := do
  let buf ← write buf i ((v >>> 24) &&& 0xFF).toUInt8
  let buf ← write buf (i + 1) ((v >>> 16) &&& 0xFF).toUInt8
  let buf ← write buf (i + 2) ((v >>> 8) &&& 0xFF).toUInt8
  write buf (i + 3) (v &&& 0xFF).toUInt8

def pusPutI16 (buf : List UInt8) (i : ℕ) (v : Int16) : Access (List UInt8) :=
  pusPutU16 buf i v.toUInt16

section Octets
variable {octets buf : List UInt8} {i : ℕ}

theorem pusGetU8_drop (octets : List UInt8) (i : ℕ) :
    Flight.pusGetU8 (octets.drop i) = octets.getD i 0 := by
  simp only [Flight.pusGetU8, List.getD_eq_getElem?_getD, List.getElem?_drop, Nat.add_zero]

theorem pusGetU8_eq (h : i < octets.length) :
    pusGetU8 (some octets) i = .ok (Flight.pusGetU8 (octets.drop i)) := by
  rw [pusGetU8, deref_some, ok_bind, read_eq octets h 0, pusGetU8_drop]

theorem pusGetU16_eq (h : i + 2 ≤ octets.length) :
    pusGetU16 (some octets) i = .ok (Flight.pusGetU16 (octets.drop i)) := by
  rw [pusGetU16, pusGetU8_eq (by omega), pusGetU8_eq (by omega)]
  simp only [ok_bind, pure_eq_ok, Flight.pusGetU8, Flight.pusGetU16, List.getD_eq_getElem?_getD,
    List.getElem?_drop, Nat.add_zero]

theorem pusGetU32_eq (h : i + 4 ≤ octets.length) :
    pusGetU32 (some octets) i = .ok (Flight.pusGetU32 (octets.drop i)) := by
  rw [pusGetU32, pusGetU8_eq (by omega), pusGetU8_eq (by omega), pusGetU8_eq (by omega),
    pusGetU8_eq (by omega)]
  simp only [ok_bind, pure_eq_ok, Flight.pusGetU8, Flight.pusGetU32, List.getD_eq_getElem?_getD,
    List.getElem?_drop, Nat.add_zero]

theorem write_octet (v : UInt8) (h : i < buf.length) :
    write buf i v = .ok (storeAt buf i [v]) := by
  rw [write_eq buf h, List.set_eq_take_append_cons_drop, if_pos h, storeAt, List.append_assoc]
  rfl

theorem write_storeAt (xs : List UInt8) (v : UInt8) {k : ℕ} (hk : k = i + xs.length)
    (h : k < buf.length) :
    write (storeAt buf i xs) k v = .ok (storeAt buf i (xs ++ [v])) := by
  subst hk
  rw [write_octet v (by rw [length_storeAt h.le]; exact h), storeAt_storeAt _ _ _ _ (by omega)]

theorem pusPutU8_eq (v : UInt8) (h : i + 1 ≤ buf.length) :
    pusPutU8 buf i v = .ok (storeAt buf i (Flight.pusPutU8 v)) := write_octet v h

theorem pusPutU16_eq (v : UInt16) (h : i + 2 ≤ buf.length) :
    pusPutU16 buf i v = .ok (storeAt buf i (Flight.pusPutU16 v)) := by
  rw [pusPutU16, write_octet _ (by omega), ok_bind, write_storeAt _ _ (by rfl) (by omega)]
  rfl

theorem pusPutU32_eq (v : UInt32) (h : i + 4 ≤ buf.length) :
    pusPutU32 buf i v = .ok (storeAt buf i (Flight.pusPutU32 v)) := by
  rw [pusPutU32, write_octet _ (by omega), ok_bind, write_storeAt _ _ (by rfl) (by omega), ok_bind,
    write_storeAt _ _ (by rfl) (by omega), ok_bind, write_storeAt _ _ (by rfl) (by omega)]
  rfl

end Octets

section Loops
variable (fuel : ℕ)

def crc16Octet (crc : UInt16) (octet : UInt8) : Access UInt16 := do
  let pass ← forU8 fuel 8 (fun _ crc => return .next (crc16Shift crc))
    (crc ^^^ (octet.toUInt16 <<< 8))
  return pass.out

def crc16Ccitt (data : Option (List UInt8)) (len : ℕ) : Access UInt16 :=
  match data with
  | none => return crc16Seed
  | some octets => do
    let pass ← forSize fuel len (fun i crc => do
      let octet ← read octets i
      let crc ← crc16Octet fuel crc octet
      return .next crc) crc16Seed
    return pass.out

variable {fuel}

theorem crc16Octet_eq (hfuel : 8 ≤ fuel) (crc : UInt16) (octet : UInt8) :
    crc16Octet fuel crc octet = .ok (Flight.crc16Octet crc octet) := by
  rw [crc16Octet, forU8_fold (fun _ => crc16Shift) _ hfuel]
  · rfl
  · intro _ _ _
    rfl

theorem take_eq_map_getD (octets : List UInt8) {len : ℕ} (h : len ≤ octets.length) :
    octets.take len = (List.range len).map fun i => octets.getD i 0 := by
  apply List.ext_getElem
  · rw [List.length_take_of_le h, List.length_map, List.length_range]
  · intro i hi _
    rw [List.length_take] at hi
    rw [List.getElem_take, List.getElem_map, List.getElem_range,
      List.getD_eq_getElem _ _ (by omega)]

theorem crc16Ccitt_eq {octets : List UInt8} {len : ℕ} (hlen : len ≤ octets.length)
    (hoctet : 8 ≤ fuel) (hfuel : len ≤ fuel) :
    crc16Ccitt fuel (some octets) len = .ok (Flight.crc16Ccitt (some octets) len) := by
  rw [crc16Ccitt, forSize_fold (fun i crc => Flight.crc16Octet crc (octets.getD i 0)) _ hfuel,
    Flight.crc16Ccitt, take_eq_map_getD octets hlen, List.foldl_map]
  · rfl
  · intro k hk crc
    rw [read_eq octets (by omega) 0, ok_bind, crc16Octet_eq hoctet]
    rfl

end Loops

def ccsdsPackPrimary (hdr : Option CcsdsPrimaryHeader) (buf : Option (List UInt8))
    (bufLen : ℕ) : Access (PusStatus × Option (List UInt8)) :=
  match hdr, buf with
  | some hdr, some octets =>
    if bufLen < ccsdsPrimaryHeaderLen then return (.bufferTooSmall, buf)
    else do
      let octets ← pusPutU16 octets 0 (ccsdsWord0 hdr)
      let octets ← pusPutU16 octets 2 (ccsdsWord1 hdr)
      let octets ← pusPutU16 octets 4 hdr.dataLength
      return (.ok, some octets)
  | _, _ => return (.null, buf)

def ccsdsUnpackPrimary (buf : Option (List UInt8)) (bufLen : ℕ) :
    Access (Except PusStatus CcsdsPrimaryHeader) :=
  match buf with
  | none => return .error .null
  | some _ =>
    if bufLen < ccsdsPrimaryHeaderLen then return .error .truncated
    else do
      let word0 ← pusGetU16 buf 0
      let word1 ← pusGetU16 buf 2
      let dataLength ← pusGetU16 buf 4
      return .ok
        { version := ((word0 >>> 13) &&& 0x07).toUInt8
          packetType := ((word0 >>> 12) &&& 0x01).toUInt8
          secHdrFlag := ((word0 >>> 11) &&& 0x01).toUInt8
          apid := word0 &&& 0x07FF
          seqFlags := ((word1 >>> 14) &&& 0x03).toUInt8
          seqCount := word1 &&& 0x3FFF
          dataLength := dataLength }

theorem ccsdsPackPrimary_eq (hdr : CcsdsPrimaryHeader) {octets : List UInt8} {bufLen : ℕ}
    (h : bufLen ≤ octets.length) :
    ccsdsPackPrimary (some hdr) (some octets) bufLen =
      .ok (Flight.ccsdsPackPrimary (some hdr) (some octets) bufLen) := by
  apply ite_eq (fun _ => rfl)
  intro hshort
  have hroom : 6 ≤ octets.length := (not_lt.mp hshort).trans h
  have hfirst : (storeAt octets 0 (Flight.pusPutU16 (ccsdsWord0 hdr))).length = octets.length :=
    length_storeAt (show 0 + 2 ≤ octets.length by omega)
  have hsecond : (storeAt (storeAt octets 0 (Flight.pusPutU16 (ccsdsWord0 hdr))) 2
      (Flight.pusPutU16 (ccsdsWord1 hdr))).length = octets.length := by
    rw [length_storeAt (by rw [hfirst, length_pusPutU16]; omega), hfirst]
  rw [pusPutU16_eq _ (by omega), ok_bind, pusPutU16_eq _ (by omega), ok_bind,
    pusPutU16_eq _ (by omega)]
  rfl

theorem ccsdsUnpackPrimary_eq {octets : List UInt8} {bufLen : ℕ} (h : bufLen ≤ octets.length) :
    ccsdsUnpackPrimary (some octets) bufLen =
      .ok (Flight.ccsdsUnpackPrimary (some octets) bufLen) := by
  apply ite_eq (fun _ => rfl)
  intro hshort
  have hlong : 6 ≤ octets.length := (not_lt.mp hshort).trans h
  rw [pusGetU16_eq (by omega), ok_bind, pusGetU16_eq (by omega), ok_bind,
    pusGetU16_eq (by omega)]
  rfl

def pusTcParse (fuel : ℕ) (buf : Option (List UInt8)) (len : ℕ) :
    Access (Except PusStatus PusTc) :=
  match buf with
  | none => return .error .null
  | some octets =>
    if len < pusTcMinLen then return .error .truncated
    else do
      match ← ccsdsUnpackPrimary buf len with
      | .error st => return .error st
      | .ok prim =>
        let total := ccsdsTotalLength (some prim)
        if total ≠ len then return .error .badLength
        else
          let computed ← crc16Ccitt fuel buf (total - ccsdsCrcLen)
          let received ← pusGetU16 buf (total - ccsdsCrcLen)
          if computed ≠ received then return .error .badCrc
          else if prim.version ≠ 0 then return .error .badVersion
          else if prim.packetType ≠ ccsdsTypeTc then return .error .badPacketType
          else if prim.secHdrFlag ≠ 1 then return .error .noSecHeader
          else if prim.apid ≠ pusTcApid then return .error .badApid
          else
            let first ← pusGetU8 buf ccsdsPrimaryHeaderLen
            let serviceType ← pusGetU8 buf (ccsdsPrimaryHeaderLen + 1)
            let serviceSubtype ← pusGetU8 buf (ccsdsPrimaryHeaderLen + 2)
            let sourceId ← pusGetU16 buf (ccsdsPrimaryHeaderLen + 3)
            let pusVersion := (first >>> 4) &&& 0x0F
            if pusVersion ≠ pusVersionC then return .error .badVersion
            else
              let appDataLen := total - pusTcMinLen
              let requestId ← pusGetU32 buf 0
              return .ok
                { prim := prim
                  pusVersion := pusVersion
                  ackFlags := first &&& 0x0F
                  serviceType := serviceType
                  serviceSubtype := serviceSubtype
                  sourceId := sourceId
                  appData :=
                    if 0 < appDataLen then
                      some (octets.drop (ccsdsPrimaryHeaderLen + pusTcSecHeaderLen))
                    else none
                  appDataLen := appDataLen
                  requestId := requestId }

/-- The parser stays within the octets received, and its loops end, whatever these are. -/
theorem pusTcParse_eq {fuel : ℕ} (hfuel : 65542 ≤ fuel) (octets : List UInt8) :
    pusTcParse fuel (some octets) octets.length =
      .ok (Flight.pusTcParse (some octets) octets.length) := by
  apply ite_eq (fun _ => rfl)
  intro hshort
  have hlong : 13 ≤ octets.length := not_lt.mp hshort
  rw [ccsdsUnpackPrimary_eq le_rfl, ok_bind]
  rcases Flight.ccsdsUnpackPrimary (some octets) octets.length with st | prim
  · rfl
  apply ite_eq (fun _ => rfl)
  intro htotal
  rw [not_not] at htotal
  have hbound := prim.dataLength.toNat_lt
  have hmax : ccsdsTotalLength (some prim) = 6 + prim.dataLength.toNat + 1 := rfl
  have hcrc : ccsdsCrcLen = 2 := rfl
  have hprimary : ccsdsPrimaryHeaderLen = 6 := rfl
  rw [crc16Ccitt_eq (by omega) (by omega) (by omega), ok_bind, pusGetU16_eq (by omega), ok_bind]
  iterate 5
    apply ite_eq (fun _ => rfl)
    intro _
  rw [pusGetU8_eq (by omega), ok_bind, pusGetU8_eq (by omega), ok_bind, pusGetU8_eq (by omega),
    ok_bind, pusGetU16_eq (by omega), ok_bind, pusGetU8_drop, pusGetU8_drop, pusGetU8_drop]
  apply ite_eq (fun _ => rfl)
  intro _
  rw [pusGetU32_eq (by omega)]
  rfl

end ObswPus.Bounds
