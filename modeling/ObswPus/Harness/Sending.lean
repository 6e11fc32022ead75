import ObswPus.Commanding.Buffer
import ObswPus.Ground.Agreement

/-! # Telecommands of the unit tests

The helpers of the unit tests that build telecommands, send them, and spoil or repair their
checksum (`tests/framework/test_support.c`). This is the third implementation of the packet
format, next to the flight code and the test ground segment.
-/
namespace ObswPus.Harness
open Flight Downlink Commanding Codec Ground

def tsFixCrc (buf : List UInt8) (len : ℕ) : List UInt8 :=
  let crc := Flight.crc16Ccitt (some buf) (sizeSub len ccsdsCrcLen)
  storeAt buf (sizeSub len ccsdsCrcLen) (pusPutU16 crc)

def tsBreakCrc (buf : List UInt8) (len : ℕ) : List UInt8 :=
  storeAt buf (sizeSub len 1) [buf.getD (sizeSub len 1) 0 ^^^ 0x01]

/-- The length returned, and what is left in `*buf`. -/
structure TsBuildTc where
  total : ℕ
  buf : List UInt8
  deriving DecidableEq

def tsBuildTc (buf : List UInt8) (cap : ℕ) (service subtype ackFlags : UInt8)
    (appData : Option (List UInt8)) (appLen : ℕ) : TsBuildTc :=
  let total := (ccsdsPrimaryHeaderLen + pusTcSecHeaderLen + appLen + ccsdsCrcLen) % sizeModulus
  if cap < total then ⟨0, buf⟩
  else
    let hdr : CcsdsPrimaryHeader :=
      { version := 0
        packetType := ccsdsTypeTc
        secHdrFlag := 1
        apid := pusTcApid
        seqFlags := ccsdsSeqFlagUnsegmented
        seqCount := 1
        dataLength := UInt16.ofNat (sizeSub (sizeSub total ccsdsPrimaryHeaderLen) 1) }
    let octets := (ccsdsPackPrimary (some hdr) (some buf) cap).2.getD []
    let off := ccsdsPrimaryHeaderLen
    let octets := storeAt octets off [(Flight.pusVersionC <<< 4) ||| (ackFlags &&& 0x0F)]
    let octets := storeAt octets (off + 1) [service]
    let octets := storeAt octets (off + 2) [subtype]
    let octets := storeAt octets (off + 3) (pusPutU16 0x0101)
    let off := off + pusTcSecHeaderLen
    let octets := storeAt octets off ((appData.getD []).take appLen)
    ⟨total, tsFixCrc octets total⟩

/-- The local buffer `tc` holds anything at first. -/
def tsSendTc (s : Obsw) (tc : List UInt8) (service subtype : UInt8)
    (appData : Option (List UInt8)) (appLen : ℕ) : PusStatus × Obsw :=
  let built := tsBuildTc tc pusMaxPacketSize service subtype
    (pusAckAcceptance ||| pusAckCompletion) appData appLen
  if built.total = 0 then (.bufferTooSmall, s)
  else obcProcessTc s (some built.buf) built.total

/-- A telecommand of the unit tests for the builder of the ground segment. -/
def groundArguments (service subtype ackFlags : UInt8) (data : List UInt8) : TcArguments :=
  { service := service.toNat
    subtype := subtype.toNat
    data := data
    ack := ackFlags.toNat
    seqCount := 1 }

section Build
variable (service subtype ackFlags : UInt8) (data : List UInt8)

theorem versionAck_octet : (Flight.pusVersionC <<< 4) ||| (ackFlags &&& 0x0F) =
    UInt8.ofNat (versionAck (groundArguments service subtype ackFlags data)) := by
  have hack : ((Flight.pusVersionC <<< 4) ||| (ackFlags &&& 0x0F)).toNat =
      ((2 &&& 0x0F) <<< 4) ||| (ackFlags.toNat &&& 0x0F) := by
    rw [UInt8.toNat_or, UInt8.toNat_and]
    rfl
  have hground := versionAck_eq (groundArguments service subtype ackFlags data)
  apply UInt8.toNat_inj.mp
  rw [toNat_ofNat_octet (versionAck_lt _), hack, ← hground]
  rfl

/-- Both sides write the same headers. The length field is cut to sixteen bits on either side. -/
theorem packetBody_groundArguments :
    packetBody (groundArguments service subtype ackFlags data) =
      pusPutU16 0x180C ++ pusPutU16 0xC001 ++ pusPutU16 (UInt16.ofNat (data.length + 6)) ++
        [(Flight.pusVersionC <<< 4) ||| (ackFlags &&& 0x0F)] ++ [service] ++ [subtype] ++
        pusPutU16 0x0101 ++ data := by
  have hword0 : headerWord0 (groundArguments service subtype ackFlags data) = 0x180C := by
    simp [headerWord0, groundArguments, obcApid]
  have hword1 : headerWord1 (groundArguments service subtype ackFlags data) = 0xC001 := by
    simp [headerWord1, groundArguments, seqFlagUnsegmented]
  have hlength : lengthField (groundArguments service subtype ackFlags data) =
      (UInt16.ofNat (data.length + 6)).toNat := UInt16.toNat_ofNat'.symm
  have hoctet (v : UInt8) : UInt8.ofNat (v.toNat % 256) = v := by
    rw [Nat.mod_eq_of_lt v.toNat_lt, UInt8.ofNat_toNat]
  have hservice := hoctet service
  have hsubtype := hoctet subtype
  rw [versionAck_octet service subtype ackFlags data, pusPutU16_eq, pusPutU16_eq, pusPutU16_eq,
    pusPutU16_eq, ← hlength, packetBody, hword0, hword1]
  simp only [List.append_assoc, List.cons_append, List.nil_append]
  rw [groundArguments, hservice, hsubtype]
  rfl

theorem words_tcHeader (dataLength : UInt16) (hdr : CcsdsPrimaryHeader)
    (h : hdr =
      { version := 0
        packetType := ccsdsTypeTc
        secHdrFlag := 1
        apid := pusTcApid
        seqFlags := ccsdsSeqFlagUnsegmented
        seqCount := 1
        dataLength := dataLength }) :
    ccsdsWord0 hdr = 0x180C ∧ ccsdsWord1 hdr = 0xC001 := by
  subst h
  simp only [ccsdsWord0, ccsdsWord1]
  decide

theorem tsFixCrc_storeAt (buf xs : List UInt8) {len : ℕ} (hlen : len = xs.length + 2)
    (hsize : len < sizeModulus) : tsFixCrc (storeAt buf 0 xs) len =
      storeAt buf 0 (xs ++ bigEndian2 (Ground.crc16Ccitt xs)) := by
  have htwo : ccsdsCrcLen = 2 := rfl
  have hcrcAt : sizeSub len ccsdsCrcLen = xs.length := by
    rw [sizeSub_eq (by omega) hsize]
    omega
  have hcrc := crc16Ccitt_storeAt buf xs xs.length rfl
  simp only [tsFixCrc, hcrcAt, hcrc, storeAt_extend]
  rw [pusPutU16_eq, toNat_crc16Ccitt, List.take_length]

/-- The helper leaves the octets of the ground builder at the front of its buffer. -/
theorem tsBuildTc_eq (buf : List UInt8) {cap : ℕ} (hcap : data.length + 13 ≤ cap)
    (hsize : cap < sizeModulus) {appData : Option (List UInt8)}
    (hdata : (appData.getD []).take data.length = data) :
    tsBuildTc buf cap service subtype ackFlags appData data.length =
      ⟨data.length + 13,
        storeAt buf 0 (builtPacket (groundArguments service subtype ackFlags data))⟩ := by
  have h6 : ccsdsPrimaryHeaderLen = 6 := rfl
  have h5 : pusTcSecHeaderLen = 5 := rfl
  have h2 : ccsdsCrcLen = 2 := rfl
  have htotal : (ccsdsPrimaryHeaderLen + pusTcSecHeaderLen + data.length + ccsdsCrcLen) %
      sizeModulus = data.length + 13 := by
    rw [Nat.mod_eq_of_lt (by omega)]
    omega
  have hcap6 : ¬cap < ccsdsPrimaryHeaderLen := by omega
  have hroom : ¬cap < data.length + 13 := by omega
  have hlength : sizeSub (sizeSub (data.length + 13) ccsdsPrimaryHeaderLen) 1 =
      data.length + 6 := by
    rw [sizeSub_eq (a := data.length + 13) (by omega) (by omega),
      sizeSub_eq (by omega) (by omega)]
    omega
  have hlen : data.length + 13 =
      (packetBody (groundArguments service subtype ackFlags data)).length + 2 := by
    rw [length_packetBody]
    rfl
  have hfixed := tsFixCrc_storeAt buf _ hlen (by omega)
  have hvalid : packetCrc (groundArguments service subtype ackFlags data) =
      Ground.crc16Ccitt (packetBody (groundArguments service subtype ackFlags data)) := rfl
  rw [builtPacket, hvalid, ← hfixed, packetBody_groundArguments]
  obtain ⟨hword0, hword1⟩ := words_tcHeader (UInt16.ofNat (data.length + 6)) _ rfl
  simp only [tsBuildTc, htotal, hroom, if_false, hlength, ccsdsPackPrimary, hcap6, Option.getD_some,
    hdata, hword0, hword1]
  simp only [storeAt_extend, List.length_append, length_pusPutU16, List.length_cons,
    List.length_nil, Nat.reduceAdd, ccsdsPrimaryHeaderLen, pusTcSecHeaderLen]

end Build

section Send
variable (service subtype : UInt8) (data : List UInt8)

/-- The telecommand that the unit tests send, both acknowledgements requested. -/
def sentArguments : TcArguments :=
  groundArguments service subtype (pusAckAcceptance ||| pusAckCompletion) data

variable {data} in
theorem accepted_sentArguments (hfits : data.length ≤ 243) :
    pusTcParse (some (builtPacket (sentArguments service subtype data)))
        (builtPacket (sentArguments service subtype data)).length =
      .ok (decodedTc (builtPacket (sentArguments service subtype data))) := by
  have hlength : lengthField (sentArguments service subtype data) = data.length + 6 :=
    Nat.mod_eq_of_lt (show data.length + 6 < 65536 by omega)
  have hok : firstFailing (builtPacket (sentArguments service subtype data)) = .ok := by
    rw [firstFailing_builtPacket, hlength]
    simp [sentArguments, groundArguments, obcApid, Ground.pusVersionC]
  rw [pusTcParse_eq, if_pos hok]

theorem inRange_sentArguments : InRange (sentArguments service subtype data) :=
  ⟨service.toNat_lt, subtype.toNat_lt, show 9 < 16 by decide, show 1 < 16384 by decide⟩

theorem tsBuildTc_refused (buf : List UInt8) (ackFlags : UInt8) (appData : Option (List UInt8))
    {cap : ℕ} (hcap : cap < data.length + 13) (hsize : data.length + 13 < sizeModulus) :
    tsBuildTc buf cap service subtype ackFlags appData data.length = ⟨0, buf⟩ := by
  have htotal : (ccsdsPrimaryHeaderLen + pusTcSecHeaderLen + data.length + ccsdsCrcLen) %
      sizeModulus = data.length + 13 := by
    have h13 : ccsdsPrimaryHeaderLen + pusTcSecHeaderLen + ccsdsCrcLen = 13 := rfl
    rw [Nat.mod_eq_of_lt (by omega)]
    omega
  simp only [tsBuildTc, htotal, hcap, if_true]

theorem tsSendTc_eq (s : Obsw) (tc : List UInt8) {appData : Option (List UInt8)}
    (hdata : (appData.getD []).take data.length = data) (hfits : data.length ≤ 243) :
    tsSendTc s tc service subtype appData data.length =
      obcProcessTc s (some (builtPacket (sentArguments service subtype data)))
        (builtPacket (sentArguments service subtype data)).length := by
  have hmax : pusMaxPacketSize = 256 := rfl
  have hlen : (builtPacket (sentArguments service subtype data)).length = data.length + 13 :=
    length_builtPacket _
  have hstored : storeAt tc 0 (builtPacket (sentArguments service subtype data)) =
      builtPacket (sentArguments service subtype data) ++ tc.drop (data.length + 13) := by
    rw [storeAt, List.take_zero, List.nil_append, Nat.zero_add, hlen]
  have hroom : data.length + 13 ≤ pusMaxPacketSize := by omega
  have hbuilt := tsBuildTc_eq service subtype (pusAckAcceptance ||| pusAckCompletion) data tc
    hroom (by decide) hdata
  rw [← sentArguments, hstored] at hbuilt
  rw [tsSendTc, hbuilt, if_neg (Nat.succ_ne_zero _), ← obcProcessTc_append s _
    (tc.drop (data.length + 13)), hlen]

/-- What the unit tests build is what ground would build, whatever the buffer held and whichever
acknowledgements are asked for: the same octets at its front, and their number. What does not fit
is refused, and the buffer left alone. What they send, the parser accepts and decodes to the values
given, and status and state are those that the flight code answers the packet of the ground with.
More than 243 octets of application data are refused, with no change at all. -/
theorem test_sender_agrees (s : Obsw) (tc : List UInt8) {appData : Option (List UInt8)}
    (hdata : (appData.getD []).take data.length = data) (hsize : data.length + 13 < sizeModulus) :
    (∀ (ackFlags : UInt8) (buf : List UInt8) (cap : ℕ), cap < sizeModulus →
      (data.length + 13 ≤ cap → ∃ packet,
        buildTc (groundArguments service subtype ackFlags data) = some packet ∧
        tsBuildTc buf cap service subtype ackFlags appData data.length =
          ⟨packet.length, storeAt buf 0 packet⟩) ∧
      (cap < data.length + 13 →
        tsBuildTc buf cap service subtype ackFlags appData data.length = ⟨0, buf⟩)) ∧
    (data.length ≤ 243 → ∃ packet, buildTc (sentArguments service subtype data) = some packet ∧
        pusTcParse (some packet) packet.length = .ok (decodedTc packet) ∧
        Decodes (sentArguments service subtype data) (decodedTc packet) ∧
        tsSendTc s tc service subtype appData data.length =
          obcProcessTc s (some packet) packet.length) ∧
      (243 < data.length →
        tsSendTc s tc service subtype appData data.length = (.bufferTooSmall, s)) := by
  refine ⟨fun ackFlags buf cap hcap => ⟨fun hroom => ?_, fun hsmall => ?_⟩, fun hfits => ?_,
    fun hlong => ?_⟩
  · refine ⟨_, buildTc_eq _ (show 0x0101 < 65536 by decide), ?_⟩
    rw [length_builtPacket]
    exact tsBuildTc_eq service subtype ackFlags data buf hroom hcap hdata
  · exact tsBuildTc_refused service subtype data buf ackFlags appData hsmall hsize
  · have hsource : (sentArguments service subtype data).sourceId < 65536 :=
      show 0x0101 < 65536 by decide
    exact ⟨_, buildTc_eq _ hsource, accepted_sentArguments service subtype hfits,
      decodes_builtPacket (inRange_sentArguments service subtype data) hsource,
      tsSendTc_eq service subtype data s tc hdata hfits⟩
  · have hmax : pusMaxPacketSize = 256 := rfl
    have hroom : pusMaxPacketSize < data.length + 13 := by omega
    simp only [tsSendTc, tsBuildTc_refused service subtype data tc _ appData hroom hsize, if_true]

/-- The connection test with sequence count 1. -/
def aliveTc : List UInt8 := [24, 12, 192, 1, 0, 6, 41, 17, 1, 1, 1, 55, 96]

/-- The command of NOMINAL mode with sequence count 1, no acknowledgement requested. -/
def nominalTc : List UInt8 := [24, 12, 192, 1, 0, 8, 32, 8, 1, 1, 1, 1, 1, 52, 15]

theorem test_sender_agrees_alive :
    tsBuildTc (List.replicate 256 0xEE) 256 8 1 0 (some [1, 1]) 2 =
        ⟨15, storeAt (List.replicate 256 0xEE) 0 nominalTc⟩ ∧
      tsSendTc default (List.replicate 256 0xEE) 17 1 none 0 =
        obcProcessTc default (some aliveTc) aliveTc.length := by
  constructor
  · have hdata : ((some [1, 1]).getD []).take [1, 1].length = ([1, 1] : List UInt8) := rfl
    obtain ⟨packet, hpacket, hbuilt⟩ := ((test_sender_agrees 8 1 [1, 1] default [] hdata
      (by decide)).1 0 (List.replicate 256 0xEE) 256 (by decide)).1 (by decide)
    have hground : buildTc (groundArguments 8 1 0 [1, 1]) = some nominalTc := by decide +kernel
    rw [hground, Option.some.injEq] at hpacket
    rw [← hpacket] at hbuilt
    exact hbuilt
  · obtain ⟨packet, hpacket, -, -, hsend⟩ :=
      (test_sender_agrees 17 1 [] default (List.replicate 256 0xEE) rfl (by decide)).2.1 (by decide)
    have hground : buildTc (sentArguments 17 1 []) = some aliveTc := by decide +kernel
    rw [hground, Option.some.injEq] at hpacket
    rw [← hpacket] at hsend
    exact hsend

end Send

/-- The two octets that verify what stands before them. -/
def trailer (body : List UInt8) : List UInt8 :=
  pusPutU16 (Flight.crc16Ccitt (some body) body.length)

theorem storeAt_behind (body xs ys : List UInt8) {n : ℕ} (hn : n = body.length) :
    storeAt (body ++ ys) n xs = body ++ xs ++ ys.drop xs.length := by
  subst hn
  rw [storeAt, List.take_left, List.drop_length_add_append]

section Checksum
variable (body rest : List UInt8) (high low : UInt8) {len : ℕ} (hlen : len = body.length + 2)
  (hsize : len < sizeModulus)
include hlen hsize

theorem tsFixCrc_append :
    tsFixCrc (body ++ [high, low] ++ rest) len = body ++ trailer body ++ rest := by
  have htwo : ccsdsCrcLen = 2 := rfl
  have hat : sizeSub len ccsdsCrcLen = body.length := by
    rw [sizeSub_eq (by omega) hsize]
    omega
  have hcrc : Flight.crc16Ccitt (some (body ++ ([high, low] ++ rest))) body.length =
      Flight.crc16Ccitt (some body) body.length := by
    simp only [Flight.crc16Ccitt, List.take_left, List.take_length]
  rw [tsFixCrc, hat, List.append_assoc, hcrc, storeAt_behind body _ _ rfl, length_pusPutU16]
  rfl

theorem tsBreakCrc_append : tsBreakCrc (body ++ [high, low] ++ rest) len =
    body ++ [high, low ^^^ 0x01] ++ rest := by
  have hat : sizeSub len 1 = (body ++ [high]).length := by
    rw [sizeSub_eq (by omega) hsize, List.length_append, List.length_singleton]
    omega
  have hsplit : body ++ [high, low] ++ rest = body ++ [high] ++ (low :: rest) := by
    simp only [List.append_assoc, List.cons_append, List.nil_append]
  have hlow : (body ++ [high] ++ (low :: rest)).getD (body ++ [high]).length 0 = low := by
    rw [List.getD_eq_getElem?_getD, List.getElem?_append_right le_rfl, Nat.sub_self]
    rfl
  rw [tsBreakCrc, hat, hsplit, hlow, storeAt_behind (body ++ [high]) _ _ rfl]
  simp only [List.append_assoc, List.cons_append, List.nil_append, List.length_singleton,
    List.drop_succ_cons, List.drop_zero]

end Checksum

theorem firstFailing_trailer {body : List UInt8} (high low : UInt8) (hbody : 11 ≤ body.length) :
    firstFailing (body ++ [high, low]) =
      if 7 + (octetAt body 4 * 256 + octetAt body 5) ≠ body.length + 2 then .badLength
      else if trailer body ≠ [high, low] then .badCrc
      else if octetAt body 0 / 32 ≠ 0 then .badVersion
      else if octetAt body 0 / 16 % 2 ≠ 1 then .badPacketType
      else if octetAt body 0 / 8 % 2 ≠ 1 then .noSecHeader
      else if octetAt body 0 % 8 * 256 + octetAt body 1 ≠ 0x00C then .badApid
      else if octetAt body 6 / 16 ≠ 2 then .badVersion
      else .ok := by
  have hlen : (body ++ [high, low]).length = body.length + 2 := List.length_append
  have hoctet {i : ℕ} (hi : i < body.length) :
      octetAt (body ++ [high, low]) i = octetAt body i := by
    rw [octetAt, getD_append_front [high, low] hi, octetAt]
  have hcrc : ChecksumRight (body ++ [high, low]) ↔ trailer body = [high, low] := by
    rw [ChecksumRight, hlen, Nat.add_sub_cancel, List.drop_left]
    simp only [Flight.crc16Ccitt, trailer, List.take_left, List.take_length]
  have hlong : ¬body.length + 2 < 13 := by omega
  simp only [firstFailing, hlen, if_neg hlong, hcrc, hoctet (i := 0) (by omega),
    hoctet (i := 1) (by omega), hoctet (i := 4) (by omega), hoctet (i := 5) (by omega),
    hoctet (i := 6) (by omega), ne_eq]

theorem trailer_of_accepted {body : List UInt8} {high low : UInt8} (hbody : 11 ≤ body.length)
    (h : firstFailing (body ++ [high, low]) = .ok) :
    7 + (octetAt body 4 * 256 + octetAt body 5) = body.length + 2 ∧
      trailer body = [high, low] := by
  rw [firstFailing_trailer high low hbody] at h
  by_cases hlength : 7 + (octetAt body 4 * 256 + octetAt body 5) ≠ body.length + 2
  · rw [if_pos hlength] at h
    cases h
  by_cases hcrc : trailer body ≠ [high, low]
  · rw [if_neg hlength, if_pos hcrc] at h
    cases h
  exact ⟨not_not.mp hlength, not_not.mp hcrc⟩

/-- The parser on a packet at the front of a buffer. -/
theorem pusTcParse_front (b rest : List UInt8) {len : ℕ} (hlen : len = b.length) :
    pusTcParse (some (b ++ rest)) len =
      if firstFailing b = .ok then .ok (inBuffer (decodedTc b) rest)
      else .error (firstFailing b) := by
  subst hlen
  rw [pusTcParse_append, pusTcParse_eq]
  split <;> rfl

theorem exists_trailer {buf : List UInt8} {len : ℕ} (htwo : 2 ≤ len) (hlen : len ≤ buf.length) :
    ∃ body high low rest, buf = body ++ [high, low] ++ rest ∧ len = body.length + 2 := by
  have hbody : (buf.take (len - 2)).length = len - 2 := List.length_take_of_le (by omega)
  have hdrop : 2 ≤ (buf.drop (len - 2)).length := by
    rw [List.length_drop]
    omega
  have hsplit := List.take_append_drop (len - 2) buf
  rcases hrest : buf.drop (len - 2) with _ | ⟨high, _ | ⟨low, rest⟩⟩
  · rw [hrest] at hdrop
    exact absurd hdrop (by decide)
  · rw [hrest] at hdrop
    exact absurd hdrop (by simp)
  · rw [hrest] at hsplit
    refine ⟨buf.take (len - 2), high, low, rest, ?_, by omega⟩
    rw [List.append_assoc]
    exact hsplit.symm

/-- The checksum helpers of the unit tests. A repaired packet is never rejected for its checksum,
whatever was edited. A packet that the parser accepts is left alone by the repair; spoiled, it is
rejected for its checksum, and repaired after that it is what it was before. -/
theorem checksum_helpers {buf : List UInt8} {len : ℕ} (htwo : 2 ≤ len) (hlen : len ≤ buf.length)
    (hsize : len < sizeModulus) :
    pusTcParse (some (tsFixCrc buf len)) len ≠ .error .badCrc ∧
      ∀ tc, pusTcParse (some buf) len = .ok tc →
        tsFixCrc buf len = buf ∧
        pusTcParse (some (tsBreakCrc buf len)) len = .error .badCrc ∧
        tsFixCrc (tsBreakCrc buf len) len = buf := by
  obtain ⟨body, high, low, rest, rfl, hbody⟩ := exists_trailer htwo hlen
  have hfix (x y : UInt8) := tsFixCrc_append body rest x y hbody hsize
  have hbreak := tsBreakCrc_append body rest high low hbody hsize
  obtain ⟨x, y, htrailer⟩ : ∃ x y, trailer body = [x, y] := ⟨_, _, rfl⟩
  have hsplit (x y : UInt8) : len = (body ++ [x, y]).length := by
    rw [hbody, List.length_append]
    rfl
  rw [hbreak, hfix, hfix, htrailer, pusTcParse_front _ rest (hsplit x y),
    pusTcParse_front _ rest (hsplit high low), pusTcParse_front _ rest (hsplit high _)]
  by_cases hshort : body.length < 11
  · have hfailing (x y : UInt8) : firstFailing (body ++ [x, y]) = .truncated := by
      have hcount : (body ++ [x, y]).length < 13 := by
        rw [← hsplit]
        omega
      rw [firstFailing, if_pos hcount]
    simp only [hfailing, reduceCtorEq, if_false, ne_eq, Except.error.injEq, not_false_eq_true,
      false_implies, implies_true, and_self]
  have hlong : 11 ≤ body.length := by omega
  constructor
  · have hverified : ¬[x, y] ≠ [x, y] := not_not.mpr rfl
    have hrepaired : firstFailing (body ++ [x, y]) ≠ .badCrc := by
      rw [firstFailing_trailer x y hlong, htrailer, if_neg hverified]
      split_ifs <;> decide
    split
    · intro h
      cases h
    · exact fun h => hrepaired (Except.error.inj h)
  · intro tc htc
    have hok : firstFailing (body ++ [high, low]) = .ok := by
      by_contra hfailing
      rw [if_neg hfailing] at htc
      cases htc
    obtain ⟨hlength, hcrc⟩ := trailer_of_accepted hlong hok
    have hspoiled : trailer body ≠ [high, low ^^^ 0x01] := by
      rw [hcrc]
      intro h
      have hlow : low = low ^^^ 0x01 := by simpa using h
      have hflip : low ^^^ (low ^^^ 0x01) = 0x01 := by
        rw [← UInt8.xor_assoc, UInt8.xor_self, UInt8.zero_xor]
      rw [← hlow, UInt8.xor_self] at hflip
      exact absurd hflip (by decide)
    have hrejected : firstFailing (body ++ [high, low ^^^ 0x01]) = .badCrc := by
      rw [firstFailing_trailer high _ hlong, if_neg (not_not.mpr hlength), if_pos hspoiled]
    rw [hrejected, ← htrailer, hcrc]
    exact ⟨rfl, rfl, rfl⟩

/-- The connection test, with an octet behind it in the buffer. -/
theorem checksum_helpers_alive :
    pusTcParse (some (tsBreakCrc (aliveTc ++ [7]) 13)) 13 = .error .badCrc := by
  have hparse : pusTcParse (some (aliveTc ++ [7])) 13 =
      .ok (inBuffer (decodedTc aliveTc) [7]) := by
    have hlen : 13 = aliveTc.length := rfl
    rw [pusTcParse_front aliveTc [7] hlen, if_pos (by decide +kernel)]
  exact ((checksum_helpers (by decide) (show 13 ≤ (aliveTc ++ [7]).length by decide)
    (by decide)).2 _ hparse).2.1

end ObswPus.Harness
