import ObswPus.Bounds.Packet
import ObswPus.Commanding.Runs

/-! # Checked access in telemetry

The packet builder and the downlink queue once more, with checked access to the packet
buffer, the source data, the message counters and the queue slots. Source data that is there
and fits a packet is sent without leaving any of them.
-/
namespace ObswPus.Bounds
open Flight Library Access Downlink
variable (fuel : ℕ)

/-- One pass of the loop that copies the source data. -/
def copySource (src : Option (List UInt8)) (off i : ℕ) (octets : List UInt8) :
    Access (Pass (List UInt8) (List UInt8)) := do
  let octet ← pusGetU8 src i
  let octets ← write octets (off + i) octet
  return .next octets

def pusTmBuild (s : Obsw) (buf : Option (List UInt8)) (cap : ℕ) (service subtype : UInt8)
    (srcData : Option (List UInt8)) (srcLen : ℕ) (outLen : Option ℕ) : Access BuildResult :=
  if buf.isNone ∨ outLen.isNone then return ⟨.null, buf, outLen, s⟩
  else if srcData.isNone ∧ 0 < srcLen then return ⟨.null, buf, outLen, s⟩
  else
    let total := (pusTmMinLen + srcLen) % sizeModulus
    if cap < total ∨ pusMaxPacketSize < total then return ⟨.bufferTooSmall, buf, outLen, s⟩
    else do
      let hdr : CcsdsPrimaryHeader :=
        { version := 0
          packetType := ccsdsTypeTm
          secHdrFlag := 1
          apid := pusTmApid
          seqFlags := ccsdsSeqFlagUnsegmented
          seqCount := s.tm.seqCount &&& 0x3FFF
          dataLength := UInt16.ofNat (sizeSub (sizeSub total ccsdsPrimaryHeaderLen) 1) }
      let packed ← ccsdsPackPrimary (some hdr) buf cap
      if packed.1 ≠ .ok then return ⟨packed.1, packed.2, outLen, s⟩
      else
        let off := ccsdsPrimaryHeaderLen
        let time := halGetCucTime s.hal
        let octets ← deref packed.2
        let octets ← write octets off ((pusVersionC <<< 4) ||| pusTmTimeRefStatus)
        let octets ← write octets (off + 1) service
        let octets ← write octets (off + 2) subtype
        let counter ← readCell s.tm.msgCounter service.toNat
        let octets ← pusPutU16 octets (off + 3) counter
        let octets ← pusPutU16 octets (off + 5) pusTmDestinationId
        let octets ← pusPutU32 octets (off + 7) time.1
        let octets ← pusPutU16 octets (off + 11) time.2
        let off := off + pusTmSecHeaderLen
        let pass ← forSize fuel srcLen (copySource srcData off) octets
        let octets := pass.out
        let off := off + srcLen
        let crc ← crc16Ccitt fuel (some octets) off
        let octets ← pusPutU16 octets off crc
        let counter ← readCell s.tm.msgCounter service.toNat
        let msgCounter ← writeCell s.tm.msgCounter service.toNat (counter + 1)
        return ⟨.ok, some octets, some total,
          { s with tm :=
            { seqCount := (s.tm.seqCount + 1) &&& 0x3FFF
              msgCounter := msgCounter } }⟩

variable {fuel}

section Extending
variable {buf xs : List UInt8} {k : ℕ}

theorem length_storeAt_zero (h : xs.length ≤ buf.length) :
    (storeAt buf 0 xs).length = buf.length := length_storeAt (by omega)

theorem pusPutU8_extend (v : UInt8) (hk : k = xs.length) (h : k + 1 ≤ buf.length) :
    pusPutU8 (storeAt buf 0 xs) k v = .ok (storeAt buf 0 (xs ++ Flight.pusPutU8 v)) :=
  write_storeAt xs v (by omega) h

theorem pusPutU16_extend (v : UInt16) (hk : k = xs.length) (h : k + 2 ≤ buf.length) :
    pusPutU16 (storeAt buf 0 xs) k v = .ok (storeAt buf 0 (xs ++ Flight.pusPutU16 v)) := by
  rw [pusPutU16_eq v (by rw [length_storeAt_zero (by omega)]; omega), storeAt_extend _ _ _ _ hk]

theorem pusPutI16_extend (v : Int16) (hk : k = xs.length) (h : k + 2 ≤ buf.length) :
    pusPutI16 (storeAt buf 0 xs) k v = .ok (storeAt buf 0 (xs ++ Flight.pusPutI16 v)) :=
  pusPutU16_extend _ hk h

theorem pusPutU32_extend (v : UInt32) (hk : k = xs.length) (h : k + 4 ≤ buf.length) :
    pusPutU32 (storeAt buf 0 xs) k v = .ok (storeAt buf 0 (xs ++ Flight.pusPutU32 v)) := by
  rw [pusPutU32_eq v (by rw [length_storeAt_zero (by omega)]; omega), storeAt_extend _ _ _ _ hk]

end Extending

section Storing
variable {β : Type} {buf xs : List UInt8} {k : ℕ}

theorem stored_eq_storeAt (h : xs.length ≤ buf.length) :
    stored buf xs = .ok (storeAt buf 0 xs) := by
  rw [stored_of_le h, storeAt, List.take_zero, List.nil_append, Nat.zero_add]

theorem stored_pusPutU16 (v : UInt16) (hk : k = xs.length) (f : List UInt8 → Access β) :
    (stored buf xs >>= fun o => pusPutU16 o k v >>= f) =
      stored buf (xs ++ Flight.pusPutU16 v) >>= f := by
  simp only [pusPutU16, bind_assoc]
  rw [stored_write _ hk, stored_write _ (by simp [hk]), List.append_assoc]
  rfl

theorem stored_pusPutU32 (v : UInt32) (hk : k = xs.length) (f : List UInt8 → Access β) :
    (stored buf xs >>= fun o => pusPutU32 o k v >>= f) =
      stored buf (xs ++ Flight.pusPutU32 v) >>= f := by
  simp only [pusPutU32, bind_assoc]
  rw [stored_write _ hk, stored_write _ (by simp [hk]), stored_write _ (by simp [hk]),
    stored_write _ (by simp [hk])]
  simp only [List.append_assoc]
  rfl

theorem stored_ccsdsPackPrimary (hdr : CcsdsPrimaryHeader) {cap : ℕ} (hroom : 6 ≤ cap)
    (hcap : cap ≤ buf.length) (f : PusStatus × Option (List UInt8) → Access β) :
    ccsdsPackPrimary (some hdr) (some buf) cap >>= f =
      stored buf (Flight.pusPutU16 (ccsdsWord0 hdr) ++ Flight.pusPutU16 (ccsdsWord1 hdr) ++
        Flight.pusPutU16 hdr.dataLength) >>= fun o => f (.ok, some o) := by
  have hguard : ¬cap < ccsdsPrimaryHeaderLen := Nat.not_lt.mpr hroom
  rw [ccsdsPackPrimary_eq _ hcap, ok_bind, stored_eq_storeAt (by simpa using hroom.trans hcap),
    ok_bind]
  simp only [Flight.ccsdsPackPrimary, if_neg hguard, storeAt_extend, length_pusPutU16,
    List.length_append]

theorem stored_copySource {src : Option (List UInt8)} {data : List UInt8} {srcLen : ℕ}
    (hsrc : (src.getD []).take srcLen = data) (hlen : data.length = srcLen)
    (hk : k = xs.length) (hfuel : srcLen ≤ fuel)
    (f : Pass (List UInt8) (List UInt8) → Access β) :
    (stored buf xs >>= fun o => forSize fuel srcLen (copySource src k) o >>= f) =
      stored buf (xs ++ data) >>= fun o => f (.next o) := by
  subst hk hlen
  apply stored_forSize _ hfuel
  intro i hi o
  cases src with
  | none =>
    rw [Option.getD_none, List.take_nil] at hsrc
    subst hsrc
    exact absurd hi (Nat.not_lt_zero i)
  | some object =>
    rw [Option.getD_some] at hsrc
    have htaken : i < (object.take data.length).length := hsrc.symm ▸ hi
    have hobject : i < object.length := htaken.trans_le (List.length_take_le' _ _)
    have hvalue : object.getD i 0 = data[i] := by
      rw [List.getD_eq_getElem _ _ hobject, ← List.getElem_of_eq hsrc htaken, List.getElem_take]
    rw [copySource, pusGetU8_eq hobject, ok_bind, pusGetU8_drop, hvalue]
    rfl

theorem stored_crc16Ccitt (hk : k = xs.length) (hfuel : min k buf.length ≤ fuel)
    (hoctet : 8 ≤ fuel) (f : List UInt8 → Access β) :
    (stored buf xs >>= fun o => crc16Ccitt fuel (some o) k >>= fun crc =>
        pusPutU16 o k crc >>= f) =
      stored buf (xs ++ Flight.pusPutU16 (Flight.crc16Ccitt (some xs) xs.length)) >>= f := by
  subst hk
  rw [← stored_pusPutU16 _ rfl]
  apply stored_bind_congr
  intro hle
  have hlen : xs.length ≤ (xs ++ buf.drop xs.length).length := by
    rw [List.length_append]
    omega
  rw [crc16Ccitt_eq hlen hoctet (by omega), ok_bind, Flight.crc16Ccitt, Flight.crc16Ccitt,
    List.take_left, List.take_length]

end Storing

section Stored
variable (tm : PusTm) (time : UInt32 × UInt16) (service subtype : UInt8) (total : ℕ)
  (data : List UInt8)

def storedPrimary : CcsdsPrimaryHeader :=
  { version := 0
    packetType := ccsdsTypeTm
    secHdrFlag := 1
    apid := pusTmApid
    seqFlags := ccsdsSeqFlagUnsegmented
    seqCount := tm.seqCount &&& 0x3FFF
    dataLength := UInt16.ofNat (sizeSub (sizeSub total ccsdsPrimaryHeaderLen) 1) }

def storedBody : List UInt8 :=
  Flight.pusPutU16 (ccsdsWord0 (storedPrimary tm total)) ++
    Flight.pusPutU16 (ccsdsWord1 (storedPrimary tm total)) ++
    Flight.pusPutU16 (storedPrimary tm total).dataLength ++
    [(pusVersionC <<< 4) ||| pusTmTimeRefStatus] ++ [service] ++ [subtype] ++
    Flight.pusPutU16 (tm.msgCounter.get service.toNat) ++ Flight.pusPutU16 pusTmDestinationId ++
    Flight.pusPutU32 time.1 ++ Flight.pusPutU16 time.2 ++ data

def storedPacket : List UInt8 :=
  storedBody tm time service subtype total data ++
    Flight.pusPutU16 (Flight.crc16Ccitt (some (storedBody tm time service subtype total data))
      (storedBody tm time service subtype total data).length)

theorem length_storedBody :
    (storedBody tm time service subtype total data).length = 19 + data.length := by
  simp only [storedBody, List.length_append, length_pusPutU16, length_pusPutU32, List.length_cons,
    List.length_nil]

theorem length_storedPacket :
    (storedPacket tm time service subtype total data).length = 21 + data.length := by
  rw [storedPacket, List.length_append, length_storedBody, length_pusPutU16]
  omega

theorem storedPacket_report (r : Report) :
    storedPacket tm time r.service r.subtype (pusTmMinLen + r.data.length) r.data =
      tmPacket tm time r := by
  have hprimary : storedPrimary tm (pusTmMinLen + r.data.length) = tmPrimary tm r := by
    rw [storedPrimary, sizeSub_total]
    rfl
  rw [storedPacket, storedBody, hprimary]
  rfl

end Stored

/-- Past its guard the builder stores 21 octets and the source data, wherever that ends. -/
theorem pusTmBuild_stored (s : Obsw) {buf data : List UInt8} {src : Option (List UInt8)}
    (service subtype : UInt8) {cap srcLen total : ℕ} (n : ℕ)
    (htotal : (pusTmMinLen + srcLen) % sizeModulus = total) (hcap : total ≤ cap)
    (hmax : total ≤ pusMaxPacketSize) (hheader : 6 ≤ cap) (hbuf : cap ≤ buf.length)
    (hsrc : (src.getD []).take srcLen = data) (hlen : data.length = srcLen)
    (hoctet : 8 ≤ fuel) (hloop : srcLen ≤ fuel) (hcrc : min (19 + srcLen) buf.length ≤ fuel) :
    pusTmBuild fuel s (some buf) cap service subtype src srcLen (some n) =
      stored buf (storedPacket s.tm (halGetCucTime s.hal) service subtype total data) >>= fun o =>
        .ok ⟨.ok, some o, some total, { s with tm := countPacket s.tm service }⟩ := by
  have hguard : ¬(cap < total ∨ pusMaxPacketSize < total) :=
    not_or.mpr ⟨Nat.not_lt.mpr hcap, Nat.not_lt.mpr hmax⟩
  have hnull : ¬(src.isNone = true ∧ 0 < srcLen) := by
    rintro ⟨hnone, hpos⟩
    rw [Option.isNone_iff_eq_none.mp hnone, Option.getD_none, List.take_nil] at hsrc
    rw [← hlen, ← hsrc] at hpos
    exact absurd hpos (Nat.lt_irrefl 0)
  have hservice := service.toNat_lt
  simp only [pusTmBuild, Option.isNone_some, Bool.false_eq_true, or_self, if_false, hnull, htotal,
    hguard, stored_ccsdsPackPrimary _ hheader hbuf, ne_eq, not_true_eq_false, deref_some, ok_bind,
    readCell_eq _ hservice, writeCell_eq _ hservice, pure_eq_ok]
  rw [stored_write _ (by rfl), stored_write _ (by rfl), stored_write _ (by rfl),
    stored_pusPutU16 _ (by rfl), stored_pusPutU16 _ (by rfl), stored_pusPutU32 _ (by rfl),
    stored_pusPutU16 _ (by rfl), stored_copySource hsrc hlen (by rfl) hloop]
  dsimp only [Pass.out]
  rw [stored_crc16Ccitt (by rw [List.length_append, hlen]; rfl) (by exact hcrc) hoctet]
  rfl

section Reports
variable {r : Report} {src : Option (List UInt8)}

/-- A report's packet is made within its buffer, and the counter of its service is there. -/
theorem pusTmBuild_eq (hfuel : 65542 ≤ fuel) (hsrc : (src.getD []).take r.data.length = r.data)
    (s : Obsw) (buf : List UInt8) (cap n : ℕ) (hcap : pusTmMinLen + r.data.length ≤ cap)
    (hbuf : cap ≤ buf.length) :
    pusTmBuild fuel s (some buf) cap r.service r.subtype src r.data.length (some n) =
      .ok (Flight.pusTmBuild s (some buf) cap r.service r.subtype src r.data.length (some n)) := by
  have hmin : pusTmMinLen = 21 := rfl
  have hfits : pusTmMinLen + r.data.length ≤ 256 := r.fits
  have htotal : (pusTmMinLen + r.data.length) % sizeModulus = pusTmMinLen + r.data.length :=
    Nat.mod_eq_of_lt (lt_of_le_of_lt hfits (by decide))
  have hlen := tmPacket_length s.tm (halGetCucTime s.hal) r
  rw [pusTmBuild_of_source hsrc s buf cap n hcap, pusTmBuild_stored s r.service r.subtype n htotal
    hcap hfits (by omega) hbuf hsrc rfl (by omega) (by omega) (by omega), storedPacket_report,
    stored_eq_storeAt (by omega), ok_bind]

end Reports

abbrev Slots : Type := FixedArray pusTmQueueDepth (FixedArray pusMaxPacketSize UInt8)

/-- One pass of the loop that copies a packet into a slot. -/
def copyPacket (octets : List UInt8) (tail i : ℕ) (slots : Slots) : Access (Pass Slots Slots) := do
  let octet ← read octets i
  let slot ← readCell slots tail
  let slot ← writeCell slot i octet
  let slots ← writeCell slots tail slot
  return .next slots

variable (fuel) in
def tmQueuePush (q : TmQueue) (packet : Option (List UInt8)) (len : ℕ) :
    Access (PusStatus × TmQueue) :=
  match packet with
  | none => return (.null, q)
  | some octets =>
    if len = 0 ∨ pusMaxPacketSize < len then return (.badLength, q)
    else if pusTmQueueDepth ≤ q.count then
      return (.queueFull,
        if q.overflows < 0xFFFF then { q with overflows := q.overflows + 1 } else q)
    else do
      let tail := (q.head + q.count) % pusTmQueueDepth
      let pass ← forSize fuel len (copyPacket octets tail) q.slots
      let lengths ← writeCell q.lengths tail len
      return (.ok, { q with slots := pass.out, lengths := lengths, count := q.count + 1 })

theorem copyPacket_eq {octets : List UInt8} {tail len : ℕ} (htail : tail < pusTmQueueDepth)
    (hlen : len ≤ octets.length) (hmax : len ≤ pusMaxPacketSize) (hfuel : len ≤ fuel)
    (slots : Slots) :
    forSize fuel len (copyPacket octets tail) slots =
      .ok (.next (slots.set tail ((slots.get tail).copyFrom octets len))) := by
  have hbody : ∀ i < len, ∀ slots : Slots, copyPacket octets tail i slots =
      .ok (.next (slots.set tail ((slots.get tail).set i (octets.getD i default)))) := by
    intro i hi slots
    rw [copyPacket, read_eq octets (by omega) default, ok_bind, readCell_eq slots htail, ok_bind,
      writeCell_eq _ (by omega), ok_bind, writeCell_eq _ htail]
    rfl
  have hfold (n : ℕ) : (List.range n).foldl (fun slots i =>
        FixedArray.set slots tail ((slots.get tail).set i (octets.getD i default))) slots =
      slots.set tail ((slots.get tail).copyFrom octets n) := by
    induction n with
    | zero => exact (FixedArray.set_get_self slots tail).symm
    | succ n ih =>
      rw [List.range_succ, List.foldl_append, ih, List.foldl_cons, List.foldl_nil,
        FixedArray.set_set, FixedArray.get_set_self _ _ htail, FixedArray.copyFrom,
        FixedArray.copyFrom, List.range_succ, List.foldl_append, List.foldl_cons, List.foldl_nil]
  rw [forSize_fold (fun i slots =>
    FixedArray.set slots tail ((slots.get tail).set i (octets.getD i default))) hbody hfuel, hfold]

theorem tmQueuePush_eq (hfuel : 65542 ≤ fuel) (q : TmQueue) {octets : List UInt8} {len : ℕ}
    (hlen : len ≤ octets.length) :
    tmQueuePush fuel q (some octets) len = .ok (Flight.tmQueuePush q (some octets) len) := by
  apply ite_eq (fun _ => rfl)
  intro hsize
  apply ite_eq (fun _ => rfl)
  intro _
  have hmax : pusMaxPacketSize = 256 := rfl
  have htail : (q.head + q.count) % pusTmQueueDepth < pusTmQueueDepth :=
    Nat.mod_lt _ (by decide)
  dsimp only
  rw [copyPacket_eq htail hlen (by omega) (by omega), ok_bind, writeCell_eq _ htail]
  rfl

variable (fuel) in
def pusTmSend (s : Obsw) (service subtype : UInt8) (srcData : Option (List UInt8))
    (srcLen : ℕ) : Access (PusStatus × Obsw) := do
  let packet : List UInt8 := List.replicate pusMaxPacketSize 0
  let built ← pusTmBuild fuel s (some packet) pusMaxPacketSize service subtype srcData srcLen
    (some 0)
  if built.status ≠ .ok then return (built.status, built.obsw)
  else
    let len := built.outLen.getD 0
    let pushed ← tmQueuePush fuel built.obsw.queue built.buf len
    return (pushed.1,
      { built.obsw with
        queue := pushed.2
        history := built.obsw.history ++
          [{ packet := (built.buf.getD []).take len, queued := pushed.1 = .ok }] })

/-- Source data within its buffer and within a packet is sent without a fault. -/
theorem pusTmSend_eq (hfuel : 65542 ≤ fuel) (s : Obsw) (service subtype : UInt8)
    {src : Option (List UInt8)} {n : ℕ} (hsrc : n ≤ (src.getD []).length) (hn : n ≤ 235) :
    pusTmSend fuel s service subtype src n = .ok (Flight.pusTmSend s service subtype src n) := by
  have hmin : pusTmMinLen = 21 := rfl
  have hmax : pusMaxPacketSize = 256 := rfl
  obtain ⟨r, rfl, rfl, hr⟩ : ∃ r : Report, r.service = service ∧ r.subtype = subtype ∧
      r.data = (src.getD []).take n :=
    ⟨⟨service, subtype, (src.getD []).take n, by rw [List.length_take]; omega⟩, rfl, rfl, rfl⟩
  obtain rfl : r.data.length = n := by rw [hr, List.length_take_of_le hsrc]
  have hbuf : (List.replicate pusMaxPacketSize (0 : UInt8)).length = pusMaxPacketSize :=
    List.length_replicate
  have hlen := tmPacket_length s.tm (halGetCucTime s.hal) r
  have hstored : (storeAt (List.replicate pusMaxPacketSize 0) 0
      (tmPacket s.tm (halGetCucTime s.hal) r)).length = pusMaxPacketSize := by
    rw [length_storeAt_zero (by omega), hbuf]
  rw [pusTmSend, pusTmBuild_eq hfuel hr.symm s _ _ 0 (by omega) hbuf.ge, ok_bind,
    Flight.pusTmSend, pusTmBuild_of_source hr.symm s _ _ 0 (by omega)]
  apply ite_eq (fun _ => rfl)
  intro _
  dsimp only [Option.getD_some]
  rw [tmQueuePush_eq hfuel _ (by omega), ok_bind]
  rfl

theorem pusTmSend_storeAt (s : Obsw) (service subtype : UInt8) (buf data : List UInt8) {n : ℕ}
    (hn : n = data.length) :
    Flight.pusTmSend s service subtype (some (storeAt buf 0 data)) n =
      Flight.pusTmSend s service subtype (some data) n := by
  subst hn
  rw [Flight.pusTmSend, pusTmBuild_take, Option.map_some, take_storeAt_zero]
  rfl

end ObswPus.Bounds
