import ObswPus.Flight.PusTm
import ObswPus.Downlink.Queue

/-! # Reports and the packets that carry them

A report is what a service asks the packet builder to send: service, subtype and
source data. `tmPacket` is the packet the builder makes of it in a given state, and
`emit` the whole effect of sending it: the counters advance, the packet is offered
to the queue, and the history records whether the queue took it.
-/
namespace ObswPus.Downlink
open Flight Library

/-- A telemetry report small enough for one packet. -/
structure Report where
  service : UInt8
  subtype : UInt8
  data : List UInt8
  fits : pusTmMinLen + data.length ≤ pusMaxPacketSize
  deriving DecidableEq

def tmPrimary (tm : PusTm) (r : Report) : CcsdsPrimaryHeader :=
  { version := 0
    packetType := ccsdsTypeTm
    secHdrFlag := 1
    apid := pusTmApid
    seqFlags := ccsdsSeqFlagUnsegmented
    seqCount := tm.seqCount &&& 0x3FFF
    dataLength := UInt16.ofNat (pusTmMinLen + r.data.length - ccsdsPrimaryHeaderLen - 1) }

/-- Everything before the packet error control field. -/
def tmBody (tm : PusTm) (time : UInt32 × UInt16) (r : Report) : List UInt8 :=
  pusPutU16 (ccsdsWord0 (tmPrimary tm r)) ++ pusPutU16 (ccsdsWord1 (tmPrimary tm r)) ++
    pusPutU16 (tmPrimary tm r).dataLength ++ [(pusVersionC <<< 4) ||| pusTmTimeRefStatus] ++
    [r.service] ++ [r.subtype] ++ pusPutU16 (tm.msgCounter.get r.service.toNat) ++
    pusPutU16 pusTmDestinationId ++ pusPutU32 time.1 ++ pusPutU16 time.2 ++ r.data

/-- The complete packet, packet error control field included. -/
def tmPacket (tm : PusTm) (time : UInt32 × UInt16) (r : Report) : List UInt8 :=
  tmBody tm time r ++
    pusPutU16 (crc16Ccitt (some (tmBody tm time r)) (tmBody tm time r).length)

theorem tmBody_length (tm : PusTm) (time : UInt32 × UInt16) (r : Report) :
    (tmBody tm time r).length = 19 + r.data.length := by
  simp only [tmBody, List.length_append, length_pusPutU16, length_pusPutU32, List.length_cons,
    List.length_nil]

theorem tmPacket_length (tm : PusTm) (time : UInt32 × UInt16) (r : Report) :
    (tmPacket tm time r).length = pusTmMinLen + r.data.length := by
  have hmin : pusTmMinLen = 21 := rfl
  rw [tmPacket, List.length_append, tmBody_length, length_pusPutU16]
  omega

theorem sizeSub_total (r : Report) :
    sizeSub (sizeSub (pusTmMinLen + r.data.length) ccsdsPrimaryHeaderLen) 1 =
      pusTmMinLen + r.data.length - ccsdsPrimaryHeaderLen - 1 := by
  have hmin : pusTmMinLen = 21 := rfl
  have hheader : ccsdsPrimaryHeaderLen = 6 := rfl
  have hsize : 256 < sizeModulus := by decide
  have hfits : pusTmMinLen + r.data.length ≤ 256 := r.fits
  rw [sizeSub_eq (a := pusTmMinLen + r.data.length) (by omega) (by omega),
    sizeSub_eq (by omega) (by omega)]

theorem tmPacket_ne_nil (tm : PusTm) (time : UInt32 × UInt16) (r : Report) :
    tmPacket tm time r ≠ [] := by
  intro h
  have hmin : pusTmMinLen = 21 := rfl
  have hlen := tmPacket_length tm time r
  rw [h, List.length_nil] at hlen
  omega

/-- The sequence count and the counter of the sending service advance; nothing else does. -/
def countPacket (tm : PusTm) (service : UInt8) : PusTm :=
  { seqCount := (tm.seqCount + 1) &&& 0x3FFF
    msgCounter := tm.msgCounter.set service.toNat (tm.msgCounter.get service.toNat + 1) }

theorem storeAt_extend (buf xs ys : List UInt8) (off : ℕ) (h : off = xs.length) :
    storeAt (storeAt buf 0 xs) off ys = storeAt buf 0 (xs ++ ys) := by
  subst h
  simpa using storeAt_storeAt buf xs ys 0 (Nat.zero_le _)

theorem crc16Ccitt_storeAt (buf xs : List UInt8) (len : ℕ) (h : len = xs.length) :
    crc16Ccitt (some (storeAt buf 0 xs)) len = crc16Ccitt (some xs) xs.length := by
  subst h
  simp only [crc16Ccitt, take_storeAt_zero, List.take_length]

/-- A buffer that holds the report's packet receives exactly its octets. -/
theorem pusTmBuild_eq (s : Obsw) (buf : List UInt8) (r : Report) (cap n : ℕ)
    (hcap : pusTmMinLen + r.data.length ≤ cap) (src : Option (List UInt8))
    (hsrc : src.getD [] = r.data) (hnull : src.isNone → r.data = []) :
    pusTmBuild s (some buf) cap r.service r.subtype src r.data.length (some n) =
      ⟨.ok, some (storeAt buf 0 (tmPacket s.tm (halGetCucTime s.hal) r)),
        some (pusTmMinLen + r.data.length), { s with tm := countPacket s.tm r.service }⟩ := by
  have hmin : pusTmMinLen = 21 := rfl
  have hfits : pusTmMinLen + r.data.length ≤ 256 := r.fits
  have htotal : (pusTmMinLen + r.data.length) % sizeModulus = pusTmMinLen + r.data.length :=
    Nat.mod_eq_of_lt (lt_of_le_of_lt hfits (by decide))
  have hsrc' : ¬(src.isNone = true ∧ 0 < r.data.length) := by
    rintro ⟨h, hpos⟩
    rw [hnull h] at hpos
    exact absurd hpos (by simp)
  have hguard : ¬(cap < pusTmMinLen + r.data.length ∨
      pusMaxPacketSize < pusTmMinLen + r.data.length) := by
    rintro (h | h)
    · omega
    · exact absurd h (Nat.not_lt.mpr hfits)
  have hcap6 : ¬ cap < ccsdsPrimaryHeaderLen := by
    have h6 : ccsdsPrimaryHeaderLen = 6 := rfl
    omega
  simp only [pusTmBuild, Option.isNone_some, Bool.false_eq_true, or_self, if_false, hsrc', htotal,
    hguard, sizeSub_total, ccsdsPackPrimary, hcap6, ne_eq, not_true_eq_false, Option.getD_some,
    hsrc, List.take_length]
  have hcrc := crc16Ccitt_storeAt buf (tmBody s.tm (halGetCucTime s.hal) r)
    (19 + r.data.length) (tmBody_length _ _ _).symm
  simp only [tmBody, tmPrimary, ccsdsPrimaryHeaderLen] at hcrc
  simp only [storeAt_extend, List.length_append, length_pusPutU16, length_pusPutU32,
    List.length_cons, List.length_nil, Nat.reduceAdd, ccsdsPrimaryHeaderLen, pusTmSecHeaderLen,
    hcrc, tmPacket, tmBody, tmPrimary, countPacket]

theorem pusTmBuild_take (s : Obsw) (buf : Option (List UInt8)) (cap : ℕ)
    (service subtype : UInt8) (src : Option (List UInt8)) (n : ℕ) (out : Option ℕ) :
    pusTmBuild s buf cap service subtype src n out =
      pusTmBuild s buf cap service subtype (src.map (List.take n)) n out := by
  cases src with
  | none => rfl
  | some object =>
    simp only [pusTmBuild, Option.map_some, Option.isNone_some, Option.getD_some,
      List.take_take, min_self]

/-- The builder makes the packet of a report from any source object that starts with its data. -/
theorem pusTmBuild_of_source {r : Report} {src : Option (List UInt8)}
    (hsrc : (src.getD []).take r.data.length = r.data) (s : Obsw) (buf : List UInt8) (cap n : ℕ)
    (hcap : pusTmMinLen + r.data.length ≤ cap) :
    pusTmBuild s (some buf) cap r.service r.subtype src r.data.length (some n) =
      ⟨.ok, some (storeAt buf 0 (tmPacket s.tm (halGetCucTime s.hal) r)),
        some (pusTmMinLen + r.data.length), { s with tm := countPacket s.tm r.service }⟩ := by
  rw [pusTmBuild_take]
  cases src with
  | none =>
    rw [Option.getD_none, List.take_nil] at hsrc
    exact pusTmBuild_eq s buf r cap n hcap none hsrc fun _ => hsrc.symm
  | some object => exact pusTmBuild_eq s buf r cap n hcap _ hsrc (by simp)

/-- The effect of sending a report. -/
def emit (s : Obsw) (r : Report) : Obsw :=
  { s with
    tm := countPacket s.tm r.service
    queue := (tmQueuePush s.queue (some (tmPacket s.tm (halGetCucTime s.hal) r))
      (tmPacket s.tm (halGetCucTime s.hal) r).length).2
    history := s.history ++
      [{ packet := tmPacket s.tm (halGetCucTime s.hal) r
         queued := s.queue.count < pusTmQueueDepth }] }

/-- The status of a send: the only way to fail is a full queue. -/
def sendStatus (q : TmQueue) : PusStatus := if q.count < pusTmQueueDepth then .ok else .queueFull

theorem tmQueuePush_status (q : TmQueue) (tm : PusTm) (time : UInt32 × UInt16) (r : Report) :
    (tmQueuePush q (some (tmPacket tm time r)) (tmPacket tm time r).length).1 = sendStatus q := by
  have hlen : (tmPacket tm time r).length ≤ pusMaxPacketSize := by
    rw [tmPacket_length]
    exact r.fits
  unfold sendStatus
  split
  · rename_i hroom
    rw [tmQueuePush_room (tmPacket_ne_nil tm time r) hlen hroom]
  · rename_i hfull
    rw [tmQueuePush_full (tmPacket_ne_nil tm time r) hlen (Nat.not_lt.mp hfull)]

/-- Every packet reaches the queue through `pus_tm_send`, and this is all it does. -/
theorem pusTmSend_eq (s : Obsw) (r : Report) (src : Option (List UInt8))
    (hsrc : src.getD [] = r.data) (hnull : src.isNone → r.data = []) :
    pusTmSend s r.service r.subtype src r.data.length = (sendStatus s.queue, emit s r) := by
  have hlen := tmPacket_length s.tm (halGetCucTime s.hal) r
  have hstatus :
      decide ((sendStatus s.queue) = .ok) = decide (s.queue.count < pusTmQueueDepth) := by
    unfold sendStatus
    split <;> simp [*]
  simp only [pusTmSend, pusTmBuild_eq s _ r _ 0 r.fits src hsrc hnull, ne_eq, not_true_eq_false,
    if_false, Option.getD_some]
  rw [← hlen, tmQueuePush_take, take_storeAt_zero, tmQueuePush_status, hstatus]
  simp only [emit]

end ObswPus.Downlink
