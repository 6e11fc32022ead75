import Mathlib.Data.List.TakeWhile
import ObswPus.Harness.Sending
import ObswPus.System.EndToEnd

/-! # Telemetry of the unit tests

The helpers of the unit tests that take packets from the downlink queue
(`tests/framework/test_support.c`). The one that looks for a type of report discards what it
passes over, and shows the first one of that type as ground decodes it.
-/
namespace ObswPus.Harness
open Flight Downlink Commanding Telemetry Codec Ground ObswPus.System Library

/-- Decoded telemetry packet. `data` points into the caller's buffer. -/
structure TsTm where
  service : UInt8
  subtype : UInt8
  seqCount : UInt16
  msgCounter : UInt16
  timeCoarse : UInt32
  timeFine : UInt16
  data : List UInt8
  dataLen : ℕ
  totalLen : ℕ
  deriving DecidableEq

/-- What is returned, and what is left in `*buf`, `*tm` and the queue. -/
structure TsTmPop where
  found : Bool
  buf : List UInt8
  tm : TsTm
  queue : TmQueue

/-- The local `hdr` keeps what it holds if the packet has no primary header. -/
def tsTmPop (q : TmQueue) (hdr : CcsdsPrimaryHeader) (buf : List UInt8) (cap : ℕ) (tm : TsTm) :
    TsTmPop :=
  let popped := tmQueuePop q (some buf) cap (some 0)
  if popped.status ≠ .ok then ⟨false, popped.buf.getD buf, tm, popped.queue⟩
  else
    let buf := popped.buf.getD buf
    let len := popped.outLen.getD 0
    let hdr := (ccsdsUnpackPrimary (some buf) len).toOption.getD hdr
    let off := ccsdsPrimaryHeaderLen
    ⟨true, buf,
      { service := buf.getD (off + 1) 0
        subtype := buf.getD (off + 2) 0
        seqCount := hdr.seqCount
        msgCounter := pusGetU16 (buf.drop (off + 3))
        timeCoarse := pusGetU32 (buf.drop (off + 7))
        timeFine := pusGetU16 (buf.drop (off + 11))
        data := buf.drop (off + pusTmSecHeaderLen)
        dataLen := sizeSub (sizeSub (sizeSub len ccsdsPrimaryHeaderLen) pusTmSecHeaderLen)
          ccsdsCrcLen
        totalLen := len },
      popped.queue⟩

theorem count_tmQueuePop_lt {q : TmQueue} {buf : Option (List UInt8)} {cap : ℕ} {out : Option ℕ}
    (h : (tmQueuePop q buf cap out).status = .ok) :
    (tmQueuePop q buf cap out).queue.count < q.count := by
  obtain ⟨hne, -⟩ | ⟨octets, -, hzero, -, heq⟩ := tmQueuePop_cases q buf cap out
  · exact absurd h hne
  · rw [heq]
    exact Nat.sub_lt (Nat.pos_of_ne_zero hzero) Nat.one_pos

theorem count_tsTmPop {q : TmQueue} {hdr : CcsdsPrimaryHeader} {buf : List UInt8} {cap : ℕ}
    {tm : TsTm} (h : (tsTmPop q hdr buf cap tm).found ≠ false) :
    (tsTmPop q hdr buf cap tm).queue.count < q.count := by
  unfold tsTmPop at h ⊢
  by_cases hok : (tmQueuePop q (some buf) cap (some 0)).status ≠ .ok
  · simp only [if_pos hok] at h
    exact absurd rfl h
  · simp only [if_neg hok]
    exact count_tmQueuePop_lt (not_not.mp hok)

def tsTmFind (q : TmQueue) (hdr : CcsdsPrimaryHeader) (service subtype : UInt8) (buf : List UInt8)
    (cap : ℕ) (tm : TsTm) : TsTmPop :=
  let popped := tsTmPop q hdr buf cap tm
  if hfound : popped.found = false then popped
  else if popped.tm.service = service ∧ popped.tm.subtype = subtype then popped
  else
    have _ := count_tsTmPop hfound
    tsTmFind popped.queue hdr service subtype popped.buf cap popped.tm
termination_by q.count

/-- The local variables `scratch` and `len` hold anything at first. -/
def tsTmFlush (q : TmQueue) (scratch : List UInt8) (len : ℕ) : TmQueue :=
  let popped := tmQueuePop q (some scratch) pusMaxPacketSize (some len)
  if hpop : popped.status ≠ .ok then popped.queue
  else
    have _ := count_tmQueuePop_lt (not_not.mp hpop)
    tsTmFlush popped.queue (popped.buf.getD scratch) (popped.outLen.getD len)
termination_by q.count

/-- The fields that describe a packet. -/
structure Describes (tm : TsTm) (p : List UInt8) : Prop where
  service : tm.service = tmService p
  subtype : tm.subtype = tmSubtype p
  seqCount : tm.seqCount = tmSeqCount p
  msgCounter : tm.msgCounter = tmMsgCounter p
  timeCoarse : tm.timeCoarse = (tmTime p).1
  timeFine : tm.timeFine = (tmTime p).2
  data : tm.data.take tm.dataLen = tmData p
  totalLen : tm.totalLen = p.length

theorem dataLen_eq {n : ℕ} (hmin : pusTmMinLen ≤ n) (hsize : n < sizeModulus) :
    sizeSub (sizeSub (sizeSub n ccsdsPrimaryHeaderLen) pusTmSecHeaderLen) ccsdsCrcLen =
      n - pusTmMinLen := by
  have h6 : ccsdsPrimaryHeaderLen = 6 := rfl
  have h13 : pusTmSecHeaderLen = 13 := rfl
  have h2 : ccsdsCrcLen = 2 := rfl
  have h21 : pusTmMinLen = 21 := rfl
  rw [sizeSub_eq (a := n) (by omega) hsize, sizeSub_eq (a := n - ccsdsPrimaryHeaderLen) (by omega)
    (by omega), sizeSub_eq (by omega) (by omega)]
  omega

section Pop
variable {q : TmQueue} (hdr : CcsdsPrimaryHeader) (buf : List UInt8) {cap : ℕ} (tm : TsTm)

theorem tsTmPop_nil (h : contents q = []) (cap : ℕ) :
    tsTmPop q hdr buf cap tm = ⟨false, buf, tm, q⟩ := by
  simp [tsTmPop, tmQueuePop_nil h]

/-- A packet that the buffer can take is handed over and described. -/
theorem tsTmPop_cons (hq : Valid q) {p : List UInt8} {rest : List (List UInt8)}
    (h : contents q = p :: rest) (hmin : pusTmMinLen ≤ p.length) (hsize : p.length < sizeModulus)
    (hcap : p.length ≤ cap) :
    ∃ tm' q', Valid q' ∧ contents q' = rest ∧ Describes tm' p ∧
      tsTmPop q hdr buf cap tm = ⟨true, storeAt buf 0 p, tm', q'⟩ := by
  have hroom : ¬cap < p.length := by omega
  obtain ⟨q', hvalid, hrest, -, hpop⟩ := tmQueuePop_cons hq h buf cap 0
  rw [if_neg hroom] at hrest hpop
  refine ⟨_, q', hvalid, hrest, ?_, by simp only [tsTmPop, hpop]; rfl⟩
  have h21 : pusTmMinLen = 21 := rfl
  have hstored : storeAt buf 0 p = p ++ buf.drop p.length := by
    rw [storeAt, List.take_zero, List.nil_append, Nat.zero_add]
  have hcoarse : (p ++ buf.drop p.length).drop 13 = p.drop 13 ++ buf.drop p.length :=
    List.drop_append_of_le_length (by omega)
  have hdata : (p ++ buf.drop p.length).drop 19 = p.drop 19 ++ buf.drop p.length :=
    List.drop_append_of_le_length (by omega)
  simp only [Option.getD_some, hstored]
  constructor
  case service => exact getD_append_front _ (show 7 < p.length by omega)
  case subtype => exact getD_append_front _ (show 8 < p.length by omega)
  case seqCount =>
    have h6 : ccsdsPrimaryHeaderLen ≤ p.length := le_trans (by decide) hmin
    have hheader : ccsdsUnpackPrimary (some (p ++ buf.drop p.length)) p.length =
        .ok (unpackedHeader p) := by
      rw [ccsdsUnpackPrimary_eq _ h6, unpackedHeader_append_front _ h6]
    simp only [hheader]
    rfl
  case msgCounter => exact pusGetU16_append_front _ (show 9 + 1 < p.length by omega)
  case timeCoarse =>
    have hlen : 3 < (p.drop 13).length := by
      rw [List.length_drop]
      omega
    exact (congrArg pusGetU32 hcoarse).trans (pusGetU32_append_front _ hlen)
  case timeFine => exact pusGetU16_append_front _ (show 17 + 1 < p.length by omega)
  case data =>
    have hcount : p.length - pusTmMinLen ≤ (p.drop 19).length := by
      rw [List.length_drop]
      omega
    simp only [dataLen_eq hmin hsize]
    exact (congrArg (List.take _) hdata).trans (List.take_append_of_le_length hcount)
  case totalLen => rfl

end Pop

def ofType (service subtype : UInt8) (p : List UInt8) : Bool :=
  tmService p == service && tmSubtype p == subtype

/-- Packets of a queue that a buffer of the largest size can take, and that have both headers. -/
def Readable (q : TmQueue) : Prop :=
  ∀ p ∈ contents q, pusTmMinLen ≤ p.length ∧ p.length ≤ pusMaxPacketSize

/-- What the search leaves: the first packet of the type is described, and what stands before it is
discarded. -/
structure Searched (packets : List (List UInt8)) (service subtype : UInt8) (r : TsTmPop) :
    Prop where
  valid : Valid r.queue
  rest : contents r.queue = (packets.dropWhile fun p => !ofType service subtype p).tail
  missed : packets.find? (ofType service subtype) = none → r.found = false
  found : ∀ p, packets.find? (ofType service subtype) = some p →
    r.found = true ∧ Describes r.tm p ∧ r.buf.take p.length = p

theorem tsTmFind_eq (q : TmQueue) (hdr : CcsdsPrimaryHeader) (service subtype : UInt8)
    (buf : List UInt8) (cap : ℕ) (tm : TsTm) : tsTmFind q hdr service subtype buf cap tm =
      let popped := tsTmPop q hdr buf cap tm
      if popped.found = false then popped
      else if popped.tm.service = service ∧ popped.tm.subtype = subtype then popped
      else tsTmFind popped.queue hdr service subtype popped.buf cap popped.tm := by
  rw [tsTmFind]
  rfl

theorem searched_tsTmFind {q : TmQueue} (hq : Valid q) (hreadable : Readable q)
    (hdr : CcsdsPrimaryHeader) (service subtype : UInt8) (buf : List UInt8) {cap : ℕ}
    (hcap : pusMaxPacketSize ≤ cap) (tm : TsTm) :
    Searched (contents q) service subtype (tsTmFind q hdr service subtype buf cap tm) := by
  have hmax : pusMaxPacketSize < sizeModulus := by decide
  induction hcontents : contents q generalizing q buf tm with
  | nil =>
    rw [tsTmFind_eq, tsTmPop_nil hdr buf tm hcontents]
    exact ⟨hq, hcontents, fun _ => rfl, fun p hp => nomatch hp⟩
  | cons p rest ih =>
    obtain ⟨hmin, hlen⟩ := hreadable p (hcontents ▸ List.mem_cons_self)
    obtain ⟨tm', q', hvalid, hrest, hdescribes, hpop⟩ :=
      tsTmPop_cons hdr buf tm hq hcontents hmin (by omega) (hlen.trans hcap)
    have htype : (tm'.service = service ∧ tm'.subtype = subtype) ↔
        ofType service subtype p = true := by
      rw [hdescribes.service, hdescribes.subtype, ofType, Bool.and_eq_true, beq_iff_eq, beq_iff_eq]
    rw [tsTmFind_eq, hpop]
    simp only [Bool.true_eq_false, if_false]
    by_cases hmatch : ofType service subtype p = true
    · rw [if_pos (htype.mpr hmatch)]
      have hfirst : (p :: rest).find? (ofType service subtype) = some p :=
        List.find?_cons_of_pos hmatch
      refine ⟨hvalid, ?_, fun hnone => ?_, fun x hx => ?_⟩
      · rw [List.dropWhile_cons_of_neg (by simpa using hmatch), List.tail_cons, hrest]
      · rw [hfirst] at hnone
        cases hnone
      · rw [hfirst] at hx
        cases hx
        exact ⟨rfl, hdescribes, take_storeAt_zero buf p⟩
    · rw [if_neg (mt htype.mp hmatch)]
      have hnext : Readable q' := fun x hx =>
        hreadable x (hcontents ▸ List.mem_cons_of_mem p (hrest ▸ hx))
      have h := ih hvalid hnext (storeAt buf 0 p) tm' hrest
      have hskip : (p :: rest).find? (ofType service subtype) =
          rest.find? (ofType service subtype) := List.find?_cons_of_neg hmatch
      refine ⟨h.valid, ?_, hskip ▸ h.missed, hskip ▸ h.found⟩
      rw [h.rest, List.dropWhile_cons_of_pos (by simpa using hmatch)]

theorem tsTmFlush_eq (q : TmQueue) (scratch : List UInt8) (len : ℕ) : tsTmFlush q scratch len =
    let popped := tmQueuePop q (some scratch) pusMaxPacketSize (some len)
    if popped.status ≠ .ok then popped.queue
    else tsTmFlush popped.queue (popped.buf.getD scratch) (popped.outLen.getD len) := by
  rw [tsTmFlush]
  rfl

theorem contents_tsTmFlush {q : TmQueue} (hq : Valid q) (hfit : Fit q) (scratch : List UInt8)
    (len : ℕ) : contents (tsTmFlush q scratch len) = [] := by
  induction hcontents : contents q generalizing q scratch len with
  | nil =>
    rw [tsTmFlush_eq, tmQueuePop_nil hcontents]
    exact hcontents
  | cons p rest ih =>
    have hroom : ¬pusMaxPacketSize < p.length :=
      Nat.not_lt.mpr (hfit p (hcontents ▸ List.mem_cons_self))
    obtain ⟨q', hvalid, hrest, -, hpop⟩ := tmQueuePop_cons hq hcontents scratch pusMaxPacketSize len
    rw [if_neg hroom] at hrest hpop
    have hnext : Fit q' := fun x hx =>
      hfit x (hcontents ▸ List.mem_cons_of_mem p (hrest ▸ hx))
    rw [tsTmFlush_eq, hpop]
    exact ih hvalid hnext _ _ hrest

/-- Both decoders find the same in a packet. -/
structure SeenAlike (tm : TsTm) (p : TmPacket) : Prop where
  service : tm.service.toNat = p.service
  subtype : tm.subtype.toNat = p.subtype
  seqCount : tm.seqCount.toNat = p.seqCount
  msgCounter : tm.msgCounter.toNat = p.msgCounter
  timeCoarse : tm.timeCoarse.toNat = p.timeCoarse
  timeFine : tm.timeFine.toNat = p.timeFine
  data : tm.data.take tm.dataLen = p.data
  totalLen : tm.totalLen = p.raw.length

theorem Describes.seenAlike {tm : TsTm} {p : List UInt8} (h : Describes tm p) :
    SeenAlike tm (groundView p) :=
  ⟨congrArg UInt8.toNat h.service, congrArg UInt8.toNat h.subtype, congrArg UInt16.toNat h.seqCount,
    congrArg UInt16.toNat h.msgCounter, congrArg UInt32.toNat h.timeCoarse,
    congrArg UInt16.toNat h.timeFine, h.data, h.totalLen⟩

section Run
variable (s : Obsw) (stimuli : List Stimulus)

/-- What waits in the queue has been built, and ground decodes it. -/
theorem parseTm_queued {p : List UInt8} (hp : p ∈ contents (after s stimuli).obsw.queue) :
    pusTmMinLen ≤ p.length ∧ parseTm p = .ok (groundView p) := by
  have hkept : p ∈ kept (after s stimuli).obsw.history := by
    rw [← (ledger_after s stimuli).conserved]
    exact List.mem_append_right _ hp
  obtain ⟨x, hx, rfl⟩ := List.mem_map.mp hkept
  obtain ⟨tm, time, r, hpacket, -⟩ := built_after s stimuli x (List.mem_filter.mp hx).1
  rw [hpacket, groundView_tmPacket, tmPacket_length]
  exact ⟨Nat.le_add_right _ _, parseTm_tmPacket tm time r⟩

theorem readable_after : Readable (after s stimuli).obsw.queue := fun p hp =>
  ⟨(parseTm_queued s stimuli hp).1, fit_after s stimuli p hp⟩

/-- After any run, the helpers of the unit tests find in the queue what ground would: the first
packet of the type is described as ground decodes it, what stood before it is gone and what stood
behind it is left. Where there is none, the queue is empty afterwards. -/
theorem test_receiver_finds (hdr : CcsdsPrimaryHeader) (service subtype : UInt8) (buf : List UInt8)
    {cap : ℕ} (hcap : pusMaxPacketSize ≤ cap) (tm : TsTm) :
    let queued := contents (after s stimuli).obsw.queue
    let r := tsTmFind (after s stimuli).obsw.queue hdr service subtype buf cap tm
    (queued.find? (ofType service subtype) = none → r.found = false ∧ contents r.queue = []) ∧
      ∀ skipped p rest, queued = skipped ++ p :: rest →
        (∀ x ∈ skipped, ofType service subtype x = false) → ofType service subtype p = true →
        r.found = true ∧ contents r.queue = rest ∧
          ∃ seen, parseTm p = .ok seen ∧ SeenAlike r.tm seen := by
  intro queued r
  have h : Searched queued service subtype r :=
    searched_tsTmFind (valid_after s stimuli) (readable_after s stimuli) hdr service subtype buf
      hcap tm
  constructor
  · intro hnone
    have hall : queued.dropWhile (fun p => !ofType service subtype p) = [] := by
      rw [List.dropWhile_eq_nil_iff]
      intro x hx
      simpa using List.find?_eq_none.mp hnone x hx
    exact ⟨h.missed hnone, by rw [h.rest, hall, List.tail_nil]⟩
  · intro skipped p rest hqueued hskipped hp
    have hfirst : queued.find? (ofType service subtype) = some p := by
      rw [hqueued, List.find?_eq_some_iff_append]
      exact ⟨hp, skipped, rest, rfl, fun x hx => by simp [hskipped x hx]⟩
    have hdrop : queued.dropWhile (fun p => !ofType service subtype p) = p :: rest := by
      rw [hqueued, List.dropWhile_append_of_pos fun x hx => by simp [hskipped x hx],
        List.dropWhile_cons_of_neg (by simp [hp])]
    obtain ⟨hfound, hdescribes, -⟩ := h.found p hfirst
    have hmem : p ∈ queued := List.mem_of_find?_eq_some hfirst
    exact ⟨hfound, by rw [h.rest, hdrop, List.tail_cons],
      _, (parseTm_queued s stimuli hmem).2, hdescribes.seenAlike⟩

end Run

/-- The queue after a connection test: boot event, acceptance, answer and completion. -/
def aliveQueue : TmQueue := (after default [.telecommand aliveTc]).obsw.queue

/-- Looking for the answer, the unit tests discard two packets and leave one. -/
theorem test_receiver_finds_alive :
    let r := tsTmFind aliveQueue ⟨0, 0, 0, 0, 0, 0, 0⟩ 17 2 (List.replicate 256 0) 256
      ⟨0, 0, 0, 0, 0, 0, [], 0, 0⟩
    r.found = true ∧ contents r.queue = (contents aliveQueue).drop 3 := by
  have hsplit : contents aliveQueue = (contents aliveQueue).take 2 ++
      (contents aliveQueue).getD 2 [] :: (contents aliveQueue).drop 3 := by decide +kernel
  have hskipped : ∀ x ∈ (contents aliveQueue).take 2, ofType 17 2 x = false := by decide +kernel
  have hfound := (test_receiver_finds default [.telecommand aliveTc] ⟨0, 0, 0, 0, 0, 0, 0⟩ 17 2
    (List.replicate 256 0) le_rfl ⟨0, 0, 0, 0, 0, 0, [], 0, 0⟩).2 _ _ _ hsplit hskipped
    (by decide +kernel)
  exact ⟨hfound.1, hfound.2.1⟩

end ObswPus.Harness
