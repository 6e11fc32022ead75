import Mathlib.Data.List.TakeDrop
import ObswPus.Downlink.Queue
import ObswPus.Library.BoundedFifo

/-! # The downlink queue as a bounded FIFO

The calls that the queue takes, null pointers and bad lengths included, first as laws of
a list of at most sixteen packets with a count of dropped ones, then as the ring buffer
computes them. The ring buffer simulates the list from every initialisation.
-/
namespace ObswPus.Downlink
open Flight Library

/-- What the queue can hold: one packet of 1 to 256 octets. -/
abbrev StoredPacket : Type := { p : List UInt8 // 1 ≤ p.length ∧ p.length ≤ pusMaxPacketSize }

abbrev DownlinkFifo : Type := BoundedFifo StoredPacket pusTmQueueDepth 0xFFFF

/-- The functions of the queue with their arguments, a null pointer being `none`. -/
inductive QueueCall where
  | init
  | push (packet : Option (List UInt8)) (len : ℕ)
  | pop (buf : Option (List UInt8)) (cap : ℕ) (outLen : Option ℕ)

/-- What a caller sees: the status, what its buffer and its length variable hold, and the
number of packets and of drops that the queue then reports. `tm_queue_init` has no status. -/
structure QueueReply where
  status : Option PusStatus
  buf : Option (List UInt8)
  outLen : Option ℕ
  count : ℕ
  overflows : ℕ
  deriving DecidableEq

def queueReply (status : Option PusStatus) (count overflows : ℕ) : QueueReply :=
  ⟨status, none, none, count, overflows⟩

/-- The first `len` octets at a pointer. What lies behind the end of the list is not
promised to the queue; it reads zero here. -/
def octetsAt (octets : List UInt8) (len : ℕ) : List UInt8 := octets.takeD len 0

@[simp] theorem length_octetsAt (octets : List UInt8) (len : ℕ) :
    (octetsAt octets len).length = len := List.takeD_length _ _ _

/-- The status of a push, and the queue behind it. -/
def fifoPush (f : DownlinkFifo) (packet : Option (List UInt8)) (len : ℕ) :
    PusStatus × DownlinkFifo :=
  match packet with
  | none => (.null, f)
  | some octets =>
    if hlen : 1 ≤ len ∧ len ≤ pusMaxPacketSize then
      (if f.Full then .queueFull else .ok, f.offer ⟨octetsAt octets len, by simpa using hlen⟩)
    else (.badLength, f)

/-- The status of a pop, the caller's buffer and length, and the queue behind it. -/
def fifoPop (f : DownlinkFifo) (buf : Option (List UInt8)) (cap : ℕ) (outLen : Option ℕ) :
    PusStatus × Option (List UInt8) × Option ℕ × DownlinkFifo :=
  match buf, outLen, f.items with
  | some _, some _, [] => (.queueFull, buf, outLen, f)
  | some octets, some _, p :: _ =>
    if cap < p.val.length then (.bufferTooSmall, buf, outLen, f)
    else (.ok, some (storeAt octets 0 p.val), some p.val.length, f.rest)
  | _, _, _ => (.null, buf, outLen, f)

def fifoCall (f : DownlinkFifo) : QueueCall → QueueReply × DownlinkFifo
  | .init => (queueReply none 0 0, .empty)
  | .push packet len =>
    let pushed := fifoPush f packet len
    (queueReply (some pushed.1) pushed.2.items.length pushed.2.dropped, pushed.2)
  | .pop buf cap outLen =>
    let popped := fifoPop f buf cap outLen
    (⟨some popped.1, popped.2.1, popped.2.2.1, popped.2.2.2.items.length, popped.2.2.2.dropped⟩,
      popped.2.2.2)

def tmQueueCall (q : TmQueue) : QueueCall → QueueReply × TmQueue
  | .init =>
    let q := tmQueueInit q
    (queueReply none (tmQueueCount q) (tmQueueOverflowCount q).toNat, q)
  | .push packet len =>
    let pushed := tmQueuePush q packet len
    (queueReply (some pushed.1) (tmQueueCount pushed.2) (tmQueueOverflowCount pushed.2).toNat,
      pushed.2)
  | .pop buf cap outLen =>
    let popped := tmQueuePop q buf cap outLen
    (⟨some popped.status, popped.buf, popped.outLen, tmQueueCount popped.queue,
      (tmQueueOverflowCount popped.queue).toNat⟩, popped.queue)

/-- The ring indices are in range and the live slots hold the listed packets. -/
structure Represents (q : TmQueue) (f : DownlinkFifo) : Prop where
  valid : Valid q
  items : contents q = f.items.map Subtype.val
  dropped : q.overflows.toNat = f.dropped

section Represents
variable {q : TmQueue} {f : DownlinkFifo}

theorem Represents.count (h : Represents q f) : q.count = f.items.length := by
  rw [← contents_length, h.items, List.length_map]

theorem Represents.full (h : Represents q f) : f.Full ↔ pusTmQueueDepth ≤ q.count := by
  rw [h.count]
  exact Iff.rfl

theorem represents_empty (q : TmQueue) : Represents (tmQueueInit q) .empty :=
  ⟨valid_tmQueueInit q, rfl, rfl⟩

theorem getD_octetsAt (octets : List UInt8) {len i : ℕ} (hi : i < len) :
    (octetsAt octets len).getD i 0 = octets.getD i 0 := by
  induction len generalizing octets i with
  | zero => exact absurd hi (Nat.not_lt_zero i)
  | succ len ih =>
    cases i with
    | zero => cases octets <;> rfl
    | succ i =>
      have htail := ih octets.tail (Nat.lt_of_succ_lt_succ hi)
      cases octets with
      | nil => exact htail
      | cons octet octets => exact htail

theorem tmQueuePush_octetsAt (q : TmQueue) (octets : List UInt8) (len : ℕ) :
    tmQueuePush q (some octets) len =
      tmQueuePush q (some (octetsAt octets len)) (octetsAt octets len).length := by
  have hcopy (a : FixedArray pusMaxPacketSize UInt8) :
      a.copyFrom octets len = a.copyFrom (octetsAt octets len) len := by
    apply List.foldl_ext
    intro a i hi
    exact congrArg (a.set i) (getD_octetsAt octets (List.mem_range.mp hi)).symm
  rw [length_octetsAt]
  simp only [tmQueuePush, hcopy]

/-- A packet that is in order is appended or, where sixteen are stored, dropped. -/
theorem Represents.offer (h : Represents q f) (p : StoredPacket) :
    (tmQueuePush q (some p.val) p.val.length).1 = (if f.Full then .queueFull else .ok) ∧
      Represents (tmQueuePush q (some p.val) p.val.length).2 (f.offer p) := by
  have hne : p.val ≠ [] := List.ne_nil_of_length_pos p.property.1
  have hlen := p.property.2
  by_cases hfull : f.Full
  · have hcount := h.full.mp hfull
    have hpush := tmQueuePush_full hne hlen hcount
    have hcontents := contents_push_full hne hlen hcount
    rw [if_pos hfull]
    refine ⟨congrArg Prod.fst hpush, ?_, ?_, ?_⟩
    · rw [hpush]
      dsimp only
      split <;> exact ⟨h.valid.head_lt, h.valid.count_le⟩
    · rw [hcontents, BoundedFifo.items_offer, if_pos hfull, h.items]
    · rw [BoundedFifo.dropped_offer, if_pos hfull, ← h.dropped]
      exact toNat_overflows_full hne hlen hcount
  · have hroom : q.count < pusTmQueueDepth := Nat.not_le.mp fun hcount => hfull (h.full.mpr hcount)
    have hpush := tmQueuePush_room hne hlen hroom
    have hcontents := contents_push_room hne hlen hroom
    rw [if_neg hfull]
    refine ⟨congrArg Prod.fst hpush, ?_, ?_, ?_⟩
    · rw [hpush]
      exact ⟨h.valid.head_lt, hroom⟩
    · rw [hcontents, BoundedFifo.items_offer, if_neg hfull, h.items, List.map_append]
      rfl
    · rw [hpush, BoundedFifo.dropped_offer, if_neg hfull]
      exact h.dropped

theorem Represents.push (h : Represents q f) (packet : Option (List UInt8)) (len : ℕ) :
    (tmQueuePush q packet len).1 = (fifoPush f packet len).1 ∧
      Represents (tmQueuePush q packet len).2 (fifoPush f packet len).2 := by
  cases packet with
  | none => exact ⟨rfl, h⟩
  | some octets =>
    by_cases hlen : 1 ≤ len ∧ len ≤ pusMaxPacketSize
    · rw [tmQueuePush_octetsAt]
      simp only [fifoPush, dif_pos hlen]
      exact h.offer ⟨octetsAt octets len, by simpa using hlen⟩
    · have hbad : len = 0 ∨ pusMaxPacketSize < len := by omega
      simp only [tmQueuePush, fifoPush, if_pos hbad, dif_neg hlen]
      exact ⟨trivial, h⟩

/-- A pop answers as the list does and leaves its rest. -/
theorem Represents.pop (h : Represents q f) (buf : Option (List UInt8)) (cap : ℕ)
    (outLen : Option ℕ) :
    ((tmQueuePop q buf cap outLen).status, (tmQueuePop q buf cap outLen).buf,
        (tmQueuePop q buf cap outLen).outLen) =
      ((fifoPop f buf cap outLen).1, (fifoPop f buf cap outLen).2.1,
        (fifoPop f buf cap outLen).2.2.1) ∧
      Represents (tmQueuePop q buf cap outLen).queue (fifoPop f buf cap outLen).2.2.2 := by
  cases buf with
  | none => exact ⟨rfl, h⟩
  | some octets =>
    cases outLen with
    | none => exact ⟨rfl, h⟩
    | some n =>
      have hitems := h.items
      cases hlist : f.items with
      | nil =>
        rw [hlist, List.map_nil] at hitems
        simp only [fifoPop, hlist, tmQueuePop_nil hitems]
        exact ⟨trivial, h⟩
      | cons p rest =>
        rw [hlist, List.map_cons] at hitems
        obtain ⟨q', hvalid, hcontents, hoverflows, hpop⟩ :=
          tmQueuePop_cons h.valid hitems octets cap n
        simp only [fifoPop, hlist, hpop]
        by_cases hcap : cap < p.val.length
        · simp only [if_pos hcap] at hcontents ⊢
          exact ⟨trivial, hvalid, by rw [hcontents, hlist, List.map_cons],
            by rw [hoverflows, h.dropped]⟩
        · simp only [if_neg hcap] at hcontents ⊢
          exact ⟨trivial, hvalid, by rw [hcontents, BoundedFifo.items_rest, hlist, List.tail_cons],
            by rw [hoverflows, h.dropped, BoundedFifo.dropped_rest]⟩

end Represents

/-- Each call of the ring buffer answers as the same call of the list. -/
theorem simulates_fifo : Machine.Simulates tmQueueCall fifoCall Represents where
  answer q f call h := by
    cases call with
    | init => rfl
    | push packet len =>
      obtain ⟨hstatus, hnext⟩ := h.push packet len
      simp only [tmQueueCall, fifoCall, tmQueueCount, tmQueueOverflowCount, hstatus, hnext.count,
        hnext.dropped]
    | pop buf cap outLen =>
      obtain ⟨hanswer, hnext⟩ := h.pop buf cap outLen
      simp only [Prod.mk.injEq] at hanswer
      simp only [tmQueueCall, fifoCall, tmQueueCount, tmQueueOverflowCount, hanswer, hnext.count,
        hnext.dropped]
  next q f call h := by
    cases call with
    | init => exact represents_empty q
    | push packet len => exact (h.push packet len).2
    | pop buf cap outLen => exact (h.pop buf cap outLen).2

/-- From its initialisation on, whatever its statics held before, the downlink queue answers
every sequence of calls as a list of at most sixteen packets of 1 to 256 octets does, and
holds the packets of that list in their order. -/
theorem downlink_queue_refines_fifo (q : TmQueue) (calls : List QueueCall) :
    Machine.answers tmQueueCall (tmQueueInit q) calls = Machine.answers fifoCall .empty calls ∧
      Represents (Machine.final tmQueueCall (tmQueueInit q) calls)
        (Machine.final fifoCall .empty calls) :=
  ⟨simulates_fifo.answers_eq (represents_empty q) calls,
    simulates_fifo.final (represents_empty q) calls⟩

end ObswPus.Downlink
