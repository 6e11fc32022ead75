import ObswPus.Flight.State
import ObswPus.Flight.Bytes

/-! # Downlink queue

The statically allocated FIFO of `tm_queue.c`: a ring of sixteen slots with the
length of the packet in each. On overflow the newest packet is dropped.
-/
namespace ObswPus.Flight

/-- Slots and lengths keep their contents; only the live window is emptied. -/
def tmQueueInit (q : TmQueue) : TmQueue := { q with head := 0, count := 0, overflows := 0 }

def tmQueuePush (q : TmQueue) (packet : Option (List UInt8)) (len : ℕ) : PusStatus × TmQueue :=
  match packet with
  | none => (.null, q)
  | some octets =>
    if len = 0 ∨ pusMaxPacketSize < len then (.badLength, q)
    else if pusTmQueueDepth ≤ q.count then
      (.queueFull, if q.overflows < 0xFFFF then { q with overflows := q.overflows + 1 } else q)
    else
      let tail := (q.head + q.count) % pusTmQueueDepth
      (.ok,
        { q with
          slots := q.slots.set tail ((q.slots.get tail).copyFrom octets len)
          lengths := q.lengths.set tail len
          count := q.count + 1 })

/-- What `tm_queue_pop` returns and leaves in `*buf` and `*out_len`. -/
structure PopResult where
  status : PusStatus
  buf : Option (List UInt8)
  outLen : Option ℕ
  queue : TmQueue

def tmQueuePop (q : TmQueue) (buf : Option (List UInt8)) (cap : ℕ) (outLen : Option ℕ) :
    PopResult :=
  match buf, outLen with
  | some octets, some _ =>
    if q.count = 0 then ⟨.queueFull, buf, outLen, q⟩
    else
      let len := q.lengths.get q.head
      if cap < len then ⟨.bufferTooSmall, buf, outLen, q⟩
      else
        ⟨.ok, some (storeAt octets 0 ((q.slots.get q.head).first len)), some len,
          { q with head := (q.head + 1) % pusTmQueueDepth, count := q.count - 1 }⟩
  | _, _ => ⟨.null, buf, outLen, q⟩

def tmQueueCount (q : TmQueue) : ℕ := q.count

def tmQueueOverflowCount (q : TmQueue) : UInt16 := q.overflows

end ObswPus.Flight
