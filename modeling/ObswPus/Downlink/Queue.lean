import ObswPus.Flight.TmQueue
import ObswPus.Library.Ring

/-! # The downlink queue as a list of packets

`contents` reads the ring of slots as the packets it holds, oldest first. Push and
pop act on that list as a first-in first-out queue of bounded capacity; stale
slots and lengths are never observed.
-/
namespace ObswPus.Downlink
open Flight Library

def packetAt (q : TmQueue) (i : ℕ) : List UInt8 := (q.slots.get i).first (q.lengths.get i)

/-- The packets awaiting downlink, oldest first. -/
def contents (q : TmQueue) : List (List UInt8) :=
  Ring.contents (packetAt q) pusTmQueueDepth q.head q.count

@[simp] theorem contents_length (q : TmQueue) : (contents q).length = q.count := by
  simp [contents]

/-- The ring indices stay inside the array. -/
structure Valid (q : TmQueue) : Prop where
  head_lt : q.head < pusTmQueueDepth
  count_le : q.count ≤ pusTmQueueDepth

theorem valid_tmQueueInit (q : TmQueue) : Valid (tmQueueInit q) := by
  constructor <;> simp [tmQueueInit]

@[simp] theorem contents_tmQueueInit (q : TmQueue) : contents (tmQueueInit q) = [] := rfl

theorem tmQueuePush_take (q : TmQueue) (octets : List UInt8) (len : ℕ) :
    tmQueuePush q (some octets) len = tmQueuePush q (some (octets.take len)) len := by
  have hcopy (a : FixedArray pusMaxPacketSize UInt8) :
      a.copyFrom octets len = a.copyFrom (octets.take len) len := by
    apply List.foldl_ext
    intro a i hi
    rw [List.getD_eq_getElem?_getD, List.getD_eq_getElem?_getD,
      List.getElem?_take_of_lt (List.mem_range.mp hi)]
  simp only [tmQueuePush, hcopy]

section Push
variable {q : TmQueue} {p : List UInt8}

theorem tmQueuePush_full (hp : p ≠ []) (hlen : p.length ≤ pusMaxPacketSize)
    (hfull : pusTmQueueDepth ≤ q.count) :
    tmQueuePush q (some p) p.length =
      (.queueFull,
        if q.overflows < 0xFFFF then { q with overflows := q.overflows + 1 } else q) := by
  have hlen' : ¬(p.length = 0 ∨ pusMaxPacketSize < p.length) := by
    simp only [List.length_eq_zero_iff, hp, false_or]
    omega
  simp only [tmQueuePush, if_neg hlen', if_pos hfull]

theorem toNat_overflows_full (hp : p ≠ []) (hlen : p.length ≤ pusMaxPacketSize)
    (hfull : pusTmQueueDepth ≤ q.count) :
    (tmQueuePush q (some p) p.length).2.overflows.toNat =
      min (q.overflows.toNat + 1) 65535 := by
  have hlt := q.overflows.toNat_lt
  rw [tmQueuePush_full hp hlen hfull]
  dsimp only
  split
  · rename_i hbelow
    have hbelow' : q.overflows.toNat < 65535 := UInt16.lt_iff_toNat_lt.mp hbelow
    rw [UInt16.toNat_add, UInt16.toNat_one]
    omega
  · rename_i hend
    have hend' : ¬q.overflows.toNat < 65535 :=
      fun hlt => hend (UInt16.lt_iff_toNat_lt.mpr hlt)
    omega

theorem tmQueuePush_room (hp : p ≠ []) (hlen : p.length ≤ pusMaxPacketSize)
    (hroom : q.count < pusTmQueueDepth) :
    tmQueuePush q (some p) p.length =
      (.ok,
        { q with
          slots := q.slots.set ((q.head + q.count) % pusTmQueueDepth)
            ((q.slots.get ((q.head + q.count) % pusTmQueueDepth)).copyFrom p p.length)
          lengths := q.lengths.set ((q.head + q.count) % pusTmQueueDepth) p.length
          count := q.count + 1 }) := by
  have hlen' : ¬(p.length = 0 ∨ pusMaxPacketSize < p.length) := by
    simp only [List.length_eq_zero_iff, hp, false_or]
    omega
  simp only [tmQueuePush, if_neg hlen', if_neg (Nat.not_le.mpr hroom)]

/-- A queue with room takes the packet at its end. -/
theorem contents_push_room (hp : p ≠ []) (hlen : p.length ≤ pusMaxPacketSize)
    (hroom : q.count < pusTmQueueDepth) :
    contents (tmQueuePush q (some p) p.length).2 = contents q ++ [p] := by
  rw [tmQueuePush_room hp hlen hroom]
  have htail : (q.head + q.count) % pusTmQueueDepth < pusTmQueueDepth := Nat.mod_lt _ (by decide)
  rw [contents, Ring.contents_push (packetAt q) _ hroom]
  · simp only [contents, packetAt, FixedArray.get_set_self _ _ htail,
      FixedArray.first_copyFrom _ _ hlen]
  · intro i _ hi
    simp only [packetAt, FixedArray.get_set_ne _ _ hi]

/-- A full queue keeps its packets and drops the new one. -/
theorem contents_push_full (hp : p ≠ []) (hlen : p.length ≤ pusMaxPacketSize)
    (hfull : pusTmQueueDepth ≤ q.count) :
    contents (tmQueuePush q (some p) p.length).2 = contents q := by
  rw [tmQueuePush_full hp hlen hfull]
  dsimp only
  split <;> rfl

end Push

/-- A pop either fails and changes nothing, or hands over the packet at the head. -/
theorem tmQueuePop_cases (q : TmQueue) (buf : Option (List UInt8)) (cap : ℕ) (out : Option ℕ) :
    ((tmQueuePop q buf cap out).status ≠ .ok ∧ (tmQueuePop q buf cap out).buf = buf ∧
        (tmQueuePop q buf cap out).outLen = out ∧ (tmQueuePop q buf cap out).queue = q) ∨
      ∃ octets, buf = some octets ∧ q.count ≠ 0 ∧ q.lengths.get q.head ≤ cap ∧
        tmQueuePop q buf cap out =
          ⟨.ok, some (storeAt octets 0 (packetAt q q.head)), some (packetAt q q.head).length,
            { q with head := (q.head + 1) % pusTmQueueDepth, count := q.count - 1 }⟩ := by
  cases buf with
  | none => left; simp [tmQueuePop]
  | some octets =>
    cases out with
    | none => left; simp [tmQueuePop]
    | some n =>
      by_cases hzero : q.count = 0
      · left; simp [tmQueuePop, hzero]
      by_cases hcap : cap < q.lengths.get q.head
      · left; simp [tmQueuePop, hzero, hcap]
      · right
        refine ⟨octets, rfl, hzero, Nat.not_lt.mp hcap, ?_⟩
        simp [tmQueuePop, hzero, hcap, packetAt]

theorem tmQueuePop_ok {q : TmQueue} (hq : Valid q) {buf : Option (List UInt8)} {cap : ℕ}
    {out : Option ℕ} (h : (tmQueuePop q buf cap out).status = .ok) :
    contents q = ((tmQueuePop q buf cap out).buf.getD []).take
        ((tmQueuePop q buf cap out).outLen.getD 0) ::
      contents (tmQueuePop q buf cap out).queue := by
  obtain ⟨hne, -⟩ | ⟨octets, -, hzero, -, heq⟩ := tmQueuePop_cases q buf cap out
  · exact absurd h hne
  · obtain ⟨count, hcount⟩ := Nat.exists_eq_succ_of_ne_zero hzero
    rw [heq, contents, hcount, Ring.contents_pop _ hq.head_lt]
    simp only [Option.getD_some, take_storeAt_zero]
    rfl

theorem tmQueuePop_error {q : TmQueue} {buf : Option (List UInt8)} {cap : ℕ} {out : Option ℕ}
    (h : (tmQueuePop q buf cap out).status ≠ .ok) : (tmQueuePop q buf cap out).queue = q := by
  obtain ⟨-, -, -, hq⟩ | ⟨octets, -, -, -, heq⟩ := tmQueuePop_cases q buf cap out
  · exact hq
  · simp [heq] at h

theorem valid_tmQueuePop {q : TmQueue} (hq : Valid q) (buf : Option (List UInt8)) (cap : ℕ)
    (out : Option ℕ) : Valid (tmQueuePop q buf cap out).queue := by
  obtain ⟨-, -, -, hsame⟩ | ⟨octets, -, -, -, heq⟩ := tmQueuePop_cases q buf cap out
  · rw [hsame]
    exact hq
  · rw [heq]
    exact ⟨Nat.mod_lt _ (by decide), (Nat.sub_le _ _).trans hq.count_le⟩

@[simp] theorem overflows_tmQueuePop (q : TmQueue) (buf : Option (List UInt8)) (cap : ℕ)
    (out : Option ℕ) : (tmQueuePop q buf cap out).queue.overflows = q.overflows := by
  obtain ⟨-, -, -, hsame⟩ | ⟨octets, -, -, -, heq⟩ := tmQueuePop_cases q buf cap out
  · rw [hsame]
  · rw [heq]

theorem mem_of_mem_tmQueuePop {q : TmQueue} (hq : Valid q) {buf : Option (List UInt8)} {cap : ℕ}
    {out : Option ℕ} {p : List UInt8} (hp : p ∈ contents (tmQueuePop q buf cap out).queue) :
    p ∈ contents q := by
  by_cases hok : (tmQueuePop q buf cap out).status = .ok
  · rw [tmQueuePop_ok hq hok]
    exact List.mem_cons_of_mem _ hp
  · rw [tmQueuePop_error hok] at hp
    exact hp

theorem tmQueuePop_nil {q : TmQueue} (h : contents q = []) (octets : List UInt8) (cap n : ℕ) :
    tmQueuePop q (some octets) cap (some n) = ⟨.queueFull, some octets, some n, q⟩ := by
  have hzero : q.count = 0 := by rw [← contents_length, h, List.length_nil]
  simp only [tmQueuePop, hzero, if_true]

theorem exists_contents_cons {q : TmQueue} {n : ℕ} (h : q.count = n + 1) :
    ∃ p rest, contents q = p :: rest ∧ rest.length = n := by
  have hlen : (contents q).length = n + 1 := (contents_length q).trans h
  obtain ⟨p, rest, hcontents⟩ := List.exists_cons_of_length_eq_add_one hlen
  rw [hcontents, List.length_cons] at hlen
  exact ⟨p, rest, hcontents, Nat.succ.inj hlen⟩

theorem tmQueuePop_cons {q : TmQueue} (hq : Valid q) {p : List UInt8} {rest : List (List UInt8)}
    (h : contents q = p :: rest) (octets : List UInt8) (cap n : ℕ) :
    ∃ q', Valid q' ∧ contents q' = (if cap < p.length then p :: rest else rest) ∧
      q'.overflows = q.overflows ∧
      tmQueuePop q (some octets) cap (some n) =
        if cap < p.length then ⟨.bufferTooSmall, some octets, some n, q'⟩
        else ⟨.ok, some (storeAt octets 0 p), some p.length, q'⟩ := by
  have hlen := congrArg List.length h
  rw [contents_length, List.length_cons] at hlen
  have hhead := h
  rw [contents, hlen, Ring.contents_pop _ hq.head_lt, List.cons.injEq] at hhead
  obtain ⟨rfl, hrest⟩ := hhead
  have hzero : q.count ≠ 0 := by omega
  have hsize : (packetAt q q.head).length = q.lengths.get q.head := FixedArray.length_first _ _
  have hvalid := valid_tmQueuePop hq (some octets) cap (some n)
  have hoverflows := overflows_tmQueuePop q (some octets) cap (some n)
  refine ⟨_, hvalid, ?_, hoverflows, ?_⟩
  · by_cases hcap : cap < q.lengths.get q.head
    · simp only [tmQueuePop, hzero, hsize, hcap, if_true, if_false, h]
    · simp only [tmQueuePop, hzero, hsize, hcap, if_false]
      rw [contents, hlen, Nat.add_sub_cancel]
      exact hrest
  · by_cases hcap : cap < q.lengths.get q.head
    · simp only [tmQueuePop, hzero, hsize, hcap, if_true, if_false]
    · simp only [tmQueuePop, hzero, hsize, hcap, if_false]
      rfl

/-- Every queued packet fits a buffer of the largest packet size. -/
def Fit (q : TmQueue) : Prop := ∀ p ∈ contents q, p.length ≤ pusMaxPacketSize

theorem fit_tmQueuePop {q : TmQueue} (hq : Valid q) (hfit : Fit q) (buf : Option (List UInt8))
    (cap : ℕ) (out : Option ℕ) : Fit (tmQueuePop q buf cap out).queue := by
  intro p hp
  exact hfit p (mem_of_mem_tmQueuePop hq hp)

theorem count_tmQueuePop {q : TmQueue} (hq : Valid q) (hfit : Fit q) (octets : List UInt8)
    {cap : ℕ} (hcap : pusMaxPacketSize ≤ cap) (out : ℕ) :
    (tmQueuePop q (some octets) cap (some out)).queue.count = q.count - 1 := by
  by_cases hzero : q.count = 0
  · simp [tmQueuePop, hzero]
  · obtain ⟨count, hcount⟩ := Nat.exists_eq_succ_of_ne_zero hzero
    have hhead : packetAt q q.head ∈ contents q := by
      rw [contents, hcount, Ring.contents_pop _ hq.head_lt]
      exact List.mem_cons_self
    have hlen := hfit _ hhead
    rw [packetAt, FixedArray.length_first] at hlen
    have hroom : ¬cap < q.lengths.get q.head := by omega
    simp [tmQueuePop, hzero, hroom]

end ObswPus.Downlink
