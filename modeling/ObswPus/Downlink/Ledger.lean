import ObswPus.Downlink.Emission

/-! # The ledger of the downlink

Numbers of the packets built, and where each of them went: taken, still queued, or
dropped and counted. The ledger is kept by every send and every pop.
-/
namespace ObswPus.Downlink
open Flight Library

def builtBy (service : UInt8) (history : List Sent) : ℕ :=
  history.countP fun x => decide (tmService x.packet = service)

/-- Packet `k` carries sequence count `k`, and the `j`-th of its service message counter `j`,
each reduced to the width of its field. -/
def Numbered (history : List Sent) : Prop :=
  ∀ (k : ℕ) (hk : k < history.length),
    (tmSeqCount history[k].packet).toNat = k % 16384 ∧
      (tmMsgCounter history[k].packet).toNat =
        builtBy (tmService history[k].packet) (history.take k) % 65536

/-- The packets that the queue took, oldest first. -/
def kept (history : List Sent) : List (List UInt8) :=
  (history.filter fun x => x.queued).map fun x => x.packet

def droppedCount (history : List Sent) : ℕ := history.countP fun x => !x.queued

structure Ledger (s : Obsw) (delivered : List (List UInt8)) : Prop where
  queue : Valid s.queue
  seqCount : s.tm.seqCount.toNat = s.history.length % 16384
  msgCounter : ∀ service : UInt8,
    (s.tm.msgCounter.get service.toNat).toNat = builtBy service s.history % 65536
  numbered : Numbered s.history
  conserved : delivered ++ contents s.queue = kept s.history
  dropped : s.queue.overflows.toNat = min (droppedCount s.history) 65535

theorem Numbered.append {history : List Sent} (h : Numbered history) {x : Sent}
    (hseq : (tmSeqCount x.packet).toNat = history.length % 16384)
    (hmsg : (tmMsgCounter x.packet).toNat = builtBy (tmService x.packet) history % 65536) :
    Numbered (history ++ [x]) := by
  intro k hk
  rw [List.length_append, List.length_singleton] at hk
  rcases Nat.lt_or_ge k history.length with hold | hnew
  · rw [List.getElem_append_left hold, List.take_append_of_le_length hold.le]
    exact h k hold
  · obtain rfl : k = history.length := by omega
    rw [List.getElem_concat_length rfl, List.take_left' rfl]
    exact ⟨hseq, hmsg⟩

section Counters
variable (tm : PusTm) (service : UInt8)

theorem seqCount_countPacket : (countPacket tm service).seqCount.toNat =
    (tm.seqCount.toNat + 1) % 16384 := by
  have hmask := Nat.and_two_pow_sub_one_eq_mod ((tm.seqCount.toNat + 1) % 65536) 14
  simp only [Nat.reducePow, Nat.reduceSub] at hmask
  simp only [countPacket, UInt16.toNat_and, UInt16.toNat_add, UInt16.toNat_one,
    UInt16.reduceToNat, Nat.reducePow, hmask]
  omega

theorem msgCounter_countPacket (other : UInt8) :
    ((countPacket tm service).msgCounter.get other.toNat).toNat =
      if service = other then ((tm.msgCounter.get other.toNat).toNat + 1) % 65536
      else (tm.msgCounter.get other.toNat).toNat := by
  have hrange := service.toNat_lt
  split
  · rename_i hsame
    subst hsame
    simp only [countPacket, FixedArray.get_set_self _ _ hrange, UInt16.toNat_add, UInt16.toNat_one]
  · rename_i hother
    have hne : other.toNat ≠ service.toNat := fun h => hother (UInt8.toNat_inj.mp h).symm
    simp only [countPacket, FixedArray.get_set_ne _ _ hne]

end Counters

theorem builtBy_append (service : UInt8) (history : List Sent) (x : Sent) :
    builtBy service (history ++ [x]) =
      builtBy service history + if tmService x.packet = service then 1 else 0 := by
  simp [builtBy, List.countP_append, List.countP_singleton]

theorem kept_append (history : List Sent) (x : Sent) :
    kept (history ++ [x]) = kept history ++ if x.queued then [x.packet] else [] := by
  simp only [kept, List.filter_append, List.map_append]
  cases hx : x.queued <;> simp [hx]

theorem droppedCount_append (history : List Sent) (x : Sent) :
    droppedCount (history ++ [x]) = droppedCount history + if x.queued then 0 else 1 := by
  simp only [droppedCount, List.countP_append, List.countP_singleton]
  cases hx : x.queued <;> simp

theorem kept_length_add_dropped (history : List Sent) :
    (kept history).length + droppedCount history = history.length := by
  rw [kept, List.length_map, ← List.countP_eq_length_filter, droppedCount,
    List.length_eq_countP_add_countP (p := fun x => x.queued)]
  simp

theorem Ledger.overflows_ge {s : Obsw} {delivered : List (List UInt8)} (h : Ledger s delivered) :
    min (s.history.length - delivered.length - s.queue.count) 65535 ≤
      s.queue.overflows.toNat := by
  have hkept := congrArg List.length h.conserved
  have hall := kept_length_add_dropped s.history
  rw [List.length_append, contents_length] at hkept
  rw [h.dropped]
  omega

theorem Ledger.same {s s' : Obsw} {delivered : List (List UInt8)} (h : Ledger s delivered)
    (hqueue : s'.queue = s.queue) (htm : s'.tm = s.tm) (hhistory : s'.history = s.history) :
    Ledger s' delivered := by
  constructor
  · exact hqueue ▸ h.queue
  · rw [htm, hhistory]
    exact h.seqCount
  · rw [htm, hhistory]
    exact h.msgCounter
  · exact hhistory ▸ h.numbered
  · rw [hqueue, hhistory]
    exact h.conserved
  · rw [hqueue, hhistory]
    exact h.dropped

theorem ledger_emit {s : Obsw} {delivered : List (List UInt8)} (h : Ledger s delivered)
    (r : Report) : Ledger (emit s r) delivered := by
  have htm : (emit s r).tm = countPacket s.tm r.service := by simp only [emit]
  constructor
  · exact valid_emit s r h.queue
  · rw [htm, seqCount_countPacket, history_emit, List.length_append, List.length_singleton,
      h.seqCount]
    omega
  · intro service
    rw [htm, msgCounter_countPacket, history_emit, builtBy_append, tmService_tmPacket,
      h.msgCounter service]
    split <;> omega
  · rw [history_emit]
    refine h.numbered.append ?_ ?_
    · have hmask := Nat.and_two_pow_sub_one_eq_mod s.tm.seqCount.toNat 14
      simp only [Nat.reducePow, Nat.reduceSub] at hmask
      have hliteral : (0x3FFF : UInt16).toNat = 16383 := rfl
      rw [tmSeqCount_tmPacket, UInt16.toNat_and, hliteral, hmask, h.seqCount, Nat.mod_mod]
    · rw [tmMsgCounter_tmPacket, tmService_tmPacket, h.msgCounter]
  · rw [history_emit, kept_append, ← h.conserved]
    rcases Nat.lt_or_ge s.queue.count pusTmQueueDepth with hroom | hfull
    · simp only [contents_emit_room s r hroom, hroom, decide_true, if_true, List.append_assoc]
    · simp only [contents_emit_full s r hfull, Nat.not_lt.mpr hfull, decide_false,
        Bool.false_eq_true, if_false, List.append_nil]
  · rw [history_emit, droppedCount_append]
    rcases Nat.lt_or_ge s.queue.count pusTmQueueDepth with hroom | hfull
    · rw [overflows_emit_room s r hroom]
      simp only [hroom, decide_true, if_true, Nat.add_zero, h.dropped]
    · rw [toNat_overflows_emit_full s r hfull, h.dropped]
      simp only [Nat.not_lt.mpr hfull, decide_false, Bool.false_eq_true, if_false]
      omega

theorem Emits.ledger {s s' : Obsw} {rs : List Report} {delivered : List (List UInt8)}
    (h : Emits s s' rs) : Ledger s delivered → Ledger s' delivered :=
  h.invariant (P := fun _ => True) (I := fun m => Ledger m delivered)
    (fun _ _ hsame hm => hm.same hsame.queue hsame.tm hsame.history)
    (fun _ r _ hm => ledger_emit hm r) (fun _ _ => trivial)

theorem ledger_pop {s : Obsw} {delivered : List (List UInt8)} (h : Ledger s delivered)
    (buf : List UInt8) (cap : ℕ) (out : ℕ) :
    Ledger { s with queue := (tmQueuePop s.queue (some buf) cap (some out)).queue }
      (if (tmQueuePop s.queue (some buf) cap (some out)).status = .ok then
        delivered ++ [((tmQueuePop s.queue (some buf) cap (some out)).buf.getD []).take
          ((tmQueuePop s.queue (some buf) cap (some out)).outLen.getD 0)]
      else delivered) := by
  have hvalid := valid_tmQueuePop h.queue (some buf) cap (some out)
  have hoverflows := overflows_tmQueuePop s.queue (some buf) cap (some out)
  refine ⟨hvalid, h.seqCount, h.msgCounter, h.numbered, ?_, ?_⟩
  · rw [← h.conserved]
    split
    · rename_i hok
      rw [tmQueuePop_ok h.queue hok, List.append_assoc, List.singleton_append]
    · rename_i herror
      rw [tmQueuePop_error herror]
  · rw [← h.dropped]
    exact congrArg UInt16.toNat hoverflows

theorem Numbered.seqCount {first rest : List Sent} {x : Sent}
    (h : Numbered (first ++ x :: rest)) : (tmSeqCount x.packet).toNat = first.length % 16384 := by
  have hx := (h first.length (by simp)).1
  simpa using hx

/-- Between two consecutive packets that were kept lie the dropped ones that their sequence
counts tell apart. -/
theorem gap_of_numbered {history : List Sent} (h : Numbered history)
    {before after : List (List UInt8)} {p q : List UInt8}
    (hkept : kept history = before ++ p :: q :: after) :
    ∃ (first gap last : List Sent) (x y : Sent),
      history = first ++ x :: (gap ++ y :: last) ∧ x.packet = p ∧ y.packet = q ∧
      kept first = before ∧ (∀ z ∈ gap, z.queued = false) ∧
      ((tmSeqCount q).toNat + 16384 - (tmSeqCount p).toNat) % 16384 =
        (1 + gap.length) % 16384 := by
  obtain ⟨keptFirst, keptRest, hsplit, hfirst, hrest⟩ := List.map_eq_append_iff.mp hkept
  obtain ⟨x, keptRest', rfl, hx, hrest'⟩ := List.map_eq_cons_iff.mp hrest
  obtain ⟨y, keptLast, rfl, hy, -⟩ := List.map_eq_cons_iff.mp hrest'
  obtain ⟨front, rest, rfl, hfront, hrest⟩ := List.filter_eq_append_iff.mp hsplit
  obtain ⟨skipped, tail, rfl, hskipped, -, htail⟩ := List.filter_eq_cons_iff.mp hrest
  obtain ⟨gap, last, rfl, hgap, -, -⟩ := List.filter_eq_cons_iff.mp htail
  refine ⟨front ++ skipped, gap, last, x, y, by simp, hx, hy, ?_, by simpa using hgap, ?_⟩
  · have hnone : skipped.filter (fun z => z.queued) = [] := by simpa using hskipped
    rw [kept, List.filter_append, hnone, List.append_nil, hfront, hfirst]
  · have hp : (tmSeqCount x.packet).toNat = (front ++ skipped).length % 16384 :=
      Numbered.seqCount (by simpa using h)
    have hq : (tmSeqCount y.packet).toNat = (front ++ skipped ++ x :: gap).length % 16384 :=
      Numbered.seqCount (by simpa using h)
    rw [hx] at hp
    rw [hy] at hq
    simp only [List.length_append, List.length_cons] at hp hq
    omega

end ObswPus.Downlink
