import ObswPus.Downlink.PacketFields

/-! # What a function does to the downlink

`Emits s s' rs`: on the way from `s` to `s'` the downlink path changes only by the
reports `rs` being sent, in this order. Each function of the flight software is
proved to emit an explicit list of reports; what a list of reports does to the
queue, the drop counter and the history is proved once, here.
-/
namespace ObswPus.Downlink
open Flight Library

/-- The downlink path is the same in both states. -/
structure SameDownlink (s s' : Obsw) : Prop where
  queue : s'.queue = s.queue
  tm : s'.tm = s.tm
  history : s'.history = s.history
  lastOverflow : s'.lastOverflow = s.lastOverflow

inductive Emits : Obsw → Obsw → List Report → Prop where
  | write {s s' : Obsw} (h : SameDownlink s s') : Emits s s' []
  | send (s : Obsw) (r : Report) : Emits s (emit s r) [r]
  | trans {s m s' : Obsw} {rs rs' : List Report} (first : Emits s m rs) (second : Emits m s' rs') :
      Emits s s' (rs ++ rs')

theorem Emits.refl (s : Obsw) : Emits s s [] := .write ⟨rfl, rfl, rfl, rfl⟩

theorem Emits.cons {s s' : Obsw} {r : Report} {rs : List Report} (h : Emits (emit s r) s' rs) :
    Emits s s' (r :: rs) := (Emits.send s r).trans h

section Send
variable (s : Obsw) (r : Report)

theorem tmPacket_length_le (tm : PusTm) (time : UInt32 × UInt16) :
    (tmPacket tm time r).length ≤ pusMaxPacketSize := by
  rw [tmPacket_length]
  exact r.fits

theorem queue_emit : (emit s r).queue =
    (tmQueuePush s.queue (some (tmPacket s.tm (halGetCucTime s.hal) r))
      (tmPacket s.tm (halGetCucTime s.hal) r).length).2 := by
  simp only [emit]

theorem contents_emit_room (hroom : s.queue.count < pusTmQueueDepth) :
    contents (emit s r).queue =
      contents s.queue ++ [tmPacket s.tm (halGetCucTime s.hal) r] := by
  rw [queue_emit]
  exact contents_push_room (tmPacket_ne_nil _ _ r) (tmPacket_length_le r _ _) hroom

theorem contents_emit_full (hfull : pusTmQueueDepth ≤ s.queue.count) :
    contents (emit s r).queue = contents s.queue := by
  rw [queue_emit]
  exact contents_push_full (tmPacket_ne_nil _ _ r) (tmPacket_length_le r _ _) hfull

theorem count_emit_room (hroom : s.queue.count < pusTmQueueDepth) :
    (emit s r).queue.count = s.queue.count + 1 := by
  have hlen := congrArg List.length (contents_emit_room s r hroom)
  simpa using hlen

theorem count_emit_full (hfull : pusTmQueueDepth ≤ s.queue.count) :
    (emit s r).queue.count = s.queue.count := by
  have hlen := congrArg List.length (contents_emit_full s r hfull)
  simpa using hlen

theorem overflows_emit_room (hroom : s.queue.count < pusTmQueueDepth) :
    (emit s r).queue.overflows = s.queue.overflows := by
  rw [queue_emit, tmQueuePush_room (tmPacket_ne_nil _ _ r) (tmPacket_length_le r _ _) hroom]

/-- A dropped packet is counted, up to the largest count. -/
theorem overflows_emit_full (hfull : pusTmQueueDepth ≤ s.queue.count) :
    (emit s r).queue.overflows =
      if s.queue.overflows < 0xFFFF then s.queue.overflows + 1 else s.queue.overflows := by
  rw [queue_emit, tmQueuePush_full (tmPacket_ne_nil _ _ r) (tmPacket_length_le r _ _) hfull]
  dsimp only
  split <;> rfl

theorem toNat_overflows_emit_full (hfull : pusTmQueueDepth ≤ s.queue.count) :
    (emit s r).queue.overflows.toNat = min (s.queue.overflows.toNat + 1) 65535 := by
  rw [queue_emit]
  exact toNat_overflows_full (tmPacket_ne_nil _ _ r) (tmPacket_length_le r _ _) hfull

theorem overflows_le_emit (s : Obsw) (r : Report) :
    s.queue.overflows ≤ (emit s r).queue.overflows := by
  rcases Nat.lt_or_ge s.queue.count pusTmQueueDepth with hroom | hfull
  · rw [overflows_emit_room s r hroom]
    exact UInt16.le_refl _
  · have hlt := s.queue.overflows.toNat_lt
    rw [UInt16.le_iff_toNat_le, toNat_overflows_emit_full s r hfull]
    omega

theorem valid_emit (hq : Valid s.queue) : Valid (emit s r).queue := by
  have hlen := tmPacket_length_le r s.tm (halGetCucTime s.hal)
  have hne := tmPacket_ne_nil s.tm (halGetCucTime s.hal) r
  rcases Nat.lt_or_ge s.queue.count pusTmQueueDepth with hroom | hfull
  · refine ⟨?_, (count_emit_room s r hroom).symm ▸ hroom⟩
    simpa only [queue_emit, tmQueuePush_room hne hlen hroom] using hq.head_lt
  · refine ⟨?_, (count_emit_full s r hfull).symm ▸ hq.count_le⟩
    simp only [queue_emit, tmQueuePush_full hne hlen hfull]
    split <;> exact hq.head_lt

theorem fit_emit (hfit : Fit s.queue) : Fit (emit s r).queue := by
  intro p hp
  rcases Nat.lt_or_ge s.queue.count pusTmQueueDepth with hroom | hfull
  · rw [contents_emit_room s r hroom, List.mem_append, List.mem_singleton] at hp
    rcases hp with hp | rfl
    · exact hfit p hp
    · exact tmPacket_length_le r _ _
  · rw [contents_emit_full s r hfull] at hp
    exact hfit p hp

@[simp] theorem history_emit : (emit s r).history = s.history ++
    [{ packet := tmPacket s.tm (halGetCucTime s.hal) r
       queued := s.queue.count < pusTmQueueDepth }] := by
  simp only [emit]

@[simp] theorem lastOverflow_emit : (emit s r).lastOverflow = s.lastOverflow := by
  simp only [emit]

end Send

section Emits
variable {s s' : Obsw} {rs : List Report}

/-- What every write to the rest of the state and every send preserves. -/
theorem Emits.invariant {P : Report → Prop} {I : Obsw → Prop}
    (hwrite : ∀ s s', SameDownlink s s' → I s → I s')
    (hsend : ∀ s r, P r → I s → I (emit s r)) (h : Emits s s' rs) (hrs : ∀ r ∈ rs, P r) :
    I s → I s' := by
  induction h with
  | write hsame => exact hwrite _ _ hsame
  | send s r => exact hsend s r (hrs r (by simp))
  | trans _ _ ihfirst ihsecond =>
    intro hs
    exact ihsecond (fun r hr => hrs r (by simp [hr]))
      (ihfirst (fun r hr => hrs r (by simp [hr])) hs)

theorem Emits.valid (h : Emits s s' rs) : Valid s.queue → Valid s'.queue :=
  h.invariant (P := fun _ => True) (I := fun m => Valid m.queue)
    (fun _ _ hsame hs => hsame.queue ▸ hs) (fun s r _ => valid_emit s r) (fun _ _ => trivial)

theorem Emits.fit (h : Emits s s' rs) : Fit s.queue → Fit s'.queue :=
  h.invariant (P := fun _ => True) (I := fun m => Fit m.queue)
    (fun _ _ hsame hs => hsame.queue ▸ hs) (fun s r _ => fit_emit s r) (fun _ _ => trivial)

theorem Emits.lastOverflow (h : Emits s s' rs) : s'.lastOverflow = s.lastOverflow := by
  induction h with
  | write hsame => exact hsame.lastOverflow
  | send s r => exact lastOverflow_emit s r
  | trans _ _ ihfirst ihsecond => exact ihsecond.trans ihfirst

theorem Emits.overflows_le (h : Emits s s' rs) :
    s.queue.overflows ≤ s'.queue.overflows := by
  induction h with
  | write hsame => exact hsame.queue ▸ UInt16.le_refl _
  | send s r => exact overflows_le_emit s r
  | trans _ _ ihfirst ihsecond => exact UInt16.le_trans ihfirst ihsecond

/-- The queue takes the reports in order until it is full, behind what it held. -/
theorem Emits.queued (h : Emits s s' rs) (hq : Valid s.queue) :
    ∃ added, contents s'.queue = contents s.queue ++ added ∧
      added.map tmContent = (rs.take (pusTmQueueDepth - s.queue.count)).map Report.content := by
  induction h with
  | write hsame => exact ⟨[], by simp [hsame.queue], by simp⟩
  | send s r =>
    rcases Nat.lt_or_ge s.queue.count pusTmQueueDepth with hroom | hfull
    · refine ⟨_, contents_emit_room s r hroom, ?_⟩
      have hpos : [r].length ≤ pusTmQueueDepth - s.queue.count := by
        simp only [List.length_singleton]
        omega
      rw [List.take_of_length_le hpos]
      simp
    · refine ⟨[], by simpa using contents_emit_full s r hfull, ?_⟩
      rw [Nat.sub_eq_zero_of_le hfull]
      simp
  | @trans s m s' rs rs' first second ihfirst ihsecond =>
    obtain ⟨added, hcontents, hadded⟩ := ihfirst hq
    obtain ⟨added', hcontents', hadded'⟩ := ihsecond (first.valid hq)
    refine ⟨added ++ added', by rw [hcontents', hcontents, List.append_assoc], ?_⟩
    have hcount := congrArg List.length hcontents
    have hlen := congrArg List.length hadded
    simp only [contents_length, List.length_append, List.length_map, List.length_take]
      at hcount hlen
    have hle := hq.count_le
    rw [List.map_append, hadded, hadded', List.take_append, List.map_append]
    have hfree : rs'.take (pusTmQueueDepth - m.queue.count) =
        rs'.take (pusTmQueueDepth - s.queue.count - rs.length) := by
      congr 1
      omega
    rw [hfree]

theorem Emits.count (h : Emits s s' rs) (hq : Valid s.queue) :
    s'.queue.count = s.queue.count + min (pusTmQueueDepth - s.queue.count) rs.length := by
  obtain ⟨added, hcontents, hadded⟩ := h.queued hq
  have hcount := congrArg List.length hcontents
  have hlen := congrArg List.length hadded
  simp only [contents_length, List.length_append, List.length_map, List.length_take] at hcount hlen
  omega

theorem Emits.overflows_room (h : Emits s s' rs) (hq : Valid s.queue)
    (hroom : s.queue.count + rs.length ≤ pusTmQueueDepth) :
    s'.queue.overflows = s.queue.overflows := by
  induction h with
  | write hsame => rw [hsame.queue]
  | send s r =>
    rw [List.length_singleton] at hroom
    exact overflows_emit_room s r hroom
  | trans first _ ihfirst ihsecond =>
    have hcount := first.count hq
    rw [List.length_append] at hroom
    exact (ihsecond (first.valid hq) (by omega)).trans (ihfirst hq (by omega))

theorem Emits.queued_room (h : Emits s s' rs) (hq : Valid s.queue)
    (hroom : s.queue.count + rs.length ≤ pusTmQueueDepth) :
    ∃ added, contents s'.queue = contents s.queue ++ added ∧
      added.map tmContent = rs.map Report.content := by
  obtain ⟨added, hcontents, hadded⟩ := h.queued hq
  rw [List.take_of_length_le (by omega)] at hadded
  exact ⟨added, hcontents, hadded⟩

/-- Every report is attempted: the history grows by all of them, taken or not. -/
theorem Emits.sent (h : Emits s s' rs) :
    ∃ sent, s'.history = s.history ++ sent ∧
      sent.map (fun x => tmContent x.packet) = rs.map Report.content := by
  induction h with
  | write hsame => exact ⟨[], by simp [hsame.history], rfl⟩
  | send s r => exact ⟨_, history_emit s r, by simp⟩
  | trans _ _ ihfirst ihsecond =>
    obtain ⟨sent, hhistory, hsent⟩ := ihfirst
    obtain ⟨sent', hhistory', hsent'⟩ := ihsecond
    exact ⟨sent ++ sent', by rw [hhistory', hhistory, List.append_assoc], by simp [hsent, hsent']⟩

/-- What all reports of a list say, and all packets before them, all packets after them say. -/
theorem Emits.history_forall {P : Content → Prop} (h : Emits s s' rs)
    (hrs : ∀ r ∈ rs, P r.content) (hs : ∀ x ∈ s.history, P (tmContent x.packet)) :
    ∀ x ∈ s'.history, P (tmContent x.packet) :=
  h.invariant (P := fun r => P r.content) (I := fun m => ∀ x ∈ m.history, P (tmContent x.packet))
    (fun _ _ hsame hm => hsame.history ▸ hm)
    (fun m r hr hm x hx => by
      rw [history_emit, List.mem_append, List.mem_singleton] at hx
      rcases hx with hx | rfl
      · exact hm x hx
      · simpa using hr)
    hrs hs

end Emits

end ObswPus.Downlink
