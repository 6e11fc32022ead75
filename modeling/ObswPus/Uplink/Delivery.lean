import ObswPus.Uplink.Framing

/-! # Delivery of packets that fit

One reception after the other, on a stream of packets none of which is too large: whatever
portions the octets arrive in, each reception delivers the next packet whole, and a packet
that breaks off is not delivered at all.
-/
namespace ObswPus.Uplink
open Flight Codec Library Commanding

/-- What `n` successive calls of `receive_tc` deliver, each with the length it announces; the
first that fails is the last. -/
def deliveries : ℕ → Socket → List UInt8 → ℕ → List (ℕ × List UInt8)
  | 0, _, _, _ => []
  | n + 1, socket, buf, len =>
    let tc := receiveTc socket buf pusMaxPacketSize len
    if tc.rc ≤ 0 then []
    else (tc.outLen, tc.buf.take tc.outLen) :: deliveries n tc.socket tc.buf tc.outLen

/-- The beginning of a packet that the buffer can hold, its last octet missing at least. -/
def BreaksOff (t : List UInt8) : Prop :=
  ∃ p : SpacePacket, p.octets.length ≤ 256 ∧ ∃ k < p.octets.length, t = p.octets.take k

theorem next_of_breaksOff {t : List UInt8} (h : BreaksOff t) : tcReader.next t = none := by
  obtain ⟨p, hfits, k, hk, rfl⟩ := h
  have hlen : (p.octets.take k).length = k := List.length_take_of_le hk.le
  by_cases hshort : (p.octets.take k).length < 6
  · simp only [tcReader, if_pos hshort]
  · have hannounced : announced (p.octets.take k) = p.octets.length := by
      rw [← p.whole, ← announced_append (p.octets.drop k) (not_lt.mp hshort),
        List.take_append_drop]
    rw [next_eq_none_iff (not_lt.mp hshort), Unfinished, hannounced, hlen]
    exact ⟨hk, hfits⟩

/-- Successive receptions deliver the units of the stream. -/
theorem deliveries_eq_units (n : ℕ) (socket : Socket) (buf : List UInt8) (len : ℕ) :
    deliveries n socket buf len =
      ((tcReader.units (stream socket)).map fun u => (u.length, u)).take n := by
  induction n generalizing socket buf len with
  | zero => rfl
  | succ n ih =>
    rw [deliveries]
    cases hnext : tcReader.next (stream socket) with
    | none =>
      rw [Reader.units_of_next_eq_none hnext]
      exact if_pos (receiveTc_none socket buf len hnext)
    | some k =>
      obtain ⟨hrc, htake, hrest, hlen⟩ := receiveTc_some socket buf len hnext
      have hwhole : ((stream socket).take k).length = k :=
        List.length_take_of_le (tcReader.le _ k hnext)
      have hreceived : ¬(receiveTc socket buf pusMaxPacketSize len).rc ≤ 0 := by
        rw [hrc]
        decide
      rw [if_neg hreceived, ih, hrest, htake, hlen, Reader.units_of_next_eq_some hnext,
        List.map_cons, List.take_succ_cons, hwhole]

/-- Packets that fit, in any number and in any portions, are delivered each once, whole and in
order, however many calls are made; behind them a packet that breaks off yields nothing. -/
theorem deliveries_exact (packets : List SpacePacket)
    (hfit : ∀ p ∈ packets, p.octets.length ≤ 256) {t : List UInt8} (ht : BreaksOff t)
    (socket : Socket) (hstream : stream socket = uplinked packets ++ t) (n : ℕ)
    (buf : List UInt8) (len : ℕ) :
    deliveries n socket buf len =
      (packets.map fun p => (p.octets.length, p.octets)).take n := by
  have hdelimits : ∀ u ∈ packets.map SpacePacket.octets, tcReader.Delimits u := by
    intro u hu
    obtain ⟨p, hp, rfl⟩ := List.mem_map.mp hu
    rw [← p.received_of_le (hfit p hp)]
    exact p.delimits_received
  rw [deliveries_eq_units, hstream, uplinked, Reader.units_flatten_append hdelimits,
    Reader.units_of_next_eq_none (next_of_breaksOff ht), List.append_nil, List.map_map]
  rfl

/-- The telecommand for NOMINAL mode, seven octets that are no telecommand, and the beginning
of another, in portions that keep no packet together. -/
def brokenSocket : Socket :=
  [.octets 24 [12, 192], .interrupted, .octets 0 [0, 8, 32, 8, 1, 0, 0, 1, 1, 26, 206, 0],
    .octets 0 [0, 0, 0, 0, 1], .interrupted, .octets 24 [12, 192, 0, 0]]

def runt : SpacePacket := ⟨[0, 0, 0, 0, 0, 0, 1], rfl⟩

theorem deliveries_exact_broken :
    deliveries 5 brokenSocket (List.replicate 256 0) 0 =
      [(15, nominalTelecommand), (7, [0, 0, 0, 0, 0, 0, 1])] :=
  deliveries_exact [nominalPacket, runt] (by decide) (t := [24, 12, 192, 0, 0])
    ⟨nominalPacket, by decide, 5, by decide, rfl⟩ brokenSocket rfl 5 (List.replicate 256 0) 0

end ObswPus.Uplink
