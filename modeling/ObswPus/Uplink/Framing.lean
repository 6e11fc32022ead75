import ObswPus.Telemetry.Drained
import ObswPus.Uplink.Reception

/-! # Framing of the uplink

The octets of a packet that is too large for the buffer are not skipped: behind its header,
the data field is read as if it were packets. One result for each packet sent is what the
runner yields where all packets fit, and else only by coincidence.
-/
namespace ObswPus.Uplink
open Flight Codec Library Commanding Telemetry

/-- A packet as long as its header declares. -/
structure SpacePacket where
  octets : List UInt8
  whole : announced octets = octets.length

namespace SpacePacket

/-- What is to be received of a packet: all of it, or its header if it is too large. -/
def received (p : SpacePacket) : List UInt8 :=
  if p.octets.length ≤ 256 then p.octets else p.octets.take 6

variable (p : SpacePacket)

theorem seven_le_length : 7 ≤ p.octets.length := by
  rw [← p.whole, announced]
  exact Nat.le_add_right 7 _

theorem received_of_le (h : p.octets.length ≤ 256) : p.received = p.octets := if_pos h

theorem received_of_lt (h : 256 < p.octets.length) : p.received = p.octets.take 6 :=
  if_neg (Nat.not_le.mpr h)

theorem delimits_received : tcReader.Delimits p.received := by
  intro s
  have hlong := p.seven_le_length
  rw [received]
  split
  · have hannounced : announced (p.octets ++ s) = p.octets.length := by
      rw [announced_append s (by omega), p.whole]
    simp only [tcReader, hannounced, List.length_append]
    rw [if_neg (by omega), if_neg (by omega), if_neg (by omega)]
  · have hsix : (p.octets.take 6).length = 6 := List.length_take_of_le (by omega)
    have hannounced : announced (p.octets.take 6 ++ s) = p.octets.length := by
      rw [announced_append s hsix.ge, ← announced_append (p.octets.drop 6) hsix.ge,
        List.take_append_drop, p.whole]
    simp only [tcReader, hannounced, List.length_append, hsix]
    rw [if_neg (by omega), if_pos (by omega)]

theorem length_received_le : p.received.length ≤ p.octets.length := by
  rw [received]
  split
  · exact le_rfl
  · exact List.length_take_le' ..

theorem length_received_add_le (h : 256 < p.octets.length) :
    p.received.length + 251 ≤ p.octets.length := by
  have hlong := p.seven_le_length
  rw [p.received_of_lt h, List.length_take_of_le (by omega)]
  omega

theorem received_rejected (h : 256 < p.octets.length) :
    pusTcParse (some p.received) p.received.length = .error .truncated := by
  have hlong := p.seven_le_length
  have hsix : p.received.length = 6 := by
    rw [p.received_of_lt h, List.length_take_of_le (by omega)]
  have hshort : firstFailing p.received = .truncated := by
    rw [firstFailing, if_pos (by omega)]
  rw [pusTcParse_eq, hshort]
  exact if_neg (by decide)

end SpacePacket

def uplinked (packets : List SpacePacket) : List UInt8 :=
  (packets.map SpacePacket.octets).flatten

/-- One result for each packet, and those that are too large refused. -/
structure Framed (socket : Socket) (packets : List SpacePacket) : Prop where
  results : ∀ passes buf len, telecommands (clientRequests passes socket buf len) =
    (packets.map SpacePacket.received).take (passes.count .readable)
  rejected : ∀ p ∈ packets, 256 < p.octets.length →
    pusTcParse (some p.received) p.received.length = .error .truncated

/-- The octets announce a packet that the buffer can hold, and do not complete it. -/
def Unfinished (t : List UInt8) : Prop := t.length < announced t ∧ announced t ≤ 256

/-- No packet is too large; or one is, and its data field with the packets behind it reads as
these packets and an unfinished rest. -/
def Harmless (packets : List SpacePacket) : Prop :=
  (∀ p ∈ packets, p.octets.length ≤ 256) ∨
    ∃ before p after t, packets = before ++ p :: after ∧ 256 < p.octets.length ∧
      (∀ q ∈ before ++ after, q.octets.length ≤ 256) ∧
      p.octets.drop 6 ++ uplinked after = uplinked after ++ t ∧ Unfinished t

section Octets
variable {packets : List SpacePacket}

theorem framed_iff_exists {socket : Socket} (h : stream socket = uplinked packets) :
    Framed socket packets ↔ ∃ t, tcReader.next t = none ∧
      (packets.map SpacePacket.received).flatten ++ t = uplinked packets := by
  have hdelimits : ∀ u ∈ packets.map SpacePacket.received, tcReader.Delimits u := by
    intro u hu
    obtain ⟨p, -, rfl⟩ := List.mem_map.mp hu
    exact p.delimits_received
  rw [← Reader.units_eq_iff hdelimits, ← h]
  constructor
  · intro hframed
    let n := (tcReader.units (stream socket)).length + packets.length
    have hall := hframed.results (List.replicate n .readable) [] 0
    rwa [telecommands_clientRequests, List.count_replicate_self,
      List.take_of_length_le (Nat.le_add_right _ _),
      List.take_of_length_le (by rw [List.length_map]; exact Nat.le_add_left _ _)] at hall
  · intro hunits
    constructor
    · intro passes buf len
      rw [telecommands_clientRequests, hunits]
    · intro p _ hlarge
      exact p.received_rejected hlarge

/-- Where all packets fit, they are received as they are. -/
theorem flatten_received (h : ∀ p ∈ packets, p.octets.length ≤ 256) :
    (packets.map SpacePacket.received).flatten = uplinked packets := by
  rw [uplinked, List.map_congr_left fun p hp => p.received_of_le (h p hp)]

theorem length_flatten_received_le (packets : List SpacePacket) :
    (packets.map SpacePacket.received).flatten.length ≤ (uplinked packets).length := by
  induction packets with
  | nil => exact le_rfl
  | cons p packets ih =>
    have hp := p.length_received_le
    simp only [uplinked, List.map_cons, List.flatten_cons, List.length_append] at ih ⊢
    omega

/-- Of a packet that is too large, at least 251 octets are not part of the result. -/
theorem length_flatten_received_add_le {q : SpacePacket} (hq : q ∈ packets)
    (hlarge : 256 < q.octets.length) :
    (packets.map SpacePacket.received).flatten.length + 251 ≤ (uplinked packets).length := by
  induction packets with
  | nil => cases hq
  | cons p packets ih =>
    simp only [uplinked, List.map_cons, List.flatten_cons, List.length_append] at ih ⊢
    rcases List.mem_cons.mp hq with rfl | hq
    · have hhead := q.length_received_add_le hlarge
      have htail := length_flatten_received_le packets
      rw [uplinked] at htail
      omega
    · have hhead := p.length_received_le
      have htail := ih hq
      omega

theorem next_eq_none_iff {t : List UInt8} (ht : 6 ≤ t.length) :
    tcReader.next t = none ↔ Unfinished t := by
  simp only [tcReader, Unfinished, if_neg (Nat.not_lt.mpr ht)]
  split_ifs with hlarge hlack
  · simp; omega
  · simp; omega
  · simp; omega

theorem length_lt_of_next_eq_none {t : List UInt8} (h : tcReader.next t = none) :
    t.length < 256 := by
  by_cases ht : 6 ≤ t.length
  · obtain ⟨hlack, hfits⟩ := (next_eq_none_iff ht).mp h
    omega
  · omega

theorem exists_first_oversized (h : ¬∀ p ∈ packets, p.octets.length ≤ 256) :
    ∃ before p after, packets = before ++ p :: after ∧ 256 < p.octets.length ∧
      ∀ q ∈ before, q.octets.length ≤ 256 := by
  cases hfind : packets.find? fun p => 256 < p.octets.length with
  | none =>
    rw [List.find?_eq_none] at hfind
    exact absurd (by simpa using hfind) h
  | some p =>
    obtain ⟨hlarge, before, after, hsplit, hbefore⟩ := List.find?_eq_some_iff_append.mp hfind
    exact ⟨before, p, after, hsplit, by simpa using hlarge, by simpa using hbefore⟩

/-- The octets of a stream around a packet that is too large. -/
theorem uplinked_split {before after : List SpacePacket} {p : SpacePacket}
    (hbefore : ∀ q ∈ before, q.octets.length ≤ 256) (hlarge : 256 < p.octets.length)
    (t : List UInt8) :
    ((before ++ p :: after).map SpacePacket.received).flatten ++ t =
        uplinked (before ++ p :: after) ↔
      p.octets.drop 6 ++ uplinked after = (after.map SpacePacket.received).flatten ++ t := by
  have hsent : uplinked (before ++ p :: after) =
      uplinked before ++ (p.octets.take 6 ++ (p.octets.drop 6 ++ uplinked after)) := by
    simp only [uplinked, List.map_append, List.map_cons, List.flatten_append, List.flatten_cons]
    rw [← List.append_assoc (p.octets.take 6), List.take_append_drop]
  rw [hsent, List.map_append, List.map_cons, List.flatten_append, List.flatten_cons,
    flatten_received hbefore, p.received_of_lt hlarge, List.append_assoc, List.append_assoc,
    List.append_cancel_left_eq, List.append_cancel_left_eq]
  exact eq_comm

/-- Results and an unfinished rest make up the stream only if it is harmless: the rest is
shorter than two of the data fields that are missing in the results. -/
theorem exists_rest_iff_harmless :
    (∃ t, tcReader.next t = none ∧
      (packets.map SpacePacket.received).flatten ++ t = uplinked packets) ↔
    Harmless packets := by
  constructor
  · rintro ⟨t, hnone, hstream⟩
    by_cases hfit : ∀ p ∈ packets, p.octets.length ≤ 256
    · exact Or.inl hfit
    obtain ⟨before, p, after, rfl, hlarge, hbefore⟩ := exists_first_oversized hfit
    rw [uplinked_split hbefore hlarge] at hstream
    have hrest := length_lt_of_next_eq_none hnone
    have hlen := congrArg List.length hstream
    simp only [List.length_append, List.length_drop] at hlen
    have hafter : ∀ q ∈ after, q.octets.length ≤ 256 := by
      intro q hq
      by_contra hsecond
      have hmissing := length_flatten_received_add_le hq (not_le.mp hsecond)
      omega
    rw [flatten_received hafter] at hstream hlen
    refine Or.inr ⟨before, p, after, t, rfl, hlarge, ?_, hstream, ?_⟩
    · intro q hq
      rcases List.mem_append.mp hq with hq | hq
      · exact hbefore q hq
      · exact hafter q hq
    · exact (next_eq_none_iff (by omega)).mp hnone
  · rintro (hfit | ⟨before, p, after, t, rfl, hlarge, hfit, hrest, hunfinished⟩)
    · refine ⟨[], rfl, ?_⟩
      rw [flatten_received hfit, List.append_nil]
    · have hbefore : ∀ q ∈ before, q.octets.length ≤ 256 :=
        fun q hq => hfit q (List.mem_append_left _ hq)
      have hafter : ∀ q ∈ after, q.octets.length ≤ 256 :=
        fun q hq => hfit q (List.mem_append_right _ hq)
      have hlen := congrArg List.length hrest
      simp only [List.length_append, List.length_drop] at hlen
      refine ⟨t, (next_eq_none_iff (by omega)).mpr hunfinished, ?_⟩
      rw [uplinked_split hbefore hlarge, flatten_received hafter, hrest]

end Octets

/-- The runner yields one result for each packet exactly if the stream is harmless. -/
theorem framed_iff_harmless (packets : List SpacePacket) (socket : Socket)
    (h : stream socket = uplinked packets) : Framed socket packets ↔ Harmless packets := by
  rw [framed_iff_exists h, exists_rest_iff_harmless]

/-- The telecommand for NOMINAL mode as a packet, arriving in two portions. -/
def nominalPacket : SpacePacket := ⟨nominalTelecommand, rfl⟩

def nominalSocket : Socket :=
  [.octets 24 [12, 192, 0, 0, 8], .interrupted, .octets 32 [8, 1, 0, 0, 1, 1, 26, 206]]

theorem framed_nominalPacket : Framed nominalSocket [nominalPacket] := by
  apply (framed_iff_harmless [nominalPacket] nominalSocket rfl).mpr
  left
  intro p hp
  rw [List.mem_singleton.mp hp]
  decide

/-- A packet one octet too large, whose data field begins with the telecommand for NOMINAL
mode. -/
def oversizedPacket : SpacePacket :=
  ⟨[24, 12, 192, 1, 0, 250] ++ nominalTelecommand ++ List.replicate 236 0, by decide +kernel⟩

def oversizedSocket : Socket :=
  [.octets 24 ([12, 192, 1, 0, 250] ++ nominalTelecommand ++ List.replicate 236 0)]

/-- The octets inside the packet are executed: the mode changes. -/
theorem oversizedPacket_executed :
    stream oversizedSocket = uplinked [oversizedPacket] ∧
      ¬Framed oversizedSocket [oversizedPacket] ∧
      (after default []).obsw.state.mode = .safe ∧
      (after default (serveClient (powerOn default) (clientRequests [.readable, .readable]
        oversizedSocket (List.replicate 256 0) 0))).obsw.state.mode = .nominal := by
  refine ⟨by decide +kernel, ?_, by decide +kernel, by decide +kernel⟩
  intro hframed
  have hresults := hframed.results [.readable, .readable] (List.replicate 256 0) 0
  exact absurd hresults (by decide +kernel)

end ObswPus.Uplink
