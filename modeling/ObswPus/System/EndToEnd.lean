import ObswPus.Ground.Conformance
import ObswPus.Ground.LinkCalls
import ObswPus.Runner.Sessions
import ObswPus.System.Refinement

/-! # From the uplink to the ground link

A session of the runner with the ground link at its other end. What the ground receives are
the reports of the ideal unit for the requests of the client, in their order and numbered
without a gap.
-/
namespace ObswPus.System
open Flight Downlink Commanding Telemetry Ground Runner Library

/-- What ground decodes from a packet of the unit. -/
def groundView (p : List UInt8) : TmPacket :=
  { apid := 0x00C
    seqCount := (tmSeqCount p).toNat
    service := (tmService p).toNat
    subtype := (tmSubtype p).toNat
    msgCounter := (tmMsgCounter p).toNat
    destinationId := 0x0001
    timeCoarse := (tmTime p).1.toNat
    timeFine := (tmTime p).2.toNat
    data := tmData p
    raw := p }

theorem groundView_tmPacket (tm : PusTm) (time : UInt32 × UInt16) (r : Report) :
    groundView (tmPacket tm time r) = parsedPacket tm time r := by
  have hmask := Nat.and_two_pow_sub_one_eq_mod tm.seqCount.toNat 14
  simp only [Nat.reducePow, Nat.reduceSub] at hmask
  have hliteral : (0x3FFF : UInt16).toNat = 16383 := rfl
  rw [groundView, parsedPacket, tmSeqCount_tmPacket, tmService_tmPacket, tmSubtype_tmPacket,
    tmMsgCounter_tmPacket, tmTime_tmPacket, tmData_tmPacket, UInt16.toNat_and, hliteral, hmask]

/-- Every packet of the history was made by the packet builder, of a report that the interface
control document lists. -/
def Built (history : List Sent) : Prop :=
  ∀ x ∈ history, ∃ tm time r, x.packet = tmPacket tm time r ∧ InIcd r

theorem built_emits {s s' : Obsw} {rs : List Report} (h : Emits s s' rs)
    (hrs : ∀ r ∈ rs, InIcd r) : Built s.history → Built s'.history := by
  refine h.invariant (P := InIcd) (I := fun m => Built m.history)
    (fun _ _ hsame hm => hsame.history ▸ hm) (fun m r hr hm => ?_) hrs
  intro x hx
  rw [history_emit, List.mem_append, List.mem_singleton] at hx
  rcases hx with hx | rfl
  · exact hm x hx
  · exact ⟨_, _, r, rfl, hr⟩

theorem built_step {u : Obc} (e : Stimulus) (hconforming : Conforming u.obsw)
    (h : Built u.obsw.history) : Built (u.step e).obsw.history := by
  cases e with
  | tick =>
    rw [obsw_tick]
    have hthermal := (evolves_atSample u.obsw).emits
    have hsample := built_emits hthermal (fun _ hr => inIcd_thermalReports hr) h
    have hcounter := (hconforming.of_emits hthermal fun _ hr => inIcd_thermalReports hr).sample
    rw [← sampled_history] at hsample
    refine built_emits (evolves_fromSample u.obsw).emits (fun r hr => ?_) hsample
    rcases List.mem_append.mp hr with hr | hr
    · exact inIcd_overflowReports hcounter hr
    · exact inIcd_hkTickReports hr
  | telecommand octets =>
    rw [obsw_telecommand]
    obtain ⟨c, rs, hevolves, hlisted⟩ := evolves_obcProcessTc_inIcd u.obsw octets
    exact built_emits hevolves.emits hlisted h
  | pop buf =>
    rw [obsw_pop]
    exact h
  | thermistor valueDc => exact h

theorem built_after (s : Obsw) (stimuli : List Stimulus) :
    Built (after s stimuli).obsw.history := by
  refine (after_invariant (I := fun u => Conforming u.obsw ∧ Built u.obsw.history) (fun s => ?_)
    (fun u e h => ⟨conforming_step u e h.1, built_step e h.1 h.2⟩) s stimuli).2
  refine ⟨conforming_powerOn s, ?_⟩
  rw [powerOn, obcInit_eq]
  refine built_emits (Emits.send _ _) (fun r hr => ?_) fun x hx => absurd hx List.not_mem_nil
  rw [List.mem_singleton.mp hr]
  exact inIcd_event _ _ _ rfl

def groundPackets (history : List Sent) : List TmPacket :=
  history.map fun x => groundView x.packet

/-- Ground decodes every packet, and finds in it what the document lists. -/
theorem decodes_groundPackets {history : List Sent} (h : Built history) {p : TmPacket}
    (hp : p ∈ groundPackets history) : parseTm p.raw = .ok p ∧ Documented p := by
  obtain ⟨x, hx, rfl⟩ := List.mem_map.mp hp
  obtain ⟨tm, time, r, hpacket, hlisted⟩ := h x hx
  rw [hpacket, groundView_tmPacket]
  exact ⟨parseTm_tmPacket tm time r, hlisted tm time⟩

def said (p : TmPacket) : ℕ × ℕ × List UInt8 := (p.service, p.subtype, p.data)

def groundContent (c : Content) : ℕ × ℕ × List UInt8 := (c.1.toNat, c.2.1.toNat, c.2.2)

theorem said_groundPackets (history : List Sent) : (groundPackets history).map said =
    (history.map fun x => tmContent x.packet).map groundContent := by
  rw [groundPackets, List.map_map, List.map_map]
  rfl

/-- Whether a report comes from this service. -/
def ofService (service : UInt8) (content : Content) : Bool := content.1 == service

def packetsOf (service : UInt8) (packets : List TmPacket) : List TmPacket :=
  packets.filter fun p => p.service == service.toNat

theorem said_packetsOf (service : UInt8) {packets : List TmPacket} {contents : List Content}
    (h : packets.map said = contents.map groundContent) : (packetsOf service packets).map said =
      (contents.filter (ofService service)).map groundContent := by
  have hpackets : (packetsOf service packets).map said =
      (packets.map said).filter fun x => x.1 == service.toNat := by
    rw [List.filter_map]
    rfl
  have hcontents : (contents.map groundContent).filter (fun x => x.1 == service.toNat) =
      (contents.filter (ofService service)).map groundContent := by
    rw [List.filter_map]
    congr 2
    funext content
    simp only [Function.comp_apply, groundContent, ofService, Bool.beq_eq_decide_eq,
      UInt8.toNat_inj]
  rw [hpackets, h, hcontents]

/-- The numbers of the packets show no gap: sequence counts count all packets, message counters
those of one service. -/
def NumberedInOrder (packets : List TmPacket) : Prop :=
  ∀ (k : ℕ) (hk : k < packets.length),
    packets[k].seqCount = k % 16384 ∧
      packets[k].msgCounter =
        ((packets.take k).countP fun p => p.service = packets[k].service) % 65536

theorem numberedInOrder_groundPackets {history : List Sent} (h : Numbered history) :
    NumberedInOrder (groundPackets history) := by
  intro k hk
  have hk' : k < history.length := by rwa [groundPackets, List.length_map] at hk
  obtain ⟨hseq, hmsg⟩ := h k hk'
  simp only [groundPackets, List.getElem_map, ← List.map_take, List.countP_map]
  refine ⟨hseq, hmsg.trans ?_⟩
  rw [builtBy]
  congr 2
  funext x
  simp only [Function.comp_apply, groundView, UInt8.toNat_inj]

theorem NumberedInOrder.initial {packets packets' : List TmPacket} (h : NumberedInOrder packets)
    (hfront : packets' <+: packets) : NumberedInOrder packets' := by
  obtain ⟨rest, rfl⟩ := hfront
  intro k hk
  have hk' : k < (packets' ++ rest).length := by
    rw [List.length_append]
    omega
  have hnumbers := h k hk'
  rwa [List.getElem_append_left hk, List.take_append_of_le_length hk.le] at hnumbers

/-- What the client requests of the unit: the telecommands that it has uplinked, and the minor
cycles that pass in between. -/
def requestsOf (client : Client) : List Stimulus :=
  clientRequests client.passes client.socket client.buf client.len

theorem run_passedOn (i : IdealUnit) (stimuli : List Stimulus) :
    Run.run IdealUnit.step i stimuli = Run.run IdealUnit.step i (passedOn stimuli) := by
  induction stimuli generalizing i with
  | nil => rfl
  | cons e stimuli ih =>
    cases e with
    | pop buf =>
      have hpop : i.step (.pop buf) = i := congrArg (IdealUnit.mk i.control) (List.append_nil _)
      rw [Run.run_cons, hpop]
      exact ih i
    | tick | telecommand | thermistor => exact ih _

theorem forall_of_passedOn {P : Stimulus → Prop} (hpop : ∀ buf, P (.pop buf))
    {stimuli : List Stimulus} (h : ∀ e ∈ passedOn stimuli, P e) : ∀ e ∈ stimuli, P e := by
  intro e he
  cases e with
  | pop buf => exact hpop buf
  | tick | telecommand | thermistor => exact h _ (List.mem_filter.mpr ⟨he, rfl⟩)

/-- A client whose calls of `send` do not fail, and that asks for fourteen structures at most at
once: the unit ends up as the ideal unit does, and the octets that the client is sent are packets
that ground decodes, numbered without a gap, which say what the ideal unit has reported, all of
it as the interface control document lists it. -/
theorem served_ideal (s : Obsw) {client : Client} (hsteady : Steady client.sends)
    (hfew : ∀ e ∈ requestsOf client, FewStructures e) :
    Commanding.control (serveClient s client).obsw = (idealAfter (requestsOf client)).control ∧
      (serveClient s client).outlet.taken =
        ((groundPackets (serveClient s client).obsw.history).map TmPacket.raw).flatten ∧
      (∀ p ∈ groundPackets (serveClient s client).obsw.history,
        parseTm p.raw = .ok p ∧ Documented p) ∧
      (groundPackets (serveClient s client).obsw.history).map said =
        (idealAfter (requestsOf client)).reported.map groundContent ∧
      NumberedInOrder (groundPackets (serveClient s client).obsw.history) := by
  obtain ⟨stimuli, hserves⟩ := serves_serveClient s client
  obtain ⟨hasked, htaken, -⟩ := hserves.complete hsteady
  have hreached : (serveClient s client).obsw = (after s stimuli).obsw := hserves.reached
  have hagrees : Agrees (after s stimuli) (idealAfter stimuli) :=
    agrees_after hserves.drained (forall_of_passedOn (fun _ => trivial) (by rwa [hasked]))
  have hideal : idealAfter stimuli = idealAfter (requestsOf client) := by
    rw [requestsOf, ← hasked]
    exact run_passedOn _ stimuli
  have hledger := ledger_after s stimuli
  have hqueued := queued_of_nothingCounted hledger hagrees.counted
  have hkept : kept (after s stimuli).obsw.history =
      (after s stimuli).obsw.history.map fun x => x.packet := by
    rw [kept, List.filter_eq_self.mpr hqueued]
  rw [hideal] at hagrees
  rw [htaken, hreached, hkept]
  refine ⟨hagrees.control, ?_, fun p hp => decodes_groundPackets (built_after s stimuli) hp, ?_,
    numberedInOrder_groundPackets hledger.numbered⟩
  · rw [groundPackets, List.map_map]
    rfl
  · rw [said_groundPackets, hagrees.reported]

theorem reduceOption_frames (slots : List (Option TmPacket)) :
    (frames slots).reduceOption = (slots.reduceOption.map TmPacket.raw).flatten := by
  induction slots with
  | nil => rfl
  | cons slot slots ih =>
    cases slot with
    | none => exact ih
    | some p =>
      rw [frames, List.reduceOption_append, ih, List.reduceOption_cons_of_some, List.map_cons,
        List.flatten_cons]
      congr 1
      induction p.raw with
      | nil => rfl
      | cons octet octets ih => exact congrArg (octet :: ·) ih

theorem slots_of_frames_nil {slots : List (Option TmPacket)}
    (hdecodes : ∀ p, some p ∈ slots → parseTm p.raw = .ok p) (h : frames slots = []) :
    slots = [] := by
  rcases slots with _ | ⟨_ | p, slots⟩
  · rfl
  · cases h
  · have hlen := length_of_parseTm (hdecodes p List.mem_cons_self)
    rw [frames, List.append_eq_nil_iff, List.map_eq_nil_iff] at h
    rw [h.1, List.length_nil] at hlen
    omega

/-- The octets of the packets arrive on the socket, in any portions and with any silences between
one packet and the next. -/
def Arrives (packets : List TmPacket) (sock : List Arrival) : Prop :=
  ∃ slots : List (Option TmPacket), slots.reduceOption = packets ∧ events sock = frames slots

theorem Arrives.octets {packets : List TmPacket} {sock : List Arrival} (h : Arrives packets sock) :
    (events sock).reduceOption = (packets.map TmPacket.raw).flatten := by
  obtain ⟨slots, rfl, hsock⟩ := h
  rw [hsock, reduceOption_frames]

/-- A link on which packets arrive that decode receives them in their order, and all of them once
everything has been read. -/
theorem received_prefix {packets : List TmPacket} (hdecodes : ∀ p ∈ packets, parseTm p.raw = .ok p)
    {sock : List Arrival} (h : Arrives packets sock) (calls : List LinkCall) :
    (afterCalls (connected sock) calls).received <+: packets ∧
      (events (afterCalls (connected sock) calls).sock = [] →
        (afterCalls (connected sock) calls).received = packets) := by
  obtain ⟨slots, hslots, hsock⟩ := h
  have hall : ∀ p, some p ∈ slots → parseTm p.raw = .ok p := fun p hp =>
    hdecodes p (hslots ▸ List.reduceOption_mem_iff.mpr hp)
  have hstart : Shows slots.reduceOption (connected sock) ⟨[], slots⟩ := ⟨rfl, hsock, hall, rfl⟩
  obtain ⟨b, hshows, -⟩ := hstart.calls calls
  have hreceived := hshows.received
  rw [hslots] at hreceived
  refine ⟨⟨_, hreceived⟩, fun hend => ?_⟩
  rwa [slots_of_frames_nil hshows.decodes (hshows.sock ▸ hend), List.reduceOption_nil,
    List.append_nil] at hreceived

/-- The ground link at the downlink of a served client. What arrives are the octets that the client
is sent; then after any calls the link has received, in their order and numbered without a gap,
reports of the ideal unit for the requests of the client, each as the interface control document
lists it, and all of them once everything has been read. -/
theorem ground_receives_ideal (s : Obsw) {client : Client} (hsteady : Steady client.sends)
    (hfew : ∀ e ∈ requestsOf client, FewStructures e) {sock : List Arrival}
    (hsock : Arrives (groundPackets (serveClient s client).obsw.history) sock)
    (calls : List LinkCall) :
    (events sock).reduceOption = (serveClient s client).outlet.taken ∧
      (afterCalls (connected sock) calls).received.map said <+:
        (idealAfter (requestsOf client)).reported.map groundContent ∧
      NumberedInOrder (afterCalls (connected sock) calls).received ∧
      (∀ p ∈ (afterCalls (connected sock) calls).received, Documented p) ∧
      (events (afterCalls (connected sock) calls).sock = [] →
        (afterCalls (connected sock) calls).received.map said =
          (idealAfter (requestsOf client)).reported.map groundContent) := by
  obtain ⟨-, htaken, hdecodes, hsaid, hnumbered⟩ := served_ideal s hsteady hfew
  obtain ⟨hfront, hend⟩ := received_prefix (fun p hp => (hdecodes p hp).1) hsock calls
  refine ⟨hsock.octets.trans htaken.symm, hsaid ▸ hfront.map said,
    hnumbered.initial hfront, fun p hp => (hdecodes p (hfront.subset hp)).2, fun hread => ?_⟩
  rw [hend hread, hsaid]

def singly (packets : List TmPacket) : List Arrival :=
  (packets.map TmPacket.raw).flatten.map fun octet => .octets octet []

theorem arrives_singly (packets : List TmPacket) : Arrives packets (singly packets) := by
  have hevents (octets : List UInt8) :
      events (octets.map fun octet => .octets octet []) = octets.map some := by
    induction octets with
    | nil => rfl
    | cons octet octets ih => exact congrArg (some octet :: ·) ih
  refine ⟨packets.map some, ?_, ?_⟩
  · induction packets with
    | nil => rfl
    | cons p packets ih => exact congrArg (p :: ·) ih
  · rw [singly, hevents]
    induction packets with
    | nil => rfl
    | cons p packets ih =>
      rw [List.map_cons, List.flatten_cons, List.map_append, ih]
      rfl

def quietClient (passes : List Readiness) (socket : Socket) : Client :=
  { passes := passes
    socket := socket
    sends := []
    buf := packetBuffer
    len := 0
    packet := packetBuffer
    outLen := 0 }

theorem steady_quietClient (passes : List Readiness) (socket : Socket) :
    Steady (quietClient passes socket).sends := fun _ hx => nomatch hx

/-- Ground orders NOMINAL mode, in two portions, and lets a minor cycle pass. -/
def nominalClient : Client :=
  quietClient [.readable, .timeout]
    [.octets 24 [12, 192, 0], .interrupted, .octets 0 [8, 32, 8, 1, 0, 0, 1, 1, 26, 206]]

theorem requestsOf_nominalClient :
    requestsOf nominalClient = [.telecommand nominalTelecommand, .tick] := by
  decide +kernel

theorem ground_receives_ideal_nominal :
    (afterCalls (connected (singly (groundPackets
        (serveClient default nominalClient).obsw.history))) [.drain 4]).received.map said =
      (idealAfter [.telecommand nominalTelecommand, .tick]).reported.map groundContent := by
  have hsteady : Steady nominalClient.sends := steady_quietClient _ _
  have hall := ground_receives_ideal default hsteady
    (requestsOf_nominalClient ▸ fewStructures_nominal) (arrives_singly _) [.drain 4]
  rw [← requestsOf_nominalClient]
  exact hall.2.2.2.2 (by decide +kernel)

end ObswPus.System
