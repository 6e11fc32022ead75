import ObswPus.Autonomy.Regulator
import ObswPus.Ground.CommandReading
import ObswPus.System.Verdicts
import ObswPus.Uplink.Delivery

/-! # The closed loop

Ground sends commands by name and reads packets. In between lie the builders, a stream of
octets, the runner, the parser, the services, the queue and a second stream. None of this
shows: the unit carries out the commands, one for each pass that finds some octets, and
ground is told what became of each.
-/
namespace ObswPus.System
open Flight Downlink Commanding Telemetry Ground Uplink Runner Library Codec

/-- What the passes of the loop come to when the readable ones find these telecommands: a minor
cycle, or the next telecommand. One that finds none is the last. -/
def schedule {α : Type} : List Readiness → List α → List (Option α)
  | [], _ => []
  | .interrupted :: passes, sent => schedule passes sent
  | .timeout :: passes, sent => none :: schedule passes sent
  | .readable :: _, [] => []
  | .readable :: passes, t :: sent => some t :: schedule passes sent

theorem schedule_map {α β : Type} (f : α → β) (passes : List Readiness) (sent : List α) :
    schedule passes (sent.map f) = (schedule passes sent).map (Option.map f) := by
  induction passes generalizing sent with
  | nil => rfl
  | cons pass passes ih =>
    cases pass with
    | interrupted => exact ih sent
    | timeout => rw [schedule, ih]; rfl
    | readable =>
      cases sent with
      | nil => rfl
      | cons t sent => rw [List.map_cons, schedule, ih]; rfl

theorem mem_of_some_mem_schedule {α : Type} {passes : List Readiness} {sent : List α} {t : α}
    (h : some t ∈ schedule passes sent) : t ∈ sent := by
  induction passes generalizing sent with
  | nil => cases h
  | cons pass passes ih =>
    cases pass with
    | interrupted => exact ih h
    | timeout =>
      rcases List.mem_cons.mp h with h | h
      · cases h
      · exact ih h
    | readable =>
      cases sent with
      | nil => cases h
      | cons t' sent =>
        rcases List.mem_cons.mp h with h | h
        · cases h
          exact List.mem_cons_self
        · exact List.mem_cons_of_mem _ (ih h)

def occasion : Option (List UInt8) → Stimulus
  | none => .tick
  | some octets => .telecommand octets

/-- The requests of a client depend on the stream alone, not on how its octets arrive. -/
theorem clientRequests_eq (passes : List Readiness) (socket : Socket) (buf : List UInt8) (len : ℕ) :
    clientRequests passes socket buf len =
      (schedule passes (tcReader.units (stream socket))).map occasion := by
  fun_induction clientRequests with
  | case1 => rfl
  | case2 passes socket buf len ih => exact ih
  | case3 passes socket buf len ih => rw [ih]; rfl
  | case4 passes socket buf len tc hrc =>
    cases hnext : tcReader.next (stream socket) with
    | none => rw [Reader.units_of_next_eq_none hnext]; rfl
    | some n => exact absurd hrc (by rw [(receiveTc_some socket buf len hnext).1]; decide)
  | case5 passes socket buf len tc hrc ih =>
    cases hnext : tcReader.next (stream socket) with
    | none => exact absurd (receiveTc_none socket buf len hnext) hrc
    | some n =>
      obtain ⟨-, htake, hrest, -⟩ := receiveTc_some socket buf len hnext
      rw [ih, Reader.units_of_next_eq_some hnext, htake, hrest]
      rfl

/-- A command, what it is sent with, and the packet that the builders make of it. The runner can
receive the packet. -/
structure Telecommand where
  command : Command
  ack : ℕ
  seqCount : ℕ
  octets : List UInt8
  ack_lt : ack < 16
  seqCount_lt : seqCount < 16384
  built : command.packet ack seqCount = some octets
  received : octets.length ≤ 256

namespace Telecommand
variable (t : Telecommand)

theorem eq_builtPacket : ∃ a, t.octets = builtPacket a ∧ lengthField a = a.data.length + 6 ∧
    Understood t.command t.ack t.seqCount t.octets (decodedTc t.octets) := by
  by_cases hfits : t.command.Fits
  · obtain ⟨a, hpacket, -, hlength, hunderstood⟩ :=
      understood_of_fits t.ack_lt t.seqCount_lt hfits
    have hoctets : t.octets = builtPacket a := Option.some.inj (t.built.symm.trans hpacket)
    exact ⟨a, hoctets, hlength, hoctets ▸ hunderstood⟩
  · have hnone : t.command.packet t.ack t.seqCount = none := packet_of_not_fits hfits
    rw [t.built] at hnone
    cases hnone

theorem understood : Understood t.command t.ack t.seqCount t.octets (decodedTc t.octets) := by
  obtain ⟨a, -, -, hunderstood⟩ := t.eq_builtPacket
  exact hunderstood

/-- What the unit reads is what the command asks for. -/
theorem requested_octets : Autonomy.requested t.octets = t.command.asks.toOption := by
  rw [Autonomy.requested, t.understood.accepted, ← t.understood.reads]

theorem whole : announced t.octets = t.octets.length := by
  obtain ⟨a, hoctets, hlength, -⟩ := t.eq_builtPacket
  obtain ⟨-, -, -, -, h4, h5, -⟩ := octetAt_builtPacket a
  rw [hoctets, announced, h4, h5, length_builtPacket, hlength]
  omega

def spacePacket : SpacePacket := ⟨t.octets, t.whole⟩

theorem delimits : tcReader.Delimits t.octets := by
  have hdelimits := t.spacePacket.delimits_received
  rwa [t.spacePacket.received_of_le t.received] at hdelimits

theorem fewStructures (hfew : ∀ sids, t.command = .oneShotHk sids → sids.length ≤ 14) :
    FewStructures (.telecommand t.octets) := by
  intro tc hparse hservice hsubtype hlist
  rw [t.understood.accepted] at hparse
  cases hparse
  obtain ⟨listed, hread⟩ :=
    (readRequest_oneShot_iff (decodedTc t.octets)).mpr ⟨hservice, hsubtype, hlist⟩
  have hlen := congrArg List.length (listedSids_of_oneShot hread)
  rw [length_listedSids] at hlen
  rw [t.understood.reads] at hread
  rw [← hlen]
  cases hcommand : t.command with
  | oneShotHk sids =>
    rw [hcommand, Command.asks, Command.asksList] at hread
    split_ifs at hread
    cases hread
    rw [List.length_map]
    exact hfew sids hcommand
  | switchHk sids on | switchEvents ids on =>
    rw [hcommand, Command.asks, Command.asksList] at hread
    split_ifs at hread
    cases hread
  | setMode mode =>
    rw [hcommand, Command.asks] at hread
    split_ifs at hread <;> cases hread
  | setHeater | injectTemperature | setTime | resetCounters | areYouAlive =>
    rw [hcommand] at hread
    cases hread

end Telecommand

/-- What the client requests when the passes of its loop come to this. -/
def requestsFor (occasions : List (Option Telecommand)) : List Stimulus :=
  occasions.map fun t => occasion (t.map Telecommand.octets)

/-- The client uplinks these telecommands, and no call of `send` fails: at its end the stream may
break off. -/
structure Uplinks (client : Client) (sent : List Telecommand) : Prop where
  steady : Steady client.sends
  stream : ∃ rest, BreaksOff rest ∧
    stream client.socket = (sent.map Telecommand.octets).flatten ++ rest
  few : ∀ t ∈ sent, ∀ sids, t.command = .oneShotHk sids → sids.length ≤ 14

section Uplinks
variable {client : Client} {sent : List Telecommand} (h : Uplinks client sent)
include h

theorem Uplinks.requests : requestsOf client = requestsFor (schedule client.passes sent) := by
  obtain ⟨rest, hrest, hstream⟩ := h.stream
  have hdelimits : ∀ u ∈ sent.map Telecommand.octets, tcReader.Delimits u := by
    intro u hu
    obtain ⟨t, -, rfl⟩ := List.mem_map.mp hu
    exact t.delimits
  rw [requestsOf, clientRequests_eq, hstream, Reader.units_flatten_append hdelimits,
    Reader.units_of_next_eq_none (next_of_breaksOff hrest), List.append_nil, schedule_map,
    List.map_map]
  rfl

theorem Uplinks.fewStructures : ∀ e ∈ requestsOf client, FewStructures e := by
  rw [h.requests]
  intro e he
  obtain ⟨t, ht, rfl⟩ := List.mem_map.mp he
  cases t with
  | none => trivial
  | some t => exact t.fewStructures (h.few t (mem_of_some_mem_schedule ht))

/-- The statics that the client leaves are those of a run with its requests and no others. -/
theorem Uplinks.served (s : Obsw) : ∃ stimuli,
    (Runner.serveClient s client).obsw = (after s stimuli).obsw ∧
      passedOn stimuli = requestsFor (schedule client.passes sent) := by
  obtain ⟨stimuli, hserves⟩ := serves_serveClient s client
  exact ⟨stimuli, hserves.reached, (hserves.complete h.steady).1.trans h.requests⟩

end Uplinks

/-- The controlled state after a minor cycle, or after a command. -/
def commandStep (c : Control) : Option Telecommand → Control
  | none => (idealTick c).1
  | some t =>
    let accepted := countAccepted c
    let st := requestStatus accepted t.command.asks
    if st = .ok then readControl accepted t.command.asks else keepFailure accepted st

/-- What ground is told about a command: that it was accepted, and what became of it. -/
def commandVerdicts (c : Control) : Option Telecommand → List Content
  | none => []
  | some t =>
    (if t.ack % 2 = 1 then
      [(pusServiceVerification, pusSt01AcceptanceSuccess, t.octets.take 4)]
    else []) ++
    if 8 ≤ t.ack then [completionContent t.octets (requestStatus c t.command.asks)] else []

section Step
variable (c : Control) (t : Telecommand)

theorem idealTelecommand_command :
    (idealTelecommand c t.octets).1 = commandStep c (some t) := by
  simp only [idealTelecommand, t.understood.accepted, t.understood.reads]
  rfl

theorem ackRequested : (pusTcAckRequested (some (decodedTc t.octets)) pusAckAcceptance = true ↔
      t.ack % 2 = 1) ∧
    (pusTcAckRequested (some (decodedTc t.octets)) pusAckCompletion = true ↔ 8 ≤ t.ack) := by
  have hack := t.understood.ack
  have hlt := t.ack_lt
  have hflags (mask : UInt8) : pusTcAckRequested (some (decodedTc t.octets)) mask = true ↔
      t.ack &&& mask.toNat ≠ 0 := by
    have hzero : (decodedTc t.octets).ackFlags &&& mask = 0 ↔ t.ack &&& mask.toNat = 0 := by
      rw [← hack, ← UInt8.toNat_and, ← UInt8.toNat_inj, UInt8.toNat_zero]
    simp only [pusTcAckRequested, ne_eq, hzero, Bool.ite_eq_true_distrib, if_true_left,
      Bool.false_eq_true, imp_false, not_not]
  rw [hflags, hflags]
  generalize t.ack = ack at hlt
  interval_cases ack <;> decide

theorem verdicts_command : verdicts c t.octets = commandVerdicts c (some t) := by
  obtain ⟨hacceptance, hcompletion⟩ := ackRequested t
  simp only [verdicts, t.understood.accepted, t.understood.reads, commandVerdicts, hacceptance,
    hcompletion]

end Step

theorem control_run (i : IdealUnit) (stimuli : List Stimulus) :
    (Run.run IdealUnit.step i stimuli).control =
      Run.run (fun c e => (idealAnswer c e).1) i.control stimuli := by
  induction stimuli generalizing i with
  | nil => rfl
  | cons e stimuli ih => exact ih (i.step e)

/-- The verdicts on all commands of a schedule, each on the state in which it is found. -/
def commandsTold (occasions : List (Option Telecommand)) : List Content :=
  (Run.observations commandStep commandVerdicts IdealUnit.initial.control occasions).flatten

/-- A command acts on the controlled state as the ideal unit says. -/
theorem commandStep_eq : (fun (c : Control) (t : Option Telecommand) =>
    (idealAnswer c (occasion (t.map Telecommand.octets))).1) = commandStep := by
  funext c t
  cases t with
  | none => rfl
  | some t => exact idealTelecommand_command c t

section Occasions
variable (occasions : List (Option Telecommand))

theorem control_requestsFor : (idealAfter (requestsFor occasions)).control =
    Run.run commandStep IdealUnit.initial.control occasions := by
  rw [idealAfter, control_run, Run.run, requestsFor, List.foldl_map, commandStep_eq, Run.run]

theorem verdictsOf_requestsFor :
    verdictsOf (requestsFor occasions) = commandsTold occasions := by
  have hout : (fun (c : Control) (t : Option Telecommand) =>
      stimulusVerdicts c (occasion (t.map Telecommand.octets))) = commandVerdicts := by
    funext c t
    cases t with
    | none => rfl
    | some t => exact verdicts_command c t
  rw [verdictsOf, requestsFor, Run.observations_map, commandStep_eq, hout, commandsTold]

end Occasions

section Uplinks
variable {client : Client} {sent : List Telecommand} (h : Uplinks client sent)
include h

/-- All that the unit has built for the client says of its commands what ground should be told. -/
theorem Uplinks.told (s : Obsw) :
    (verificationPackets (groundPackets (Runner.serveClient s client).obsw.history)).map said =
      (commandsTold (schedule client.passes sent)).map groundContent := by
  obtain ⟨-, -, -, hsaid, -⟩ := served_ideal s h.steady h.fewStructures
  rw [verificationPackets, said_packetsOf pusServiceVerification hsaid, filter_idealAfter,
    h.requests, verdictsOf_requestsFor]

theorem Uplinks.received (s : Obsw) {sock : List Arrival}
    (hsock : Arrives (groundPackets (Runner.serveClient s client).obsw.history) sock)
    (calls : List LinkCall) :
    (afterCalls (connected sock) calls).received <+:
        groundPackets (Runner.serveClient s client).obsw.history ∧
      (events (afterCalls (connected sock) calls).sock = [] →
        (afterCalls (connected sock) calls).received =
          groundPackets (Runner.serveClient s client).obsw.history) := by
  obtain ⟨-, -, hdecodes, -⟩ := served_ideal s h.steady h.fewStructures
  exact received_prefix (fun p hp => (hdecodes p hp).1) hsock calls

end Uplinks

/-- Commands that are sent to the unit, in any portions, are carried out one for each readable
pass, with minor cycles in between; and whatever the calls on the ground link, the service 1
packets received say, command by command, that it was accepted and what became of it. -/
theorem loop_closes (s : Obsw) {client : Client} {sent : List Telecommand}
    (huplink : Uplinks client sent) {sock : List Arrival}
    (hsock : Arrives (groundPackets (Runner.serveClient s client).obsw.history) sock)
    (calls : List LinkCall) :
    Commanding.control (Runner.serveClient s client).obsw =
        Run.run commandStep IdealUnit.initial.control (schedule client.passes sent) ∧
      (verificationPackets (afterCalls (connected sock) calls).received).map said <+:
        (commandsTold (schedule client.passes sent)).map groundContent ∧
      (events (afterCalls (connected sock) calls).sock = [] →
        (verificationPackets (afterCalls (connected sock) calls).received).map said =
          (commandsTold (schedule client.passes sent)).map groundContent) := by
  obtain ⟨hcontrol, -⟩ := served_ideal s huplink.steady huplink.fewStructures
  obtain ⟨hfront, hend⟩ := huplink.received s hsock calls
  rw [huplink.requests, control_requestsFor] at hcontrol
  rw [← huplink.told s]
  exact ⟨hcontrol, (hfront.filter _).map said, fun hread => by rw [hend hread]⟩

/-- NOMINAL mode is ordered, with both acknowledgements. -/
def orderNominal : Telecommand where
  command := .setMode 1
  ack := 9
  seqCount := 0
  octets := [24, 12, 192, 0, 0, 8, 41, 8, 1, 1, 1, 1, 1, 112, 134]
  ack_lt := by decide
  seqCount_lt := by decide
  built := by decide +kernel
  received := by decide

/-- A minor cycle passes, and then ground orders NOMINAL mode. -/
def orderingClient : Client :=
  quietClient [.timeout, .readable] [.octets 24 [12, 192, 0, 0, 8, 41, 8, 1, 1, 1, 1, 1, 112, 134]]

theorem uplinks_orderingClient : Uplinks orderingClient [orderNominal] := by
  refine ⟨steady_quietClient _ _, ⟨[], ?_, rfl⟩, fun t ht sids hcommand => ?_⟩
  · exact ⟨orderNominal.spacePacket, by decide, 0, by decide, rfl⟩
  · rw [List.mem_singleton.mp ht] at hcommand
    cases hcommand

/-- The socket on which the packets for the ordering client arrive, octet by octet. -/
def orderedSock : List Arrival :=
  singly (groundPackets (Runner.serveClient default orderingClient).obsw.history)

theorem loop_closes_nominal :
    (Runner.serveClient default orderingClient).obsw.state.mode = .nominal ∧
      (verificationPackets (afterCalls (connected orderedSock) [.drain 4]).received).map said =
        [(1, 1, [24, 12, 192, 0]), (1, 7, [24, 12, 192, 0])] := by
  obtain ⟨hcontrol, -, htold⟩ := loop_closes default uplinks_orderingClient (arrives_singly _)
    [.drain 4]
  refine ⟨?_, (htold (by decide +kernel)).trans (by decide +kernel)⟩
  exact (congrArg (fun c : Control => c.state.mode) hcontrol).trans (by decide +kernel)

end ObswPus.System
