import ObswPus.Ground.Housekeeping
import ObswPus.System.Verdicts

/-! # Housekeeping on the ground

What ground decodes from the housekeeping reports of a whole session: the values that the unit
held whenever a structure was due or asked for, in their order.
-/
namespace ObswPus.System
open Flight Downlink Commanding Telemetry Ground Runner Library Codec

/-- A structure to be reported: the controlled state, and how many packets are waiting. -/
structure Snapshot where
  control : Control
  queued : ℕ
  sid : UInt8

def Snapshot.content (x : Snapshot) : Content :=
  (pusServiceHousekeeping, pusSt03Report, idealHkData x.control x.queued x.sid)

/-- What ground should decode. Nothing has been dropped. -/
def Snapshot.values (x : Snapshot) : HkReport :=
  if x.sid = obcHkSidEssential then
    .essential
      { sid := 1
        mode := x.control.state.mode.code.toNat
        uptimeTicks := x.control.state.uptimeTicks.toNat
        temperatureDc := x.control.state.temperatureDc.toInt
        heaterOn := x.control.state.heaterOn.toNat }
  else
    .diagnostic
      { sid := 2
        tcAccepted := x.control.state.tcAccepted.toNat
        tcRejected := x.control.state.tcRejected.toNat
        lastFailureCode := x.control.state.lastFailureCode.toNat
        tmQueued := x.queued
        tmOverflows := 0 }

/-- One of the two structures, with no more packets waiting than the queue holds. -/
def Snapshot.Sound (x : Snapshot) : Prop :=
  svc03SidValid x.sid = true ∧ x.queued ≤ pusTmQueueDepth

theorem Snapshot.decodeHk_content {x : Snapshot} (h : x.Sound) :
    decodeHk x.content.2.2 = .ok x.values := by
  obtain ⟨c, queued, sid⟩ := x
  obtain ⟨hsid, hqueued⟩ := h
  let s : Obsw :=
    { (default : Obsw) with
      state := c.state
      queue := { (default : Obsw).queue with count := queued } }
  have hdata : idealHkData c queued sid = svc03Data s sid := rfl
  change decodeHk (idealHkData c queued sid) = _
  rw [hdata]
  rcases sid_cases hsid with rfl | rfl
  · exact decodeHk_essential s
  · exact decodeHk_diagnostic s hqueued

/-- The structures are reported one after the other. -/
def snapshots (c : Control) (queued : ℕ) (sids : List UInt8) : List Snapshot :=
  (sids.zipIdx queued).map fun x => ⟨c, x.2, x.1⟩

theorem idealHk_eq (c : Control) (queued : ℕ) (sids : List UInt8) :
    idealHk c queued sids = (snapshots c queued sids).map Snapshot.content := by
  induction sids generalizing queued with
  | nil => rfl
  | cons sid sids ih =>
    rw [idealHk, ih]
    rfl

theorem sound_snapshots {c : Control} {queued : ℕ} {sids : List UInt8}
    (hsids : ∀ sid ∈ sids, svc03SidValid sid = true)
    (hqueued : queued + sids.length ≤ pusTmQueueDepth) :
    ∀ x ∈ snapshots c queued sids, x.Sound := by
  intro x hx
  obtain ⟨⟨sid, k⟩, hzip, rfl⟩ := List.mem_map.mp hx
  obtain ⟨-, hk, hsid⟩ := List.mem_zipIdx hzip
  have hmem : sid ∈ sids := hsid ▸ List.getElem_mem _
  exact ⟨hsids sid hmem, show k ≤ pusTmQueueDepth by omega⟩

/-- The structures that are reported on a stimulus: the periodic ones at the end of a minor cycle
that is due, behind its thermal reports, and those that a one-shot request lists, behind its
acceptance report. -/
def dueSnapshots (c : Control) : Stimulus → List Snapshot
  | .tick =>
    let monitored := monitorTemperature (acquire c)
    if monitored.svc03.phase + 1 < obcHkPeriodTicks then []
    else snapshots (idealTick c).1 (thermalReports (acquire c)).length (enabledSids monitored)
  | .telecommand octets =>
    match pusTcParse (some octets) octets.length with
    | .error _ => []
    | .ok tc =>
      match readRequest tc with
      | .ok (.oneShotHk sids) => snapshots (countAccepted c) (acceptanceReports tc).length sids
      | _ => []
  | _ => []

def snapshotsOf (stimuli : List Stimulus) : List Snapshot :=
  (Run.observations (fun c e => (idealAnswer c e).1) dueSnapshots IdealUnit.initial.control
    stimuli).flatten

theorem sound_dueSnapshots {c : Control} {e : Stimulus} (hfew : FewStructures e) :
    ∀ x ∈ dueSnapshots c e, x.Sound := by
  have hdepth : pusTmQueueDepth = 16 := rfl
  cases e with
  | tick =>
    have hthermal := length_thermalReports_le (acquire c)
    have hsids : hkSids.length = 2 := rfl
    have henabled : (enabledSids (monitorTemperature (acquire c))).length ≤ hkSids.length :=
      List.length_filter_le _ _
    have hvalid : ∀ sid ∈ enabledSids (monitorTemperature (acquire c)),
        svc03SidValid sid = true := fun sid hsid => hkSids_valid sid (List.mem_filter.mp hsid).1
    intro x hx
    simp only [dueSnapshots] at hx
    split at hx
    · cases hx
    · exact sound_snapshots hvalid (by omega) x hx
  | telecommand octets =>
    intro x hx
    simp only [dueSnapshots] at hx
    split at hx
    · cases hx
    rename_i tc hparse
    split at hx
    · rename_i sids hread
      have hlen := oneShot_few hfew hparse sids hread
      have hfirst := length_acceptanceReports_le tc
      exact sound_snapshots (valid_of_readRequest hread) (by omega) x hx
    · cases hx
  | pop | thermistor => exact fun _ hx => nomatch hx

theorem filter_idealHk (c : Control) (queued : ℕ) (sids : List UInt8) :
    (idealHk c queued sids).filter (ofService pusServiceHousekeeping) =
      idealHk c queued sids := by
  rw [List.filter_eq_self]
  intro content hcontent
  rw [ofService, idealHk_service c queued sids content hcontent]
  rfl

theorem filter_events {rs : List Report} (h : ∀ r ∈ rs, IsEvent r) :
    (contentsOf rs).filter (ofService pusServiceHousekeeping) = [] := by
  have hevent : pusServiceEvent ≠ pusServiceHousekeeping := by decide
  exact filter_ofService_of_ne fun content hcontent => contents_service h content hcontent ▸ hevent

theorem filter_idealTick_hk (c : Control) :
    (idealTick c).2.filter (ofService pusServiceHousekeeping) =
      (dueSnapshots c .tick).map Snapshot.content := by
  have hthermal : (contentsOf (thermalReports (acquire c))).filter
      (ofService pusServiceHousekeeping) = [] := filter_events fun r hr => isEvent_thermalReports hr
  have hlen : (contentsOf (thermalReports (acquire c))).length =
      (thermalReports (acquire c)).length := List.length_map _
  simp only [idealTick, dueSnapshots, List.filter_append, hthermal, List.nil_append, hlen]
  split
  · rfl
  · rw [filter_idealHk, idealHk_eq]

theorem filter_requestContents (c : Control) (queued : ℕ) (read : Except PusStatus Request) :
    (requestContents c queued read).filter (ofService pusServiceHousekeeping) =
      match read with
      | .ok (.oneShotHk sids) => idealHk c queued sids
      | _ => [] := by
  rcases read with st | request
  · rfl
  cases request with
  | oneShotHk sids => exact filter_idealHk c queued sids
  | setMode target => exact filter_events fun r hr => isEvent_modeReports hr
  | setHeater on =>
    simp only [requestContents]
    split
    · rfl
    · exact filter_events fun r hr => isEvent_heaterReports hr
  | areYouAlive | switchHk | switchEvents | injectTemperature | setTime | resetCounters => rfl

theorem filter_closingReports_hk (flags : Svc05) (tc : PusTc) (st : PusStatus) :
    (contentsOf (closingReports flags tc st)).filter (ofService pusServiceHousekeeping) = [] := by
  have hfailure : (contentsOf (if st = .ok then [] else failureEvents flags st)).filter
      (ofService pusServiceHousekeeping) = [] := by
    split
    · rfl
    · exact filter_events fun _ hr => isEvent_eventReports (by decide) hr
  have hcompletion : (contentsOf (completionReports tc st)).filter
      (ofService pusServiceHousekeeping) = [] := by
    unfold completionReports
    split_ifs <;> rfl
  rw [closingReports, contentsOf, List.map_append, List.filter_append]
  exact (congrArg₂ (· ++ ·) hcompletion hfailure).trans (List.append_nil [])

theorem filter_idealTelecommand_hk (c : Control) (octets : List UInt8) :
    (idealTelecommand c octets).2.filter (ofService pusServiceHousekeeping) =
      (dueSnapshots c (.telecommand octets)).map Snapshot.content := by
  unfold idealTelecommand
  simp only [dueSnapshots]
  rcases hparse : pusTcParse (some octets) octets.length with st | tc
  · have hfailure : (contentsOf (failureEvents c.svc05 st)).filter
        (ofService pusServiceHousekeeping) = [] :=
      filter_events fun _ hr => isEvent_eventReports (by decide) hr
    exact hfailure
  · have hacceptance : (contentsOf (acceptanceReports tc)).filter
        (ofService pusServiceHousekeeping) = [] := by
      unfold acceptanceReports
      split_ifs <;> rfl
    have hlen : (contentsOf (acceptanceReports tc)).length = (acceptanceReports tc).length :=
      List.length_map _
    simp only [List.filter_append, hacceptance, filter_requestContents, filter_closingReports_hk,
      hlen, List.nil_append, List.append_nil]
    split
    · exact idealHk_eq _ _ _
    · rfl

theorem filter_idealAnswer_hk (c : Control) (e : Stimulus) :
    (idealAnswer c e).2.filter (ofService pusServiceHousekeeping) =
      (dueSnapshots c e).map Snapshot.content := by
  cases e with
  | tick => exact filter_idealTick_hk c
  | telecommand octets => exact filter_idealTelecommand_hk c octets
  | pop buf => rfl
  | thermistor valueDc => rfl

theorem filter_idealAfter_hk (stimuli : List Stimulus) :
    (idealAfter stimuli).reported.filter (ofService pusServiceHousekeeping) =
      (snapshotsOf stimuli).map Snapshot.content := by
  rw [idealAfter, filter_reported_run filter_idealAnswer_hk, Run.flatten_observations_map]
  rfl

theorem sound_snapshotsOf {stimuli : List Stimulus} (hfew : ∀ e ∈ stimuli, FewStructures e) :
    ∀ x ∈ snapshotsOf stimuli, x.Sound := by
  intro x hx
  obtain ⟨c, e, he, hdue⟩ := Run.mem_flatten_observations hx
  exact sound_dueSnapshots (hfew e he) x hdue

/-- What ground decodes from the service 3 packets among those received. -/
def housekeepingDecoded (packets : List TmPacket) : List (Except HkError HkReport) :=
  (packetsOf pusServiceHousekeeping packets).map fun p => decodeHk p.data

theorem housekeepingDecoded_eq {packets : List TmPacket} {snapshots : List Snapshot}
    (h : (packetsOf pusServiceHousekeeping packets).map said =
      (snapshots.map Snapshot.content).map groundContent) (hsound : ∀ x ∈ snapshots, x.Sound) :
    housekeepingDecoded packets = snapshots.map fun x => .ok x.values := by
  have hsaid : housekeepingDecoded packets =
      ((packetsOf pusServiceHousekeeping packets).map said).map fun x => decodeHk x.2.2 := by
    rw [List.map_map]
    rfl
  rw [hsaid, h, List.map_map, List.map_map]
  exact List.map_congr_left fun x hx => Snapshot.decodeHk_content (hsound x hx)

/-- Whatever the calls on the ground link, ground decodes every service 3 packet that it receives,
and finds the values that the unit held when the structures were due or asked for, from the first
one on and in their order, and all of them once everything has been read. -/
theorem housekeeping_received (s : Obsw) {client : Client} (hsteady : Steady client.sends)
    (hfew : ∀ e ∈ requestsOf client, FewStructures e) {sock : List Arrival}
    (hsock : Arrives (groundPackets (serveClient s client).obsw.history) sock)
    (calls : List LinkCall) :
    housekeepingDecoded (afterCalls (connected sock) calls).received <+:
        ((snapshotsOf (requestsOf client)).map fun x => .ok x.values) ∧
      (events (afterCalls (connected sock) calls).sock = [] →
        housekeepingDecoded (afterCalls (connected sock) calls).received =
          (snapshotsOf (requestsOf client)).map fun x => .ok x.values) := by
  obtain ⟨-, -, hdecodes, hsaid, -⟩ := served_ideal s hsteady hfew
  obtain ⟨hfront, hend⟩ := received_prefix (fun p hp => (hdecodes p hp).1) hsock calls
  have hall := said_packetsOf pusServiceHousekeeping hsaid
  rw [filter_idealAfter_hk] at hall
  rw [← housekeepingDecoded_eq hall (sound_snapshotsOf hfew)]
  exact ⟨(hfront.filter _).map _, fun hread => congrArg housekeepingDecoded (hend hread)⟩

/-- Both structures are asked for, the diagnostic one first, with an acceptance report. -/
def askBoth : List UInt8 := [24, 12, 192, 0, 0, 9, 33, 3, 27, 1, 1, 2, 2, 1, 198, 229]

theorem fewStructures_askBoth : FewStructures (.telecommand askBoth) := by
  have hparse : pusTcParse (some askBoth) askBoth.length = .ok (decodedTc askBoth) := by
    rw [pusTcParse_eq, if_pos (by decide +kernel)]
  intro tc htc _ _ _
  rw [hparse] at htc
  cases htc
  decide +kernel

def askingClient : Client := quietClient [.readable] [.octets 24 (askBoth.drop 1)]

theorem requestsOf_askingClient : requestsOf askingClient = [.telecommand askBoth] := by
  decide +kernel

theorem housekeeping_received_asked :
    housekeepingDecoded (afterCalls (connected (singly (groundPackets
        (serveClient default askingClient).obsw.history))) [.drain 4]).received =
      [.ok (.diagnostic
        { sid := 2, tcAccepted := 1, tcRejected := 0, lastFailureCode := 0, tmQueued := 1,
          tmOverflows := 0 }),
      .ok (.essential
        { sid := 1, mode := 0, uptimeTicks := 0, temperatureDc := 200, heaterOn := 0 })] := by
  have hfew : ∀ e ∈ requestsOf askingClient, FewStructures e := by
    rw [requestsOf_askingClient]
    exact fun e he => List.mem_singleton.mp he ▸ fewStructures_askBoth
  have hsteady : Steady askingClient.sends := steady_quietClient _ _
  have hall := housekeeping_received default hsteady hfew (arrives_singly _) [.drain 4]
  rw [hall.2 (by decide +kernel), requestsOf_askingClient]
  decide +kernel

end ObswPus.System
