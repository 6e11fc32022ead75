import ObswPus.System.Ideal

/-! # The unit refines the ideal one

With the queue emptied before every minor cycle and every telecommand, and no request for
more than fourteen structures, the controlled state is that of the ideal unit, and the
packets built so far say what the ideal unit has reported, each in its place.
-/
namespace ObswPus.System
open Flight Downlink Commanding Telemetry Codec Library

/-- The unit has built packets with the contents of what the ideal unit has reported; none has
been dropped, and no drop is waiting to be reported. -/
structure Agrees (u : Obc) (i : IdealUnit) : Prop where
  counted : NothingCounted u
  sampled : u.obsw.lastOverflow = 0
  control : Commanding.control u.obsw = i.control
  reported : u.obsw.history.map (fun x => tmContent x.packet) = i.reported

theorem reported_of_sends {s s' : Obsw} {rs : List Report} {reported : List Content}
    (hsends : Sends s s' rs) (h : s.history.map (fun x => tmContent x.packet) = reported) :
    s'.history.map (fun x => tmContent x.packet) = reported ++ contentsOf rs := by
  obtain ⟨sent, hhistory, hsent⟩ := hsends
  rw [hhistory, List.map_append, hsent, h, contentsOf]

section Tick
variable {s : Obsw} (hq : Valid s.queue) (hempty : tmQueueCount s.queue = 0)
  (hzero : tmQueueOverflowCount s.queue = 0)
include hq hempty hzero

theorem queue_atSample : tmQueueOverflowCount (atSample s).queue = 0 ∧
    (atSample s).queue.count = (thermalReports (acquire (Commanding.control s))).length := by
  have hthermal := (evolves_atSample s).emits
  have hfew := length_thermalReports_le (acquire (Commanding.control s))
  have hdepth : pusTmQueueDepth = 16 := rfl
  rw [tmQueueCount] at hempty
  have hdrops := hthermal.overflows_room hq (by omega)
  have hcount := hthermal.count hq
  exact ⟨hdrops.trans hzero, by omega⟩

theorem obcSampleOverflow_atSample (hsampled : s.lastOverflow = 0) :
    overflowReports (atSample s) = [] ∧ obcSampleOverflow (atSample s) = atSample s := by
  have hlast := (evolves_atSample s).emits.lastOverflow
  have hdrops := (queue_atSample hq hempty hzero).1
  rw [tmQueueOverflowCount] at hdrops
  have hsame : ¬(atSample s).queue.overflows ≠ (atSample s).lastOverflow := by
    rw [hlast, hsampled, hdrops]
    exact fun h => h rfl
  exact ⟨if_neg hsame, if_neg hsame⟩

theorem contents_hkTickReports : contentsOf (hkTickReports (atSample s)) =
    if (monitorTemperature (acquire (Commanding.control s))).svc03.phase + 1 < obcHkPeriodTicks
      then []
    else idealHk (stepPhase (monitorTemperature (acquire (Commanding.control s))))
      (contentsOf (thermalReports (acquire (Commanding.control s)))).length
      (enabledSids (monitorTemperature (acquire (Commanding.control s)))) := by
  obtain ⟨hdrops, hcount⟩ := queue_atSample hq hempty hzero
  have hcontrolled := (evolves_atSample s).controlled
  have hphase : (atSample s).svc03.phase =
      (monitorTemperature (acquire (Commanding.control s))).svc03.phase := by
    rw [← hcontrolled]
    rfl
  rw [hkTickReports, hphase]
  split
  · rfl
  rename_i hdue
  have hadvance : Commanding.control (advancePhase (atSample s)) =
      stepPhase (monitorTemperature (acquire (Commanding.control s))) := by
    rw [← hcontrolled]
    rw [← hphase] at hdue
    simp only [advancePhase, stepPhase, Commanding.control, hdue, if_false]
  have hqueue : (advancePhase (atSample s)).queue = (atSample s).queue := by
    unfold advancePhase
    split <;> rfl
  have hfew := length_thermalReports_le (acquire (Commanding.control s))
  have hperiodic := contents_periodicReports (s := advancePhase (atSample s))
    (by rw [hqueue, hdrops]) hkSids (by
      rw [hqueue, hcount]
      have hdepth : pusTmQueueDepth = 16 := rfl
      have hsids : hkSids.length = 2 := rfl
      omega)
  rw [hperiodic, hadvance, hqueue, hcount, contentsOf, List.length_map]
  rfl

end Tick

theorem agrees_tick {u : Obc} {i : IdealUnit} (h : Agrees u i)
    (hempty : tmQueueCount u.obsw.queue = 0) : Agrees (u.step .tick) (i.step .tick) := by
  have hq := h.counted.valid
  have hzero := h.counted.zero
  obtain ⟨hnone, hsame⟩ := obcSampleOverflow_atSample hq hempty hzero h.sampled
  have hcounted : NothingCounted (u.step .tick) :=
    ⟨valid_step hq _, (overflows_step hq (e := .tick) hempty trivial).trans hzero⟩
  have hsends := sends_obcTick u.obsw
  rw [hnone, hsame, List.nil_append] at hsends
  have hcontents := contents_hkTickReports hq hempty hzero
  refine ⟨hcounted, ?_, ?_, ?_⟩
  · rw [obsw_tick, (evolves_fromSample u.obsw).emits.lastOverflow]
    exact (queue_atSample hq hempty hzero).1
  · rw [obsw_tick, control_obcTick, h.control]
    rfl
  · rw [obsw_tick, reported_of_sends hsends h.reported]
    rw [h.control] at hcontents ⊢
    rw [contentsOf, List.map_append]
    exact congrArg (i.reported ++ ·) (congrArg (contentsOf _ ++ ·) hcontents)

/-- A service that finds at most one report queued carries out what it is asked for. -/
theorem outcome_ideal {m : Obsw} (hcount : m.queue.count ≤ 1)
    (hzero : tmQueueOverflowCount m.queue = 0) (read : Except PusStatus Request)
    (hfew : ∀ sids, read = .ok (.oneShotHk sids) → sids.length ≤ 14) :
    (outcome m read).status = requestStatus (Commanding.control m) read ∧
      contentsOf (outcome m read).reports =
        requestContents (Commanding.control m) m.queue.count read := by
  have hdepth : pusTmQueueDepth = 16 := rfl
  rcases read with st | request
  · exact ⟨rfl, rfl⟩
  cases request with
  | oneShotHk sids =>
    have hlen := hfew sids rfl
    have hroom : sids.length ≤ freeSlots m := by
      rw [freeSlots]
      omega
    refine ⟨if_pos hroom, contents_oneShotReports hzero sids ?_⟩
    omega
  | setHeater on =>
    simp only [outcome, Request.outcome, requestStatus, requestContents]
    change _ = (if m.state.mode = .safe then _ else _) ∧ _ = if m.state.mode = .safe then _ else _
    split <;> exact ⟨rfl, rfl⟩
  | areYouAlive =>
    have hroom : m.queue.count < pusTmQueueDepth := by omega
    exact ⟨if_pos hroom, rfl⟩
  | switchHk | switchEvents | setMode | injectTemperature | setTime | resetCounters =>
    exact ⟨rfl, rfl⟩

section Telecommand
variable {s : Obsw} {octets : List UInt8}

theorem listedSids_of_oneShot {tc : PusTc} {sids : List UInt8}
    (hread : readRequest tc = .ok (.oneShotHk sids)) : sids = listedSids tc := by
  obtain ⟨hservice, hsubtype, hlist⟩ := (readRequest_oneShot_iff tc).mp ⟨sids, hread⟩
  have hlisted : readRequest tc = .ok (.oneShotHk (listedSids tc)) := by
    rw [readRequest, if_pos hservice, readHousekeeping, hsubtype, checkSids_of_valid hlist]
    rfl
  rw [hread] at hlisted
  exact Request.oneShotHk.inj (Except.ok.inj hlisted)

theorem oneShot_few {tc : PusTc} (hfew : FewStructures (.telecommand octets))
    (hparse : pusTcParse (some octets) octets.length = .ok tc) (sids : List UInt8)
    (hread : readRequest tc = .ok (.oneShotHk sids)) : sids.length ≤ 14 := by
  obtain ⟨hservice, hsubtype, hlist⟩ := (readRequest_oneShot_iff tc).mp ⟨sids, hread⟩
  rw [listedSids_of_oneShot hread, length_listedSids]
  exact hfew tc hparse hservice hsubtype hlist

/-- Controlled state and reports of a telecommand that finds the queue empty. -/
theorem evolves_idealTelecommand (hq : Valid s.queue) (hempty : tmQueueCount s.queue = 0)
    (hzero : tmQueueOverflowCount s.queue = 0) (hfew : FewStructures (.telecommand octets)) :
    ∃ rs, Evolves s (obcProcessTc s (some octets) octets.length).2
        (idealTelecommand (Commanding.control s) octets).1 rs ∧
      contentsOf rs = (idealTelecommand (Commanding.control s) octets).2 := by
  unfold idealTelecommand
  rcases hparse : pusTcParse (some octets) octets.length with st | tc
  · exact ⟨_, evolves_obcProcessTc_rejected hparse, rfl⟩
  have hservice := evolves_atService s tc
  have hfree := length_acceptanceReports_le tc
  have hdepth : pusTmQueueDepth = 16 := rfl
  rw [tmQueueCount] at hempty
  have hcount := hservice.emits.count hq
  have hdrops := hservice.emits.overflows_room hq (by omega)
  have hqueued : (atService s tc).queue.count = (contentsOf (acceptanceReports tc)).length := by
    rw [contentsOf, List.length_map]
    omega
  obtain ⟨hstatus, hcontents⟩ := outcome_ideal (m := atService s tc) (by omega)
    (hdrops.trans hzero) (readRequest tc) (oneShot_few hfew hparse)
  have hcontrol : (serviceOutcome s tc).control =
      readControl (countAccepted (Commanding.control s)) (readRequest tc) := by
    rw [serviceOutcome, outcome_control, hservice.controlled]
  rw [hservice.controlled, ← serviceOutcome] at hstatus hcontents
  rw [hqueued] at hcontents
  have hall := evolves_obcProcessTc_routed (s := s) hparse
  rw [hcontrol, hstatus] at hall
  refine ⟨_, hall, ?_⟩
  rw [contentsOf, List.map_append, List.map_append]
  exact congrArg (_ ++ · ++ _) hcontents

end Telecommand

theorem agrees_telecommand {u : Obc} {i : IdealUnit} (h : Agrees u i) {octets : List UInt8}
    (hempty : tmQueueCount u.obsw.queue = 0) (hfew : FewStructures (.telecommand octets)) :
    Agrees (u.step (.telecommand octets)) (i.step (.telecommand octets)) := by
  have hq := h.counted.valid
  have hzero := h.counted.zero
  obtain ⟨rs, hevolves, hcontents⟩ := evolves_idealTelecommand hq hempty hzero hfew
  rw [h.control] at hevolves hcontents
  have hcounted : NothingCounted (u.step (.telecommand octets)) :=
    ⟨valid_step hq _, (overflows_step hq (e := .telecommand octets) hempty hfew).trans hzero⟩
  refine ⟨hcounted, ?_, ?_, ?_⟩
  · rw [obsw_telecommand, hevolves.emits.lastOverflow, h.sampled]
  · rw [obsw_telecommand, hevolves.controlled]
    rfl
  · rw [obsw_telecommand, reported_of_sends hevolves.emits.sent h.reported, hcontents]
    rfl

theorem agrees_step {u : Obc} {i : IdealUnit} (h : Agrees u i) {e : Stimulus}
    (hdrained : Drained u e) (hfew : FewStructures e) : Agrees (u.step e) (i.step e) := by
  cases e with
  | tick => exact agrees_tick h hdrained
  | telecommand octets => exact agrees_telecommand h hdrained hfew
  | pop buf =>
    have hcounted : NothingCounted (u.step (.pop buf)) :=
      ⟨valid_step h.counted.valid _,
        (overflows_step h.counted.valid (e := .pop buf) trivial trivial).trans h.counted.zero⟩
    refine ⟨hcounted, ?_, ?_, ?_⟩
    · rw [obsw_pop]
      exact h.sampled
    · rw [obsw_pop]
      exact h.control
    · rw [obsw_pop]
      exact h.reported.trans (List.append_nil _).symm
  | thermistor valueDc =>
    have hcontrol : (u.step (.thermistor valueDc)).obsw =
        { u.obsw with hal := halInjectTemperature u.obsw.hal valueDc } := obsw_thermistor u valueDc
    refine ⟨⟨h.counted.valid, h.counted.zero⟩, h.sampled, ?_,
      h.reported.trans (List.append_nil _).symm⟩
    rw [hcontrol, IdealUnit.step, idealAnswer, ← h.control]
    rfl

theorem agrees_powerOn (s : Obsw) : Agrees (powerOn s) IdealUnit.initial := by
  have hinit : (powerOn s).obsw =
      emit (cleared s) (eventReport .bootCompleted pusSt05Informative 0) := obcInit_eq s
  refine ⟨nothingCounted_powerOn s, ?_, ?_, ?_⟩
  · rw [hinit, lastOverflow_emit]
    rfl
  · rw [hinit, control_emit]
    rfl
  · rw [hinit, history_emit]
    simp only [cleared, List.nil_append, List.map_cons, List.map_nil, tmContent_tmPacket]
    rfl

theorem agrees_after {s : Obsw} {stimuli : List Stimulus}
    (hdrained : Run.AllSteps Obc.step Drained (powerOn s) stimuli)
    (hfew : ∀ e ∈ stimuli, FewStructures e) : Agrees (after s stimuli) (idealAfter stimuli) := by
  have hstep (u : Obc) (i : IdealUnit) (e : Stimulus) (h : Agrees u i)
      (hok : Drained u e ∧ FewStructures e) : Agrees (u.step e) (i.step e) :=
    agrees_step h hok.1 hok.2
  exact Run.run_simulation (R := Agrees) hstep (agrees_powerOn s)
    (hdrained.and (Run.allSteps_of_forall hfew _))

theorem queued_of_nothingCounted {u : Obc} (hledger : Ledger u.obsw u.delivered)
    (hcounted : NothingCounted u) : ∀ x ∈ u.obsw.history, x.queued = true := by
  have hdropped := hledger.dropped
  have hzero := hcounted.zero
  rw [tmQueueOverflowCount] at hzero
  rw [hzero, UInt16.toNat_zero] at hdropped
  have hnone : droppedCount u.obsw.history = 0 := by omega
  rw [droppedCount, List.countP_eq_zero] at hnone
  intro x hx
  simpa using hnone x hx

/-- With the queue emptied before every minor cycle and every telecommand, and no request for more
than fourteen structures, the unit is the ideal one after every run: its controlled state is the
ideal state, the queue has taken every packet built, and the packets say, in their order, what the
ideal unit has reported. -/
theorem unit_refines_ideal (s : Obsw) (stimuli : List Stimulus)
    (hdrained : Run.AllSteps Obc.step Drained (powerOn s) stimuli)
    (hfew : ∀ e ∈ stimuli, FewStructures e) :
    Commanding.control (after s stimuli).obsw = (idealAfter stimuli).control ∧
      (∀ x ∈ (after s stimuli).obsw.history, x.queued = true) ∧
      (after s stimuli).obsw.history.map (fun x => tmContent x.packet) =
        (idealAfter stimuli).reported := by
  have h := agrees_after hdrained hfew
  exact ⟨h.control, queued_of_nothingCounted (ledger_after s stimuli) h.counted, h.reported⟩

/-- A client that orders NOMINAL mode and lets a minor cycle pass. -/
theorem unit_refines_ideal_client :
    (after default (Telemetry.serveClient (powerOn default)
        [.telecommand nominalTelecommand, .tick])).obsw.history.map (fun x => tmContent x.packet) =
      (idealAfter (Telemetry.serveClient (powerOn default)
        [.telecommand nominalTelecommand, .tick])).reported :=
  (unit_refines_ideal default _
    (drained_serveClient (valid_powerOn default) (fit_powerOn default) _)
    (fewStructures_serveClient _ fewStructures_nominal)).2.2

end ObswPus.System
