import ObswPus.Library.TwoRuns
import ObswPus.System.EndToEnd

/-! # Verdicts on the ground

What the verification service tells ground in a whole session: for each telecommand that the
client has uplinked, in their order, the reports that its acknowledgement flags ask for, with
its request identifier and the status of its execution. Nothing else comes from the service.
-/
namespace ObswPus.System
open Flight Downlink Commanding Telemetry Ground Runner Library Codec

/-- What the verification service answers to a telecommand that finds the controlled state `c`. -/
def verdicts (c : Control) (octets : List UInt8) : List Content :=
  match pusTcParse (some octets) octets.length with
  | .error st =>
    [(pusServiceVerification, pusSt01AcceptanceFailure,
      requestIdOctets octets ++ pusPutU16 st.code)]
  | .ok tc =>
    (if pusTcAckRequested (some tc) pusAckAcceptance then
      [(pusServiceVerification, pusSt01AcceptanceSuccess, octets.take 4)]
    else []) ++
    if pusTcAckRequested (some tc) pusAckCompletion then
      [completionContent octets (requestStatus c (readRequest tc))]
    else []

def stimulusVerdicts (c : Control) : Stimulus → List Content
  | .telecommand octets => verdicts c octets
  | _ => []

/-- The verdicts on all telecommands of a run, each on the state in which it is found. -/
def verdictsOf (stimuli : List Stimulus) : List Content :=
  (Run.observations (fun c e => (idealAnswer c e).1) stimulusVerdicts IdealUnit.initial.control
    stimuli).flatten

theorem filter_ofService_of_ne {service : UInt8} {contents : List Content}
    (h : ∀ content ∈ contents, content.1 ≠ service) :
    contents.filter (ofService service) = [] := by
  rw [List.filter_eq_nil_iff]
  intro content hcontent
  simpa [ofService] using h content hcontent

theorem contents_service {rs : List Report} (h : ∀ r ∈ rs, IsEvent r) :
    ∀ content ∈ contentsOf rs, content.1 = pusServiceEvent := by
  intro content hcontent
  obtain ⟨r, hr, rfl⟩ := List.mem_map.mp hcontent
  obtain ⟨id, severity, aux, -, rfl⟩ := h r hr
  rfl

theorem idealHk_service (c : Control) (queued : ℕ) (sids : List UInt8) :
    ∀ content ∈ idealHk c queued sids, content.1 = pusServiceHousekeeping := by
  induction sids generalizing queued with
  | nil => exact fun _ h => nomatch h
  | cons sid sids ih =>
    intro content hcontent
    rcases List.mem_cons.mp hcontent with rfl | hcontent
    · rfl
    · exact ih _ content hcontent

theorem requestContents_service_ne (c : Control) (queued : ℕ) (read : Except PusStatus Request) :
    ∀ content ∈ requestContents c queued read, content.1 ≠ pusServiceVerification := by
  have hhk : pusServiceHousekeeping ≠ pusServiceVerification := by decide
  have hevent : pusServiceEvent ≠ pusServiceVerification := by decide
  have htest : pusServiceTest ≠ pusServiceVerification := by decide
  rcases read with st | request
  · exact fun _ h => nomatch h
  intro content hcontent
  cases request with
  | oneShotHk sids => exact idealHk_service c queued sids content hcontent ▸ hhk
  | setMode target =>
    exact contents_service (fun r hr => isEvent_modeReports hr) content hcontent ▸ hevent
  | setHeater on =>
    rw [requestContents] at hcontent
    split at hcontent
    · cases hcontent
    · exact contents_service (fun r hr => isEvent_heaterReports hr) content hcontent ▸ hevent
  | areYouAlive =>
    rw [requestContents, List.mem_singleton] at hcontent
    exact hcontent ▸ htest
  | switchHk | switchEvents | injectTemperature | setTime | resetCounters => cases hcontent

theorem filter_idealTick (c : Control) :
    (idealTick c).2.filter (ofService pusServiceVerification) = [] := by
  have hhk : pusServiceHousekeeping ≠ pusServiceVerification := by decide
  have hevent : pusServiceEvent ≠ pusServiceVerification := by decide
  apply filter_ofService_of_ne
  intro content hcontent
  rcases List.mem_append.mp hcontent with hcontent | hcontent
  · exact contents_service (fun r hr => isEvent_thermalReports hr) content hcontent ▸ hevent
  · split at hcontent
    · cases hcontent
    · exact idealHk_service _ _ _ content hcontent ▸ hhk

section Telecommand
variable {octets : List UInt8} {tc : PusTc}
  (hparse : pusTcParse (some octets) octets.length = .ok tc)

theorem contents_failureEvents_service (flags : Svc05) (st : PusStatus) :
    ∀ content ∈ contentsOf (failureEvents flags st), content.1 = pusServiceEvent :=
  contents_service fun _ hr => isEvent_eventReports (by decide) hr

theorem filter_failureEvents (flags : Svc05) (st : PusStatus) :
    (contentsOf (failureEvents flags st)).filter (ofService pusServiceVerification) = [] := by
  have hevent : pusServiceEvent ≠ pusServiceVerification := by decide
  apply filter_ofService_of_ne
  intro content hcontent
  exact contents_failureEvents_service flags st content hcontent ▸ hevent

include hparse

theorem contents_completionReports (st : PusStatus) : contentsOf (completionReports tc st) =
    if pusTcAckRequested (some tc) pusAckCompletion then [completionContent octets st] else [] := by
  unfold contentsOf completionReports completionContent
  rw [← requestId_of_parse hparse]
  by_cases hok : st = .ok
  · simp only [if_pos hok]
    split <;> rfl
  · simp only [if_neg hok]
    split <;> rfl

theorem filter_acceptanceReports :
    (contentsOf (acceptanceReports tc)).filter (ofService pusServiceVerification) =
    if pusTcAckRequested (some tc) pusAckAcceptance then
      [(pusServiceVerification, pusSt01AcceptanceSuccess, octets.take 4)]
    else [] := by
  rw [contentsOf, content_acceptanceReports hparse]
  split <;> rfl

theorem filter_closingReports (flags : Svc05) (st : PusStatus) :
    (contentsOf (closingReports flags tc st)).filter (ofService pusServiceVerification) =
      if pusTcAckRequested (some tc) pusAckCompletion then [completionContent octets st]
      else [] := by
  have hrest : (contentsOf (if st = .ok then [] else failureEvents flags st)).filter
      (ofService pusServiceVerification) = [] := by
    split
    · rfl
    · exact filter_failureEvents flags st
  rw [closingReports, contentsOf, List.map_append, List.filter_append]
  change (contentsOf (completionReports tc st)).filter (ofService pusServiceVerification) ++
    (contentsOf _).filter (ofService pusServiceVerification) = _
  rw [hrest, contents_completionReports hparse, List.append_nil]
  split
  · unfold completionContent
    split <;> rfl
  · rfl

end Telecommand

theorem filter_idealTelecommand (c : Control) (octets : List UInt8) :
    (idealTelecommand c octets).2.filter (ofService pusServiceVerification) =
      verdicts c octets := by
  unfold idealTelecommand verdicts
  rcases hparse : pusTcParse (some octets) octets.length with st | tc
  · have hevents := filter_failureEvents c.svc05 st
    have hfirst : (rejectionReport octets st).content = (pusServiceVerification,
        pusSt01AcceptanceFailure, requestIdOctets octets ++ pusPutU16 st.code) := by
      rw [← pusPutU32_rawRequestId]
      rfl
    simp only [contentsOf, List.map_cons, hfirst]
    rw [List.filter_cons_of_pos rfl]
    exact congrArg (_ :: ·) hevents
  · have hservice := filter_ofService_of_ne (requestContents_service_ne (countAccepted c)
      (contentsOf (acceptanceReports tc)).length (readRequest tc))
    have hstatus : requestStatus (countAccepted c) (readRequest tc) =
        requestStatus c (readRequest tc) := rfl
    simp only [List.filter_append, hservice, List.append_nil, filter_acceptanceReports hparse,
      filter_closingReports hparse, hstatus]

theorem filter_idealAnswer (c : Control) (e : Stimulus) :
    (idealAnswer c e).2.filter (ofService pusServiceVerification) = stimulusVerdicts c e := by
  cases e with
  | tick => exact filter_idealTick c
  | telecommand octets => exact filter_idealTelecommand c octets
  | pop buf => rfl
  | thermistor valueDc => rfl

/-- What one service reports in a run, if it is known what it answers to each stimulus. -/
theorem filter_reported_run {service : UInt8} {out : Control → Stimulus → List Content}
    (hout : ∀ c e, (idealAnswer c e).2.filter (ofService service) = out c e) (i : IdealUnit)
    (stimuli : List Stimulus) :
    (Run.run IdealUnit.step i stimuli).reported.filter (ofService service) =
      i.reported.filter (ofService service) ++
        (Run.observations (fun c e => (idealAnswer c e).1) out i.control stimuli).flatten := by
  induction stimuli generalizing i with
  | nil => exact (List.append_nil _).symm
  | cons e stimuli ih =>
    rw [Run.run_cons, ih, Run.observations, List.flatten_cons, IdealUnit.step, List.filter_append,
      hout, List.append_assoc]

theorem filter_idealAfter (stimuli : List Stimulus) :
    (idealAfter stimuli).reported.filter (ofService pusServiceVerification) =
      verdictsOf stimuli :=
  filter_reported_run filter_idealAnswer IdealUnit.initial stimuli

def verificationPackets (packets : List TmPacket) : List TmPacket :=
  packetsOf pusServiceVerification packets

/-- Ground tests the connection, with sequence count 4, and orders a mode that does not exist. -/
def connectionTest : List UInt8 := [24, 12, 192, 4, 0, 6, 41, 17, 1, 0, 7, 44, 41]

def hopefulClient : Client :=
  quietClient [.readable, .readable] [.octets 24 (connectionTest.drop 1 ++ unknownModeTelecommand)]

end ObswPus.System
