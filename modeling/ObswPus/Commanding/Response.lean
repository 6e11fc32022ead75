import ObswPus.Commanding.Runs
import ObswPus.Codec.Acceptance

/-! # The response to a telecommand

Which packets a telecommand is answered with, as ground sees them: service, subtype
and source data of each, with the request identifier taken from the octets received.
-/
namespace ObswPus.Commanding
open Flight Downlink Codec

theorem requestId_of_parse {octets : List UInt8} {tc : PusTc}
    (h : pusTcParse (some octets) octets.length = .ok tc) :
    pusPutU32 tc.requestId = octets.take 4 := by
  obtain ⟨hok, rfl⟩ := pusTcParse_ok h
  have hlen := (firstFailing_ok hok).1
  exact pusPutU32_pusGetU32 octets (by omega)

/-- The request identifier that a rejection echoes: zero when too few octets were received. -/
def requestIdOctets (octets : List UInt8) : List UInt8 :=
  if 4 ≤ octets.length then octets.take 4 else [0, 0, 0, 0]

theorem pusPutU32_rawRequestId (octets : List UInt8) :
    pusPutU32 (rawRequestId octets) = requestIdOctets octets := by
  unfold rawRequestId requestIdOctets
  split
  · rename_i hlen
    exact pusPutU32_pusGetU32 octets hlen
  · rfl

/-- The event that announces a failed telecommand, unless it is disabled. -/
def failureEvent (s : Obsw) (st : PusStatus) : List Content :=
  if svc05IsEnabled s ObcEventId.tcRejected.code then
    [(pusServiceEvent, pusSt05LowSeverity,
      pusPutU16 ObcEventId.tcRejected.code ++ pusPutU16 st.code)]
  else []

/-- The packets that the service of an accepted telecommand sends of its own. -/
def servicePackets (s : Obsw) (tc : PusTc) : List Content :=
  (serviceOutcome s tc).reports.map Report.content

def acceptedResponse (s : Obsw) (octets : List UInt8) (tc : PusTc) (st : PusStatus) :
    List Content :=
  (if pusTcAckRequested (some tc) pusAckAcceptance then
    [(pusServiceVerification, pusSt01AcceptanceSuccess, octets.take 4)]
  else []) ++
  servicePackets s tc ++
  (if st = .ok then
    if pusTcAckRequested (some tc) pusAckCompletion then
      [(pusServiceVerification, pusSt01CompletionSuccess, octets.take 4)]
    else []
  else
    (if pusTcAckRequested (some tc) pusAckCompletion then
      [(pusServiceVerification, pusSt01CompletionFailure, octets.take 4 ++ pusPutU16 st.code)]
    else []) ++ failureEvent s st)

/-- All packets that a telecommand is answered with, in order. -/
def response (s : Obsw) (octets : List UInt8) : List Content :=
  match pusTcParse (some octets) octets.length with
  | .error code =>
    (pusServiceVerification, pusSt01AcceptanceFailure,
      requestIdOctets octets ++ pusPutU16 code.code) :: failureEvent s code
  | .ok tc => acceptedResponse s octets tc (obcProcessTc s (some octets) octets.length).1

theorem content_failureEvents (s : Obsw) (st : PusStatus) :
    (failureEvents (control s).svc05 st).map Report.content = failureEvent s st := by
  have hflag : svc05IsEnabled s ObcEventId.tcRejected.code =
      eventEnabled (control s).svc05 .tcRejected := by
    simp only [svc05IsEnabled, svc05IdValid_code, Bool.true_eq_false, if_false]
    rfl
  unfold failureEvents failureEvent eventReports
  rw [hflag]
  split <;> rfl

section Accepted
variable {octets : List UInt8} {tc : PusTc}
  (hparse : pusTcParse (some octets) octets.length = .ok tc)
include hparse

theorem content_acceptanceReports : (acceptanceReports tc).map Report.content =
    if pusTcAckRequested (some tc) pusAckAcceptance then
      [(pusServiceVerification, pusSt01AcceptanceSuccess, octets.take 4)]
    else [] := by
  unfold acceptanceReports
  rw [← requestId_of_parse hparse]
  split <;> rfl

theorem content_closingReports (s : Obsw) (st : PusStatus) :
    (closingReports (control s).svc05 tc st).map Report.content =
      if st = .ok then
        if pusTcAckRequested (some tc) pusAckCompletion then
          [(pusServiceVerification, pusSt01CompletionSuccess, octets.take 4)]
        else []
      else
        (if pusTcAckRequested (some tc) pusAckCompletion then
          [(pusServiceVerification, pusSt01CompletionFailure, octets.take 4 ++ pusPutU16 st.code)]
        else []) ++ failureEvent s st := by
  unfold closingReports completionReports
  rw [← requestId_of_parse hparse]
  by_cases hok : st = .ok
  · simp only [if_pos hok, List.append_nil]
    split <;> rfl
  · simp only [if_neg hok, List.map_append, content_failureEvents]
    split <;> rfl

end Accepted

/-- The reports that processing sends are those of the response. -/
theorem emits_response (s : Obsw) (octets : List UInt8) :
    ∃ rs, Emits s (obcProcessTc s (some octets) octets.length).2 rs ∧
      rs.map Report.content = response s octets := by
  unfold response
  rcases hparse : pusTcParse (some octets) octets.length with st | tc
  · refine ⟨_, (evolves_obcProcessTc_rejected hparse).emits, ?_⟩
    rw [List.map_cons, content_failureEvents, ← pusPutU32_rawRequestId]
    rfl
  · refine ⟨_, (evolves_obcProcessTc_routed hparse).emits, ?_⟩
    rw [List.map_append, List.map_append, content_acceptanceReports hparse,
      content_closingReports hparse, ← obcProcessTc_routed_status hparse]
    rfl

/-- With room for all of it, the response enters the queue behind what it held, and nothing
else does. -/
theorem telecommand_response (s : Obsw) (stimuli : List Stimulus) (octets : List UInt8)
    (hroom : tmQueueCount (after s stimuli).obsw.queue +
      (response (after s stimuli).obsw octets).length ≤ pusTmQueueDepth) :
    ∃ added,
      contents (obcProcessTc (after s stimuli).obsw (some octets) octets.length).2.queue =
        contents (after s stimuli).obsw.queue ++ added ∧
      added.map tmContent = response (after s stimuli).obsw octets := by
  have hq := valid_after s stimuli
  obtain ⟨rs, hemits, hcontent⟩ := emits_response _ octets
  rw [← hcontent, List.length_map] at hroom
  rw [← hcontent]
  exact hemits.queued_room hq hroom

/-- A connection test that asks for acceptance and completion reports. -/
def testTelecommand : List UInt8 := [24, 12, 192, 0, 0, 6, 41, 17, 1, 0, 0, 83, 163]

theorem telecommand_response_test :
    response (after default []).obsw testTelecommand =
        [(1, 1, [24, 12, 192, 0]), (17, 2, []), (1, 7, [24, 12, 192, 0])] ∧
      ∃ added,
        contents (obcProcessTc (after default []).obsw (some testTelecommand)
            testTelecommand.length).2.queue =
          contents (after default []).obsw.queue ++ added ∧
        added.map tmContent = response (after default []).obsw testTelecommand := by
  have hresponse : response (after default []).obsw testTelecommand =
      [(1, 1, [24, 12, 192, 0]), (17, 2, []), (1, 7, [24, 12, 192, 0])] := by decide +kernel
  have hcount : tmQueueCount (after default []).obsw.queue = 1 := by decide +kernel
  refine ⟨hresponse, telecommand_response default [] testTelecommand ?_⟩
  rw [hresponse, hcount]
  decide

end ObswPus.Commanding
