import ObswPus.Commanding.Refinement

/-! # Processing a telecommand

Status, controlled state and reports of `obc_process_tc`, for a packet that fails an
acceptance check and for one that is routed to a service.
-/
namespace ObswPus.Commanding
open Flight Downlink

/-- A packet that failed its checks is counted and its code kept. -/
def countRejected (c : Control) (st : PusStatus) : Control :=
  { c with state := { c.state with
      tcRejected := saturatingSucc c.state.tcRejected
      lastFailureCode := st.code } }

def countAccepted (c : Control) : Control :=
  { c with state := { c.state with tcAccepted := saturatingSucc c.state.tcAccepted } }

def keepFailure (c : Control) (st : PusStatus) : Control :=
  { c with state := { c.state with lastFailureCode := st.code } }

def failureEvents (flags : Svc05) (st : PusStatus) : List Report :=
  eventReports flags .tcRejected pusSt05LowSeverity st.code

section Rejected
variable {s : Obsw} {octets : List UInt8} {st : PusStatus}
  (hparse : pusTcParse (some octets) octets.length = .error st)
include hparse

theorem obcProcessTc_rejected_status :
    (obcProcessTc s (some octets) octets.length).1 = st := by
  simp only [obcProcessTc, hparse]

theorem evolves_obcProcessTc_rejected :
    Evolves s (obcProcessTc s (some octets) octets.length).2 (countRejected (control s) st)
      (rejectionReport octets st :: failureEvents (control s).svc05 st) := by
  simp only [obcProcessTc, hparse, svc01RejectRaw_eq]
  let m : Obsw := { s with state := { s.state with
    tcRejected := saturatingSucc s.state.tcRejected, lastFailureCode := st.code } }
  have hwrite : SameDownlink s m := ⟨rfl, rfl, rfl, rfl⟩
  exact ((Evolves.write hwrite).trans (Evolves.send m (rejectionReport octets st))).event
    .tcRejected pusSt05LowSeverity st.code (by decide)

end Rejected

def atService (s : Obsw) (tc : PusTc) : Obsw :=
  (svc01AcceptanceSuccess
    { s with state := { s.state with tcAccepted := saturatingSucc s.state.tcAccepted } }
    (some tc)).2

section Service
variable (s : Obsw) (tc : PusTc)

theorem evolves_atService :
    Evolves s (atService s tc) (countAccepted (control s)) (acceptanceReports tc) := by
  let m : Obsw :=
    { s with state := { s.state with tcAccepted := saturatingSucc s.state.tcAccepted } }
  have hwrite : SameDownlink s m := ⟨rfl, rfl, rfl, rfl⟩
  exact (Evolves.write hwrite).trans (evolves_svc01AcceptanceSuccess m tc)

def serviceOutcome : Outcome := outcome (atService s tc) (readRequest tc)

theorem refines_service :
    Refines (atService s tc) (obcRoute (atService s tc) tc) (serviceOutcome s tc) :=
  refines_obcRoute _ tc

end Service

theorem outcome_failed (s : Obsw) (read : Except PusStatus Request)
    (h : (outcome s read).status ≠ .ok) : (outcome s read).control = control s := by
  rcases read with st | request
  · rfl
  cases request with
  | oneShotHk sids => rfl
  | areYouAlive => rfl
  | setHeater on =>
    simp only [outcome, Request.outcome] at h ⊢
    split
    · rfl
    · rename_i hmode
      exact absurd (by simp only [if_neg hmode]) h
  | switchHk | switchEvents | setMode | injectTemperature | setTime | resetCounters =>
    exact absurd rfl h

theorem serviceOutcome_failed {s : Obsw} {tc : PusTc}
    (h : (serviceOutcome s tc).status ≠ .ok) :
    (serviceOutcome s tc).control = countAccepted (control s) := by
  rw [serviceOutcome, outcome_failed _ _ h, (evolves_atService s tc).controlled]

/-- What follows the service: the completion report, and on failure the event. -/
def closingReports (flags : Svc05) (tc : PusTc) (st : PusStatus) : List Report :=
  completionReports tc st ++ if st = .ok then [] else failureEvents flags st

/-- The part of `obc_process_tc` behind the service handler. -/
def closeTc (tc : PusTc) (routed : PusStatus × Obsw) : PusStatus × Obsw :=
  if routed.1 = .ok then (routed.1, (svc01CompletionSuccess routed.2 (some tc)).2)
  else
    (routed.1,
      (svc05Report
        (svc01CompletionFailure
          { routed.2 with state := { routed.2.state with lastFailureCode := routed.1.code } }
          (some tc) routed.1).2
        ObcEventId.tcRejected.code pusSt05LowSeverity routed.1.code).2)

section Close
variable (tc : PusTc) (routed : PusStatus × Obsw)

theorem closeTc_status : (closeTc tc routed).1 = routed.1 := by
  unfold closeTc
  split <;> rfl

theorem evolves_closeTc :
    Evolves routed.2 (closeTc tc routed).2
      (if routed.1 = .ok then control routed.2 else keepFailure (control routed.2) routed.1)
      (closingReports (control routed.2).svc05 tc routed.1) := by
  unfold closeTc closingReports
  by_cases hok : routed.1 = .ok
  · simp only [if_pos hok, List.append_nil]
    rw [hok]
    exact evolves_svc01CompletionSuccess routed.2 tc
  · simp only [if_neg hok]
    let m : Obsw :=
      { routed.2 with state := { routed.2.state with lastFailureCode := routed.1.code } }
    have hwrite : SameDownlink routed.2 m := ⟨rfl, rfl, rfl, rfl⟩
    exact ((Evolves.write hwrite).trans (evolves_svc01CompletionFailure m tc hok)).event
      .tcRejected pusSt05LowSeverity routed.1.code (by decide)

end Close

section Routed
variable {s : Obsw} {octets : List UInt8} {tc : PusTc}
  (hparse : pusTcParse (some octets) octets.length = .ok tc)
include hparse

theorem obcProcessTc_routed : obcProcessTc s (some octets) octets.length =
    closeTc tc (obcRoute (atService s tc) tc) := by
  simp only [obcProcessTc, hparse]
  rfl

theorem obcProcessTc_routed_status :
    (obcProcessTc s (some octets) octets.length).1 = (serviceOutcome s tc).status := by
  rw [obcProcessTc_routed hparse, closeTc_status, (refines_service s tc).status]

/-- Controlled state and reports of a routed telecommand. The event flags that the closing
event is subject to are those before the telecommand: a request that fails has not changed
them. -/
theorem evolves_obcProcessTc_routed :
    Evolves s (obcProcessTc s (some octets) octets.length).2
      (if (serviceOutcome s tc).status = .ok then (serviceOutcome s tc).control
        else keepFailure (countAccepted (control s)) (serviceOutcome s tc).status)
      (acceptanceReports tc ++ (serviceOutcome s tc).reports ++
        closingReports (control s).svc05 tc (serviceOutcome s tc).status) := by
  have hservice := refines_service s tc
  have hclose := evolves_closeTc tc (obcRoute (atService s tc) tc)
  rw [obcProcessTc_routed hparse]
  rw [hservice.status, hservice.evolves.controlled] at hclose
  have hall := ((evolves_atService s tc).trans hservice.evolves).trans hclose
  by_cases hok : (serviceOutcome s tc).status = .ok
  · simpa only [closingReports, if_pos hok] using hall
  · rw [if_neg hok]
    rw [if_neg hok, serviceOutcome_failed hok] at hall
    exact hall

end Routed

end ObswPus.Commanding
