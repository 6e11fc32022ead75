import ObswPus.Isolation.Ownership
import ObswPus.Library.Tally

/-! # Telecommand statistics

The two telecommand counters and the failure code as functions of the run: what passed
and what failed the acceptance checks since the counters were last reset, and the status
of the last telecommand since then that did not succeed.
-/
namespace ObswPus.Telemetry
open Flight Downlink Codec Commanding Isolation Library

/-- Octets that pass all acceptance checks. -/
def passesChecks : Stimulus → Bool
  | .telecommand octets => firstFailing octets = .ok
  | _ => false

def failsChecks : Stimulus → Bool
  | .telecommand octets => firstFailing octets ≠ .ok
  | _ => false

/-- Octets that are accepted as function 4 of service 8, without arguments. -/
def resetsCounters : Stimulus → Bool
  | .telecommand octets =>
    match pusTcParse (some octets) octets.length with
    | .error _ => false
    | .ok tc => tc.serviceType = pusServiceFunction ∧ tc.serviceSubtype = pusSt08Perform ∧
        tc.appDataLen = 1 ∧ pusGetU8 (tc.appDataAt 0) = obcFidResetCounters
  | _ => false

/-- The status of a telecommand that is rejected or fails, as the code kept for ground. -/
def failureWrite (u : Obc) : Stimulus → Option UInt16
  | .telecommand octets =>
    let st := (obcProcessTc u.obsw (some octets) octets.length).1
    if st = .ok then none else some st.code
  | _ => none

theorem readRequest_reset_iff (tc : PusTc) : readRequest tc = .ok .resetCounters ↔
    tc.serviceType = pusServiceFunction ∧ tc.serviceSubtype = pusSt08Perform ∧
      tc.appDataLen = 1 ∧ pusGetU8 (tc.appDataAt 0) = obcFidResetCounters := by
  constructor
  · intro h
    cases asked_of_readRequest h with
    | resetCounters h => exact ⟨h.service, h.subtype, h.length, h.fid⟩
  · rintro ⟨hservice, hsubtype, hlen, hfid⟩
    simp [readRequest, readFunction, readArguments, hservice, hsubtype, hlen, hfid]
    rfl

theorem read_request {request : Request} (h : request ≠ .resetCounters) (k : Control)
    {c : Component} (hc : c ∈ ({.tcAccepted, .tcRejected, .lastFailureCode} : Set Component)) :
    c.read (request.control k) = c.read k := by
  cases request with
  | resetCounters => exact absurd rfl h
  | setMode target =>
    apply onlyChanges_switchMode k target c
    rcases hc with rfl | rfl | rfl <;> simp [modeComponents]
  | setHeater on =>
    have hheater : c ∉ heaterComponents := by
      rcases hc with rfl | rfl | rfl <;> simp [heaterComponents]
    exact Changes.ite (fun _ => Changes.refl k) (fun _ => onlyChanges_switchHeater k on) c hheater
  | switchHk | oneShotHk | switchEvents | injectTemperature | setTime | areYouAlive =>
    rcases hc with rfl | rfl | rfl <;> rfl

def statistics (k : Control) : UInt16 × UInt16 × UInt16 :=
  (k.state.tcAccepted, k.state.tcRejected, k.state.lastFailureCode)

theorem statistics_eq {k k' : Control} (h : ∀ c ∈
    ({.tcAccepted, .tcRejected, .lastFailureCode} : Set Component), c.read k' = c.read k) :
    statistics k' = statistics k := by
  have haccepted := h .tcAccepted (by simp)
  have hrejected := h .tcRejected (by simp)
  have hfailure := h .lastFailureCode (by simp)
  exact Prod.ext haccepted (Prod.ext hrejected hfailure)

theorem statistics_readControl {read : Except PusStatus Request} (k : Control)
    (h : read ≠ .ok .resetCounters) : statistics (readControl k read) = statistics k := by
  rcases read with st | request
  · rfl
  · have hrequest : request ≠ .resetCounters := fun heq => h (congrArg Except.ok heq)
    exact statistics_eq fun c hc => read_request hrequest k hc

section Telecommand
variable {s : Obsw} {octets : List UInt8}

theorem statistics_rejected {st : PusStatus}
    (hparse : pusTcParse (some octets) octets.length = .error st) :
    statistics (control (obcProcessTc s (some octets) octets.length).2) =
      (s.state.tcAccepted, saturatingSucc s.state.tcRejected, st.code) := by
  rw [(evolves_obcProcessTc_rejected hparse).controlled]
  rfl

/-- An accepted telecommand is counted, and its failure kept; a reset clears both. -/
theorem statistics_routed {tc : PusTc}
    (hparse : pusTcParse (some octets) octets.length = .ok tc) :
    statistics (control (obcProcessTc s (some octets) octets.length).2) =
      if readRequest tc = .ok .resetCounters then (0, 0, 0)
      else
        (saturatingSucc s.state.tcAccepted, s.state.tcRejected,
          if (obcProcessTc s (some octets) octets.length).1 = .ok then s.state.lastFailureCode
          else (obcProcessTc s (some octets) octets.length).1.code) := by
  have hservice : (serviceOutcome s tc).control =
      readControl (countAccepted (control s)) (readRequest tc) := by
    rw [serviceOutcome, outcome_control, (evolves_atService s tc).controlled]
  rw [(evolves_obcProcessTc_routed hparse).controlled, obcProcessTc_routed_status hparse]
  by_cases hreset : readRequest tc = .ok .resetCounters
  · have hok : (serviceOutcome s tc).status = .ok := by
      rw [serviceOutcome, hreset]
      rfl
    rw [if_pos hreset, if_pos hok, hservice, hreset]
    rfl
  · rw [if_neg hreset]
    by_cases hok : (serviceOutcome s tc).status = .ok
    · rw [if_pos hok, if_pos hok, hservice, statistics_readControl _ hreset]
      rfl
    · rw [if_neg hok, if_neg hok]
      rfl

end Telecommand

section Step
variable (u : Obc) (e : Stimulus)

theorem statistics_step_other (h : ∀ octets, e ≠ .telecommand octets) :
    statistics (control (u.step e).obsw) = statistics (control u.obsw) := by
  cases e with
  | telecommand octets => exact absurd rfl (h octets)
  | tick =>
    rw [obsw_tick]
    apply statistics_eq
    intro c hc
    have hconfigured : c ∈ configured := by
      rcases hc with rfl | rfl | rfl <;> simp [configured]
    exact onlyChanges_obcTick u.obsw c (configured_of_obcTick hconfigured)
  | pop buf =>
    rw [obsw_pop]
    rfl
  | thermistor valueDc =>
    rw [obsw_thermistor]
    rfl

/-- What one stimulus does to the statistics. -/
theorem statistics_step : statistics (control (u.step e).obsw) =
    if resetsCounters e then (0, 0, 0)
    else
      (if passesChecks e then saturatingSucc u.obsw.state.tcAccepted else u.obsw.state.tcAccepted,
        if failsChecks e then saturatingSucc u.obsw.state.tcRejected else u.obsw.state.tcRejected,
        (failureWrite u e).getD u.obsw.state.lastFailureCode) := by
  cases e with
  | telecommand octets =>
    rw [obsw_telecommand]
    rcases hparse : pusTcParse (some octets) octets.length with st | tc
    · obtain ⟨hfirst, hst⟩ := pusTcParse_error hparse
      rw [statistics_rejected hparse]
      simp [resetsCounters, passesChecks, failsChecks, failureWrite, hparse, ← hfirst, hst,
        obcProcessTc_rejected_status hparse]
    · have hfirst := (pusTcParse_ok hparse).1
      rw [statistics_routed hparse]
      simp only [resetsCounters, passesChecks, failsChecks, failureWrite, hparse, hfirst,
        readRequest_reset_iff, decide_eq_true_eq, ne_eq, not_true_eq_false, if_true, if_false]
      by_cases hok : (obcProcessTc u.obsw (some octets) octets.length).1 = .ok
      · rw [if_pos hok, if_pos hok, Option.getD_none]
      · rw [if_neg hok, if_neg hok, Option.getD_some]
  | tick | pop buf | thermistor valueDc => exact statistics_step_other u _ (by simp)

theorem toNat_tcAccepted_step : (u.step e).obsw.state.tcAccepted.toNat =
    if resetsCounters e then 0
    else if passesChecks e then min (u.obsw.state.tcAccepted.toNat + 1) 65535
    else u.obsw.state.tcAccepted.toNat := by
  have hstep := congrArg Prod.fst (statistics_step u e)
  rw [apply_ite Prod.fst] at hstep
  simp only [statistics, Commanding.control] at hstep
  rw [hstep]
  split
  · rfl
  · split
    · exact toNat_saturatingSucc _
    · rfl

theorem toNat_tcRejected_step : (u.step e).obsw.state.tcRejected.toNat =
    if resetsCounters e then 0
    else if failsChecks e then min (u.obsw.state.tcRejected.toNat + 1) 65535
    else u.obsw.state.tcRejected.toNat := by
  have hstep := congrArg (fun x => x.2.1) (statistics_step u e)
  rw [apply_ite fun x : UInt16 × UInt16 × UInt16 => x.2.1] at hstep
  simp only [statistics, Commanding.control] at hstep
  rw [hstep]
  split
  · rfl
  · split
    · exact toNat_saturatingSucc _
    · rfl

theorem lastFailureCode_step : (u.step e).obsw.state.lastFailureCode =
    if resetsCounters e then 0 else (failureWrite u e).getD u.obsw.state.lastFailureCode := by
  have hstep := congrArg (fun x => x.2.2) (statistics_step u e)
  rw [apply_ite fun x : UInt16 × UInt16 × UInt16 => x.2.2] at hstep
  exact hstep

end Step

theorem statistics_powerOn (s : Obsw) : statistics (control (powerOn s).obsw) = (0, 0, 0) := by
  rw [powerOn, obcInit_eq, control_emit]
  rfl

/-- In every state reached from power-on: the counters hold how many telecommands passed and
how many failed the acceptance checks since the last executed reset, or since power-on, up to
their largest value, and the failure code is the status of the last telecommand since then
that was rejected or failed, zero if there is none. -/
theorem telecommand_statistics (s : Obsw) (stimuli : List Stimulus) :
    (after s stimuli).obsw.state.tcAccepted.toNat =
        min ((Run.recent resetsCounters stimuli).countP passesChecks) 65535 ∧
      (after s stimuli).obsw.state.tcRejected.toNat =
        min ((Run.recent resetsCounters stimuli).countP failsChecks) 65535 ∧
      (after s stimuli).obsw.state.lastFailureCode =
        (Run.lastWrite Obc.step failureWrite
          (after s (Run.settled resetsCounters stimuli))
          (Run.recent resetsCounters stimuli)).getD 0 := by
  have hstart := statistics_powerOn s
  simp only [statistics, Commanding.control, Prod.mk.injEq] at hstart
  refine ⟨?_, ?_, ?_⟩
  · apply Run.counter_eq_count (fun u : Obc => u.obsw.state.tcAccepted.toNat)
    · exact toNat_tcAccepted_step
    · rw [hstart.1, UInt16.toNat_zero]
  · apply Run.counter_eq_count (fun u : Obc => u.obsw.state.tcRejected.toNat)
    · exact toNat_tcRejected_step
    · rw [hstart.2.1, UInt16.toNat_zero]
  · apply Run.register_eq_lastWrite_recent (fun u : Obc => u.obsw.state.lastFailureCode)
    · exact lastFailureCode_step
    · exact hstart.2.2

end ObswPus.Telemetry
