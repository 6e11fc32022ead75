import ObswPus.Autonomy.Mirror
import ObswPus.Commanding.Asked
import ObswPus.Commanding.IdentifierLists
import ObswPus.Library.Past

/-! # Events and their flags

An event is reported only while its flag is on, whichever part of the flight software
reports it, and the flag is what the last telecommand that lists the event has made it.
-/
namespace ObswPus.Telemetry
open Flight Downlink Commanding Autonomy Library

/-- The report is of no event, or of one that the flags let through. -/
def Allowed (flags : Svc05) (r : Report) : Prop :=
  ∀ ev, eventOf r.content = some ev → letsThrough flags ev = true

section Allowed
variable {flags : Svc05} {c : Control} {r : Report}

theorem allowed_of_service (h : r.service ≠ pusServiceEvent) : Allowed flags r := by
  have hservice : r.content.1 ≠ pusServiceEvent := h
  intro ev hev
  rw [eventOf, if_neg hservice] at hev
  cases hev

theorem allowed_eventReports {id : ObcEventId} {severity : UInt8} {aux : UInt16}
    (hr : r ∈ eventReports flags id severity aux) : Allowed flags r := by
  unfold eventReports at hr
  split at hr
  · rename_i henabled
    rw [List.mem_singleton] at hr
    subst hr
    intro ev hev
    rw [eventOf_eventReport] at hev
    cases hev
    exact henabled
  · cases hr

theorem allowed_heaterReports {on : Bool} (hr : r ∈ heaterReports c on) : Allowed c.svc05 r := by
  unfold heaterReports at hr
  split at hr
  · cases hr
  · exact allowed_eventReports hr

theorem allowed_modeReports {target : ObcMode} (hr : r ∈ modeReports c target) :
    Allowed c.svc05 r := by
  unfold modeReports at hr
  split at hr
  · cases hr
  rcases List.mem_append.mp hr with hr | hr
  · split at hr
    · exact allowed_heaterReports hr
    · cases hr
  · exact allowed_eventReports hr

theorem allowed_thermalReports (hr : r ∈ thermalReports c) : Allowed c.svc05 r := by
  unfold thermalReports at hr
  split_ifs at hr
  · rcases List.mem_append.mp hr with hr | hr
    · exact allowed_eventReports hr
    · exact allowed_modeReports hr
  · exact allowed_modeReports hr
  · exact allowed_heaterReports hr
  · exact allowed_heaterReports hr
  · cases hr
  · exact allowed_heaterReports hr

theorem allowed_overflowReports {s : Obsw} (hr : r ∈ overflowReports s) : Allowed s.svc05 r := by
  unfold overflowReports at hr
  split at hr
  · exact allowed_eventReports hr
  · cases hr

theorem allowed_hkTickReports {s : Obsw} (hr : r ∈ hkTickReports s) : Allowed flags r := by
  unfold hkTickReports at hr
  split at hr
  · cases hr
  · exact allowed_of_service (by rw [service_periodicReports hr]; decide)

theorem allowed_outcome {s : Obsw} {read : Except PusStatus Request}
    (hr : r ∈ (outcome s read).reports) : Allowed s.svc05 r := by
  rcases read with st | request
  · cases hr
  cases request with
  | oneShotHk sids => exact allowed_of_service (by rw [service_oneShotReports hr]; decide)
  | setMode target => exact allowed_modeReports hr
  | setHeater on =>
    simp only [outcome, Request.outcome] at hr
    split at hr
    · cases hr
    · exact allowed_heaterReports hr
  | areYouAlive =>
    rw [outcome, Request.outcome, List.mem_singleton] at hr
    subst hr
    exact allowed_of_service (show pusServiceTest ≠ pusServiceEvent by decide)
  | switchHk | switchEvents | injectTemperature | setTime | resetCounters => cases hr

theorem allowed_acceptanceReports {tc : PusTc} (hr : r ∈ acceptanceReports tc) :
    Allowed flags r := by
  unfold acceptanceReports at hr
  split at hr
  · rw [List.mem_singleton] at hr
    subst hr
    exact allowed_of_service (show pusServiceVerification ≠ pusServiceEvent by decide)
  · cases hr

theorem allowed_completionReports {tc : PusTc} {st : PusStatus}
    (hr : r ∈ completionReports tc st) : Allowed flags r := by
  apply allowed_of_service
  unfold completionReports at hr
  split at hr
  · rw [List.mem_singleton] at hr
    subst hr
    split <;> exact show pusServiceVerification ≠ pusServiceEvent by decide
  · cases hr

end Allowed

/-- The events of a telecommand are those that the flags before it let through: a telecommand
that switches flags reports no event. -/
theorem emits_obcProcessTc_allowed (s : Obsw) (octets : List UInt8) :
    ∃ rs, Emits s (obcProcessTc s (some octets) octets.length).2 rs ∧
      ∀ r ∈ rs, Allowed s.svc05 r := by
  rcases hparse : pusTcParse (some octets) octets.length with st | tc
  · refine ⟨_, (evolves_obcProcessTc_rejected hparse).emits, fun r hr => ?_⟩
    rcases List.mem_cons.mp hr with rfl | hr
    · exact allowed_of_service (show pusServiceVerification ≠ pusServiceEvent by decide)
    · exact allowed_eventReports hr
  · refine ⟨_, (evolves_obcProcessTc_routed hparse).emits, fun r hr => ?_⟩
    have hentry : Commanding.control (atService s tc) = countAccepted (Commanding.control s) :=
      (evolves_atService s tc).controlled
    have hflags : (atService s tc).svc05 = s.svc05 := congrArg Control.svc05 hentry
    rcases List.mem_append.mp hr with hr | hr
    · rcases List.mem_append.mp hr with hr | hr
      · exact allowed_acceptanceReports hr
      · exact hflags ▸ allowed_outcome hr
    · rcases List.mem_append.mp hr with hr | hr
      · exact allowed_completionReports hr
      · split at hr
        · cases hr
        · exact allowed_eventReports hr

theorem letsThrough_of_reported {flags : Svc05} {rs : List Report}
    (h : ∀ r ∈ rs, Allowed flags r) : ∀ ev ∈ reportedEvents rs, letsThrough flags ev = true := by
  intro ev hev
  obtain ⟨r, hr, hcontent⟩ := List.mem_filterMap.mp hev
  exact h r hr ev hcontent

/-- Whatever the stimulus, the events built are those that the flags before it let through. -/
theorem letsThrough_newEvents (u : Obc) (e : Stimulus) :
    ∀ ev ∈ newEvents u e, letsThrough u.obsw.svc05 ev = true := by
  have hsame {s : Obsw} (h : s.history = u.obsw.history) :
      ∀ ev ∈ eventsBetween u.obsw s, letsThrough u.obsw.svc05 ev = true := by
    rw [eventsBetween, h, List.drop_length]
    exact fun ev hev => absurd hev List.not_mem_nil
  cases e with
  | tick =>
    have hflags : (atSample u.obsw).svc05 = u.obsw.svc05 := by
      have hcontrolled := congrArg Control.svc05 (evolves_atSample u.obsw).controlled
      rwa [monitorTemperature_svc05] at hcontrolled
    rw [newEvents, obsw_tick, (sends_obcTick u.obsw).eventsBetween]
    apply letsThrough_of_reported
    intro r hr
    rcases List.mem_append.mp hr with hr | hr
    · exact allowed_thermalReports hr
    · rcases List.mem_append.mp hr with hr | hr
      · exact hflags ▸ allowed_overflowReports hr
      · exact allowed_hkTickReports hr
  | telecommand octets =>
    obtain ⟨rs, hemits, hallowed⟩ := emits_obcProcessTc_allowed u.obsw octets
    have hsends : Sends u.obsw (obcProcessTc u.obsw (some octets) octets.length).2 rs := hemits.sent
    rw [newEvents, obsw_telecommand, hsends.eventsBetween]
    exact letsThrough_of_reported hallowed
  | pop buf =>
    rw [newEvents, obsw_pop]
    exact hsame rfl
  | thermistor valueDc =>
    rw [newEvents, obsw_thermistor]
    exact hsame rfl

/-- What a request makes of the flag of event `i + 1`, if it switches it. -/
def requestSwitch (i : Fin obcEventMaxIds) : Option Request → Option Bool
  | some (.switchEvents ids on) => if i.val + 1 ∈ ids.map UInt16.toNat then some on else none
  | _ => none

def eventSwitch (i : Fin obcEventMaxIds) : Stimulus → Option Bool
  | .telecommand octets => requestSwitch i (requested octets)
  | _ => none

theorem eventFlag_switchEvents {ids : List UInt16} (hpos : ∀ id ∈ ids, 1 ≤ id.toNat) (c : Control)
    (on : Bool) (i : Fin obcEventMaxIds) :
    (switchEvents c ids on).svc05.enabled i =
      if i.val + 1 ∈ ids.map UInt16.toNat then on else c.svc05.enabled i := by
  have hlisted : ∀ id ∈ ids.map UInt16.toNat, 1 ≤ id := by
    intro id hid
    obtain ⟨id', hid', rfl⟩ := List.mem_map.mp hid
    exact hpos id' hid'
  have hswitch := congrFun (foldl_set_eq_switchListed hlisted on c.svc05.enabled) i
  rw [List.foldl_map] at hswitch
  exact hswitch

theorem one_le_of_switchEvents {tc : PusTc} {ids : List UInt16} {on : Bool}
    (hread : readRequest tc = .ok (.switchEvents ids on)) : ∀ id ∈ ids, 1 ≤ id.toNat := by
  intro id hid
  have hasked := asked_of_readRequest hread
  cases hasked with
  | switchEvents on hservice hsubtype hids =>
    obtain ⟨rfl, hvalid, -⟩ := checkList_ok hids
    have hrange := hvalid id hid
    simp only [svc05IdValid, decide_eq_true_eq, UInt16.le_iff_toNat_le] at hrange
    exact hrange.1

theorem eventFlag_readControl (c : Control) (tc : PusTc) (i : Fin obcEventMaxIds) :
    (readControl c (readRequest tc)).svc05.enabled i =
      (requestSwitch i (readRequest tc).toOption).getD (c.svc05.enabled i) := by
  rcases hread : readRequest tc with st | request
  · rfl
  cases request with
  | switchEvents ids on =>
    have hflag := eventFlag_switchEvents (one_le_of_switchEvents hread) c on i
    refine hflag.trans ?_
    simp only [Except.toOption, requestSwitch]
    split <;> rfl
  | setMode target =>
    exact congrArg (fun flags : Svc05 => flags.enabled i) (switchMode_svc05 c target)
  | setHeater on =>
    simp only [readControl, Request.control]
    split
    · rfl
    · exact congrArg (fun flags : Svc05 => flags.enabled i) (switchHeater_svc05 c on)
  | switchHk | oneShotHk | injectTemperature | setTime | resetCounters | areYouAlive => rfl

theorem eventFlag_tcEffect (c : Control) (octets : List UInt8) (i : Fin obcEventMaxIds) :
    (tcEffect c octets).svc05.enabled i =
      (requestSwitch i (requested octets)).getD (c.svc05.enabled i) := by
  unfold tcEffect requested
  rcases pusTcParse (some octets) octets.length with st | tc
  · rfl
  · exact eventFlag_readControl (countAccepted c) tc i

/-- A stimulus switches a flag as said or leaves it alone. -/
theorem eventFlag_step (u : Obc) (e : Stimulus) (i : Fin obcEventMaxIds) :
    (u.step e).obsw.svc05.enabled i = (eventSwitch i e).getD (u.obsw.svc05.enabled i) := by
  cases e with
  | tick =>
    have hcontrol := congrArg Control.svc05 (control_obcTick u.obsw)
    have hphase (c : Control) : (stepPhase c).svc05 = c.svc05 := rfl
    rw [hphase, monitorTemperature_svc05] at hcontrol
    rw [obsw_tick]
    exact congrArg (fun flags : Svc05 => flags.enabled i) hcontrol
  | telecommand octets =>
    obtain ⟨code, hcode⟩ := control_obcProcessTc u.obsw octets
    have hflag := congrArg (fun c : Control => c.svc05.enabled i) hcode
    rw [obsw_telecommand]
    exact hflag.trans (eventFlag_tcEffect (Commanding.control u.obsw) octets i)
  | pop buf =>
    rw [obsw_pop]
    rfl
  | thermistor valueDc =>
    rw [obsw_thermistor]
    rfl

/-- In every run the flag of an event is what the last telecommand that lists the event has made
it, and on if there is none; and while it is off, no stimulus whatever reports the event. -/
theorem event_flag_law (s : Obsw) (stimuli : List Stimulus) (i : Fin obcEventMaxIds) :
    (after s stimuli).obsw.svc05.enabled i =
        (Run.lastWrite Obc.step (fun _ => eventSwitch i) (powerOn s) stimuli).getD true ∧
      ∀ e, (after s stimuli).obsw.svc05.enabled i = false →
        ∀ ev ∈ newEvents (after s stimuli) e, ev.id.toNat ≠ i.val + 1 := by
  constructor
  · have hstart : (powerOn s).obsw.svc05.enabled i = true := by
      rw [powerOn, obcInit_eq]
      simp only [emit, cleared, svc05Init]
      rfl
    rw [← hstart]
    exact Run.register_eq_lastWrite (fun u : Obc => u.obsw.svc05.enabled i) (fun _ => True)
      trivial (fun _ _ _ => trivial) (fun u e _ => eventFlag_step u e i) stimuli
  · intro e hoff ev hev hid
    have hpasses := letsThrough_newEvents (after s stimuli) e ev hev
    have hindex : ev.id.toNat - 1 = i.val := by omega
    rw [letsThrough, hindex, FixedArray.get, dif_pos i.isLt, hoff] at hpasses
    cases hpasses

end ObswPus.Telemetry
