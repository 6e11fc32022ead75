import ObswPus.Autonomy.Regulator
import ObswPus.Downlink.Events

/-! # The events of regulation

Mode, heater and alarm events that a stimulus causes are exactly the announcements of
the thermostat, those suppressed by their flags left out. No other part of the flight
software reports any of the three.
-/
namespace ObswPus.Autonomy
open Flight Downlink Commanding Library

/-- Events 2, 5 and 6. -/
def ofRegulation (ev : Event) : Bool :=
  decide (ev.id = ObcEventId.modeChanged.code ∨ ev.id = ObcEventId.heaterSwitched.code ∨
    ev.id = ObcEventId.tempAlarm.code)

def regulationEvents (rs : List Report) : List Event := (reportedEvents rs).filter ofRegulation

theorem regulationEvents_append (rs rs' : List Report) :
    regulationEvents (rs ++ rs') = regulationEvents rs ++ regulationEvents rs' := by
  rw [regulationEvents, reportedEvents_append, List.filter_append]
  rfl

theorem eventOf_eventReport (id : ObcEventId) (severity : UInt8) (aux : UInt16) :
    eventOf (eventReport id severity aux).content = some ⟨severity, id.code, aux⟩ := by
  have hdrop : (pusPutU16 id.code ++ pusPutU16 aux).drop 2 = pusPutU16 aux ++ [] := by
    rw [List.append_nil]
    rfl
  simp only [eventOf, Report.content, eventReport, if_true]
  rw [hdrop, pusGetU16_pusPutU16, pusGetU16_pusPutU16]

def letsThrough (flags : Svc05) (ev : Event) : Bool := flags.enabled.get (ev.id.toNat - 1)

theorem regulationEvents_eventReports (flags : Svc05) (id : ObcEventId) (severity : UInt8)
    (aux : UInt16) :
    regulationEvents (eventReports flags id severity aux) =
      ([⟨severity, id.code, aux⟩].filter ofRegulation).filter (letsThrough flags) := by
  have hpasses : letsThrough flags ⟨severity, id.code, aux⟩ = eventEnabled flags id := rfl
  unfold eventReports
  rw [List.filter_comm]
  cases henabled : eventEnabled flags id with
  | false => simp [regulationEvents, reportedEvents, hpasses, henabled]
  | true =>
    simp [regulationEvents, reportedEvents, hpasses, henabled, eventOf_eventReport]

theorem regulationEvents_of_service {rs : List Report}
    (h : ∀ r ∈ rs, r.service ≠ pusServiceEvent) : regulationEvents rs = [] := by
  have hnone : reportedEvents rs = [] := by
    rw [reportedEvents, List.filterMap_eq_nil_iff]
    intro r hr
    exact if_neg (h r hr)
  rw [regulationEvents, hnone, List.filter_nil]

theorem regulationEvents_acceptanceReports (tc : PusTc) :
    regulationEvents (acceptanceReports tc) = [] := by
  apply regulationEvents_of_service
  intro r hr
  unfold acceptanceReports at hr
  split at hr
  · rw [List.mem_singleton] at hr
    subst hr
    exact show pusServiceVerification ≠ pusServiceEvent by decide
  · cases hr

theorem regulationEvents_completionReports (tc : PusTc) (st : PusStatus) :
    regulationEvents (completionReports tc st) = [] := by
  apply regulationEvents_of_service
  intro r hr
  unfold completionReports at hr
  split at hr
  · rw [List.mem_singleton] at hr
    subst hr
    split <;> exact show pusServiceVerification ≠ pusServiceEvent by decide
  · cases hr

theorem regulationEvents_failureEvents (flags : Svc05) (st : PusStatus) :
    regulationEvents (failureEvents flags st) = [] := by
  have hforeign : ofRegulation ⟨pusSt05LowSeverity, ObcEventId.tcRejected.code, st.code⟩ = false :=
    rfl
  rw [failureEvents, regulationEvents_eventReports, List.filter_singleton, hforeign]
  rfl

theorem regulationEvents_closingReports (flags : Svc05) (tc : PusTc) (st : PusStatus) :
    regulationEvents (closingReports flags tc st) = [] := by
  rw [closingReports, regulationEvents_append, regulationEvents_completionReports]
  split
  · rfl
  · exact regulationEvents_failureEvents flags st

theorem regulationEvents_overflowReports (s : Obsw) :
    regulationEvents (overflowReports s) = [] := by
  have hforeign : ofRegulation
      ⟨pusSt05LowSeverity, ObcEventId.tmQueueOverflow.code, s.queue.overflows⟩ = false := rfl
  unfold overflowReports
  split
  · rw [regulationEvents_eventReports, List.filter_singleton, hforeign]
    rfl
  · rfl

theorem regulationEvents_hkTickReports (s : Obsw) : regulationEvents (hkTickReports s) = [] := by
  apply regulationEvents_of_service
  intro r hr
  unfold hkTickReports at hr
  split at hr
  · cases hr
  · rw [service_periodicReports hr]
    decide

theorem service_oneShotReports {s : Obsw} {sids : List UInt8} {r : Report}
    (hr : r ∈ oneShotReports s sids) : r.service = pusServiceHousekeeping := by
  induction sids generalizing s with
  | nil => cases hr
  | cons sid sids ih =>
    rcases List.mem_cons.mp hr with rfl | hr
    · rfl
    · split at hr
      · exact ih hr
      · cases hr

/-- The event that carries an announcement. -/
def announced : Thermostat.Announcement Int16 → Event
  | .alarm t => ⟨pusSt05HighSeverity, ObcEventId.tempAlarm.code, t.toUInt16⟩
  | .heater on => ⟨pusSt05Informative, ObcEventId.heaterSwitched.code, on.toUInt16⟩
  | .active on => ⟨pusSt05Informative, ObcEventId.modeChanged.code, on.toUInt16⟩

/-- The events of these announcements that the flags let through. -/
def told (flags : Svc05) (as : List (Thermostat.Announcement Int16)) : List Event :=
  (as.map announced).filter (letsThrough flags)

theorem told_append (flags : Svc05) (as as' : List (Thermostat.Announcement Int16)) :
    told flags (as ++ as') = told flags as ++ told flags as' := by
  simp only [told, List.map_append, List.filter_append]

section Transitions
variable (c : Control)

theorem regulationEvents_heaterReports (on : Bool) :
    regulationEvents (heaterReports c on) =
      told c.svc05 ((regulatorOf c).changes { regulatorOf c with heater := on }) := by
  have hheater : (regulatorOf c).heater = c.state.heaterOn := rfl
  simp only [heaterReports, Thermostat.changes, hheater, if_true, List.append_nil]
  split
  · rfl
  · rw [regulationEvents_eventReports]
    rfl

theorem regulationEvents_modeReports (target : ObcMode) :
    regulationEvents (modeReports c target) =
      told c.svc05 ((regulatorOf c).changes (regulatorOf (switchMode c target))) := by
  have hmode : regulationEvents
      (eventReports c.svc05 .modeChanged pusSt05Informative target.code.toUInt16) =
        told c.svc05 [.active (decide (target = .nominal))] := by
    rw [regulationEvents_eventReports]
    cases target <;> rfl
  unfold modeReports switchMode
  by_cases hsame : target = c.state.mode
  · simp [hsame, Thermostat.changes, regulationEvents, reportedEvents, told]
  simp only [if_neg hsame, regulationEvents_append, hmode]
  cases target with
  | safe =>
    have hnominal : c.state.mode = .nominal := by
      cases hmode : c.state.mode with
      | safe => exact absurd hmode.symm hsame
      | nominal => rfl
    rw [if_pos rfl, if_pos rfl, regulationEvents_heaterReports, regulatorOf_switchHeater,
      ← told_append]
    simp [Thermostat.changes, regulatorOf, hnominal]
  | nominal =>
    have hsafe : c.state.mode = .safe := by
      cases hmode : c.state.mode with
      | safe => rfl
      | nominal => exact absurd hmode.symm hsame
    simp [Thermostat.changes, regulatorOf, hsafe, regulationEvents, reportedEvents, told]

theorem told_alarms :
    told c.svc05 ((regulatorOf c).alarms thresholds (.cycle c.state.temperatureDc)) =
      if c.state.mode = .nominal ∧ obcTempAlarmDc ≤ c.state.temperatureDc then
        regulationEvents (if c.alarmLatched = false then
          eventReports c.svc05 .tempAlarm pusSt05HighSeverity c.state.temperatureDc.toUInt16
        else [])
      else [] := by
  have hraises : (regulatorOf c).Raises thresholds c.state.temperatureDc ↔
      c.alarmLatched = false ∧ c.state.mode = .nominal ∧
        obcTempAlarmDc ≤ c.state.temperatureDc := by
    simp only [Thermostat.Raises, regulatorOf, decide_eq_true_eq]
    exact and_left_comm
  simp only [Thermostat.alarms, hraises]
  by_cases hhot : c.state.mode = .nominal ∧ obcTempAlarmDc ≤ c.state.temperatureDc
  · simp only [hhot, and_self, and_true, if_true]
    split
    · rw [regulationEvents_eventReports]
      rfl
    · rfl
  · simp only [hhot, and_false, if_false]
    rfl

theorem regulationEvents_thermalReports :
    regulationEvents (thermalReports c) =
      told c.svc05 ((regulatorOf c).announcements thresholds (.cycle c.state.temperatureDc)) := by
  have hrearm : ((regulatorOf c).changes (regulatorOf (monitorTemperature c)) :
      List (Thermostat.Announcement Int16)) =
        (regulatorOf c).changes (regulatorOf (regulate c)) := by
    unfold monitorTemperature
    split <;> rfl
  have hset : ((regulatorOf c).changes
        (regulatorOf (switchMode { c with alarmLatched := true } .safe)) :
      List (Thermostat.Announcement Int16)) =
        (regulatorOf c).changes (regulatorOf (switchMode c .safe)) := by
    have hlatched : regulatorOf { c with alarmLatched := true } =
        { regulatorOf c with latched := true } := rfl
    rw [regulatorOf_switchMode, regulatorOf_switchMode, hlatched]
    simp only [Thermostat.next]
    split <;> rfl
  rw [Thermostat.announcements, ← regulatorOf_monitorTemperature, hrearm, told_append, told_alarms]
  unfold thermalReports regulate
  by_cases hmode : c.state.mode = .nominal
  · by_cases halarm : obcTempAlarmDc ≤ c.state.temperatureDc
    · simp only [hmode, halarm, ge_iff_le, and_self, if_true, regulationEvents_append, hset,
        regulationEvents_modeReports]
    · simp only [hmode, halarm, ge_iff_le, and_false, if_true, if_false]
      change _ = [] ++ _
      rw [List.nil_append]
      split_ifs
      · rw [regulationEvents_heaterReports, regulatorOf_switchHeater]
      · rw [regulationEvents_heaterReports, regulatorOf_switchHeater]
      · rw [Thermostat.changes_self]
        rfl
  · simp only [hmode, false_and, if_false, List.nil_append, regulationEvents_heaterReports,
      regulatorOf_switchHeater]

end Transitions

/-- The events that the unit builds while it takes a stimulus. -/
def newEvents (u : Obc) (e : Stimulus) : List Event := eventsBetween u.obsw (u.step e).obsw

theorem told_unchanged (flags : Svc05) (r : Thermostat) (i : Thermostat.Input Int16)
    (hnext : r.next thresholds i = r) (halarms : r.alarms thresholds i = []) :
    told flags (r.announcements thresholds i) = [] := by
  simp [Thermostat.announcements, halarms, hnext, told]

theorem regulationEvents_setHeater (s : Obsw) (on : Bool) :
    regulationEvents (outcome s (.ok (.setHeater on))).reports =
      told s.svc05 ((regulatorOf (Commanding.control s)).changes
        ((regulatorOf (Commanding.control s)).next thresholds (.setHeater on))) := by
  rw [← regulatorOf_setHeater]
  by_cases hsafe : s.state.mode = .safe
  · have hcontrol : (Request.setHeater on).control (Commanding.control s) = Commanding.control s :=
      if_pos hsafe
    have hreports : (outcome s (.ok (.setHeater on))).reports = [] := by
      simp only [outcome, Request.outcome, if_pos hsafe]
    rw [hcontrol, hreports, Thermostat.changes_self]
    rfl
  · have hcontrol : (Request.setHeater on).control (Commanding.control s) =
        switchHeater (Commanding.control s) on := if_neg hsafe
    have hreports : (outcome s (.ok (.setHeater on))).reports =
        heaterReports (Commanding.control s) on := by
      simp only [outcome, Request.outcome, if_neg hsafe]
    rw [hcontrol, hreports, regulationEvents_heaterReports, regulatorOf_switchHeater]
    rfl

theorem regulationEvents_outcome (s : Obsw) (read : Except PusStatus Request) :
    regulationEvents (outcome s read).reports =
      told s.svc05 ((regulatorOf (Commanding.control s)).announcements thresholds
        (requestInput read.toOption)) := by
  have hidle := told_unchanged s.svc05 (regulatorOf (Commanding.control s)) .idle rfl rfl
  rcases read with st | request
  · exact hidle.symm
  cases request with
  | setMode target =>
    change regulationEvents (modeReports (Commanding.control s) target) = told s.svc05 ([] ++ _)
    rw [regulationEvents_modeReports, regulatorOf_switchMode, List.nil_append]
    rfl
  | setHeater on => exact regulationEvents_setHeater s on
  | oneShotHk sids =>
    refine (regulationEvents_of_service fun r hr => ?_).trans hidle.symm
    rw [service_oneShotReports hr]
    decide
  | areYouAlive =>
    refine (regulationEvents_of_service fun r hr => ?_).trans hidle.symm
    rw [List.mem_singleton.mp hr]
    exact show pusServiceTest ≠ pusServiceEvent by decide
  | switchHk | switchEvents | injectTemperature | setTime | resetCounters => exact hidle.symm

theorem emits_obcProcessTc (s : Obsw) (octets : List UInt8) :
    ∃ rs, Emits s (obcProcessTc s (some octets) octets.length).2 rs ∧
      regulationEvents rs = told s.svc05 ((regulatorOf (Commanding.control s)).announcements
        thresholds (requestInput (requested octets))) := by
  unfold requested
  rcases hparse : pusTcParse (some octets) octets.length with st | tc
  · refine ⟨_, (evolves_obcProcessTc_rejected hparse).emits, ?_⟩
    have hrejection : regulationEvents [rejectionReport octets st] = [] := rfl
    rw [← List.singleton_append, regulationEvents_append, hrejection,
      regulationEvents_failureEvents]
    exact (told_unchanged _ _ .idle rfl rfl).symm
  · refine ⟨_, (evolves_obcProcessTc_routed hparse).emits, ?_⟩
    have hentry : Commanding.control (atService s tc) = countAccepted (Commanding.control s) :=
      (evolves_atService s tc).controlled
    have hflags : (atService s tc).svc05 = s.svc05 := congrArg Control.svc05 hentry
    rw [regulationEvents_append, regulationEvents_append, regulationEvents_acceptanceReports,
      regulationEvents_closingReports, List.nil_append, List.append_nil, serviceOutcome,
      regulationEvents_outcome, hentry, hflags]
    rfl

/-- The regulation events of a stimulus are the announcements of the thermostat. -/
theorem regulation_newEvents (u : Obc) (e : Stimulus) :
    (newEvents u e).filter ofRegulation =
      told u.obsw.svc05 ((regulator u).announcements thresholds (inputOf u e)) := by
  have hsame (s : Obsw) (h : s.history = u.obsw.history) :
      (eventsBetween u.obsw s).filter ofRegulation = [] := by
    rw [eventsBetween, h, List.drop_length]
    rfl
  have hidle := told_unchanged u.obsw.svc05 (regulator u) .idle rfl rfl
  cases e with
  | tick =>
    rw [newEvents, obsw_tick, (sends_obcTick u.obsw).eventsBetween]
    change regulationEvents _ = _
    rw [regulationEvents_append, regulationEvents_append, regulationEvents_thermalReports,
      regulationEvents_overflowReports, regulationEvents_hkTickReports, List.nil_append,
      List.append_nil]
    rfl
  | telecommand octets =>
    obtain ⟨rs, hemits, hevents⟩ := emits_obcProcessTc u.obsw octets
    have hsends : Sends u.obsw (obcProcessTc u.obsw (some octets) octets.length).2 rs := hemits.sent
    rw [newEvents, obsw_telecommand, hsends.eventsBetween]
    exact hevents
  | pop buf =>
    rw [newEvents, obsw_pop]
    exact (hsame _ rfl).trans hidle.symm
  | thermistor valueDc =>
    rw [newEvents, obsw_thermistor]
    exact (hsame _ rfl).trans hidle.symm

/-- The unit with all events enabled. -/
def listening (u : Obc) : Obc := { u with obsw := { u.obsw with svc05 := svc05Init } }

/-- The events whose report a stimulus attempts: those that are built when none is suppressed. -/
def attempted (u : Obc) (e : Stimulus) : List Event := newEvents (listening u) e

/-- What is attempted does not depend on the flags. -/
theorem regulation_attempted (u : Obc) (e : Stimulus) :
    (attempted u e).filter ofRegulation =
      ((regulator u).announcements thresholds (inputOf u e)).map announced := by
  have hinput : inputOf (listening u) e = inputOf u e := by cases e <;> rfl
  have hregulator : regulator (listening u) = regulator u := rfl
  have hall (a : Thermostat.Announcement Int16) : letsThrough svc05Init (announced a) = true := by
    cases a <;> rfl
  rw [attempted, regulation_newEvents, hinput, hregulator, told, List.filter_eq_self]
  intro ev hev
  obtain ⟨a, -, rfl⟩ := List.mem_map.mp hev
  exact hall a

end ObswPus.Autonomy
