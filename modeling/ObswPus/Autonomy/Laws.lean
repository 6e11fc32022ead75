import ObswPus.Autonomy.Attempts
import ObswPus.Autonomy.Orders
import ObswPus.Library.Past
import ObswPus.Safety.Heater

/-! # The laws of regulation over whole runs

When the alarm is raised, what the heater state is and when the unit is in NOMINAL
mode, each as a function of the stimuli so far. Each step is a step of the thermostat;
looking back along the run does the rest.
-/
namespace ObswPus.Autonomy
open Flight Downlink Commanding Library Safety

def acquired (u : Obc) : Int16 := (u.step .tick).obsw.state.temperatureDc

theorem acquired_eq (u : Obc) : acquired u = u.obsw.hal.temperatureDc := by
  have hheater (c : Control) (on : Bool) :
      (switchHeater c on).state.temperatureDc = c.state.temperatureDc := by
    unfold switchHeater
    split <;> rfl
  have hmode (c : Control) (target : ObcMode) :
      (switchMode c target).state.temperatureDc = c.state.temperatureDc := by
    unfold switchMode
    split_ifs <;> simp only [hheater]
  have hregulate (c : Control) : (regulate c).state.temperatureDc = c.state.temperatureDc := by
    unfold regulate
    split_ifs <;> simp only [hheater, hmode]
  have hmonitor (c : Control) :
      (monitorTemperature c).state.temperatureDc = c.state.temperatureDc := by
    unfold monitorTemperature
    split <;> exact hregulate c
  have hstate (s : Obsw) : s.state.temperatureDc = (Commanding.control s).state.temperatureDc := rfl
  rw [acquired, obsw_tick, hstate, control_obcTick]
  exact hmonitor (acquire (Commanding.control u.obsw))

theorem requestInput_ne_cycle (read : Option Request) (t : Int16) :
    requestInput read ≠ .cycle t := by
  unfold requestInput
  split <;> simp

theorem inputOf_eq_cycle_iff (u : Obc) (e : Stimulus) (t : Int16) :
    inputOf u e = .cycle t ↔ e = .tick ∧ t = acquired u := by
  rw [acquired_eq]
  cases e with
  | tick => simp [inputOf, eq_comm]
  | telecommand octets =>
    simp only [inputOf, reduceCtorEq, false_and, iff_false]
    exact requestInput_ne_cycle _ t
  | pop buf => simp [inputOf]
  | thermistor valueDc => simp [inputOf]

def eventsWith (id : ObcEventId) (events : List Event) : List Event :=
  events.filter fun ev => decide (ev.id = id.code)

theorem eventsWith_ofRegulation {id : ObcEventId}
    (hid : id = .modeChanged ∨ id = .heaterSwitched ∨ id = .tempAlarm) (events : List Event) :
    eventsWith id (events.filter ofRegulation) = eventsWith id events := by
  rw [eventsWith, eventsWith, List.filter_filter]
  apply List.filter_congr
  intro ev _
  have hregulation (h : ev.id = id.code) : ofRegulation ev = true := by
    rcases hid with rfl | rfl | rfl <;> simp [ofRegulation, h]
  by_cases h : ev.id = id.code
  · simp [h, hregulation h]
  · simp [h]

theorem eventsWith_attempted {id : ObcEventId}
    (hid : id = .modeChanged ∨ id = .heaterSwitched ∨ id = .tempAlarm) (u : Obc) (e : Stimulus) :
    eventsWith id (attempted u e) =
      eventsWith id (((regulator u).announcements thresholds (inputOf u e)).map announced) := by
  rw [← regulation_attempted, eventsWith_ofRegulation hid]

theorem eventsWith_append (id : ObcEventId) (events events' : List Event) :
    eventsWith id (events ++ events') = eventsWith id events ++ eventsWith id events' := by
  simp only [eventsWith, List.filter_append]

section Announced
variable (r : Thermostat) (i : Thermostat.Input Int16)

theorem eventsWith_announcements (id : ObcEventId) :
    eventsWith id ((r.announcements thresholds i).map announced) =
      eventsWith id ((r.alarms thresholds i).map announced) ++
        eventsWith id ((r.changes (r.next thresholds i)).map announced) := by
  rw [Thermostat.announcements, List.map_append, eventsWith_append]

theorem eventsWith_alarms (id : ObcEventId) :
    eventsWith id ((r.alarms thresholds i).map announced) =
      if id = .tempAlarm then (r.alarms thresholds i).map announced else [] := by
  unfold Thermostat.alarms
  split
  · split <;> cases id <;> rfl
  · cases id <;> rfl

theorem alarm_changes (r' : Thermostat) :
    eventsWith .tempAlarm ((r.changes r').map announced) = [] := by
  unfold Thermostat.changes
  split_ifs <;> rfl

theorem eventsWith_alarm :
    eventsWith .tempAlarm ((r.announcements thresholds i).map announced) =
      (r.alarms thresholds i).map announced := by
  rw [eventsWith_announcements, eventsWith_alarms, if_pos rfl, alarm_changes, List.append_nil]

theorem eventsWith_heater :
    eventsWith .heaterSwitched ((r.announcements thresholds i).map announced) =
      if (r.next thresholds i).heater = r.heater then []
      else [announced (.heater (r.next thresholds i).heater)] := by
  rw [eventsWith_announcements, eventsWith_alarms, if_neg (by decide)]
  unfold Thermostat.changes
  split_ifs <;> rfl

theorem eventsWith_active :
    eventsWith .modeChanged ((r.announcements thresholds i).map announced) =
      if (r.next thresholds i).active = r.active then []
      else [announced (.active (r.next thresholds i).active)] := by
  rw [eventsWith_announcements, eventsWith_alarms, if_neg (by decide)]
  unfold Thermostat.changes
  split_ifs <;> rfl

end Announced

/-- The stimulus is a minor cycle that attempts to report an over-temperature. -/
def AlarmAttempt (u : Obc) (e : Stimulus) : Prop :=
  e = .tick ∧ eventsWith .tempAlarm (attempted u e) ≠ []

/-- A minor cycle, if it is one, acquires 25.0 degrees or more. -/
def StaysWarm (u : Obc) (e : Stimulus) : Prop := e = .tick → obcTempHeaterOffDc ≤ acquired u

theorem alarm_attempted (u : Obc) (e : Stimulus) :
    eventsWith .tempAlarm (attempted u e) =
      if e = .tick ∧ (regulator u).Raises thresholds (acquired u) then
        [⟨pusSt05HighSeverity, ObcEventId.tempAlarm.code, (acquired u).toUInt16⟩]
      else [] := by
  rw [eventsWith_attempted (.inr (.inr rfl)), eventsWith_alarm]
  unfold Thermostat.alarms
  split
  · rename_i t ht
    obtain ⟨rfl, rfl⟩ := (inputOf_eq_cycle_iff u e t).mp ht
    simp only [true_and]
    split <;> rfl
  · rename_i hnone
    have htick : e ≠ .tick := fun h =>
      hnone (acquired u) ((inputOf_eq_cycle_iff u e _).mpr ⟨h, rfl⟩)
    simp only [htick, false_and, if_false, List.map_nil]

theorem alarmAttempt_iff_raises (u : Obc) (e : Stimulus) :
    AlarmAttempt u e ↔ e = .tick ∧ (regulator u).Raises thresholds (acquired u) := by
  rw [AlarmAttempt, alarm_attempted]
  split <;> simp_all

theorem alarmAttempt_iff (u : Obc) (e : Stimulus) :
    AlarmAttempt u e ↔ e = .tick ∧ u.obsw.state.mode = .nominal ∧
      u.obsw.alarmLatched = false ∧ obcTempAlarmDc ≤ acquired u := by
  rw [alarmAttempt_iff_raises]
  simp only [Thermostat.Raises, regulator, regulatorOf, decide_eq_true_eq]
  rfl

theorem not_alarmAttempt_of_latched {u : Obc} (hlatched : u.obsw.alarmLatched = true)
    (e : Stimulus) : ¬AlarmAttempt u e := by
  intro h
  have hclear := ((alarmAttempt_iff u e).mp h).2.2.1
  rw [hlatched] at hclear
  cases hclear

/-- The latch is set by an attempt and kept until a minor cycle below 25.0 degrees. -/
theorem alarmLatched_step (u : Obc) (e : Stimulus) :
    (u.step e).obsw.alarmLatched = true ↔
      AlarmAttempt u e ∨ u.obsw.alarmLatched = true ∧ StaysWarm u e := by
  have hnext := (regulator u).next_latched_iff thresholds (inputOf u e)
  have hcycle : (∃ t, inputOf u e = .cycle t ∧ (regulator u).Raises thresholds t) ↔
      AlarmAttempt u e := by
    rw [alarmAttempt_iff_raises]
    simp only [inputOf_eq_cycle_iff]
    constructor
    · rintro ⟨t, ⟨htick, rfl⟩, hraises⟩
      exact ⟨htick, hraises⟩
    · rintro ⟨htick, hraises⟩
      exact ⟨acquired u, ⟨htick, rfl⟩, hraises⟩
  have hwarm : (∀ t, inputOf u e = .cycle t → thresholds.high ≤ t) ↔ StaysWarm u e := by
    simp only [inputOf_eq_cycle_iff]
    constructor
    · exact fun h htick => h (acquired u) ⟨htick, rfl⟩
    · rintro h t ⟨htick, rfl⟩
      exact h htick
  rw [← regulator_step, hcycle, hwarm] at hnext
  exact hnext

theorem alarmLatched_iff (s : Obsw) (stimuli : List Stimulus) :
    (after s stimuli).obsw.alarmLatched = true ↔
      Run.Since Obc.step AlarmAttempt StaysWarm (powerOn s) stimuli := by
  have hstart : ¬(powerOn s).obsw.alarmLatched = true := by
    have hlatched := congrArg Thermostat.latched (regulator_powerOn s)
    change (powerOn s).obsw.alarmLatched = false at hlatched
    simp [hlatched]
  exact Run.flag_iff_since (fun u : Obc => u.obsw.alarmLatched = true) hstart
    alarmLatched_step stimuli

def attemptedOver : Obc → List Stimulus → List Event
  | _, [] => []
  | u, e :: stimuli => attempted u e ++ attemptedOver (u.step e) stimuli

/-- While it stays warm, a set latch keeps the alarm from being raised. -/
theorem no_alarm_of_latched {u : Obc} {stimuli : List Stimulus}
    (hwarm : Run.AllSteps Obc.step StaysWarm u stimuli) (hlatched : u.obsw.alarmLatched = true) :
    eventsWith .tempAlarm (attemptedOver u stimuli) = [] := by
  induction stimuli generalizing u with
  | nil => rfl
  | cons e stimuli ih =>
    have hnext := (alarmLatched_step u e).mpr (.inr ⟨hlatched, hwarm.1⟩)
    have hnone := not_alarmAttempt_of_latched hlatched e
    rw [alarmAttempt_iff_raises] at hnone
    rw [attemptedOver, eventsWith_append, alarm_attempted, if_neg hnone, ih hwarm.2 hnext]
    rfl

theorem length_alarms_le {u : Obc} {stimuli : List Stimulus}
    (hwarm : Run.AllSteps Obc.step StaysWarm u stimuli) :
    (eventsWith .tempAlarm (attemptedOver u stimuli)).length ≤ 1 := by
  induction stimuli generalizing u with
  | nil => exact Nat.zero_le _
  | cons e stimuli ih =>
    rw [attemptedOver, eventsWith_append, alarm_attempted]
    split
    · rename_i hraises
      have hattempt := (alarmAttempt_iff_raises u e).mpr hraises
      rw [no_alarm_of_latched hwarm.2 ((alarmLatched_step u e).mpr (.inl hattempt))]
      exact le_refl 1
    · exact ih hwarm.2

instance (octets data : List UInt8) : Decidable (Performs octets data) :=
  match hparse : pusTcParse (some octets) octets.length with
  | .error _ => isFalse fun ⟨_, h, _⟩ => by rw [hparse] at h; cases h
  | .ok tc =>
    decidable_of_iff (tc.serviceType = pusServiceFunction ∧ tc.serviceSubtype = pusSt08Perform ∧
        applicationData tc = data)
      ⟨fun h => ⟨tc, hparse, h⟩, fun ⟨_, h, hrest⟩ => by rw [hparse] at h; cases h; exact hrest⟩

/-- What a stimulus writes to the heater. A minor cycle in NOMINAL mode between the two
thresholds writes nothing. -/
def heaterWrite (u : Obc) : Stimulus → Option Bool
  | .tick =>
    if (u.step .tick).obsw.state.mode = .safe then some false
    else if obcTempHeaterOffDc ≤ acquired u then some false
    else if acquired u ≤ obcTempHeaterOnDc then some true
    else none
  | .telecommand octets =>
    if Performs octets [obcFidSetMode, 0] then some false
    else if u.obsw.state.mode = .nominal ∧ Performs octets [obcFidSetHeater, 0] then some false
    else if u.obsw.state.mode = .nominal ∧ Performs octets [obcFidSetHeater, 1] then some true
    else none
  | .pop _ => none
  | .thermistor _ => none

theorem mode_safe_iff (u : Obc) :
    u.obsw.state.mode = .safe ↔ (regulator u).active = false := by
  change _ ↔ decide (u.obsw.state.mode = .nominal) = false
  cases u.obsw.state.mode <;> simp

theorem mode_nominal_iff (u : Obc) :
    u.obsw.state.mode = .nominal ↔ (regulator u).active = true := decide_eq_true_iff.symm

theorem written_cycle (r : Thermostat) (t : Int16) :
    r.written thresholds (.cycle t) =
      if (r.next thresholds (.cycle t)).active = false then some false
      else if obcTempHeaterOffDc ≤ t then some false
      else if t ≤ obcTempHeaterOnDc then some true
      else none := by
  have hhigh : thresholds.high = obcTempHeaterOffDc := rfl
  have hlow : thresholds.low = obcTempHeaterOnDc := rfl
  simp only [Thermostat.written, hhigh, hlow]

theorem written_requestInput (r : Thermostat) (read : Option Request) :
    r.written thresholds (requestInput read) =
      if read = some (.setMode .safe) then some false
      else if r.active = true ∧ read = some (.setHeater false) then some false
      else if r.active = true ∧ read = some (.setHeater true) then some true
      else none := by
  rcases read with _ | request
  · simp [requestInput, Thermostat.written]
  cases request with
  | setMode target => cases target <;> simp [requestInput, Thermostat.written]
  | setHeater on =>
    cases on <;> cases hactive : r.active <;> simp [requestInput, Thermostat.written, hactive]
  | switchHk | oneShotHk | switchEvents | injectTemperature | setTime | resetCounters
  | areYouAlive => simp [requestInput, Thermostat.written]

theorem heaterWrite_eq (u : Obc) (e : Stimulus) :
    heaterWrite u e = (regulator u).written thresholds (inputOf u e) := by
  cases e with
  | tick =>
    have hinput : inputOf u .tick = .cycle (acquired u) :=
      (inputOf_eq_cycle_iff u .tick _).mpr ⟨rfl, rfl⟩
    rw [hinput, written_cycle, ← hinput, ← regulator_step]
    simp only [heaterWrite, mode_safe_iff]
  | telecommand octets =>
    have hsafe : Performs octets [obcFidSetMode, 0] ↔ requested octets = some (.setMode .safe) :=
      (requested_setMode_iff .safe).symm
    have hoff : Performs octets [obcFidSetHeater, 0] ↔ requested octets = some (.setHeater false) :=
      (requested_setHeater_iff false).symm
    have hon : Performs octets [obcFidSetHeater, 1] ↔ requested octets = some (.setHeater true) :=
      (requested_setHeater_iff true).symm
    simp only [heaterWrite, hsafe, hoff, hon, mode_nominal_iff, inputOf, written_requestInput]
  | pop | thermistor => rfl

theorem regulator_heater (u : Obc) : (regulator u).heater = u.obsw.state.heaterOn := rfl

theorem off_regulator {u : Obc} (h : Safe u.obsw) : (regulator u).Off := by
  intro hinactive
  rw [← mode_safe_iff] at hinactive
  exact h.heater.off hinactive

theorem heaterOn_step {u : Obc} (h : Safe u.obsw) (e : Stimulus) :
    (u.step e).obsw.state.heaterOn = (heaterWrite u e).getD u.obsw.state.heaterOn := by
  rw [heaterWrite_eq]
  have hnext := Thermostat.next_heater thresholds (off_regulator h) (inputOf u e)
  rw [← regulator_step, regulator_heater, regulator_heater] at hnext
  exact hnext

theorem heaterOn_between {u : Obc} (hmode : u.obsw.state.mode = .nominal)
    (hon : obcTempHeaterOnDc < acquired u) (hoff : acquired u < obcTempHeaterOffDc) :
    (u.step .tick).obsw.state.heaterOn = u.obsw.state.heaterOn := by
  have hinput : inputOf u .tick = .cycle (acquired u) :=
    (inputOf_eq_cycle_iff u .tick _).mpr ⟨rfl, rfl⟩
  have hnext := Thermostat.next_heater_between thresholds ((mode_nominal_iff u).mp hmode) hon hoff
  rw [← hinput, ← regulator_step, regulator_heater, regulator_heater] at hnext
  exact hnext

theorem heater_attempted (u : Obc) (e : Stimulus) :
    eventsWith .heaterSwitched (attempted u e) =
      if (u.step e).obsw.state.heaterOn = u.obsw.state.heaterOn then []
      else [⟨pusSt05Informative, ObcEventId.heaterSwitched.code,
        (u.step e).obsw.state.heaterOn.toUInt16⟩] := by
  rw [eventsWith_attempted (.inr (.inl rfl)), eventsWith_heater, ← regulator_step]
  rfl

def HotCycle (u : Obc) (e : Stimulus) : Prop := e = .tick ∧ obcTempAlarmDc ≤ acquired u

/-- An accepted telecommand (8,1) with exactly this application data. -/
def Orders (data : List UInt8) : Stimulus → Prop
  | .telecommand octets => Performs octets data
  | _ => False

theorem inputOf_eq_setActive_iff (u : Obc) (e : Stimulus) (target : ObcMode) :
    inputOf u e = .setActive (decide (target = .nominal)) ↔
      Orders [obcFidSetMode, target.code.toUInt8] e := by
  cases e with
  | telecommand octets =>
    have hinput : requestInput (requested octets) = .setActive (decide (target = .nominal)) ↔
        requested octets = some (.setMode target) := by
      rcases requested octets with _ | request
      · simp [requestInput]
      cases request with
      | setMode m => cases m <;> cases target <;> simp [requestInput]
      | setHeater | switchHk | oneShotHk | switchEvents | injectTemperature | setTime
      | resetCounters | areYouAlive => simp [requestInput]
    exact hinput.trans (requested_setMode_iff target)
  | tick | pop | thermistor => simp [inputOf, Orders]

theorem mode_step (u : Obc) (e : Stimulus) :
    (u.step e).obsw.state.mode = .nominal ↔
      Orders [1, 1] e ∨ u.obsw.state.mode = .nominal ∧ ¬Orders [1, 0] e ∧ ¬HotCycle u e := by
  have hnominal : inputOf u e = .setActive true ↔ Orders [1, 1] e :=
    inputOf_eq_setActive_iff u e .nominal
  have hsafe : inputOf u e = .setActive false ↔ Orders [1, 0] e :=
    inputOf_eq_setActive_iff u e .safe
  have hcool : (∀ t, inputOf u e = .cycle t → t < thresholds.alarm) ↔ ¬HotCycle u e := by
    simp only [inputOf_eq_cycle_iff]
    constructor
    · rintro h ⟨htick, hhot⟩
      exact absurd hhot (not_le.mpr (h _ ⟨htick, rfl⟩))
    · rintro h t ⟨htick, rfl⟩
      exact not_le.mp fun hhot => h ⟨htick, hhot⟩
  rw [mode_nominal_iff, mode_nominal_iff, regulator_step, Thermostat.next_active_iff, hnominal,
    ne_eq, hsafe, hcool]

theorem mode_attempted (u : Obc) (e : Stimulus) :
    eventsWith .modeChanged (attempted u e) =
      if (u.step e).obsw.state.mode = u.obsw.state.mode then []
      else [⟨pusSt05Informative, ObcEventId.modeChanged.code,
        (u.step e).obsw.state.mode.code.toUInt16⟩] := by
  have hactive (m : Obc) : (regulator m).active = decide (m.obsw.state.mode = .nominal) := rfl
  rw [eventsWith_attempted (.inl rfl), eventsWith_active, ← regulator_step, hactive, hactive]
  cases (u.step e).obsw.state.mode <;> cases u.obsw.state.mode <;> rfl

end ObswPus.Autonomy
