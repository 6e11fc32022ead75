import ObswPus.Commanding.Effect
import ObswPus.Library.Thermostat

/-! # Mode, heater and alarm as a thermostat

The part of the unit that acts on its own: NOMINAL mode is active regulation, and
each stimulus is an input to the thermostat. The flight software refines it, in any
state and for any octets as a telecommand.
-/
namespace ObswPus.Autonomy
open Flight Downlink Commanding Library

instance int16LinearOrder : LinearOrder Int16 where
  le_refl := Int16.le_refl
  le_trans _ _ _ := Int16.le_trans
  le_antisymm _ _ := Int16.le_antisymm
  le_total := Int16.le_total
  lt_iff_le_not_ge a b := by
    rw [Int16.not_le]
    exact ⟨fun h => ⟨Int16.le_of_lt h, h⟩, fun h => h.2⟩
  toDecidableLE := inferInstance
  toDecidableLT := inferInstance

def thresholds : Thresholds Int16 :=
  { low := obcTempHeaterOnDc
    high := obcTempHeaterOffDc
    alarm := obcTempAlarmDc
    high_le_alarm := by decide }

def regulatorOf (c : Control) : Thermostat :=
  { active := decide (c.state.mode = .nominal)
    heater := c.state.heaterOn
    latched := c.alarmLatched }

section Transitions
variable (c : Control)

theorem regulatorOf_switchHeater (on : Bool) :
    regulatorOf (switchHeater c on) = { regulatorOf c with heater := on } := by
  unfold switchHeater
  split
  · rename_i hsame
    rw [hsame]
    rfl
  · rfl

theorem regulatorOf_switchMode (target : ObcMode) :
    regulatorOf (switchMode c target) =
      (regulatorOf c).next thresholds (.setActive (decide (target = .nominal))) := by
  have hsame : (decide (target = .nominal) = (regulatorOf c).active) = (target = c.state.mode) := by
    cases target <;> cases hmode : c.state.mode <;> simp [regulatorOf, hmode]
  simp only [Thermostat.next, hsame]
  unfold switchMode
  by_cases htarget : target = c.state.mode
  · simp only [if_pos htarget]
  · simp only [if_neg htarget]
    cases target with
    | safe =>
      rw [if_pos rfl, regulatorOf_switchHeater]
      rfl
    | nominal => rfl

theorem regulatorOf_setHeater (on : Bool) :
    regulatorOf ((Request.setHeater on).control c) =
      (regulatorOf c).next thresholds (.setHeater on) := by
  have hactive : (regulatorOf c).active = decide (c.state.mode = .nominal) := rfl
  simp only [Request.control, Thermostat.next, hactive]
  cases hmode : c.state.mode with
  | safe => rfl
  | nominal =>
    simp only [reduceCtorEq, if_false, decide_true, if_true, regulatorOf_switchHeater, hactive,
      hmode]

theorem regulatorOf_regulate :
    regulatorOf (regulate c) =
      { active := (regulatorOf c).active && decide (c.state.temperatureDc < thresholds.alarm)
        heater := ((regulatorOf c).active && decide (c.state.temperatureDc < thresholds.alarm)) &&
          Thermostat.regulated thresholds c.state.heaterOn c.state.temperatureDc
        latched := c.alarmLatched ||
          ((regulatorOf c).active && decide (thresholds.alarm ≤ c.state.temperatureDc)) } := by
  have hactive : (regulatorOf c).active = decide (c.state.mode = .nominal) := rfl
  simp only [regulate, hactive, ge_iff_le]
  cases hmode : c.state.mode with
  | safe =>
    simp only [reduceCtorEq, if_false, regulatorOf_switchHeater]
    simp [regulatorOf, hmode]
  | nominal =>
    have halarm : thresholds.alarm = obcTempAlarmDc := rfl
    have hhigh : thresholds.high = obcTempHeaterOffDc := rfl
    have hlow : thresholds.low = obcTempHeaterOnDc := rfl
    simp only [if_true, Thermostat.regulated, halarm, hhigh, hlow]
    by_cases htrip : obcTempAlarmDc ≤ c.state.temperatureDc
    · simp only [if_pos htrip, regulatorOf_switchMode]
      simp [htrip, not_lt.mpr htrip, Thermostat.next, regulatorOf, hmode]
    · simp only [if_neg htrip]
      split_ifs
      · rw [regulatorOf_switchHeater]
        simp [htrip, not_le.mp htrip, regulatorOf, hmode]
      · rw [regulatorOf_switchHeater]
        simp [htrip, not_le.mp htrip, regulatorOf, hmode]
      · simp [htrip, not_le.mp htrip, regulatorOf, hmode]

theorem regulatorOf_monitorTemperature :
    regulatorOf (monitorTemperature c) =
      (regulatorOf c).next thresholds (.cycle c.state.temperatureDc) := by
  have hrearm : regulatorOf (monitorTemperature c) =
      { regulatorOf (regulate c) with
        latched := decide (thresholds.high ≤ c.state.temperatureDc) &&
          (regulatorOf (regulate c)).latched } := by
    have hhigh : thresholds.high = obcTempHeaterOffDc := rfl
    unfold monitorTemperature
    split
    · rename_i hcool
      simp [hhigh, not_le.mpr hcool, regulatorOf]
    · rename_i hwarm
      simp [hhigh, not_lt.mp hwarm]
  have hlatched : (regulatorOf c).latched = c.alarmLatched := rfl
  rw [hrearm, regulatorOf_regulate]
  simp only [Thermostat.next, Thermostat.Raises, hlatched]
  cases c.alarmLatched <;> simp [regulatorOf]

end Transitions

/-- The request that a telecommand reads as, if its packet is accepted. -/
def requested (octets : List UInt8) : Option Request :=
  match pusTcParse (some octets) octets.length with
  | .error _ => none
  | .ok tc => (readRequest tc).toOption

/-- What a request is to the thermostat. -/
def requestInput : Option Request → Thermostat.Input Int16
  | some (.setMode target) => .setActive (decide (target = .nominal))
  | some (.setHeater on) => .setHeater on
  | _ => .idle

/-- What a stimulus is to the thermostat: a minor cycle acquires the injected temperature. -/
def inputOf (u : Obc) : Stimulus → Thermostat.Input Int16
  | .tick => .cycle u.obsw.hal.temperatureDc
  | .telecommand octets => requestInput (requested octets)
  | .pop _ => .idle
  | .thermistor _ => .idle

def regulator (u : Obc) : Thermostat := regulatorOf (Commanding.control u.obsw)

theorem regulatorOf_readControl (c : Control) (read : Except PusStatus Request) :
    regulatorOf (readControl c read) =
      (regulatorOf c).next thresholds (requestInput read.toOption) := by
  rcases read with st | request
  · rfl
  cases request with
  | setMode target => exact regulatorOf_switchMode c target
  | setHeater on => exact regulatorOf_setHeater c on
  | switchHk | oneShotHk | switchEvents | injectTemperature | setTime | resetCounters
  | areYouAlive => rfl

theorem regulatorOf_tcEffect (c : Control) (octets : List UInt8) :
    regulatorOf (tcEffect c octets) =
      (regulatorOf c).next thresholds (requestInput (requested octets)) := by
  unfold tcEffect requested
  rcases pusTcParse (some octets) octets.length with st | tc
  · rfl
  · exact regulatorOf_readControl (countAccepted c) (readRequest tc)

/-- The flight software refines the thermostat, step by step. -/
theorem regulator_step (u : Obc) (e : Stimulus) :
    regulator (u.step e) = (regulator u).next thresholds (inputOf u e) := by
  unfold regulator
  cases e with
  | tick =>
    rw [obsw_tick, control_obcTick]
    exact regulatorOf_monitorTemperature (acquire (Commanding.control u.obsw))
  | telecommand octets =>
    obtain ⟨code, hcode⟩ := control_obcProcessTc u.obsw octets
    rw [obsw_telecommand, hcode]
    exact regulatorOf_tcEffect (Commanding.control u.obsw) octets
  | pop buf =>
    rw [obsw_pop]
    rfl
  | thermistor valueDc =>
    rw [obsw_thermistor]
    rfl

theorem regulator_powerOn (s : Obsw) :
    regulator (powerOn s) = { active := false, heater := false, latched := false } := by
  rw [regulator, powerOn, obcInit_eq, control_emit]
  rfl

end ObswPus.Autonomy
