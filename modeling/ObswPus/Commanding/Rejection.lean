import ObswPus.Commanding.Effect

/-! # Telecommands that fail

Whatever makes a telecommand fail, an acceptance check or its execution, it leaves
behind one counted telecommand and its failure code, and nothing else outside the
downlink path.
-/
namespace ObswPus.Commanding
open Flight Downlink

theorem control_failed {s : Obsw} (octets : List UInt8)
    (h : (obcProcessTc s (some octets) octets.length).1 ≠ .ok) :
    control (obcProcessTc s (some octets) octets.length).2 =
      keepFailure (tcControl (control s) octets)
        (obcProcessTc s (some octets) octets.length).1 := by
  rcases hparse : pusTcParse (some octets) octets.length with st | tc
  · rw [(evolves_obcProcessTc_rejected hparse).controlled, obcProcessTc_rejected_status hparse]
    simp only [tcControl, hparse]
    rfl
  · rw [(evolves_obcProcessTc_routed hparse).controlled]
    rw [obcProcessTc_routed_status hparse] at h ⊢
    simp only [tcControl, hparse, if_neg h]

theorem lastOverflow_obcProcessTc (s : Obsw) (octets : List UInt8) :
    (obcProcessTc s (some octets) octets.length).2.lastOverflow = s.lastOverflow := by
  obtain ⟨c, rs, hevolves, -⟩ := evolves_obcProcessTc s octets
  exact hevolves.emits.lastOverflow

theorem toNat_saturatingSucc (v : UInt16) :
    (saturatingSucc v).toNat = min (v.toNat + 1) 0xFFFF := by
  have hv := v.toNat_lt
  unfold saturatingSucc
  split
  · rename_i hlt
    have hlt' : v.toNat < 0xFFFF := UInt16.lt_iff_toNat_lt.mp hlt
    rw [UInt16.toNat_add, UInt16.toNat_one, Nat.mod_eq_of_lt (by omega)]
    omega
  · rename_i hge
    have hge' : ¬ v.toNat < 0xFFFF := fun hlt => hge (UInt16.lt_iff_toNat_lt.mpr hlt)
    omega

def CountedOnce (before after : UInt16) : Prop := after.toNat = min (before.toNat + 1) 0xFFFF

/-- All that a failed telecommand may leave behind, status `r.1` and state `r.2`. -/
structure OnlyCounted (s : Obsw) (r : PusStatus × Obsw) : Prop where
  mode : r.2.state.mode = s.state.mode
  uptimeTicks : r.2.state.uptimeTicks = s.state.uptimeTicks
  temperatureDc : r.2.state.temperatureDc = s.state.temperatureDc
  heaterOn : r.2.state.heaterOn = s.state.heaterOn
  heaterLine : halGetHeater r.2.hal = halGetHeater s.hal
  ticks : r.2.hal.ticks = s.hal.ticks
  epochCoarse : r.2.hal.epochCoarse = s.hal.epochCoarse
  epochFine : r.2.hal.epochFine = s.hal.epochFine
  injectedTemperature : r.2.hal.temperatureDc = s.hal.temperatureDc
  alarmLatched : r.2.alarmLatched = s.alarmLatched
  lastOverflow : r.2.lastOverflow = s.lastOverflow
  housekeeping : r.2.svc03.enabled = s.svc03.enabled ∧ r.2.svc03.phase = s.svc03.phase
  events : r.2.svc05.enabled = s.svc05.enabled
  counted :
    (CountedOnce s.state.tcAccepted r.2.state.tcAccepted ∧
        r.2.state.tcRejected = s.state.tcRejected) ∨
      (r.2.state.tcAccepted = s.state.tcAccepted ∧
        CountedOnce s.state.tcRejected r.2.state.tcRejected)
  lastFailureCode : r.2.state.lastFailureCode = r.1.code

theorem tcControl_counted (c : Control) (octets : List UInt8) :
    ∃ accepted rejected code, tcControl c octets =
        { c with state := { c.state with
            tcAccepted := accepted, tcRejected := rejected, lastFailureCode := code } } ∧
      ((CountedOnce c.state.tcAccepted accepted ∧ rejected = c.state.tcRejected) ∨
        (accepted = c.state.tcAccepted ∧ CountedOnce c.state.tcRejected rejected)) := by
  unfold tcControl
  split
  · exact ⟨_, _, _, rfl, .inr ⟨rfl, toNat_saturatingSucc _⟩⟩
  · exact ⟨_, _, _, rfl, .inl ⟨toNat_saturatingSucc _, rfl⟩⟩

theorem onlyCounted_of_control {s : Obsw} {r : PusStatus × Obsw} {octets : List UInt8}
    (h : control r.2 = keepFailure (tcControl (control s) octets) r.1)
    (hoverflow : r.2.lastOverflow = s.lastOverflow) : OnlyCounted s r := by
  obtain ⟨accepted, rejected, code, hcontrol, hcounted⟩ := tcControl_counted (control s) octets
  rw [hcontrol] at h
  have hhal : r.2.hal = s.hal := congrArg Control.hal h
  have hsvc03 : r.2.svc03 = s.svc03 := congrArg Control.svc03 h
  have hsvc05 : r.2.svc05 = s.svc05 := congrArg Control.svc05 h
  have hstate : r.2.state = { s.state with
      tcAccepted := accepted, tcRejected := rejected, lastFailureCode := r.1.code } :=
    congrArg Control.state h
  exact
    { mode := by rw [hstate]
      uptimeTicks := by rw [hstate]
      temperatureDc := by rw [hstate]
      heaterOn := by rw [hstate]
      heaterLine := by rw [hhal]
      ticks := by rw [hhal]
      epochCoarse := by rw [hhal]
      epochFine := by rw [hhal]
      injectedTemperature := by rw [hhal]
      alarmLatched := congrArg Control.alarmLatched h
      lastOverflow := hoverflow
      housekeeping := by rw [hsvc03]; exact ⟨rfl, rfl⟩
      events := by rw [hsvc05]
      counted := by rw [hstate]; exact hcounted
      lastFailureCode := by rw [hstate] }

/-- A rejected or failed telecommand changes nothing but one counter and the failure code. -/
theorem failed_telecommand_only_counted (s : Obsw) (stimuli : List Stimulus)
    (octets : List UInt8)
    (h : (obcProcessTc (after s stimuli).obsw (some octets) octets.length).1 ≠ .ok) :
    OnlyCounted (after s stimuli).obsw
      (obcProcessTc (after s stimuli).obsw (some octets) octets.length) :=
  onlyCounted_of_control (control_failed octets h)
    (lastOverflow_obcProcessTc _ octets)

/-- The command of a mode that does not exist, with acknowledgement of acceptance and completion. -/
def unknownModeTelecommand : List UInt8 := [24, 12, 192, 5, 0, 8, 41, 8, 1, 0, 1, 1, 7, 164, 132]

/-- It is accepted and fails in its service, in NOMINAL mode and with the heater on. -/
theorem failed_telecommand_only_counted_mode :
    let u := after default [.telecommand nominalTelecommand, .thermistor 20, .tick]
    u.obsw.state.heaterOn = true ∧
      (obcProcessTc u.obsw (some unknownModeTelecommand) 15).1 = .badParameter ∧
      OnlyCounted u.obsw (obcProcessTc u.obsw (some unknownModeTelecommand) 15) := by
  have hheater : (after default
      [.telecommand nominalTelecommand, .thermistor 20, .tick]).obsw.state.heaterOn = true := by
    decide +kernel
  have hstatus : (obcProcessTc (after default
      [.telecommand nominalTelecommand, .thermistor 20, .tick]).obsw
      (some unknownModeTelecommand) unknownModeTelecommand.length).1 = .badParameter := by
    decide +kernel
  exact ⟨hheater, hstatus, failed_telecommand_only_counted default
    [.telecommand nominalTelecommand, .thermistor 20, .tick] unknownModeTelecommand
      (hstatus ▸ by decide)⟩

end ObswPus.Commanding
