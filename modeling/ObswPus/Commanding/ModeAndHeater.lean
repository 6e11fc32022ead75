import ObswPus.Commanding.Reports
import ObswPus.Flight.ObcApp

/-! # Mode and heater transitions

The two transitions that commanding and monitoring share, first as what they do to
the controlled state and which reports they cause, then as what the flight code
computes. Monitoring (`obc_thermal_control`) is built from the same two.
-/
namespace ObswPus.Commanding
open Flight Downlink

def switchHeater (c : Control) (on : Bool) : Control :=
  if on = c.state.heaterOn then c
  else { c with hal := halSetHeater c.hal on, state := { c.state with heaterOn := on } }

def heaterReports (c : Control) (on : Bool) : List Report :=
  if on = c.state.heaterOn then []
  else eventReports c.svc05 .heaterSwitched pusSt05Informative on.toUInt16

def switchMode (c : Control) (target : ObcMode) : Control :=
  if target = c.state.mode then c
  else if target = .safe then
    switchHeater { c with state := { c.state with mode := target } } false
  else { c with state := { c.state with mode := target } }

def modeReports (c : Control) (target : ObcMode) : List Report :=
  if target = c.state.mode then []
  else (if target = .safe then heaterReports c false else []) ++
    eventReports c.svc05 .modeChanged pusSt05Informative target.code.toUInt16

theorem length_heaterReports_le (c : Control) (on : Bool) : (heaterReports c on).length ≤ 1 := by
  unfold heaterReports
  split
  · simp
  · exact length_eventReports_le _ _ _ _

theorem length_modeReports_le (c : Control) (target : ObcMode) :
    (modeReports c target).length ≤ 2 := by
  unfold modeReports
  split
  · simp
  have hevent := length_eventReports_le c.svc05 .modeChanged pusSt05Informative
    target.code.toUInt16
  have hheater := length_heaterReports_le c false
  rw [List.length_append]
  split
  · omega
  · rw [List.length_nil]
    omega

theorem evolves_obcApplyHeater (s : Obsw) (on : Bool) :
    Evolves s (obcApplyHeater s on) (switchHeater (control s) on)
      (heaterReports (control s) on) := by
  refine Evolves.ite (fun _ => Evolves.refl s) fun _ => ?_
  let m : Obsw := { s with hal := halSetHeater s.hal on, state := { s.state with heaterOn := on } }
  have hwrite : SameDownlink s m := ⟨rfl, rfl, rfl, rfl⟩
  exact (Evolves.write hwrite).event .heaterSwitched pusSt05Informative _ (by decide)

@[simp] theorem switchHeater_svc05 (c : Control) (on : Bool) :
    (switchHeater c on).svc05 = c.svc05 := by
  unfold switchHeater
  split <;> rfl

@[simp] theorem switchMode_svc05 (c : Control) (target : ObcMode) :
    (switchMode c target).svc05 = c.svc05 := by
  unfold switchMode
  split_ifs
  · rfl
  · exact switchHeater_svc05 _ _
  · rfl

@[simp] theorem ObcMode.ofCode_code (mode : ObcMode) : ObcMode.ofCode mode.code = some mode := by
  cases mode <;> rfl

section SetMode
variable (s : Obsw) (target : ObcMode)

theorem obcSetMode_status : (obcSetMode s target.code).1 = .ok := by
  simp only [obcSetMode, ObcMode.ofCode_code]
  split <;> rfl

theorem evolves_obcSetMode :
    Evolves s (obcSetMode s target.code).2 (switchMode (control s) target)
      (modeReports (control s) target) := by
  have hcode : (obcSetMode s target.code).2 = if target = s.state.mode then s else
      (svc05Report
        (if target = .safe then
          obcApplyHeater { s with state := { s.state with mode := target } } false
        else { s with state := { s.state with mode := target } })
        ObcEventId.modeChanged.code pusSt05Informative target.code.toUInt16).2 := by
    simp only [obcSetMode, ObcMode.ofCode_code]
    split <;> rfl
  rw [hcode]
  refine Evolves.ite (fun _ => Evolves.refl s) fun _ => ?_
  let m : Obsw := { s with state := { s.state with mode := target } }
  have hwrite : SameDownlink s m := ⟨rfl, rfl, rfl, rfl⟩
  by_cases hsafe : target = .safe
  · simp only [if_pos hsafe]
    -- The heater report goes out in the new mode, before the mode report.
    have hheater := (Evolves.write hwrite).trans (evolves_obcApplyHeater m false)
    have hevent := hheater.event .modeChanged pusSt05Informative target.code.toUInt16 (by decide)
    rw [switchHeater_svc05] at hevent
    exact hevent
  · simp only [if_neg hsafe]
    exact (Evolves.write hwrite).event .modeChanged pusSt05Informative _ (by decide)

end SetMode

end ObswPus.Commanding
