import ObswPus.Flight.Reports

/-! # Mode and heater control

The part of `obc_app.c` that owns the operating mode and the heater line, below
the services that command them.
-/
namespace ObswPus.Flight

def obcResetCounters (s : Obsw) : Obsw :=
  { s with state := { s.state with tcAccepted := 0, tcRejected := 0, lastFailureCode := 0 } }

/-- Single point of control for the heater line, its mirror and its event. -/
def obcApplyHeater (s : Obsw) (on : Bool) : Obsw :=
  if on = s.state.heaterOn then s
  else
    let s := { s with hal := halSetHeater s.hal on }
    let s := { s with state := { s.state with heaterOn := on } }
    (svc05Report s ObcEventId.heaterSwitched.code pusSt05Informative on.toUInt16).2

def obcSetHeater (s : Obsw) (on : Bool) : PusStatus × Obsw :=
  if s.state.mode = .safe then (.notPermitted, s)
  else (.ok, obcApplyHeater s (if on ≠ false then true else false))

/-- The target mode arrives as the number it is range-checked as. -/
def obcSetMode (s : Obsw) (mode : UInt32) : PusStatus × Obsw :=
  match ObcMode.ofCode mode with
  | none => (.badParameter, s)
  | some target =>
    if target = s.state.mode then (.ok, s)
    else
      let s := { s with state := { s.state with mode := target } }
      let s := if target = .safe then obcApplyHeater s false else s
      (.ok, (svc05Report s ObcEventId.modeChanged.code pusSt05Informative mode.toUInt16).2)

end ObswPus.Flight
