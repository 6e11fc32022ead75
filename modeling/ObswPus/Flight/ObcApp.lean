import ObswPus.Flight.Services
import ObswPus.Library.Run

/-! # Application layer

Initialisation, telecommand processing and the minor cycle of `obc_app.c`, and
the whole unit as a machine driven by its environment.
-/
namespace ObswPus.Flight
open Library

def obcInit (s : Obsw) : Obsw :=
  let s := { s with
    hal := halTimeInit
    queue := tmQueueInit s.queue
    tm := pusTmReset
    svc03 := svc03Init
    svc05 := svc05Init
    history := [] }
  let s := { s with state :=
    { mode := .safe
      uptimeTicks := 0
      temperatureDc := halReadTemperature s.hal
      heaterOn := false
      tcAccepted := 0
      tcRejected := 0
      lastFailureCode := 0 } }
  let s := { s with
    hal := halSetHeater s.hal false
    alarmLatched := false
    lastOverflow := 0 }
  (svc05Report s ObcEventId.bootCompleted.code pusSt05Informative 0).2

def obcRoute (s : Obsw) (tc : PusTc) : PusStatus × Obsw :=
  if tc.serviceType = pusServiceHousekeeping then svc03Handle s (some tc)
  else if tc.serviceType = pusServiceEvent then svc05Handle s (some tc)
  else if tc.serviceType = pusServiceFunction then svc08Handle s (some tc)
  else if tc.serviceType = pusServiceTest then svc17Handle s (some tc)
  else (.unknownService, s)

/-- `if (c < 0xFFFFu) c = c + 1`. -/
def saturatingSucc (c : UInt16) : UInt16 := if c < 0xFFFF then c + 1 else c

def obcProcessTc (s : Obsw) (buf : Option (List UInt8)) (len : ℕ) : PusStatus × Obsw :=
  match pusTcParse buf len with
  | .error st =>
    let s := { s with state := { s.state with
      tcRejected := saturatingSucc s.state.tcRejected
      lastFailureCode := st.code } }
    let s := (svc01RejectRaw s buf len st).2
    let s := (svc05Report s ObcEventId.tcRejected.code pusSt05LowSeverity st.code).2
    (st, s)
  | .ok tc =>
    let s := { s with state := { s.state with tcAccepted := saturatingSucc s.state.tcAccepted } }
    let s := (svc01AcceptanceSuccess s (some tc)).2
    let routed := obcRoute s tc
    let st := routed.1
    let s := routed.2
    if st = .ok then (st, (svc01CompletionSuccess s (some tc)).2)
    else
      let s := { s with state := { s.state with lastFailureCode := st.code } }
      let s := (svc01CompletionFailure s (some tc) st).2
      let s := (svc05Report s ObcEventId.tcRejected.code pusSt05LowSeverity st.code).2
      (st, s)

/-- Between the two switching thresholds the heater line is left as it is. -/
def obcThermalControl (s : Obsw) : Obsw :=
  let t := s.state.temperatureDc
  let s :=
    if s.state.mode = .nominal then
      if t ≥ obcTempAlarmDc then
        let s :=
          if s.alarmLatched = false then
            let s := { s with alarmLatched := true }
            (svc05Report s ObcEventId.tempAlarm.code pusSt05HighSeverity t.toUInt16).2
          else s
        (obcSetMode s ObcMode.safe.code).2
      else if t ≥ obcTempHeaterOffDc then obcApplyHeater s false
      else if t ≤ obcTempHeaterOnDc then obcApplyHeater s true
      else s
    else obcApplyHeater s false
  if t < obcTempHeaterOffDc then { s with alarmLatched := false } else s

/-- The start of a minor cycle: time and uptime advance, the temperature is acquired. -/
def obcAcquire (s : Obsw) : Obsw :=
  let s := { s with hal := halTimeAdvance s.hal }
  { s with state := { s.state with
    uptimeTicks := s.state.uptimeTicks + 1
    temperatureDc := halReadTemperature s.hal } }

/-- The queue cannot report its own overflow, so the counter is sampled once per cycle. -/
def obcSampleOverflow (s : Obsw) : Obsw :=
  let overflows := tmQueueOverflowCount s.queue
  if overflows ≠ s.lastOverflow then
    let s := { s with lastOverflow := overflows }
    (svc05Report s ObcEventId.tmQueueOverflow.code pusSt05LowSeverity overflows).2
  else s

def obcTick (s : Obsw) : Obsw :=
  let s := obcAcquire s
  let s := obcThermalControl s
  let s := obcSampleOverflow s
  svc03Tick s

/-- What the environment can do: let a minor cycle pass, uplink any octets, take a
packet into a buffer, or change the thermistor reading. -/
inductive Stimulus where
  | tick
  | telecommand (octets : List UInt8)
  | pop (buf : List UInt8)
  | thermistor (valueDc : Int16)
  deriving DecidableEq

/-- The flight software together with the packets taken from the queue so far. -/
structure Obc where
  obsw : Obsw
  delivered : List (List UInt8)

def Obc.step (u : Obc) : Stimulus → Obc
  | .tick => { u with obsw := obcTick u.obsw }
  | .telecommand octets =>
    { u with obsw := (obcProcessTc u.obsw (some octets) octets.length).2 }
  | .pop buf =>
    let popped := tmQueuePop u.obsw.queue (some buf) buf.length (some 0)
    { obsw := { u.obsw with queue := popped.queue }
      delivered :=
        if popped.status = .ok then
          u.delivered ++ [(popped.buf.getD []).take (popped.outLen.getD 0)]
        else u.delivered }
  | .thermistor valueDc =>
    { u with obsw := { u.obsw with hal := halInjectTemperature u.obsw.hal valueDc } }

/-- The unit after `obc_init`, whatever its statics held before. -/
def powerOn (s : Obsw) : Obc := { obsw := obcInit s, delivered := [] }

/-- The unit after `obc_init` and a sequence of stimuli. -/
def after (s : Obsw) (stimuli : List Stimulus) : Obc := Run.run Obc.step (powerOn s) stimuli

end ObswPus.Flight
