import ObswPus.Telemetry.Drained

/-! # The ideal unit

What the on-board software is for, with the downlink left out: a stimulus changes the
controlled state and is answered with reports, each of which says its service, its subtype
and its source data. There is no queue that can be full, no counter and no packet. With its
queue emptied after every request, the unit is the ideal one.
-/
namespace ObswPus.System
open Flight Downlink Commanding Codec Library

/-- The source data of a housekeeping structure while `queued` packets are waiting. -/
def idealHkData (c : Control) (queued : ℕ) (sid : UInt8) : List UInt8 :=
  if sid = obcHkSidEssential then
    pusPutU8 sid ++ pusPutU8 c.state.mode.code.toUInt8 ++ pusPutU32 c.state.uptimeTicks ++
      pusPutI16 c.state.temperatureDc ++ pusPutU8 c.state.heaterOn.toUInt8
  else
    pusPutU8 sid ++ pusPutU16 c.state.tcAccepted ++ pusPutU16 c.state.tcRejected ++
      pusPutU16 c.state.lastFailureCode ++ pusPutU8 (UInt8.ofNat queued) ++ pusPutU16 0

def idealHk (c : Control) : ℕ → List UInt8 → List Content
  | _, [] => []
  | queued, sid :: sids =>
    (pusServiceHousekeeping, pusSt03Report, idealHkData c queued sid) ::
      idealHk c (queued + 1) sids

def contentsOf (rs : List Report) : List Content := rs.map Report.content

def enabledSids (c : Control) : List UInt8 :=
  hkSids.filter fun sid => c.svc03.enabled.get (sid.toNat - 1)

def idealTick (c : Control) : Control × List Content :=
  let monitored := monitorTemperature (acquire c)
  let thermal := contentsOf (thermalReports (acquire c))
  (stepPhase monitored,
    thermal ++
      if monitored.svc03.phase + 1 < obcHkPeriodTicks then []
      else idealHk (stepPhase monitored) thermal.length (enabledSids monitored))

/-- Whether a request is carried out: the heater is not commanded in SAFE mode. -/
def requestStatus (c : Control) : Except PusStatus Request → PusStatus
  | .error st => st
  | .ok (.setHeater _) => if c.state.mode = .safe then .notPermitted else .ok
  | .ok _ => .ok

/-- What a request is answered with by its service, behind `queued` reports. -/
def requestContents (c : Control) (queued : ℕ) : Except PusStatus Request → List Content
  | .ok (.oneShotHk sids) => idealHk c queued sids
  | .ok (.setMode target) => contentsOf (modeReports c target)
  | .ok (.setHeater on) => if c.state.mode = .safe then [] else contentsOf (heaterReports c on)
  | .ok .areYouAlive => [aliveReport.content]
  | _ => []

def idealTelecommand (c : Control) (octets : List UInt8) : Control × List Content :=
  match pusTcParse (some octets) octets.length with
  | .error st =>
    (countRejected c st,
      contentsOf (rejectionReport octets st :: failureEvents c.svc05 st))
  | .ok tc =>
    let accepted := countAccepted c
    let acceptance := contentsOf (acceptanceReports tc)
    let st := requestStatus accepted (readRequest tc)
    (if st = .ok then readControl accepted (readRequest tc) else keepFailure accepted st,
      acceptance ++ requestContents accepted acceptance.length (readRequest tc) ++
        contentsOf (closingReports c.svc05 tc st))

def idealAnswer (c : Control) : Stimulus → Control × List Content
  | .tick => idealTick c
  | .telecommand octets => idealTelecommand c octets
  | .pop _ => (c, [])
  | .thermistor valueDc => ({ c with hal := halInjectTemperature c.hal valueDc }, [])

/-- The controlled state together with everything reported so far. -/
structure IdealUnit where
  control : Control
  reported : List Content

def IdealUnit.step (i : IdealUnit) (e : Stimulus) : IdealUnit :=
  ⟨(idealAnswer i.control e).1, i.reported ++ (idealAnswer i.control e).2⟩

/-- After power-on: SAFE mode, the heater off, and one event reported. -/
def IdealUnit.initial : IdealUnit :=
  ⟨Commanding.control (cleared default),
    [(eventReport .bootCompleted pusSt05Informative 0).content]⟩

def idealAfter (stimuli : List Stimulus) : IdealUnit :=
  Run.run IdealUnit.step IdealUnit.initial stimuli

theorem content_hkReport {s : Obsw} (hzero : tmQueueOverflowCount s.queue = 0) (sid : UInt8) :
    (hkReport s sid).content = (pusServiceHousekeeping, pusSt03Report,
      idealHkData (control s) (tmQueueCount s.queue) sid) := by
  simp only [Report.content, hkReport, svc03Data, idealHkData, hzero, Commanding.control]

section Housekeeping
variable {s : Obsw} (hzero : tmQueueOverflowCount s.queue = 0) (sids : List UInt8)
  (hroom : s.queue.count + sids.length ≤ pusTmQueueDepth)
include hzero hroom

theorem contents_oneShotReports :
    contentsOf (oneShotReports s sids) = idealHk (control s) s.queue.count sids := by
  induction sids generalizing s with
  | nil => rfl
  | cons sid sids ih =>
    rw [List.length_cons] at hroom
    have hfree : s.queue.count < pusTmQueueDepth := by omega
    have hcount := count_emit_room s (hkReport s sid) hfree
    have hdrops := overflows_emit_room s (hkReport s sid) hfree
    have hrest := ih (hdrops.trans hzero) (by omega)
    rw [control_emit, hcount] at hrest
    rw [oneShotReports, if_pos hfree, idealHk, ← hrest, contentsOf, List.map_cons,
      content_hkReport hzero]
    rfl

theorem contents_periodicReports :
    contentsOf (periodicReports s sids) = idealHk (control s) s.queue.count
      (sids.filter fun sid => (control s).svc03.enabled.get (sid.toNat - 1)) := by
  induction sids generalizing s with
  | nil => rfl
  | cons sid sids ih =>
    rw [List.length_cons] at hroom
    have hfree : s.queue.count < pusTmQueueDepth := by omega
    have hflag : (control s).svc03.enabled.get (sid.toNat - 1) =
        s.svc03.enabled.get (sid.toNat - 1) := rfl
    rw [periodicReports, List.filter_cons, hflag]
    cases s.svc03.enabled.get (sid.toNat - 1) with
    | false => exact ih hzero (by omega)
    | true =>
      have hcount := count_emit_room s (hkReport s sid) hfree
      have hdrops := overflows_emit_room s (hkReport s sid) hfree
      have hrest := ih (hdrops.trans hzero) (by omega)
      rw [control_emit, hcount] at hrest
      simp only [ne_eq, Bool.true_eq_false, not_false_eq_true, if_true, idealHk]
      rw [← hrest, contentsOf, List.map_cons, content_hkReport hzero]
      rfl

end Housekeeping

end ObswPus.System
