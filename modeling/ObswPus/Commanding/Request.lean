import ObswPus.Commanding.ModeAndHeater

/-! # Telecommands as requests

What a telecommand asks for, once its application data has been checked, and what
executing it amounts to: a status, a change of the controlled state, and a list of
reports. The service handlers are proved to refine this.
-/
namespace ObswPus.Commanding
open Flight Downlink Library

inductive Request where
  | switchHk (sids : List UInt8) (on : Bool)
  | oneShotHk (sids : List UInt8)
  | switchEvents (ids : List UInt16) (on : Bool)
  | setMode (target : ObcMode)
  | setHeater (on : Bool)
  | injectTemperature (valueDc : Int16)
  | setTime (coarse : UInt32) (fine : UInt16)
  | resetCounters
  | areYouAlive
  deriving DecidableEq

def listCount (tc : PusTc) : ℕ := (pusGetU8 (tc.appDataAt 0)).toNat

def sidAt (tc : PusTc) (i : ℕ) : UInt8 := pusGetU8 (tc.appDataAt (1 + i))

def eventIdAt (tc : PusTc) (i : ℕ) : UInt16 := pusGetU16 (tc.appDataAt (1 + i * 2))

def listedSids (tc : PusTc) : List UInt8 := (List.range (listCount tc)).map (sidAt tc)

def listedEvents (tc : PusTc) : List UInt16 := (List.range (listCount tc)).map (eventIdAt tc)

/-- The checks on a list of identifiers of `width` octets each. -/
def checkList {α : Type} (tc : PusTc) (width : ℕ) (ids : List α) (valid : α → Bool)
    (unknown : PusStatus) : Except PusStatus (List α) :=
  if tc.appDataLen < 1 ∨ tc.appDataLen ≠ 1 + listCount tc * width then .error .badLength
  else if listCount tc = 0 then .error .badParameter
  else if ids.any (fun id => !valid id) then .error unknown
  else .ok ids

def checkSids (tc : PusTc) : Except PusStatus (List UInt8) :=
  checkList tc 1 (listedSids tc) svc03SidValid .unknownSid

def checkEvents (tc : PusTc) : Except PusStatus (List UInt16) :=
  checkList tc 2 (listedEvents tc) svc05IdValid .unknownEvent

def readHousekeeping (tc : PusTc) : Except PusStatus Request :=
  if tc.serviceSubtype = pusSt03Enable then (checkSids tc).map (.switchHk · true)
  else if tc.serviceSubtype = pusSt03Disable then (checkSids tc).map (.switchHk · false)
  else if tc.serviceSubtype = pusSt03OneShot then (checkSids tc).map .oneShotHk
  else .error .unknownSubtype

def readEvent (tc : PusTc) : Except PusStatus Request :=
  if tc.serviceSubtype = pusSt05Disable then (checkEvents tc).map (.switchEvents · false)
  else if tc.serviceSubtype = pusSt05Enable then (checkEvents tc).map (.switchEvents · true)
  else .error .unknownSubtype

def readSetMode (tc : PusTc) : Except PusStatus Request :=
  match ObcMode.ofCode (pusGetU8 (tc.appDataAt 1)).toUInt32 with
  | none => .error .badParameter
  | some target => .ok (.setMode target)

def readSetHeater (tc : PusTc) : Except PusStatus Request :=
  if 1 < pusGetU8 (tc.appDataAt 1) then .error .badParameter
  else .ok (.setHeater (decide (pusGetU8 (tc.appDataAt 1) ≠ 0)))

/-- A function identifier with the number of argument octets that it takes. -/
def readArguments (tc : PusTc) (argLen : ℕ) (read : Except PusStatus Request) :
    Except PusStatus Request :=
  if tc.appDataLen - 1 ≠ argLen then .error .badLength else read

def readFunction (tc : PusTc) : Except PusStatus Request :=
  let fid := pusGetU8 (tc.appDataAt 0)
  if tc.serviceSubtype ≠ pusSt08Perform then .error .unknownSubtype
  else if tc.appDataLen < 1 then .error .badLength
  else if fid = obcFidSetMode then readArguments tc 1 (readSetMode tc)
  else if fid = obcFidSetHeater then readArguments tc 1 (readSetHeater tc)
  else if fid = obcFidInjectTemp then
    readArguments tc 2 (.ok (.injectTemperature (pusGetI16 (tc.appDataAt 1))))
  else if fid = obcFidSetTime then
    readArguments tc 6
      (.ok (.setTime (pusGetU32 (tc.appDataAt 1)) (pusGetU16 (tc.appDataAt 5))))
  else if fid = obcFidResetCounters then readArguments tc 0 (.ok .resetCounters)
  else .error .unknownFunction

def readTest (tc : PusTc) : Except PusStatus Request :=
  if tc.serviceSubtype ≠ pusSt17AreYouAlive then .error .unknownSubtype
  else if tc.appDataLen ≠ 0 then .error .badLength
  else .ok .areYouAlive

def readRequest (tc : PusTc) : Except PusStatus Request :=
  if tc.serviceType = pusServiceHousekeeping then readHousekeeping tc
  else if tc.serviceType = pusServiceEvent then readEvent tc
  else if tc.serviceType = pusServiceFunction then readFunction tc
  else if tc.serviceType = pusServiceTest then readTest tc
  else .error .unknownService

structure Outcome where
  status : PusStatus
  control : Control
  reports : List Report

/-- The reports of a one-shot request: one per listed structure, each generated in the
state that the one before has left, up to the first that finds the queue full. -/
def oneShotReports : Obsw → List UInt8 → List Report
  | _, [] => []
  | s, sid :: sids =>
    hkReport s sid ::
      if s.queue.count < pusTmQueueDepth then oneShotReports (emit s (hkReport s sid)) sids else []

def switchHk (c : Control) (sids : List UInt8) (on : Bool) : Control :=
  { c with svc03 := { c.svc03 with
      enabled := sids.foldl (fun flags sid => flags.set (sid.toNat - 1) on) c.svc03.enabled } }

def switchEvents (c : Control) (ids : List UInt16) (on : Bool) : Control :=
  { c with svc05 := { c.svc05 with
      enabled := ids.foldl (fun flags id => flags.set (id.toNat - 1) on) c.svc05.enabled } }

def resetCounters (c : Control) : Control :=
  { c with state := { c.state with tcAccepted := 0, tcRejected := 0, lastFailureCode := 0 } }

def freeSlots (s : Obsw) : ℕ := pusTmQueueDepth - s.queue.count

def Request.outcome (s : Obsw) : Request → Outcome
  | .switchHk sids on => ⟨.ok, Commanding.switchHk (control s) sids on, []⟩
  | .oneShotHk sids =>
    ⟨if sids.length ≤ freeSlots s then .ok else .queueFull, control s, oneShotReports s sids⟩
  | .switchEvents ids on => ⟨.ok, Commanding.switchEvents (control s) ids on, []⟩
  | .setMode target => ⟨.ok, switchMode (control s) target, modeReports (control s) target⟩
  | .setHeater on =>
    if s.state.mode = .safe then ⟨.notPermitted, control s, []⟩
    else ⟨.ok, switchHeater (control s) on, heaterReports (control s) on⟩
  | .injectTemperature valueDc =>
    ⟨.ok, { control s with hal := halInjectTemperature s.hal valueDc }, []⟩
  | .setTime coarse fine => ⟨.ok, { control s with hal := halSetCucTime s.hal coarse fine }, []⟩
  | .resetCounters => ⟨.ok, Commanding.resetCounters (control s), []⟩
  | .areYouAlive => ⟨sendStatus s.queue, control s, [aliveReport]⟩

/-- A telecommand that is no request changes nothing and reports nothing by itself. -/
def outcome (s : Obsw) : Except PusStatus Request → Outcome
  | .error st => ⟨st, control s, []⟩
  | .ok request => request.outcome s

/-- What a handler returns and leaves behind is the given outcome. -/
structure Refines (s : Obsw) (r : PusStatus × Obsw) (o : Outcome) : Prop where
  status : r.1 = o.status
  evolves : Evolves s r.2 o.control o.reports

theorem Refines.unchanged (s : Obsw) (st : PusStatus) : Refines s (st, s) ⟨st, control s, []⟩ :=
  ⟨rfl, Evolves.refl s⟩

theorem Refines.ite {s : Obsw} {p : Prop} [Decidable p] {r r' : PusStatus × Obsw}
    {read read' : Except PusStatus Request} (hpos : p → Refines s r (outcome s read))
    (hneg : ¬p → Refines s r' (outcome s read')) :
    Refines s (if p then r else r') (outcome s (if p then read else read')) := by
  split
  · rename_i h
    exact hpos h
  · rename_i h
    exact hneg h

end ObswPus.Commanding
