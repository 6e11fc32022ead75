import ObswPus.Flight.Control

/-! # Telecommand services

Housekeeping (`svc03_housekeeping.c`), function management (`svc08_function.c`)
and the connection test (`svc17_test.c`).
-/
namespace ObswPus.Flight
open Library

abbrev pusServiceHousekeeping : UInt8 := 3
abbrev pusSt03Enable : UInt8 := 5
abbrev pusSt03Disable : UInt8 := 6
abbrev pusSt03Report : UInt8 := 25
abbrev pusSt03OneShot : UInt8 := 27
abbrev obcHkSidEssential : UInt8 := 1
abbrev obcHkSidDiagnostic : UInt8 := 2

def svc03SidValid (sid : UInt8) : Bool :=
  decide (1 ≤ sid ∧ sid ≤ UInt8.ofNat obcHkMaxStructures)

/-- Only the essential report is generated from power-on. -/
def svc03Init : Svc03 :=
  { enabled := (FixedArray.fill obcHkMaxStructures false).set (obcHkSidEssential.toNat - 1) true
    phase := 0 }

def svc03IsEnabled (s : Obsw) (sid : UInt8) : Bool :=
  if svc03SidValid sid = false then false else s.svc03.enabled.get (sid.toNat - 1)

/-- The source data of a housekeeping report, in the frozen layout. -/
def svc03Data (s : Obsw) (sid : UInt8) : List UInt8 :=
  if sid = obcHkSidEssential then
    pusPutU8 sid ++ pusPutU8 s.state.mode.code.toUInt8 ++ pusPutU32 s.state.uptimeTicks ++
      pusPutI16 s.state.temperatureDc ++ pusPutU8 s.state.heaterOn.toUInt8
  else
    pusPutU8 sid ++ pusPutU16 s.state.tcAccepted ++ pusPutU16 s.state.tcRejected ++
      pusPutU16 s.state.lastFailureCode ++ pusPutU8 (UInt8.ofNat (tmQueueCount s.queue)) ++
      pusPutU16 (tmQueueOverflowCount s.queue)

def svc03Generate (s : Obsw) (sid : UInt8) : PusStatus × Obsw :=
  if svc03SidValid sid = false then (.unknownSid, s)
  else
    let len := if sid = obcHkSidEssential then 9 else 10
    pusTmSend s pusServiceHousekeeping pusSt03Report (some (svc03Data s sid)) len

/-- The second loop of `svc03_apply_list` over the remaining loop indices. -/
def svc03ApplyFrom (tc : PusTc) (enable oneShot : Bool) : Obsw → List ℕ → PusStatus × Obsw
  | s, [] => (.ok, s)
  | s, i :: rest =>
    let sid := pusGetU8 (tc.appDataAt (1 + i))
    if oneShot ≠ false then
      let generated := svc03Generate s sid
      if generated.1 ≠ .ok then generated
      else svc03ApplyFrom tc enable oneShot generated.2 rest
    else
      let enabled := s.svc03.enabled.set (sid.toNat - 1) enable
      svc03ApplyFrom tc enable oneShot { s with svc03 := { s.svc03 with enabled := enabled } } rest

/-- The list is validated in full before the first flag is written. -/
def svc03ApplyList (s : Obsw) (tc : PusTc) (enable oneShot : Bool) : PusStatus × Obsw :=
  if tc.appDataLen < 1 then (.badLength, s)
  else
    let count := pusGetU8 (tc.appDataAt 0)
    if tc.appDataLen ≠ 1 + count.toNat then (.badLength, s)
    else if count = 0 then (.badParameter, s)
    else if (List.range count.toNat).any fun i =>
        svc03SidValid (pusGetU8 (tc.appDataAt (1 + i))) = false then (.unknownSid, s)
    else svc03ApplyFrom tc enable oneShot s (List.range count.toNat)

def svc03Handle (s : Obsw) (tc : Option PusTc) : PusStatus × Obsw :=
  match tc with
  | none => (.null, s)
  | some tc =>
    if tc.serviceSubtype = pusSt03Enable then svc03ApplyList s tc true false
    else if tc.serviceSubtype = pusSt03Disable then svc03ApplyList s tc false false
    else if tc.serviceSubtype = pusSt03OneShot then svc03ApplyList s tc false true
    else (.unknownSubtype, s)

/-- One pass of the loop over the structure identifiers in `svc03_tick`. -/
def svc03TickOne (s : Obsw) (sid : UInt8) : Obsw :=
  if s.svc03.enabled.get (sid.toNat - 1) ≠ false then (svc03Generate s sid).2 else s

def svc03Tick (s : Obsw) : Obsw :=
  let s := { s with svc03 := { s.svc03 with phase := s.svc03.phase + 1 } }
  if s.svc03.phase < obcHkPeriodTicks then s
  else
    let s := { s with svc03 := { s.svc03 with phase := 0 } }
    ((List.range obcHkMaxStructures).map fun i => UInt8.ofNat (i + 1)).foldl svc03TickOne s

abbrev pusServiceFunction : UInt8 := 8
abbrev pusSt08Perform : UInt8 := 1
abbrev obcFidSetMode : UInt8 := 1
abbrev obcFidSetHeater : UInt8 := 2
abbrev obcFidInjectTemp : UInt8 := 3
abbrev obcFidResetCounters : UInt8 := 4
abbrev obcFidSetTime : UInt8 := 5

def svc08Handle (s : Obsw) (tc : Option PusTc) : PusStatus × Obsw :=
  match tc with
  | none => (.null, s)
  | some tc =>
    if tc.serviceSubtype ≠ pusSt08Perform then (.unknownSubtype, s)
    else if tc.appDataLen < 1 then (.badLength, s)
    else
      let fid := pusGetU8 (tc.appDataAt 0)
      let argLen := tc.appDataLen - 1
      if fid = obcFidSetMode then
        if argLen ≠ 1 then (.badLength, s)
        else
          let arg8 := pusGetU8 (tc.appDataAt 1)
          if arg8 ≠ ObcMode.safe.code.toUInt8 ∧ arg8 ≠ ObcMode.nominal.code.toUInt8 then
            (.badParameter, s)
          else obcSetMode s arg8.toUInt32
      else if fid = obcFidSetHeater then
        if argLen ≠ 1 then (.badLength, s)
        else
          let arg8 := pusGetU8 (tc.appDataAt 1)
          if 1 < arg8 then (.badParameter, s)
          else obcSetHeater s (if arg8 ≠ 0 then true else false)
      else if fid = obcFidInjectTemp then
        if argLen ≠ 2 then (.badLength, s)
        else (.ok, { s with hal := halInjectTemperature s.hal (pusGetI16 (tc.appDataAt 1)) })
      else if fid = obcFidSetTime then
        if argLen ≠ 6 then (.badLength, s)
        else
          (.ok, { s with hal :=
            halSetCucTime s.hal (pusGetU32 (tc.appDataAt 1)) (pusGetU16 (tc.appDataAt 5)) })
      else if fid = obcFidResetCounters then
        if argLen ≠ 0 then (.badLength, s)
        else (.ok, obcResetCounters s)
      else (.unknownFunction, s)

abbrev pusServiceTest : UInt8 := 17
abbrev pusSt17AreYouAlive : UInt8 := 1
abbrev pusSt17IAmAlive : UInt8 := 2

def svc17Handle (s : Obsw) (tc : Option PusTc) : PusStatus × Obsw :=
  match tc with
  | none => (.null, s)
  | some tc =>
    if tc.serviceSubtype ≠ pusSt17AreYouAlive then (.unknownSubtype, s)
    else if tc.appDataLen ≠ 0 then (.badLength, s)
    else pusTmSend s pusServiceTest pusSt17IAmAlive none 0

end ObswPus.Flight
