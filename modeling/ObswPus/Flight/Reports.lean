import ObswPus.Flight.PusTm

/-! # Verification and event reports

The report side of service 1 (`svc01_verification.c`) and service 5
(`svc05_event.c`), used by the application layer.
-/
namespace ObswPus.Flight

abbrev pusServiceVerification : UInt8 := 1
abbrev pusSt01AcceptanceSuccess : UInt8 := 1
abbrev pusSt01AcceptanceFailure : UInt8 := 2
abbrev pusSt01CompletionSuccess : UInt8 := 7
abbrev pusSt01CompletionFailure : UInt8 := 8

def svc01SendSuccess (s : Obsw) (subtype : UInt8) (requestId : UInt32) : PusStatus × Obsw :=
  let data := pusPutU32 requestId
  pusTmSend s pusServiceVerification subtype (some data) 4

def svc01SendFailure (s : Obsw) (subtype : UInt8) (requestId : UInt32) (code : PusStatus) :
    PusStatus × Obsw :=
  let data := pusPutU32 requestId ++ pusPutU16 code.code
  pusTmSend s pusServiceVerification subtype (some data) 6

def svc01AcceptanceSuccess (s : Obsw) (tc : Option PusTc) : PusStatus × Obsw :=
  match tc with
  | none => (.null, s)
  | some t =>
    if pusTcAckRequested tc pusAckAcceptance = false then (.ok, s)
    else svc01SendSuccess s pusSt01AcceptanceSuccess t.requestId

def svc01CompletionSuccess (s : Obsw) (tc : Option PusTc) : PusStatus × Obsw :=
  match tc with
  | none => (.null, s)
  | some t =>
    if pusTcAckRequested tc pusAckCompletion = false then (.ok, s)
    else svc01SendSuccess s pusSt01CompletionSuccess t.requestId

def svc01CompletionFailure (s : Obsw) (tc : Option PusTc) (code : PusStatus) :
    PusStatus × Obsw :=
  match tc with
  | none => (.null, s)
  | some t =>
    if pusTcAckRequested tc pusAckCompletion = false then (.ok, s)
    else svc01SendFailure s pusSt01CompletionFailure t.requestId code

/-- Reported from the raw octets: a packet that failed the checks has no decoded form. -/
def svc01RejectRaw (s : Obsw) (raw : Option (List UInt8)) (len : ℕ) (code : PusStatus) :
    PusStatus × Obsw :=
  let requestId : UInt32 :=
    match raw with
    | none => 0
    | some octets => if 4 ≤ len then pusGetU32 octets else 0
  svc01SendFailure s pusSt01AcceptanceFailure requestId code

abbrev pusServiceEvent : UInt8 := 5
abbrev pusSt05Informative : UInt8 := 1
abbrev pusSt05LowSeverity : UInt8 := 2
abbrev pusSt05MedSeverity : UInt8 := 3
abbrev pusSt05HighSeverity : UInt8 := 4
abbrev pusSt05Disable : UInt8 := 5
abbrev pusSt05Enable : UInt8 := 6

/-- `obc_event_id_t`. -/
inductive ObcEventId where
  | bootCompleted
  | modeChanged
  | tcRejected
  | tmQueueOverflow
  | heaterSwitched
  | tempAlarm
  deriving DecidableEq

/-- The cast `(uint16_t)id`. -/
def ObcEventId.code : ObcEventId → UInt16
  | .bootCompleted => 1
  | .modeChanged => 2
  | .tcRejected => 3
  | .tmQueueOverflow => 4
  | .heaterSwitched => 5
  | .tempAlarm => 6

def svc05IdValid (id : UInt16) : Bool :=
  decide (1 ≤ id ∧ id ≤ UInt16.ofNat obcEventMaxIds)

def svc05Init : Svc05 := { enabled := .fill obcEventMaxIds true }

/-- The event identifier arrives as the number it is range-checked as. -/
def svc05Report (s : Obsw) (id : UInt16) (severity : UInt8) (aux : UInt16) : PusStatus × Obsw :=
  if svc05IdValid id = false then (.unknownEvent, s)
  else if severity < pusSt05Informative ∨ pusSt05HighSeverity < severity then (.badParameter, s)
  else if s.svc05.enabled.get (id.toNat - 1) = false then (.ok, s)
  else
    let data := pusPutU16 id ++ pusPutU16 aux
    pusTmSend s pusServiceEvent severity (some data) 4

def svc05IsEnabled (s : Obsw) (id : UInt16) : Bool :=
  if svc05IdValid id = false then false else s.svc05.enabled.get (id.toNat - 1)

/-- The list is validated in full before any flag is written. -/
def svc05SetEnabled (s : Obsw) (tc : PusTc) (value : Bool) : PusStatus × Obsw :=
  if tc.appDataLen < 1 then (.badLength, s)
  else
    let count := pusGetU8 (tc.appDataAt 0)
    if tc.appDataLen ≠ 1 + count.toNat * 2 then (.badLength, s)
    else if count = 0 then (.badParameter, s)
    else if (List.range count.toNat).any fun i =>
        svc05IdValid (pusGetU16 (tc.appDataAt (1 + i * 2))) = false then (.unknownEvent, s)
    else
      let write := fun (enabled : Library.FixedArray obcEventMaxIds Bool) (i : ℕ) =>
        enabled.set ((pusGetU16 (tc.appDataAt (1 + i * 2))).toNat - 1) value
      (.ok, { s with svc05 :=
        { s.svc05 with enabled := (List.range count.toNat).foldl write s.svc05.enabled } })

def svc05Handle (s : Obsw) (tc : Option PusTc) : PusStatus × Obsw :=
  match tc with
  | none => (.null, s)
  | some tc =>
    if tc.serviceSubtype = pusSt05Disable then svc05SetEnabled s tc false
    else if tc.serviceSubtype = pusSt05Enable then svc05SetEnabled s tc true
    else (.unknownSubtype, s)

end ObswPus.Flight
