import ObswPus.Bounds.Telemetry

/-! # Checked access in the reports

The reports of the services and the functions of the application that send them, with
checked access to the buffers they are made in and to the event flags.
-/
namespace ObswPus.Bounds
open Flight Library Access
variable (fuel : ℕ)

def svc01SendSuccess (s : Obsw) (subtype : UInt8) (requestId : UInt32) :
    Access (PusStatus × Obsw) := do
  let data ← pusPutU32 (List.replicate 4 0) 0 requestId
  pusTmSend fuel s pusServiceVerification subtype (some data) 4

def svc01SendFailure (s : Obsw) (subtype : UInt8) (requestId : UInt32) (code : PusStatus) :
    Access (PusStatus × Obsw) := do
  let data ← pusPutU32 (List.replicate 6 0) 0 requestId
  let data ← pusPutU16 data 4 code.code
  pusTmSend fuel s pusServiceVerification subtype (some data) 6

def svc01AcceptanceSuccess (s : Obsw) (tc : Option PusTc) : Access (PusStatus × Obsw) :=
  match tc with
  | none => return (.null, s)
  | some t =>
    if pusTcAckRequested tc pusAckAcceptance = false then return (.ok, s)
    else svc01SendSuccess fuel s pusSt01AcceptanceSuccess t.requestId

def svc01CompletionSuccess (s : Obsw) (tc : Option PusTc) : Access (PusStatus × Obsw) :=
  match tc with
  | none => return (.null, s)
  | some t =>
    if pusTcAckRequested tc pusAckCompletion = false then return (.ok, s)
    else svc01SendSuccess fuel s pusSt01CompletionSuccess t.requestId

def svc01CompletionFailure (s : Obsw) (tc : Option PusTc) (code : PusStatus) :
    Access (PusStatus × Obsw) :=
  match tc with
  | none => return (.null, s)
  | some t =>
    if pusTcAckRequested tc pusAckCompletion = false then return (.ok, s)
    else svc01SendFailure fuel s pusSt01CompletionFailure t.requestId code

def svc01RejectRaw (s : Obsw) (raw : Option (List UInt8)) (len : ℕ) (code : PusStatus) :
    Access (PusStatus × Obsw) := do
  let requestId ← (if raw.isSome ∧ 4 ≤ len then pusGetU32 raw 0 else pure 0)
  svc01SendFailure fuel s pusSt01AcceptanceFailure requestId code

section Verification
variable {fuel} (hfuel : 65542 ≤ fuel) (s : Obsw)
include hfuel

theorem svc01SendSuccess_eq (subtype : UInt8) (requestId : UInt32) :
    svc01SendSuccess fuel s subtype requestId =
      .ok (Flight.svc01SendSuccess s subtype requestId) := by
  rw [svc01SendSuccess, pusPutU32_eq _ (by decide), ok_bind,
    pusTmSend_eq hfuel _ _ _ (by exact le_rfl) (by decide)]
  rfl

theorem svc01SendFailure_eq (subtype : UInt8) (requestId : UInt32) (code : PusStatus) :
    svc01SendFailure fuel s subtype requestId code =
      .ok (Flight.svc01SendFailure s subtype requestId code) := by
  rw [svc01SendFailure, pusPutU32_eq _ (by decide), ok_bind, pusPutU16_eq _ (by exact le_rfl),
    ok_bind, pusTmSend_eq hfuel _ _ _ (by exact le_rfl) (by decide)]
  rfl

theorem svc01AcceptanceSuccess_eq (tc : PusTc) :
    svc01AcceptanceSuccess fuel s (some tc) = .ok (Flight.svc01AcceptanceSuccess s (some tc)) :=
  ite_eq (fun _ => rfl) fun _ => svc01SendSuccess_eq hfuel s _ _

theorem svc01CompletionSuccess_eq (tc : PusTc) :
    svc01CompletionSuccess fuel s (some tc) = .ok (Flight.svc01CompletionSuccess s (some tc)) :=
  ite_eq (fun _ => rfl) fun _ => svc01SendSuccess_eq hfuel s _ _

theorem svc01CompletionFailure_eq (tc : PusTc) (code : PusStatus) :
    svc01CompletionFailure fuel s (some tc) code =
      .ok (Flight.svc01CompletionFailure s (some tc) code) :=
  ite_eq (fun _ => rfl) fun _ => svc01SendFailure_eq hfuel s _ _ _

/-- A rejection reads the request identifier only where there is one. -/
theorem svc01RejectRaw_eq (octets : List UInt8) (code : PusStatus) :
    svc01RejectRaw fuel s (some octets) octets.length code =
      .ok (Flight.svc01RejectRaw s (some octets) octets.length code) := by
  have hread : (if (some octets).isSome ∧ 4 ≤ octets.length then pusGetU32 (some octets) 0
      else pure 0) = .ok (if 4 ≤ octets.length then Flight.pusGetU32 octets else 0) := by
    simp only [Option.isSome_some, true_and]
    apply ite_eq
    · intro hlen
      exact pusGetU32_eq (by omega)
    · intro _
      rfl
  rw [svc01RejectRaw, hread, ok_bind, svc01SendFailure_eq hfuel]
  rfl

end Verification

/-- The unsigned subtraction `v - 1u`. -/
def unsignedPred (v : ℕ) : ℕ := (v + (2 ^ 32 - 1)) % 2 ^ 32

theorem unsignedPred_eq {v : ℕ} (hpos : 1 ≤ v) (hlt : v < 2 ^ 32) : unsignedPred v = v - 1 := by
  rw [unsignedPred]
  omega

def svc05Report (s : Obsw) (id : UInt16) (severity : UInt8) (aux : UInt16) :
    Access (PusStatus × Obsw) :=
  if svc05IdValid id = false then return (.unknownEvent, s)
  else if severity < pusSt05Informative ∨ pusSt05HighSeverity < severity then
    return (.badParameter, s)
  else do
    let enabled ← readCell s.svc05.enabled (unsignedPred id.toNat)
    if enabled = false then return (.ok, s)
    else
      let data ← pusPutU16 (List.replicate 4 0) 0 id
      let data ← pusPutU16 data 2 aux
      pusTmSend fuel s pusServiceEvent severity (some data) 4

theorem unsignedPred_event {id : UInt16} (h : ¬svc05IdValid id = false) :
    unsignedPred id.toNat = id.toNat - 1 ∧ id.toNat - 1 < obcEventMaxIds := by
  have hlt := id.toNat_lt
  simp only [svc05IdValid, decide_eq_false_iff_not, not_not, UInt16.le_iff_toNat_le] at h
  have hmax : (UInt16.ofNat obcEventMaxIds).toNat = 8 := rfl
  have hone : (1 : UInt16).toNat = 1 := rfl
  have h8 : obcEventMaxIds = 8 := rfl
  exact ⟨unsignedPred_eq (by omega) (by omega), by omega⟩

theorem svc05Report_eq {fuel : ℕ} (hfuel : 65542 ≤ fuel) (s : Obsw) (id : UInt16)
    (severity : UInt8) (aux : UInt16) :
    svc05Report fuel s id severity aux = .ok (Flight.svc05Report s id severity aux) := by
  apply ite_eq (fun _ => rfl)
  intro hvalid
  apply ite_eq (fun _ => rfl)
  intro _
  obtain ⟨hpred, hflag⟩ := unsignedPred_event hvalid
  rw [hpred, readCell_eq _ hflag, ok_bind]
  apply ite_eq (fun _ => rfl)
  intro _
  rw [pusPutU16_eq _ (by decide), ok_bind, pusPutU16_eq _ (by exact le_rfl), ok_bind,
    pusTmSend_eq hfuel _ _ _ (by exact le_rfl) (by decide)]
  rfl

def svc03Generate (s : Obsw) (sid : UInt8) : Access (PusStatus × Obsw) :=
  if svc03SidValid sid = false then return (.unknownSid, s)
  else if sid = obcHkSidEssential then do
    let data ← pusPutU8 (List.replicate 10 0) 0 sid
    let data ← pusPutU8 data 1 s.state.mode.code.toUInt8
    let data ← pusPutU32 data 2 s.state.uptimeTicks
    let data ← pusPutI16 data 6 s.state.temperatureDc
    let data ← pusPutU8 data 8 s.state.heaterOn.toUInt8
    pusTmSend fuel s pusServiceHousekeeping pusSt03Report (some data) 9
  else do
    let data ← pusPutU8 (List.replicate 10 0) 0 sid
    let data ← pusPutU16 data 1 s.state.tcAccepted
    let data ← pusPutU16 data 3 s.state.tcRejected
    let data ← pusPutU16 data 5 s.state.lastFailureCode
    let data ← pusPutU8 data 7 (UInt8.ofNat (tmQueueCount s.queue))
    let data ← pusPutU16 data 8 (tmQueueOverflowCount s.queue)
    pusTmSend fuel s pusServiceHousekeeping pusSt03Report (some data) 10

theorem svc03Generate_eq {fuel : ℕ} (hfuel : 65542 ≤ fuel) (s : Obsw) (sid : UInt8) :
    svc03Generate fuel s sid = .ok (Flight.svc03Generate s sid) := by
  apply ite_eq (fun _ => rfl)
  intro _
  dsimp only
  by_cases hsid : sid = obcHkSidEssential
  · rw [if_pos hsid, if_pos hsid, svc03Data, if_pos hsid, pusPutU8_eq _ (by decide), ok_bind,
      pusPutU8_extend _ (by rfl) (by decide), ok_bind, pusPutU32_extend _ (by rfl) (by decide),
      ok_bind, pusPutI16_extend _ (by rfl) (by decide), ok_bind,
      pusPutU8_extend _ (by rfl) (by decide), ok_bind,
      pusTmSend_eq hfuel _ _ _ (by exact Nat.le_of_ble_eq_true rfl) (by decide),
      pusTmSend_storeAt _ _ _ _ _ (by rfl)]
  · rw [if_neg hsid, if_neg hsid, svc03Data, if_neg hsid, pusPutU8_eq _ (by decide), ok_bind,
      pusPutU16_extend _ (by rfl) (by decide), ok_bind, pusPutU16_extend _ (by rfl) (by decide),
      ok_bind, pusPutU16_extend _ (by rfl) (by decide), ok_bind,
      pusPutU8_extend _ (by rfl) (by decide), ok_bind,
      pusPutU16_extend _ (by rfl) (by decide), ok_bind,
      pusTmSend_eq hfuel _ _ _ (by exact Nat.le_of_ble_eq_true rfl) (by decide),
      pusTmSend_storeAt _ _ _ _ _ (by rfl)]

def obcApplyHeater (s : Obsw) (on : Bool) : Access Obsw :=
  if on = s.state.heaterOn then return s
  else do
    let s := { s with hal := halSetHeater s.hal on }
    let s := { s with state := { s.state with heaterOn := on } }
    let reported ← svc05Report fuel s ObcEventId.heaterSwitched.code pusSt05Informative on.toUInt16
    return reported.2

def obcSetHeater (s : Obsw) (on : Bool) : Access (PusStatus × Obsw) :=
  if s.state.mode = .safe then return (.notPermitted, s)
  else do
    let s ← obcApplyHeater fuel s (if on ≠ false then true else false)
    return (.ok, s)

def obcSetMode (s : Obsw) (mode : UInt32) : Access (PusStatus × Obsw) :=
  match ObcMode.ofCode mode with
  | none => return (.badParameter, s)
  | some target =>
    if target = s.state.mode then return (.ok, s)
    else do
      let s := { s with state := { s.state with mode := target } }
      let s ← (if target = .safe then obcApplyHeater fuel s false else pure s)
      let reported ← svc05Report fuel s ObcEventId.modeChanged.code pusSt05Informative mode.toUInt16
      return (.ok, reported.2)

section Control
variable {fuel} (hfuel : 65542 ≤ fuel) (s : Obsw)
include hfuel

theorem obcApplyHeater_eq (on : Bool) :
    obcApplyHeater fuel s on = .ok (Flight.obcApplyHeater s on) := by
  apply ite_eq (fun _ => rfl)
  intro _
  dsimp only
  rw [svc05Report_eq hfuel]
  rfl

theorem obcSetHeater_eq (on : Bool) :
    obcSetHeater fuel s on = .ok (Flight.obcSetHeater s on) := by
  apply ite_eq (fun _ => rfl)
  intro _
  rw [obcApplyHeater_eq hfuel]
  rfl

theorem obcSetMode_eq (mode : UInt32) :
    obcSetMode fuel s mode = .ok (Flight.obcSetMode s mode) := by
  rw [obcSetMode, Flight.obcSetMode]
  cases ObcMode.ofCode mode with
  | none => rfl
  | some target =>
    apply ite_eq (fun _ => rfl)
    intro _
    have hheater (t : Obsw) : (if target = .safe then obcApplyHeater fuel t false else pure t) =
        .ok (if target = .safe then Flight.obcApplyHeater t false else t) :=
      ite_eq (fun _ => obcApplyHeater_eq hfuel t false) fun _ => rfl
    dsimp only
    rw [hheater, ok_bind, svc05Report_eq hfuel]
    rfl

end Control

end ObswPus.Bounds
