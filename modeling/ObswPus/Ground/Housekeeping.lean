import ObswPus.Ground.ParsedTelemetry
import ObswPus.Commanding.Reports

/-! # Housekeeping as ground decodes it

The decoder of housekeeping reports of the test ground segment
(`tests/integration/gsw/obc_db.py`), which describes the two layouts a second time, and
the proof that it finds in each report what the unit held when it generated the report.
-/
namespace ObswPus.Ground
open Flight Downlink Commanding Library

abbrev sidEssential : ℕ := 1
abbrev sidDiagnostic : ℕ := 2

structure Essential where
  sid : ℕ
  mode : ℕ
  uptimeTicks : ℕ
  temperatureDc : ℤ
  heaterOn : ℕ
  deriving DecidableEq

structure Diagnostic where
  sid : ℕ
  tcAccepted : ℕ
  tcRejected : ℕ
  lastFailureCode : ℕ
  tmQueued : ℕ
  tmOverflows : ℕ
  deriving DecidableEq

/-- The named tuple that fits a report. -/
inductive HkReport where
  | essential (report : Essential)
  | diagnostic (report : Diagnostic)
  deriving DecidableEq

/-- The exceptions of `decode_hk`, with the numbers that their texts quote. -/
inductive HkError where
  | noIdentifier
  | essentialLength (octets : ℕ)
  | diagnosticLength (octets : ℕ)
  | unknownStructure (sid : ℕ)
  deriving DecidableEq

/-- The conversion `h` of `struct.unpack`, once the two octets are joined. -/
def signed16 (v : ℕ) : ℤ := if v < 32768 then v else v - 65536

/-- The fields stand side by side: `>BIhB` and `>HHHBH` know no padding. -/
def decodeHk (data : List UInt8) : Except HkError HkReport :=
  match data with
  | [] => .error .noIdentifier
  | first :: fields =>
    let sid := first.toNat
    if sid = sidEssential then
      if data.length ≠ 9 then .error (.essentialLength data.length)
      else
        .ok (.essential
          { sid := sid
            mode := fromBytes (slice fields 0 1)
            uptimeTicks := fromBytes (slice fields 1 5)
            temperatureDc := signed16 (fromBytes (slice fields 5 7))
            heaterOn := fromBytes (slice fields 7 8) })
    else if sid = sidDiagnostic then
      if data.length ≠ 10 then .error (.diagnosticLength data.length)
      else
        .ok (.diagnostic
          { sid := sid
            tcAccepted := fromBytes (slice fields 0 2)
            tcRejected := fromBytes (slice fields 2 4)
            lastFailureCode := fromBytes (slice fields 4 6)
            tmQueued := fromBytes (slice fields 6 7)
            tmOverflows := fromBytes (slice fields 7 9) })
    else .error (.unknownStructure sid)

theorem fromBytes_singleton (v : UInt8) : fromBytes [v] = v.toNat := by
  simp [fromBytes]

/-- Both sides read the sign of a temperature off the same bit. -/
theorem signed16_toUInt16 (v : Int16) : signed16 v.toUInt16.toNat = v.toInt := by
  have hlt := v.toUInt16.toNat_lt
  have hint : v.toInt = v.toBitVec.toInt := rfl
  have hnat : v.toUInt16.toNat = v.toBitVec.toNat := rfl
  rw [hint, BitVec.toInt_eq_toNat_cond, signed16, hnat]
  rw [hnat] at hlt
  split_ifs <;> omega

theorem mode_toUInt8 (mode : ObcMode) : mode.code.toUInt8.toNat = mode.code.toNat := by
  cases mode <;> rfl

theorem heater_toUInt8 (on : Bool) : on.toUInt8.toNat = on.toNat := by
  cases on <;> rfl

section Data
variable (s : Obsw)

theorem decodeHk_essential : decodeHk (svc03Data s obcHkSidEssential) =
    .ok (.essential
      { sid := 1
        mode := s.state.mode.code.toNat
        uptimeTicks := s.state.uptimeTicks.toNat
        temperatureDc := s.state.temperatureDc.toInt
        heaterOn := s.state.heaterOn.toNat }) := by
  have hdecode : decodeHk (svc03Data s obcHkSidEssential) =
      .ok (.essential
        { sid := 1
          mode := fromBytes [s.state.mode.code.toUInt8]
          uptimeTicks := fromBytes (pusPutU32 s.state.uptimeTicks)
          temperatureDc := signed16 (fromBytes (pusPutU16 s.state.temperatureDc.toUInt16))
          heaterOn := fromBytes [s.state.heaterOn.toUInt8] }) := rfl
  rw [hdecode, fromBytes_singleton, fromBytes_pusPutU32, fromBytes_pusPutU16, fromBytes_singleton,
    signed16_toUInt16, mode_toUInt8, heater_toUInt8]

theorem decodeHk_diagnostic (hcount : tmQueueCount s.queue ≤ pusTmQueueDepth) :
    decodeHk (svc03Data s obcHkSidDiagnostic) =
      .ok (.diagnostic
        { sid := 2
          tcAccepted := s.state.tcAccepted.toNat
          tcRejected := s.state.tcRejected.toNat
          lastFailureCode := s.state.lastFailureCode.toNat
          tmQueued := tmQueueCount s.queue
          tmOverflows := (tmQueueOverflowCount s.queue).toNat }) := by
  have hdepth : pusTmQueueDepth = 16 := rfl
  have hoctet : (UInt8.ofNat (tmQueueCount s.queue)).toNat = tmQueueCount s.queue := by
    rw [UInt8.toNat_ofNat', Nat.mod_eq_of_lt (by omega)]
  have hdecode : decodeHk (svc03Data s obcHkSidDiagnostic) =
      .ok (.diagnostic
        { sid := 2
          tcAccepted := fromBytes (pusPutU16 s.state.tcAccepted)
          tcRejected := fromBytes (pusPutU16 s.state.tcRejected)
          lastFailureCode := fromBytes (pusPutU16 s.state.lastFailureCode)
          tmQueued := fromBytes [UInt8.ofNat (tmQueueCount s.queue)]
          tmOverflows := fromBytes (pusPutU16 (tmQueueOverflowCount s.queue)) }) := rfl
  rw [hdecode, fromBytes_pusPutU16, fromBytes_pusPutU16, fromBytes_pusPutU16, fromBytes_singleton,
    fromBytes_pusPutU16, hoctet]

end Data

/-- A report that finds a free slot is the newest packet of the queue, and ground parses it as
housekeeping with the data of the state it was generated in. -/
theorem svc03Generate_queued {s : Obsw} (sid : UInt8) (hsid : svc03SidValid sid = true)
    (hroom : tmQueueCount s.queue < pusTmQueueDepth) :
    (svc03Generate s sid).1 = .ok ∧
    ∃ packet tm, contents (svc03Generate s sid).2.queue = contents s.queue ++ [packet] ∧
      parseTm packet = .ok tm ∧ tm.service = 3 ∧ tm.subtype = 25 ∧ tm.data = svc03Data s sid := by
  rw [svc03Generate_eq s hsid]
  exact ⟨if_pos hroom, _, _, contents_emit_room s (hkReport s sid) hroom,
    parseTm_tmPacket _ _ (hkReport s sid), rfl, rfl, rfl⟩

/-- Whatever the unit holds, as long as the queue has a free slot: the report on each structure
is queued, and ground decodes it to the values held, the occupancy being that before the
report. -/
theorem housekeeping_truthful (s : Obsw) (hroom : tmQueueCount s.queue < pusTmQueueDepth) :
    ((svc03Generate s obcHkSidEssential).1 = .ok ∧
      ∃ packet tm, contents (svc03Generate s obcHkSidEssential).2.queue =
          contents s.queue ++ [packet] ∧
        parseTm packet = .ok tm ∧ tm.service = 3 ∧ tm.subtype = 25 ∧
        decodeHk tm.data = .ok (.essential
          { sid := 1
            mode := s.state.mode.code.toNat
            uptimeTicks := s.state.uptimeTicks.toNat
            temperatureDc := s.state.temperatureDc.toInt
            heaterOn := s.state.heaterOn.toNat })) ∧
    (svc03Generate s obcHkSidDiagnostic).1 = .ok ∧
      ∃ packet tm, contents (svc03Generate s obcHkSidDiagnostic).2.queue =
          contents s.queue ++ [packet] ∧
        parseTm packet = .ok tm ∧ tm.service = 3 ∧ tm.subtype = 25 ∧
        decodeHk tm.data = .ok (.diagnostic
          { sid := 2
            tcAccepted := s.state.tcAccepted.toNat
            tcRejected := s.state.tcRejected.toNat
            lastFailureCode := s.state.lastFailureCode.toNat
            tmQueued := tmQueueCount s.queue
            tmOverflows := (tmQueueOverflowCount s.queue).toNat }) := by
  constructor
  · obtain ⟨hok, packet, tm, hqueued, hparse, hservice, hsubtype, hdata⟩ :=
      svc03Generate_queued obcHkSidEssential rfl hroom
    refine ⟨hok, packet, tm, hqueued, hparse, hservice, hsubtype, ?_⟩
    rw [hdata, decodeHk_essential]
  · obtain ⟨hok, packet, tm, hqueued, hparse, hservice, hsubtype, hdata⟩ :=
      svc03Generate_queued obcHkSidDiagnostic rfl hroom
    refine ⟨hok, packet, tm, hqueued, hparse, hservice, hsubtype, ?_⟩
    rw [hdata, decodeHk_diagnostic s hroom.le]

/-- Forty degrees below zero, at the end of the uptime count. -/
def coldState : Obsw :=
  { (default : Obsw) with
    state := { (default : Obsw).state with temperatureDc := -400, uptimeTicks := 0xFFFFFFFF } }

theorem housekeeping_truthful_cold :
    ∃ packet tm, contents (svc03Generate coldState obcHkSidEssential).2.queue =
        contents coldState.queue ++ [packet] ∧
      parseTm packet = .ok tm ∧ tm.service = 3 ∧ tm.subtype = 25 ∧
      decodeHk tm.data = .ok (.essential
        { sid := 1, mode := 0, uptimeTicks := 4294967295, temperatureDc := -400, heaterOn := 0 }) :=
  (housekeeping_truthful coldState (by decide)).1.2

end ObswPus.Ground
