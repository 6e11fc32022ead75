import Mathlib.Tactic

/-! # Common types of the stack

Status codes and compile-time configuration (`pus_types.h`, `pus_config.h`).
`pus_bool_t` is `Bool`; an enumeration that the code range-checks is passed as the
number it is checked as.
-/
namespace ObswPus.Flight

/-- `pus_status_t`. The numeric values are reported to ground. -/
inductive PusStatus where
  | ok
  | null
  | bufferTooSmall
  | truncated
  | badVersion
  | badPacketType
  | noSecHeader
  | badApid
  | badCrc
  | unknownService
  | unknownSubtype
  | badLength
  | badParameter
  | unknownSid
  | unknownEvent
  | unknownFunction
  | queueFull
  | notPermitted
  deriving DecidableEq

/-- The cast `(uint16_t)st`. -/
def PusStatus.code : PusStatus → UInt16
  | .ok => 0
  | .null => 1
  | .bufferTooSmall => 2
  | .truncated => 3
  | .badVersion => 4
  | .badPacketType => 5
  | .noSecHeader => 6
  | .badApid => 7
  | .badCrc => 8
  | .unknownService => 9
  | .unknownSubtype => 10
  | .badLength => 11
  | .badParameter => 12
  | .unknownSid => 13
  | .unknownEvent => 14
  | .unknownFunction => 15
  | .queueFull => 16
  | .notPermitted => 17

/-- A failure code on the downlink identifies the failure. -/
theorem PusStatus.code_injective : Function.Injective PusStatus.code := by
  intro a b h
  cases a <;> cases b <;> first | rfl | exact absurd h (by decide)

abbrev pusMaxPacketSize : ℕ := 256
abbrev pusTmQueueDepth : ℕ := 16
abbrev pusTcApid : UInt16 := 0x00C
abbrev pusTmApid : UInt16 := 0x00C
abbrev pusTmDestinationId : UInt16 := 0x0001
abbrev obcTickPeriodMs : UInt32 := 100
abbrev obcHkPeriodTicks : UInt32 := 10
abbrev obcHkMaxStructures : ℕ := 2
abbrev obcEventMaxIds : ℕ := 8
abbrev obcTempHeaterOnDc : Int16 := 50
abbrev obcTempHeaterOffDc : Int16 := 250
abbrev obcTempAlarmDc : Int16 := 400

/-- `size_t` arithmetic wraps at this modulus (64-bit host build). -/
abbrev sizeModulus : ℕ := 2 ^ 64

/-- Subtraction in `size_t`. -/
def sizeSub (a b : ℕ) : ℕ := (a + sizeModulus - b) % sizeModulus

theorem sizeSub_eq {a b : ℕ} (hle : b ≤ a) (hsize : a < sizeModulus) : sizeSub a b = a - b := by
  rw [sizeSub, Nat.sub_add_comm hle, Nat.add_mod_right, Nat.mod_eq_of_lt (by omega)]

end ObswPus.Flight
