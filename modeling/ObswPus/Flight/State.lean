import ObswPus.Flight.Types
import ObswPus.Library.FixedArray

/-! # The statics of the flight software

One structure per source file, holding that file's `static` variables under their
own names, and `Obsw` for all of them together.
-/
namespace ObswPus.Flight
open Library

/-- On-board computer operating modes (`obc_mode_t`). -/
inductive ObcMode where
  | safe
  | nominal
  deriving DecidableEq, Inhabited

def ObcMode.code : ObcMode → UInt32
  | .safe => 0
  | .nominal => 1

/-- The mode that an `obc_mode_t` object of this numeric value denotes, if any. -/
def ObcMode.ofCode (v : UInt32) : Option ObcMode :=
  if v = 0 then some .safe else if v = 1 then some .nominal else none

/-- Statics of `hal_host.c`. -/
structure Hal where
  ticks : UInt32
  epochCoarse : UInt32
  epochFine : UInt16
  temperatureDc : Int16
  heaterOn : Bool
  deriving DecidableEq, Inhabited

/-- Statics of `tm_queue.c`. -/
structure TmQueue where
  slots : FixedArray pusTmQueueDepth (FixedArray pusMaxPacketSize UInt8)
  lengths : FixedArray pusTmQueueDepth ℕ
  head : ℕ
  count : ℕ
  overflows : UInt16
  deriving DecidableEq, Inhabited

/-- Statics of `pus_tm.c`. -/
structure PusTm where
  seqCount : UInt16
  msgCounter : FixedArray 256 UInt16
  deriving DecidableEq, Inhabited

/-- Statics of `svc03_housekeeping.c`. -/
structure Svc03 where
  enabled : FixedArray obcHkMaxStructures Bool
  phase : UInt32
  deriving DecidableEq, Inhabited

/-- Statics of `svc05_event.c`. -/
structure Svc05 where
  enabled : FixedArray obcEventMaxIds Bool
  deriving DecidableEq, Inhabited

/-- `obc_state_t`: observable application state, mirrored in the housekeeping reports. -/
structure ObcState where
  mode : ObcMode
  uptimeTicks : UInt32
  temperatureDc : Int16
  heaterOn : Bool
  tcAccepted : UInt16
  tcRejected : UInt16
  lastFailureCode : UInt16
  deriving DecidableEq, Inhabited

/-- A packet handed to the downlink queue, and whether the queue took it. -/
structure Sent where
  packet : List UInt8
  queued : Bool
  deriving DecidableEq

/-- All statics of the flight software. The last field is a history variable: the
packets built since `obc_init`, oldest first. No function reads it. -/
structure Obsw where
  hal : Hal
  queue : TmQueue
  tm : PusTm
  svc03 : Svc03
  svc05 : Svc05
  state : ObcState
  alarmLatched : Bool
  lastOverflow : UInt16
  history : List Sent
  deriving DecidableEq, Inhabited

end ObswPus.Flight
