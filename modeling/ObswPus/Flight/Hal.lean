import ObswPus.Flight.State

/-! # Hardware abstraction layer

Host implementation (`hal_host.c`): time is derived from the minor cycle counter.
-/
namespace ObswPus.Flight

/-- `hal_time_init` assigns every static of the file. -/
def halTimeInit : Hal :=
  { ticks := 0, epochCoarse := 0, epochFine := 0, temperatureDc := 200, heaterOn := false }

def halTimeAdvance (h : Hal) : Hal := { h with ticks := h.ticks + 1 }

/-- The on-board time as (coarse, fine). -/
def halGetCucTime (h : Hal) : UInt32 × UInt16 :=
  let elapsedMs : UInt32 := h.ticks * obcTickPeriodMs
  let totalFine : UInt32 := h.epochFine.toUInt32 + ((elapsedMs % 1000) * 65536) / 1000
  (h.epochCoarse + elapsedMs / 1000 + totalFine / 65536, (totalFine % 65536).toUInt16)

def halSetCucTime (h : Hal) (coarse : UInt32) (fine : UInt16) : Hal :=
  let elapsedMs : UInt32 := h.ticks * obcTickPeriodMs
  { h with
    epochCoarse := coarse - elapsedMs / 1000
    epochFine := fine - (((elapsedMs % 1000) * 65536) / 1000).toUInt16 }

def halReadTemperature (h : Hal) : Int16 := h.temperatureDc

def halInjectTemperature (h : Hal) (valueDc : Int16) : Hal := { h with temperatureDc := valueDc }

def halSetHeater (h : Hal) (on : Bool) : Hal :=
  { h with heaterOn := if on ≠ false then true else false }

def halGetHeater (h : Hal) : Bool := h.heaterOn

end ObswPus.Flight
