import ObswPus.Flight.Hal

/-! # The clock in numbers

On-board time is the stored epoch plus the milliseconds elapsed since power-on, both
of which the code keeps in words that wrap. Here they are natural numbers, and the
two words of the reported time are one 48-bit count of 1/65536 s units.
-/
namespace ObswPus.OnBoardTime
open Flight

/-- Milliseconds since power-on, as the 32-bit product yields them. -/
def elapsedMs (h : Hal) : ℕ := h.ticks.toNat * 100 % 2 ^ 32

/-- The part of the elapsed time below one second, in 1/65536 s. -/
def subSecond (h : Hal) : ℕ := elapsedMs h % 1000 * 65536 / 1000

/-- Both words of a CUC time as one number. -/
def cucValue (time : UInt32 × UInt16) : ℕ := time.1.toNat * 65536 + time.2.toNat

def reportedTime (h : Hal) : ℕ := cucValue (halGetCucTime h)

/-- The epoch from which the elapsed time counts. -/
def epoch (h : Hal) : ℕ := h.epochCoarse.toNat * 65536 + h.epochFine.toNat

variable (h : Hal)

theorem elapsedMs_lt : elapsedMs h < 2 ^ 32 := Nat.mod_lt _ (by decide)

theorem subSecond_lt : subSecond h < 65536 := by
  unfold subSecond
  omega

theorem toNat_elapsedMs : (h.ticks * obcTickPeriodMs).toNat = elapsedMs h := by
  rw [UInt32.toNat_mul]
  rfl

theorem toNat_elapsedSeconds :
    (h.ticks * obcTickPeriodMs / 1000).toNat = elapsedMs h / 1000 := by
  rw [UInt32.toNat_div, toNat_elapsedMs]
  rfl

theorem toNat_subSecond :
    (h.ticks * obcTickPeriodMs % 1000 * 65536 / 1000).toNat = subSecond h := by
  have hthousand : (1000 : UInt32).toNat = 1000 := rfl
  have hscale : (65536 : UInt32).toNat = 65536 := rfl
  rw [UInt32.toNat_div, UInt32.toNat_mul, UInt32.toNat_mod, toNat_elapsedMs, hthousand, hscale,
    Nat.mod_eq_of_lt (by omega)]
  rfl

theorem toNat_totalFine :
    (h.epochFine.toUInt32 + h.ticks * obcTickPeriodMs % 1000 * 65536 / 1000).toNat =
      h.epochFine.toNat + subSecond h := by
  have hfine := h.epochFine.toNat_lt
  have hsub := subSecond_lt h
  rw [UInt32.toNat_add, toNat_subSecond, UInt16.toNat_toUInt32, Nat.mod_eq_of_lt (by omega)]

theorem toNat_coarse : (halGetCucTime h).1.toNat =
    (h.epochCoarse.toNat + elapsedMs h / 1000 + (h.epochFine.toNat + subSecond h) / 65536) %
      2 ^ 32 := by
  have hscale : (65536 : UInt32).toNat = 65536 := rfl
  simp only [halGetCucTime]
  rw [UInt32.toNat_add, UInt32.toNat_add, toNat_elapsedSeconds, UInt32.toNat_div, toNat_totalFine,
    hscale, Nat.mod_add_mod]

theorem toNat_fine :
    (halGetCucTime h).2.toNat = (h.epochFine.toNat + subSecond h) % 65536 := by
  have hscale : (65536 : UInt32).toNat = 65536 := rfl
  simp only [halGetCucTime]
  rw [UInt32.toNat_toUInt16, UInt32.toNat_mod, toNat_totalFine, hscale]
  omega

theorem elapsed_units :
    elapsedMs h / 1000 * 65536 + subSecond h = elapsedMs h * 65536 / 1000 := by
  unfold subSecond
  omega

/-- The carry from the fine word to the coarse word makes one 48-bit addition of it. -/
theorem reportedTime_eq :
    reportedTime h = (epoch h + elapsedMs h * 65536 / 1000) % 2 ^ 48 := by
  rw [reportedTime, cucValue, toNat_coarse, toNat_fine, epoch, ← elapsed_units]
  omega

end ObswPus.OnBoardTime
