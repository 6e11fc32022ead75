import ObswPus.OnBoardTime.Clock
import ObswPus.Commanding.MinorCycle

/-! # The rate of the clock

A minor cycle is 6553.6 units of on-board time, so the clock advances by 6553 or 6554
units. The product of tick counter and period is kept in 32 bits: where it wraps, the
reported time falls back, and from then on the longer steps come at other ticks.
-/
namespace ObswPus.OnBoardTime
open Flight Downlink Commanding

/-- Exact time after `t` minor cycles, rounded down to units of 1/65536 s. -/
def exactTime (t : ℕ) : ℕ := t * 65536 / 10

/-- What the minor cycle after the first `t` adds. -/
def tickIncrement (t : ℕ) : ℕ := exactTime (t + 1) - exactTime t

/-- At `ms` milliseconds, the next minor cycle takes 6554 units rather than 6553. -/
def LongStep (ms : ℕ) : Prop := 50 ≤ 8192 * ms % 125

instance (ms : ℕ) : Decidable (LongStep ms) := inferInstanceAs (Decidable (_ ≤ _))

theorem scaled_eq (ms : ℕ) : ms * 65536 / 1000 = 8192 * ms / 125 := by omega

theorem scaled_add_period (ms : ℕ) :
    (ms + 100) * 65536 / 1000 = ms * 65536 / 1000 + if LongStep ms then 6554 else 6553 := by
  rw [scaled_eq, scaled_eq, Nat.mul_add]
  by_cases hlong : LongStep ms
  · rw [if_pos hlong]
    unfold LongStep at hlong
    omega
  · rw [if_neg hlong]
    unfold LongStep at hlong
    omega

theorem exactTime_eq (t : ℕ) : exactTime t = 100 * t * 65536 / 1000 := by
  unfold exactTime
  omega

theorem tickIncrement_eq (t : ℕ) :
    tickIncrement t = if LongStep (100 * t) then 6554 else 6553 := by
  have hstep := scaled_add_period (100 * t)
  have hnext : 100 * (t + 1) = 100 * t + 100 := by omega
  rw [tickIncrement, exactTime_eq, exactTime_eq, hnext, hstep, Nat.add_sub_cancel_left]

theorem tickIncrement_bounds (t : ℕ) : tickIncrement t = 6553 ∨ tickIncrement t = 6554 := by
  rw [tickIncrement_eq]
  split
  · exact Or.inr rfl
  · exact Or.inl rfl

theorem mod_ne_of_far {start now before step : ℕ} (hnow : now ≤ 99 * 65536 / 1000)
    (hbefore : 281474970157 ≤ before) (hbefore' : before < 281474976711) (hstep : step ≤ 6554) :
    (start + now) % 2 ^ 48 ≠ (start + before + step) % 2 ^ 48 := by
  omega

section Advance
variable {h : Hal} (ht : h.ticks.toNat + 1 < 2 ^ 32)
include ht

theorem elapsedMs_halTimeAdvance :
    elapsedMs (halTimeAdvance h) = (elapsedMs h + 100) % 2 ^ 32 := by
  have hone : (1 : UInt32).toNat = 1 := rfl
  simp only [elapsedMs, halTimeAdvance]
  rw [UInt32.toNat_add, hone, Nat.mod_eq_of_lt ht]
  omega

theorem reportedTime_halTimeAdvance : reportedTime (halTimeAdvance h) =
    (epoch h + (elapsedMs h + 100) % 2 ^ 32 * 65536 / 1000) % 2 ^ 48 := by
  rw [reportedTime_eq, elapsedMs_halTimeAdvance ht]
  rfl

/-- Where the product does not wrap, the clock steps by what the milliseconds call for. -/
theorem reportedTime_step (hwrap : elapsedMs h + 100 < 2 ^ 32) :
    reportedTime (halTimeAdvance h) =
      (reportedTime h + if LongStep (elapsedMs h) then 6554 else 6553) % 2 ^ 48 := by
  rw [reportedTime_halTimeAdvance ht, Nat.mod_eq_of_lt hwrap, scaled_add_period, reportedTime_eq,
    Nat.mod_add_mod, Nat.add_assoc]

/-- Where it wraps, the step is none of the right size. -/
theorem reportedTime_wrap (hwrap : 2 ^ 32 ≤ elapsedMs h + 100) {step : ℕ} (hstep : step ≤ 6554) :
    reportedTime (halTimeAdvance h) ≠ (reportedTime h + step) % 2 ^ 48 := by
  have helapsed := elapsedMs_lt h
  have hlow : (elapsedMs h + 100) % 2 ^ 32 ≤ 99 := by omega
  have hnow : (elapsedMs h + 100) % 2 ^ 32 * 65536 / 1000 ≤ 99 * 65536 / 1000 :=
    Nat.div_le_div_right (Nat.mul_le_mul_right _ hlow)
  have hbefore : 281474970157 ≤ elapsedMs h * 65536 / 1000 := by omega
  have hbefore' : elapsedMs h * 65536 / 1000 < 281474976711 := by omega
  rw [reportedTime_halTimeAdvance ht, reportedTime_eq, Nat.mod_add_mod]
  exact mod_ne_of_far hnow hbefore hbefore' hstep

/-- A minor cycle adds exactly its share of the time if and only if the product does not
wrap at it, and the long steps still come at the ticks where they are due. -/
theorem tick_rate_iff :
    (reportedTime (halTimeAdvance h) = (reportedTime h + tickIncrement h.ticks.toNat) % 2 ^ 48 ∧
      (tickIncrement h.ticks.toNat = 6553 ∨ tickIncrement h.ticks.toNat = 6554)) ↔
    elapsedMs h + 100 < 2 ^ 32 ∧ (LongStep (elapsedMs h) ↔ LongStep (100 * h.ticks.toNat)) := by
  have hbounds := tickIncrement_bounds h.ticks.toNat
  constructor
  · rintro ⟨hrate, -⟩
    have hwrap : elapsedMs h + 100 < 2 ^ 32 := by
      by_contra hge
      exact reportedTime_wrap ht (Nat.not_lt.mp hge) (by omega) hrate
    refine ⟨hwrap, ?_⟩
    rw [reportedTime_step ht hwrap, tickIncrement_eq] at hrate
    by_cases hlong : LongStep (elapsedMs h) <;> by_cases hdue : LongStep (100 * h.ticks.toNat) <;>
      simp only [hlong, hdue, if_true, if_false] at hrate ⊢ <;> omega
  · rintro ⟨hwrap, hlong⟩
    refine ⟨?_, hbounds⟩
    rw [reportedTime_step ht hwrap, tickIncrement_eq]
    simp only [hlong]

end Advance

/-- A long step, 34 hours after power-on, of a clock that has been set. -/
theorem tick_rate_late :
    reportedTime (halTimeAdvance
        { halTimeInit with ticks := 1234569, epochCoarse := 100, epochFine := 0xABCD }) =
      (reportedTime
        { halTimeInit with ticks := 1234569, epochCoarse := 100, epochFine := 0xABCD } + 6554) %
        2 ^ 48 :=
  ((tick_rate_iff (h := { halTimeInit with
    ticks := 1234569, epochCoarse := 100, epochFine := 0xABCD }) (by decide)).mpr
      (by decide +kernel)).1

/-- After 42949672 minor cycles, not quite fifty days, the time jumps back. -/
theorem time_falls_back :
    reportedTime (halTimeAdvance { halTimeInit with ticks := 42949672 }) ≠
        (reportedTime { halTimeInit with ticks := 42949672 } + tickIncrement 42949672) % 2 ^ 48 ∧
      reportedTime (halTimeAdvance { halTimeInit with ticks := 42949672 }) <
        reportedTime { halTimeInit with ticks := 42949672 } := by
  decide +kernel

theorem elapsedMs_eq {h : Hal} (ht : 100 * h.ticks.toNat < 2 ^ 32) :
    elapsedMs h = 100 * h.ticks.toNat := by
  rw [elapsedMs, Nat.mul_comm, Nat.mod_eq_of_lt ht]

theorem ticks_iterate (h : Hal) (n : ℕ) (hn : h.ticks.toNat + n < 2 ^ 32) :
    (halTimeAdvance^[n] h).ticks.toNat = h.ticks.toNat + n := by
  induction n with
  | zero => rfl
  | succ n ih =>
    have hone : (1 : UInt32).toNat = 1 := rfl
    rw [Function.iterate_succ_apply', halTimeAdvance, UInt32.toNat_add, ih (by omega), hone]
    omega

theorem epoch_iterate (h : Hal) (n : ℕ) : epoch (halTimeAdvance^[n] h) = epoch h := by
  induction n with
  | zero => rfl
  | succ n ih => rw [Function.iterate_succ_apply', ← ih]; rfl

/-- In the first 42949672 minor cycles any number of them adds exactly its share: the rounding of
one is made up for by the next. -/
theorem time_over_cycles (h : Hal) (n : ℕ) (hn : 100 * (h.ticks.toNat + n) < 2 ^ 32) :
    reportedTime (halTimeAdvance^[n] h) =
      (reportedTime h + (exactTime (h.ticks.toNat + n) - exactTime h.ticks.toNat)) % 2 ^ 48 := by
  have hticks := ticks_iterate h n (by omega)
  have hmono : exactTime h.ticks.toNat ≤ exactTime (h.ticks.toNat + n) := by
    unfold exactTime
    omega
  rw [reportedTime_eq, reportedTime_eq, epoch_iterate, elapsedMs_eq (by omega), elapsedMs_eq,
    hticks, ← exactTime_eq, ← exactTime_eq, Nat.mod_add_mod, Nat.add_assoc,
    Nat.add_sub_cancel' hmono]
  omega

theorem halGetCucTime_monitorTemperature (c : Control) :
    halGetCucTime (monitorTemperature c).hal = halGetCucTime c.hal := by
  have hheater (c : Control) (on : Bool) :
      halGetCucTime (switchHeater c on).hal = halGetCucTime c.hal := by
    unfold switchHeater
    split <;> rfl
  have hregulate : halGetCucTime (regulate c).hal = halGetCucTime c.hal := by
    unfold regulate switchMode
    split_ifs <;> first | rfl | exact hheater _ _
  unfold monitorTemperature
  split <;> exact hregulate

/-- The time after a minor cycle is the time before it, advanced once. -/
theorem reportedTime_obcTick (s : Obsw) :
    reportedTime (obcTick s).hal = reportedTime (halTimeAdvance s.hal) := by
  have hhal (m : Obsw) : (control m).hal = m.hal := rfl
  have hphase (c : Control) : (stepPhase c).hal = c.hal := rfl
  have hacquire (c : Control) : (acquire c).hal = halTimeAdvance c.hal := rfl
  rw [← hhal (obcTick s), control_obcTick, hphase, reportedTime, halGetCucTime_monitorTemperature,
    hacquire, hhal]
  rfl

end ObswPus.OnBoardTime
