import ObswPus.OnBoardTime.Clock
import ObswPus.Commanding.Telecommand
import ObswPus.Codec.Acceptance

/-! # Setting the time

The epoch is stored as the commanded time less the elapsed time, word by word: a fine
word smaller than the elapsed sub-second part wraps, and nothing is borrowed from the
coarse word. Reading the time back carries, and is then one second ahead.
-/
namespace ObswPus.OnBoardTime
open Flight Downlink Commanding Codec

section RoundTrip
variable (h : Hal) (coarse : UInt32) (fine : UInt16)

theorem elapsedMs_halSetCucTime : elapsedMs (halSetCucTime h coarse fine) = elapsedMs h := rfl

theorem subSecond_halSetCucTime : subSecond (halSetCucTime h coarse fine) = subSecond h := rfl

theorem toNat_epochCoarse_halSetCucTime : (halSetCucTime h coarse fine).epochCoarse.toNat =
    (2 ^ 32 - elapsedMs h / 1000 + coarse.toNat) % 2 ^ 32 := by
  simp only [halSetCucTime]
  rw [UInt32.toNat_sub, toNat_elapsedSeconds]

theorem toNat_epochFine_halSetCucTime : (halSetCucTime h coarse fine).epochFine.toNat =
    (65536 - subSecond h + fine.toNat) % 65536 := by
  have hsub := subSecond_lt h
  simp only [halSetCucTime]
  rw [UInt16.toNat_sub, UInt32.toNat_toUInt16, toNat_subSecond, Nat.mod_eq_of_lt hsub]

/-- The fine word always comes back as set; the coarse word does unless a borrow was due. -/
theorem halGetCucTime_halSetCucTime : halGetCucTime (halSetCucTime h coarse fine) =
    (if subSecond h ≤ fine.toNat then coarse else coarse + 1, fine) := by
  have helapsed := elapsedMs_lt h
  have hsub := subSecond_lt h
  have hcoarse := coarse.toNat_lt
  have hfine := fine.toNat_lt
  apply Prod.ext
  · apply UInt32.toNat_inj.mp
    rw [toNat_coarse, elapsedMs_halSetCucTime, subSecond_halSetCucTime,
      toNat_epochCoarse_halSetCucTime, toNat_epochFine_halSetCucTime]
    split
    · rename_i hborrow
      have hcarry : ((65536 - subSecond h + fine.toNat) % 65536 + subSecond h) / 65536 = 0 := by
        omega
      dsimp only
      omega
    · rename_i hborrow
      have hcarry : ((65536 - subSecond h + fine.toNat) % 65536 + subSecond h) / 65536 = 1 := by
        omega
      have hone : (coarse + 1).toNat = (coarse.toNat + 1) % 2 ^ 32 := UInt32.toNat_add coarse 1
      dsimp only
      omega
  · apply UInt16.toNat_inj.mp
    rw [toNat_fine, subSecond_halSetCucTime, toNat_epochFine_halSetCucTime]
    dsimp only
    omega

theorem get_set_iff : halGetCucTime (halSetCucTime h coarse fine) = (coarse, fine) ↔
    subSecond h ≤ fine.toNat := by
  rw [halGetCucTime_halSetCucTime]
  by_cases hborrow : subSecond h ≤ fine.toNat
  · simp [hborrow]
  · have hne : coarse + 1 ≠ coarse := by
      intro heq
      have hnat := congrArg UInt32.toNat heq
      rw [UInt32.toNat_add] at hnat
      have hcoarse := coarse.toNat_lt
      have hone : (1 : UInt32).toNat = 1 := rfl
      omega
    simp [hborrow, hne]

end RoundTrip

/-- A request to set the time that asks for a completion report. -/
structure SetsTime (tc : PusTc) : Prop where
  service : tc.serviceType = pusServiceFunction
  subtype : tc.serviceSubtype = pusSt08Perform
  length : tc.appDataLen = 7
  function : pusGetU8 (tc.appDataAt 0) = obcFidSetTime
  ack : pusTcAckRequested (some tc) pusAckCompletion = true

def commandedCoarse (tc : PusTc) : UInt32 := pusGetU32 (tc.appDataAt 1)

def commandedFine (tc : PusTc) : UInt16 := pusGetU16 (tc.appDataAt 5)

theorem obcRoute_setTime (s : Obsw) {tc : PusTc} (htc : SetsTime tc) :
    obcRoute s tc =
      (.ok, { s with hal := halSetCucTime s.hal (commandedCoarse tc) (commandedFine tc) }) := by
  have hroute : obcRoute s tc = svc08Handle s (some tc) := by
    simp only [obcRoute, htc.service]
    rfl
  rw [hroute]
  simp only [svc08Handle, htc.subtype, htc.length, htc.function, commandedCoarse, commandedFine]
  rfl

theorem setTime_completion {s : Obsw} {octets : List UInt8} {tc : PusTc}
    (hparse : pusTcParse (some octets) octets.length = .ok tc) (htc : SetsTime tc) :
    ∃ x, (obcProcessTc s (some octets) octets.length).2.history =
        (atService s tc).history ++ [x] ∧
      tmContent x.packet =
        (pusServiceVerification, pusSt01CompletionSuccess, pusPutU32 tc.requestId) ∧
      tmTime x.packet =
        halGetCucTime (halSetCucTime s.hal (commandedCoarse tc) (commandedFine tc)) := by
  have hhal : (atService s tc).hal = s.hal :=
    congrArg Control.hal (evolves_atService s tc).controlled
  rw [obcProcessTc_routed hparse, obcRoute_setTime _ htc, closeTc, if_pos rfl]
  simp only [svc01CompletionSuccess, htc.ack, svc01SendSuccess_eq, Bool.true_eq_false, if_false,
    hhal]
  refine ⟨_, history_emit _ _, ?_, ?_⟩
  · exact tmContent_tmPacket _ _ _
  · exact tmTime_tmPacket _ _ _

/-- Setting and reading the time, and the completion report of a telecommand that sets it,
give the commanded time just when its fine word covers the elapsed sub-second part. -/
theorem set_time_round_trip_iff (s : Obsw) (coarse : UInt32) (fine : UInt16) :
    (halGetCucTime (halSetCucTime s.hal coarse fine) = (coarse, fine) ↔
      subSecond s.hal ≤ fine.toNat) ∧
    ∀ (octets : List UInt8) (tc : PusTc),
      pusTcParse (some octets) octets.length = .ok tc → SetsTime tc →
      commandedCoarse tc = coarse → commandedFine tc = fine →
      ∃ x, (obcProcessTc s (some octets) octets.length).2.history =
          (atService s tc).history ++ [x] ∧
        tmContent x.packet =
          (pusServiceVerification, pusSt01CompletionSuccess, pusPutU32 tc.requestId) ∧
        (tmTime x.packet = (coarse, fine) ↔ subSecond s.hal ≤ fine.toNat) := by
  refine ⟨get_set_iff s.hal coarse fine, ?_⟩
  rintro octets tc hparse htc rfl rfl
  obtain ⟨x, hhistory, hcontent, htime⟩ := setTime_completion (s := s) hparse htc
  refine ⟨x, hhistory, hcontent, ?_⟩
  rw [htime]
  exact get_set_iff s.hal _ _

/-- The time is set to zero, with a completion report. -/
def setTimeToZero : List UInt8 :=
  [24, 12, 192, 0, 0, 13, 40, 8, 1, 0, 0, 5, 0, 0, 0, 0, 0, 0, 140, 10]

/-- Reading back a fine word of 0.1 s after one minor cycle, and setting the time to zero
before the first. -/
theorem set_time_round_trip_covered :
    halGetCucTime (halSetCucTime (after default [.tick]).obsw.hal 0 6553) = (0, 6553) ∧
      ∃ x, (obcProcessTc (after default []).obsw (some setTimeToZero)
          setTimeToZero.length).2.history =
          (atService (after default []).obsw (decodedTc setTimeToZero)).history ++ [x] ∧
        tmTime x.packet = (0, 0) := by
  have hparse : pusTcParse (some setTimeToZero) setTimeToZero.length =
      .ok (decodedTc setTimeToZero) := by
    rw [pusTcParse_eq, if_pos (by decide +kernel)]
  have htc : SetsTime (decodedTc setTimeToZero) := by
    constructor <;> decide +kernel
  have hclock := (set_time_round_trip_iff (after default [.tick]).obsw 0 6553).1
  obtain ⟨x, hhistory, -, htime⟩ := (set_time_round_trip_iff (after default []).obsw 0 0).2 _ _
    hparse htc (by decide +kernel) (by decide +kernel)
  refine ⟨hclock.mpr (by decide +kernel), x, hhistory, ?_⟩
  exact htime.mpr (by decide +kernel)

/-- One minor cycle after power-on the time is set to zero: the clock reads one second, and
so does the completion report. -/
theorem set_time_one_second_ahead :
    halGetCucTime (halSetCucTime (after default [.tick]).obsw.hal 0 0) ≠ (0, 0) ∧
      (obcProcessTc (after default [.tick]).obsw (some setTimeToZero)
        setTimeToZero.length).1 = .ok ∧
      ∃ x, (obcProcessTc (after default [.tick]).obsw (some setTimeToZero)
          setTimeToZero.length).2.history.getLast? = some x ∧
        tmContent x.packet = (1, 7, [24, 12, 192, 0]) ∧ tmTime x.packet = (1, 0) := by
  decide +kernel

end ObswPus.OnBoardTime
