import ObswPus.Autonomy.Regulator
import ObswPus.Commanding.Verification

/-! # The telecommands that concern regulation

The octets by which ground orders a mode or a heater state: an accepted function
management telecommand with exactly two octets of application data. Nothing else that
can be uplinked is an input to the thermostat.
-/
namespace ObswPus.Autonomy
open Flight Downlink Commanding Codec Library

/-- The octets are an accepted telecommand (8,1) with exactly this application data. -/
def Performs (octets data : List UInt8) : Prop :=
  ∃ tc, pusTcParse (some octets) octets.length = .ok tc ∧ tc.serviceType = pusServiceFunction ∧
    tc.serviceSubtype = pusSt08Perform ∧ applicationData tc = data

theorem readFunction_of_readRequest {tc : PusTc} {request : Request}
    (horder : requestInput (some request) ≠ .idle) (h : readRequest tc = .ok request) :
    tc.serviceType = pusServiceFunction ∧ readFunction tc = .ok request := by
  unfold readRequest at h
  split_ifs at h with _ _ hservice
  · unfold readHousekeeping at h
    split_ifs at h <;> exact absurd h (map_ne_ok (by rintro ids rfl; exact horder rfl))
  · unfold readEvent at h
    split_ifs at h <;> exact absurd h (map_ne_ok (by rintro ids rfl; exact horder rfl))
  · exact ⟨hservice, h⟩
  · unfold readTest at h
    split_ifs at h
    cases h
    exact absurd rfl horder

theorem readArguments_ok {tc : PusTc} {argLen : ℕ} {read : Except PusStatus Request}
    {request : Request} (h : readArguments tc argLen read = .ok request) :
    tc.appDataLen - 1 = argLen ∧ read = .ok request := by
  unfold readArguments at h
  split_ifs at h with harg
  exact ⟨not_not.mp harg, h⟩

theorem readSetMode_ok_iff (tc : PusTc) (target : ObcMode) :
    readSetMode tc = .ok (.setMode target) ↔
      pusGetU8 (tc.appDataAt 1) = target.code.toUInt8 := by
  have hsafe : ObcMode.safe.code.toUInt8 = 0 := rfl
  have hnominal : ObcMode.nominal.code.toUInt8 = 1 := rfl
  rw [readSetMode_eq]
  cases target with
  | safe =>
    rw [hsafe]
    split_ifs <;> simp_all
  | nominal =>
    rw [hnominal]
    split_ifs <;> simp_all

theorem readSetHeater_ok_iff (tc : PusTc) (on : Bool) :
    readSetHeater tc = .ok (.setHeater on) ↔ pusGetU8 (tc.appDataAt 1) = on.toUInt8 := by
  have hrange (v : UInt8) (h : ¬1 < v) : v = 0 ∨ v = 1 := by
    rw [UInt8.lt_iff_toNat_lt, UInt8.toNat_one] at h
    rw [← UInt8.toNat_inj, ← UInt8.toNat_inj, UInt8.toNat_zero, UInt8.toNat_one]
    omega
  unfold readSetHeater
  generalize pusGetU8 (tc.appDataAt 1) = v
  by_cases hbig : 1 < v
  · rw [if_pos hbig]
    apply iff_of_false (by simp)
    rintro rfl
    cases on <;> exact absurd hbig (by decide)
  · rw [if_neg hbig]
    rcases hrange v hbig with rfl | rfl <;> cases on <;> decide

theorem readFunction_order_iff {tc : PusTc} {request : Request}
    (horder : requestInput (some request) ≠ .idle) :
    readFunction tc = .ok request ↔
      tc.serviceSubtype = pusSt08Perform ∧ tc.appDataLen = 2 ∧
        ((pusGetU8 (tc.appDataAt 0) = obcFidSetMode ∧ readSetMode tc = .ok request) ∨
          (pusGetU8 (tc.appDataAt 0) = obcFidSetHeater ∧ readSetHeater tc = .ok request)) := by
  have hother {argLen : ℕ} {other : Request} (hinput : requestInput (some other) = .idle)
      (h : readArguments tc argLen (.ok other) = .ok request) : False := by
    obtain ⟨-, hread⟩ := readArguments_ok h
    cases hread
    exact horder hinput
  constructor
  · intro h
    simp only [readFunction] at h
    split_ifs at h with hsubtype hshort hmode hheater
    · obtain ⟨harg, hread⟩ := readArguments_ok h
      exact ⟨not_not.mp hsubtype, by omega, .inl ⟨hmode, hread⟩⟩
    · obtain ⟨harg, hread⟩ := readArguments_ok h
      exact ⟨not_not.mp hsubtype, by omega, .inr ⟨hheater, hread⟩⟩
    · exact (hother rfl h).elim
    · exact (hother rfl h).elim
    · exact (hother rfl h).elim
  · have hdiffer : obcFidSetHeater ≠ obcFidSetMode := by decide
    rintro ⟨hsubtype, hlen, ⟨hfid, hread⟩ | ⟨hfid, hread⟩⟩
    · simp [readFunction, readArguments, hsubtype, hlen, hfid, hread]
    · simp [readFunction, readArguments, hsubtype, hlen, hfid, hread, hdiffer]

section Requested
variable {octets : List UInt8}

theorem requested_eq_some_iff {request : Request} :
    requested octets = some request ↔
      ∃ tc, pusTcParse (some octets) octets.length = .ok tc ∧ readRequest tc = .ok request := by
  unfold requested
  rcases pusTcParse (some octets) octets.length with st | tc
  · simp
  · rcases hread : readRequest tc with st | r <;> simp [hread, Except.toOption]

theorem applicationData_pair {tc : PusTc} (hparse : pusTcParse (some octets) octets.length = .ok tc)
    (hlen : tc.appDataLen = 2) :
    applicationData tc = [pusGetU8 (tc.appDataAt 0), pusGetU8 (tc.appDataAt 1)] := by
  have htwo := length_applicationData hparse
  rw [hlen] at htwo
  obtain ⟨a, b, hdata⟩ := List.length_eq_two.mp htwo
  rw [pusGetU8_appDataAt (by omega), pusGetU8_appDataAt (by omega), hdata]
  rfl

/-- An order is read from its octets exactly when they perform it. -/
theorem requested_order_iff {request : Request} {fid arg : UInt8}
    (horder : requestInput (some request) ≠ .idle)
    (hargument : ∀ tc : PusTc,
      (pusGetU8 (tc.appDataAt 0) = obcFidSetMode ∧ readSetMode tc = .ok request) ∨
          (pusGetU8 (tc.appDataAt 0) = obcFidSetHeater ∧ readSetHeater tc = .ok request) ↔
        pusGetU8 (tc.appDataAt 0) = fid ∧ pusGetU8 (tc.appDataAt 1) = arg) :
    requested octets = some request ↔ Performs octets [fid, arg] := by
  rw [requested_eq_some_iff]
  constructor
  · rintro ⟨tc, hparse, hread⟩
    obtain ⟨hservice, hfunction⟩ := readFunction_of_readRequest horder hread
    obtain ⟨hsubtype, hlen, horders⟩ := (readFunction_order_iff horder).mp hfunction
    obtain ⟨hfid, harg⟩ := (hargument tc).mp horders
    refine ⟨tc, hparse, hservice, hsubtype, ?_⟩
    rw [applicationData_pair hparse hlen, hfid, harg]
  · rintro ⟨tc, hparse, hservice, hsubtype, hdata⟩
    have hlen : tc.appDataLen = 2 := by
      rw [← length_applicationData hparse, hdata]
      rfl
    rw [applicationData_pair hparse hlen, List.cons.injEq, List.cons.injEq] at hdata
    refine ⟨tc, hparse, ?_⟩
    rw [readRequest, if_neg (by rw [hservice]; decide), if_neg (by rw [hservice]; decide),
      if_pos hservice, readFunction_order_iff horder]
    exact ⟨hsubtype, hlen, (hargument tc).mpr ⟨hdata.1, hdata.2.1⟩⟩

theorem requested_setMode_iff (target : ObcMode) :
    requested octets = some (.setMode target) ↔
      Performs octets [obcFidSetMode, target.code.toUInt8] := by
  apply requested_order_iff (by simp [requestInput])
  intro tc
  have hnot : readSetHeater tc ≠ .ok (.setMode target) := ite_ne (by simp) (by simp)
  rw [readSetMode_ok_iff]
  simp only [hnot, and_false, or_false]

theorem requested_setHeater_iff (on : Bool) :
    requested octets = some (.setHeater on) ↔
      Performs octets [obcFidSetHeater, on.toUInt8] := by
  apply requested_order_iff (by simp [requestInput])
  intro tc
  have hnot : readSetMode tc ≠ .ok (.setHeater on) := by
    unfold readSetMode
    split <;> simp
  rw [readSetHeater_ok_iff]
  simp only [hnot, and_false, false_or]

end Requested

end ObswPus.Autonomy
