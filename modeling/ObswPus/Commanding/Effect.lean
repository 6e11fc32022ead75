import ObswPus.Commanding.Runs
import ObswPus.Codec.Acceptance

/-! # What a telecommand does to the controlled state

The change of the controlled state is a function of the controlled state and the
octets alone: what the downlink path holds shows in the kept failure code at most.
A telecommand enters it by its service, its subtype and its application data.
-/
namespace ObswPus.Commanding
open Flight Downlink Codec

def Request.control (c : Control) : Request → Control
  | .switchHk sids on => Commanding.switchHk c sids on
  | .oneShotHk _ => c
  | .switchEvents ids on => Commanding.switchEvents c ids on
  | .setMode target => switchMode c target
  | .setHeater on => if c.state.mode = .safe then c else switchHeater c on
  | .injectTemperature valueDc => { c with hal := halInjectTemperature c.hal valueDc }
  | .setTime coarse fine => { c with hal := halSetCucTime c.hal coarse fine }
  | .resetCounters => Commanding.resetCounters c
  | .areYouAlive => c

def readControl (c : Control) : Except PusStatus Request → Control
  | .error _ => c
  | .ok request => request.control c

theorem outcome_control (s : Obsw) (read : Except PusStatus Request) :
    (outcome s read).control = readControl (control s) read := by
  rcases read with st | request
  · rfl
  cases request with
  | setHeater on =>
    simp only [outcome, Request.outcome, readControl, Request.control]
    change _ = if s.state.mode = .safe then control s else switchHeater (control s) on
    split <;> rfl
  | switchHk | oneShotHk | switchEvents | setMode | injectTemperature | setTime | resetCounters
  | areYouAlive => rfl

def withFailureCode (c : Control) (code : UInt16) : Control :=
  { c with state := { c.state with lastFailureCode := code } }

/-- The effect of a telecommand, the failure code of a failed execution left aside. -/
def tcEffect (c : Control) (octets : List UInt8) : Control :=
  match pusTcParse (some octets) octets.length with
  | .error st => countRejected c st
  | .ok tc => readControl (countAccepted c) (readRequest tc)

theorem control_obcProcessTc (s : Obsw) (octets : List UInt8) :
    ∃ code, control (obcProcessTc s (some octets) octets.length).2 =
      withFailureCode (tcEffect (control s) octets) code := by
  rcases hparse : pusTcParse (some octets) octets.length with st | tc <;>
    simp only [tcEffect, hparse]
  · exact ⟨st.code, (evolves_obcProcessTc_rejected hparse).controlled⟩
  have hservice : (serviceOutcome s tc).control =
      readControl (countAccepted (control s)) (readRequest tc) := by
    rw [serviceOutcome, outcome_control, (evolves_atService s tc).controlled]
  rw [(evolves_obcProcessTc_routed hparse).controlled]
  by_cases hok : (serviceOutcome s tc).status = .ok
  · rw [if_pos hok, hservice]
    exact ⟨_, rfl⟩
  · rw [if_neg hok, ← hservice, serviceOutcome_failed hok]
    exact ⟨(serviceOutcome s tc).status.code, rfl⟩

/-- The octets that the declared length of the application data covers. -/
def applicationData (tc : PusTc) : List UInt8 := (tc.appData.getD []).take tc.appDataLen

theorem length_applicationData {octets : List UInt8} {tc : PusTc}
    (h : pusTcParse (some octets) octets.length = .ok tc) :
    (applicationData tc).length = tc.appDataLen := by
  obtain ⟨hok, rfl⟩ := pusTcParse_ok h
  have hlen := (firstFailing_ok hok).1
  simp only [applicationData, decodedTc]
  split
  · rw [Option.getD_some, List.length_take, List.length_drop]
    omega
  · rename_i hempty
    rw [Nat.eq_zero_of_not_pos hempty, List.take_zero]
    rfl

theorem pusGetU8_appDataAt {tc : PusTc} {i : ℕ} (hi : i < tc.appDataLen) :
    pusGetU8 (tc.appDataAt i) = (applicationData tc).getD i 0 := by
  simp only [pusGetU8, PusTc.appDataAt, applicationData, List.getD_eq_getElem?_getD,
    List.getElem?_drop, Nat.add_zero, List.getElem?_take_of_lt hi]

theorem pusGetU16_appDataAt (tc : PusTc) (i : ℕ) : pusGetU16 (tc.appDataAt i) =
    ((pusGetU8 (tc.appDataAt i)).toUInt16 <<< 8) |||
      (pusGetU8 (tc.appDataAt (i + 1))).toUInt16 := by
  simp only [pusGetU16, pusGetU8, PusTc.appDataAt, List.getD_eq_getElem?_getD,
    List.getElem?_drop, Nat.add_zero]

section SameRequest
variable {tc tc' : PusTc} (hlen : tc.appDataLen = tc'.appDataLen)
  (hdata : applicationData tc = applicationData tc')
include hlen hdata

theorem octet_congr {i : ℕ} (hi : i < tc.appDataLen) :
    pusGetU8 (tc.appDataAt i) = pusGetU8 (tc'.appDataAt i) := by
  rw [pusGetU8_appDataAt hi, pusGetU8_appDataAt (hlen ▸ hi), hdata]

theorem word16_congr {i : ℕ} (hi : i + 1 < tc.appDataLen) :
    pusGetU16 (tc.appDataAt i) = pusGetU16 (tc'.appDataAt i) := by
  rw [pusGetU16_appDataAt tc, pusGetU16_appDataAt tc', octet_congr hlen hdata (by omega),
    octet_congr hlen hdata hi]

theorem word32_congr {i : ℕ} (hi : i + 3 < tc.appDataLen) :
    pusGetU32 (tc.appDataAt i) = pusGetU32 (tc'.appDataAt i) := by
  have hword (t : PusTc) : pusGetU32 (t.appDataAt i) =
      ((pusGetU8 (t.appDataAt i)).toUInt32 <<< 24) |||
        ((pusGetU8 (t.appDataAt (i + 1))).toUInt32 <<< 16) |||
        ((pusGetU8 (t.appDataAt (i + 2))).toUInt32 <<< 8) |||
        (pusGetU8 (t.appDataAt (i + 3))).toUInt32 := by
    simp only [pusGetU32, pusGetU8, PusTc.appDataAt, List.getD_eq_getElem?_getD,
      List.getElem?_drop, Nat.add_zero]
  rw [hword tc, hword tc', octet_congr hlen hdata (i := i) (by omega),
    octet_congr hlen hdata (i := i + 1) (by omega), octet_congr hlen hdata (i := i + 2) (by omega),
    octet_congr hlen hdata hi]

theorem listCount_congr (hpos : 0 < tc.appDataLen) : listCount tc = listCount tc' := by
  rw [listCount, listCount, octet_congr hlen hdata hpos]

theorem checkList_congr {α : Type} (width : ℕ) (hwidth : 0 < width) (at' : PusTc → ℕ → α)
    (hat : ∀ i, 1 + i * width + (width - 1) < tc.appDataLen → at' tc i = at' tc' i)
    (valid : α → Bool) (unknown : PusStatus) :
    checkList tc width ((List.range (listCount tc)).map (at' tc)) valid unknown =
      checkList tc' width ((List.range (listCount tc')).map (at' tc')) valid unknown := by
  unfold checkList
  rw [hlen]
  by_cases hshort : tc'.appDataLen < 1
  · simp only [hshort, true_or, if_true]
  have hcount := listCount_congr hlen hdata (by omega)
  rw [hcount]
  by_cases hsize : tc'.appDataLen ≠ 1 + listCount tc' * width
  · simp only [hsize, ne_eq, not_false_eq_true, or_true, if_true]
  rw [not_not] at hsize
  have hids : (List.range (listCount tc')).map (at' tc) =
      (List.range (listCount tc')).map (at' tc') := by
    refine List.map_congr_left fun i hi => hat i ?_
    have hi' : i + 1 ≤ listCount tc' := List.mem_range.mp hi
    have hmul := Nat.mul_le_mul_right width hi'
    rw [Nat.add_mul, Nat.one_mul] at hmul
    omega
  rw [hids]

theorem checkSids_congr : checkSids tc = checkSids tc' :=
  checkList_congr hlen hdata 1 (by decide) sidAt
    (fun i hi => octet_congr hlen hdata (by omega)) _ _

theorem checkEvents_congr : checkEvents tc = checkEvents tc' :=
  checkList_congr hlen hdata 2 (by decide) eventIdAt
    (fun i hi => word16_congr hlen hdata (by omega)) _ _

omit hdata in
theorem readArguments_congr {argLen : ℕ} {read read' : Except PusStatus Request}
    (h : tc.appDataLen - 1 = argLen → read = read') :
    readArguments tc argLen read = readArguments tc' argLen read' := by
  unfold readArguments
  rw [hlen] at h ⊢
  split
  · rfl
  · rename_i harg
    exact h (not_not.mp harg)

theorem readFunction_congr (hsubtype : tc.serviceSubtype = tc'.serviceSubtype) :
    readFunction tc = readFunction tc' := by
  have hsetMode (harg : tc.appDataLen - 1 = 1) : readSetMode tc = readSetMode tc' := by
    rw [readSetMode, readSetMode, octet_congr hlen hdata (by omega)]
  have hsetHeater (harg : tc.appDataLen - 1 = 1) : readSetHeater tc = readSetHeater tc' := by
    rw [readSetHeater, readSetHeater, octet_congr hlen hdata (by omega)]
  have hinject (harg : tc.appDataLen - 1 = 2) :
      (Except.ok (.injectTemperature (pusGetI16 (tc.appDataAt 1))) : Except PusStatus Request) =
        .ok (.injectTemperature (pusGetI16 (tc'.appDataAt 1))) := by
    rw [pusGetI16, pusGetI16, word16_congr hlen hdata (by omega)]
  have hsetTime (harg : tc.appDataLen - 1 = 6) :
      (Except.ok (.setTime (pusGetU32 (tc.appDataAt 1)) (pusGetU16 (tc.appDataAt 5))) :
          Except PusStatus Request) =
        .ok (.setTime (pusGetU32 (tc'.appDataAt 1)) (pusGetU16 (tc'.appDataAt 5))) := by
    rw [word32_congr hlen hdata (by omega), word16_congr hlen hdata (by omega)]
  have hreset : readArguments tc 0 (.ok .resetCounters) =
      readArguments tc' 0 (.ok .resetCounters) := readArguments_congr hlen fun _ => rfl
  unfold readFunction
  rw [hsubtype, hlen]
  by_cases hshort : tc'.appDataLen < 1
  · simp only [hshort, if_true]
  · simp only [octet_congr hlen hdata (i := 0) (by omega), readArguments_congr hlen hsetMode,
      readArguments_congr hlen hsetHeater, readArguments_congr hlen hinject,
      readArguments_congr hlen hsetTime, hreset]

/-- A telecommand is read from its service, its subtype and its application data. -/
theorem readRequest_congr (hservice : tc.serviceType = tc'.serviceType)
    (hsubtype : tc.serviceSubtype = tc'.serviceSubtype) : readRequest tc = readRequest tc' := by
  simp only [readRequest, readHousekeeping, readEvent, readTest, hservice, hsubtype, hlen,
    checkSids_congr hlen hdata, checkEvents_congr hlen hdata,
    readFunction_congr hlen hdata hsubtype]

end SameRequest

/-- A telecommand for NOMINAL mode, without acknowledgement. -/
def nominalTelecommand : List UInt8 := [24, 12, 192, 0, 0, 8, 32, 8, 1, 0, 0, 1, 1, 26, 206]

end ObswPus.Commanding
