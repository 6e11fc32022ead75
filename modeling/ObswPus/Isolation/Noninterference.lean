import ObswPus.Codec.Acceptance
import ObswPus.Commanding.Effect
import ObswPus.Library.TwoRuns

/-! # The downlink never influences control

Two runs from states that agree on mode, heater, counters, latch, time and
temperature keep agreeing on them, whatever their queues, drop counters, sequence
counters and report flags hold, whenever packets are taken, and whatever
acknowledgement, source and sequence count their telecommands carry.
-/
namespace ObswPus.Isolation
open Flight Downlink Commanding Codec Library

/-- Agreement on everything that commanding and monitoring act on. -/
structure Agree (s s' : Obsw) : Prop where
  mode : s.state.mode = s'.state.mode
  uptimeTicks : s.state.uptimeTicks = s'.state.uptimeTicks
  temperatureDc : s.state.temperatureDc = s'.state.temperatureDc
  heaterOn : s.state.heaterOn = s'.state.heaterOn
  heaterLine : s.hal.heaterOn = s'.hal.heaterOn
  tcAccepted : s.state.tcAccepted = s'.state.tcAccepted
  tcRejected : s.state.tcRejected = s'.state.tcRejected
  alarmLatched : s.alarmLatched = s'.alarmLatched
  phase : s.svc03.phase = s'.svc03.phase
  ticks : s.hal.ticks = s'.hal.ticks
  epochCoarse : s.hal.epochCoarse = s'.hal.epochCoarse
  epochFine : s.hal.epochFine = s'.hal.epochFine
  injectedTemperature : s.hal.temperatureDc = s'.hal.temperatureDc

/-- The controlled state with the report flags and the kept failure code blanked out. -/
def blank (c : Control) : Control :=
  { c with
    svc03 := { c.svc03 with enabled := .fill obcHkMaxStructures false }
    svc05 := svc05Init
    state := { c.state with lastFailureCode := 0 } }

theorem agree_iff {s s' : Obsw} : Agree s s' ↔ blank (control s) = blank (control s') := by
  constructor
  · intro h
    simp only [blank, Commanding.control, h.mode, h.uptimeTicks, h.temperatureDc, h.heaterOn,
      h.tcAccepted, h.tcRejected, h.alarmLatched, h.phase, Control.mk.injEq, and_true]
    have hhal (m : Hal) : m = ⟨m.ticks, m.epochCoarse, m.epochFine, m.temperatureDc, m.heaterOn⟩ :=
      rfl
    rw [hhal s.hal, h.ticks, h.epochCoarse, h.epochFine, h.injectedTemperature, h.heaterLine]
  · intro h
    simp only [blank, Commanding.control, Control.mk.injEq, Svc03.mk.injEq, ObcState.mk.injEq,
      true_and, and_true] at h
    obtain ⟨hhal, hphase, hstate, hlatch⟩ := h
    obtain ⟨hmode, huptime, htemperature, hheater, haccepted, hrejected⟩ := hstate
    exact ⟨hmode, huptime, htemperature, hheater, by rw [hhal], haccepted, hrejected, hlatch,
      hphase, by rw [hhal], by rw [hhal], by rw [hhal], by rw [hhal]⟩

/-- The blanked parts decide nothing that is not blanked. -/
def Respects (op : Control → Control) : Prop :=
  ∀ c c', blank c = blank c' → blank (op c) = blank (op c')

theorem Respects.comp {op op' : Control → Control} (hop : Respects op) (hop' : Respects op') :
    Respects fun c => op' (op c) := fun c c' h => hop' _ _ (hop c c' h)

theorem respects_of_blank {op : Control → Control}
    (h : ∀ c, blank (op c) = blank (op (blank c))) : Respects op := by
  intro c c' hsame
  rw [h c, h c', hsame]

section Operations
variable (c : Control)

theorem blank_switchHeater (on : Bool) : blank (switchHeater c on) = switchHeater (blank c) on :=
  apply_ite blank _ _ _

theorem blank_switchMode (target : ObcMode) :
    blank (switchMode c target) = switchMode (blank c) target := by
  unfold switchMode
  rw [apply_ite blank, apply_ite blank, blank_switchHeater]
  rfl

theorem blank_regulate : blank (regulate c) = regulate (blank c) := by
  unfold regulate
  simp only [apply_ite blank, blank_switchHeater, blank_switchMode]
  rfl

theorem blank_monitorTemperature : blank (monitorTemperature c) = monitorTemperature (blank c) := by
  have hrearm : blank { regulate c with alarmLatched := false } =
      { blank (regulate c) with alarmLatched := false } := rfl
  rw [monitorTemperature, apply_ite blank, hrearm, blank_regulate]
  rfl

end Operations

theorem blank_idem (c : Control) : blank (blank c) = blank c := rfl

theorem respects_obcTick : Respects fun c => stepPhase (monitorTemperature (acquire c)) := by
  have hacquire : Respects acquire := respects_of_blank fun _ => rfl
  have hmonitor : Respects monitorTemperature := respects_of_blank fun c => by
    rw [blank_monitorTemperature, blank_monitorTemperature, blank_idem]
  have hphase : Respects stepPhase := respects_of_blank fun _ => rfl
  exact (hacquire.comp hmonitor).comp hphase

theorem respects_readControl (read : Except PusStatus Request) : Respects (readControl · read) := by
  rcases read with st | request
  · exact fun _ _ h => h
  cases request with
  | setMode target =>
    apply respects_of_blank
    intro c
    simp only [readControl, Request.control, blank_switchMode, blank_idem]
  | setHeater on =>
    apply respects_of_blank
    intro c
    simp only [readControl, Request.control, apply_ite blank, blank_switchHeater, blank_idem]
    rfl
  | switchHk | oneShotHk | switchEvents | injectTemperature | setTime | resetCounters
  | areYouAlive => exact respects_of_blank fun _ => rfl

/-- Packets that differ at most in their sequence control (octets 2 and 3), acknowledgement
flags (low half of octet 6), source (octets 9 and 10), and consistently in their checksum. -/
structure SameCommand (a b : List UInt8) : Prop where
  length : a.length = b.length
  octets : ∀ i < a.length - 2, i ∉ [2, 3, 6, 9, 10] → a.getD i 0 = b.getD i 0
  pusVersion : a.getD 6 0 >>> 4 = b.getD 6 0 >>> 4
  checksum : ChecksumRight a ↔ ChecksumRight b

section SameCommand
variable {a b : List UInt8} (h : SameCommand a b)
include h

theorem octetAt_sameCommand {i : ℕ} (hi : i < a.length - 2) (hfree : i ∉ [2, 3, 6, 9, 10]) :
    octetAt a i = octetAt b i := by
  rw [octetAt, octetAt, h.octets i hi hfree]

theorem firstFailing_sameCommand : firstFailing a = firstFailing b := by
  have hversion : octetAt a 6 / 16 = octetAt b 6 / 16 := by
    rw [octetAt, octetAt, ← toNat_highNibble, ← toNat_highNibble, h.pusVersion]
  have hchecksum := not_congr h.checksum
  unfold firstFailing
  rw [← h.length]
  by_cases hshort : a.length < 13
  · rw [if_pos hshort, if_pos hshort]
  have hoctet (i : ℕ) (hi : i < 11) (hfree : i ∉ [2, 3, 6, 9, 10]) : octetAt a i = octetAt b i :=
    octetAt_sameCommand h (by omega) hfree
  simp only [hoctet 0 (by decide) (by decide), hoctet 1 (by decide) (by decide),
    hoctet 4 (by decide) (by decide), hoctet 5 (by decide) (by decide), hversion, ne_eq, hchecksum]

theorem readRequest_sameCommand (hlen : 13 ≤ a.length) :
    readRequest (decodedTc a) = readRequest (decodedTc b) := by
  have hlength : (decodedTc a).appDataLen = (decodedTc b).appDataLen := by
    simp only [decodedTc, h.length]
  have hdata (m : List UInt8) :
      applicationData (decodedTc m) = (m.drop 11).take (m.length - 13) := by
    simp only [applicationData, decodedTc]
    split
    · rfl
    · rename_i hempty
      rw [Nat.eq_zero_of_not_pos hempty, List.take_zero, List.take_zero]
  refine readRequest_congr hlength ?_ ?_ ?_
  · rw [hdata, hdata]
    apply List.ext_getElem
    · simp only [List.length_take, List.length_drop, h.length]
    · intro i hia hib
      have hlen' := h.length
      rw [List.length_take, List.length_drop] at hia hib
      have hi := h.octets (11 + i) (by omega) (by simp; omega)
      rw [List.getD_eq_getElem?_getD, List.getD_eq_getElem?_getD,
        List.getElem?_eq_getElem (by omega), List.getElem?_eq_getElem (by omega)] at hi
      simpa using hi
  · exact h.octets 7 (by omega) (by decide)
  · exact h.octets 8 (by omega) (by decide)

/-- Telecommands that command the same have the same effect. -/
theorem blank_tcEffect {c c' : Control} (hsame : blank c = blank c') :
    blank (tcEffect c a) = blank (tcEffect c' b) := by
  have hrejected (st : PusStatus) : Respects (countRejected · st) :=
    respects_of_blank fun _ => rfl
  have haccepted : Respects countAccepted := respects_of_blank fun _ => rfl
  simp only [tcEffect, pusTcParse_eq, firstFailing_sameCommand h]
  by_cases hok : firstFailing b = .ok
  · simp only [if_pos hok]
    rw [← firstFailing_sameCommand h] at hok
    rw [readRequest_sameCommand h (firstFailing_ok hok).1]
    exact respects_readControl _ _ _ (haccepted c c' hsame)
  · simp only [if_neg hok]
    exact hrejected _ c c' hsame

end SameCommand

/-- The stimuli that the two runs share. -/
inductive SameStimulus : Stimulus → Stimulus → Prop where
  | tick : SameStimulus .tick .tick
  | thermistor (valueDc : Int16) : SameStimulus (.thermistor valueDc) (.thermistor valueDc)
  | telecommand {a b : List UInt8} (h : SameCommand a b) :
      SameStimulus (.telecommand a) (.telecommand b)

/-- Packets are taken by each run on a schedule of its own. -/
inductive IsPop : Stimulus → Prop where
  | pop (buf : List UInt8) : IsPop (.pop buf)

theorem control_pop {u : Obc} {e : Stimulus} (he : IsPop e) :
    Commanding.control (u.step e).obsw = Commanding.control u.obsw := by
  cases he with
  | pop buf =>
    rw [obsw_pop]
    rfl

theorem agree_step {u v : Obc} {e e' : Stimulus} (he : SameStimulus e e')
    (h : Agree u.obsw v.obsw) : Agree (u.step e).obsw (v.step e').obsw := by
  rw [agree_iff] at h ⊢
  cases he with
  | tick =>
    rw [obsw_tick, obsw_tick, control_obcTick, control_obcTick]
    exact respects_obcTick _ _ h
  | thermistor valueDc =>
    have hinject : Respects fun c => { c with hal := halInjectTemperature c.hal valueDc } :=
      respects_of_blank fun _ => rfl
    rw [obsw_thermistor, obsw_thermistor]
    exact hinject _ _ h
  | @telecommand a b hsame =>
    have hcode (c : Control) (code : UInt16) : blank (withFailureCode c code) = blank c := rfl
    obtain ⟨code, hu⟩ := control_obcProcessTc u.obsw a
    obtain ⟨code', hv⟩ := control_obcProcessTc v.obsw b
    rw [obsw_telecommand, obsw_telecommand, hu, hv, hcode, hcode]
    exact blank_tcEffect hsame h

/-- Two runs from any two states that agree on the controlled part still agree on it after
every pair of stimulus sequences that command the same. -/
theorem downlink_never_influences_control {u v : Obc} (h : Agree u.obsw v.obsw)
    {left right : List Stimulus} (hpaired : Run.Paired SameStimulus IsPop left right) :
    Agree (Run.run Obc.step u left).obsw (Run.run Obc.step v right).obsw := by
  have hleft (u v : Obc) (e : Stimulus) (he : IsPop e) (h : Agree u.obsw v.obsw) :
      Agree (u.step e).obsw v.obsw := by
    rw [agree_iff, control_pop he, ← agree_iff]
    exact h
  have hright (u v : Obc) (e : Stimulus) (he : IsPop e) (h : Agree u.obsw v.obsw) :
      Agree u.obsw (v.step e).obsw := by
    rw [agree_iff, control_pop he, ← agree_iff]
    exact h
  have hboth (u v : Obc) (e e' : Stimulus) (he : SameStimulus e e') (h : Agree u.obsw v.obsw) :
      Agree (u.step e).obsw (v.step e').obsw := agree_step he h
  exact Run.run_related hleft hright hboth hpaired h

/-- The command of NOMINAL mode from source 7, fifth in its sequence, with all acknowledgements. -/
def nominalTelecommandOf7 : List UInt8 := [24, 12, 192, 5, 0, 8, 47, 8, 1, 0, 7, 1, 1, 215, 199]

theorem sameCommand_nominal : SameCommand nominalTelecommand nominalTelecommandOf7 where
  length := rfl
  octets := by decide +kernel
  pusVersion := by decide +kernel
  checksum := by decide +kernel

/-- The state with all events suppressed and a full drop counter. -/
def silenced (s : Obsw) : Obsw :=
  { s with
    svc05 := { enabled := .fill obcEventMaxIds false }
    queue := { s.queue with overflows := 0xFFFF } }

theorem agree_silenced (s : Obsw) : Agree s (silenced s) :=
  ⟨rfl, rfl, rfl, rfl, rfl, rfl, rfl, rfl, rfl, rfl, rfl, rfl, rfl⟩

/-- The second run starts silenced, takes no packet and receives the command from elsewhere. -/
theorem downlink_never_influences_control_nominal :
    Agree
      (Run.run Obc.step (powerOn default)
        [.pop [], .telecommand nominalTelecommand, .tick]).obsw
      (Run.run Obc.step { obsw := silenced (powerOn default).obsw, delivered := [] }
        [.telecommand nominalTelecommandOf7, .tick]).obsw :=
  downlink_never_influences_control (agree_silenced (powerOn default).obsw)
    (.left (.pop []) (.both (.telecommand sameCommand_nominal) (.both .tick .nil)))

end ObswPus.Isolation
