import ObswPus.Commanding.ModeAndHeater
import ObswPus.Downlink.Events

/-! # The minor cycle

Controlled state and reports of `obc_tick`, one part after the other: acquisition
and thermal control, the sample of the drop counter, periodic housekeeping.
-/
namespace ObswPus.Commanding
open Flight Downlink Library

def acquire (c : Control) : Control :=
  { c with
    hal := halTimeAdvance c.hal
    state := { c.state with
      uptimeTicks := c.state.uptimeTicks + 1
      temperatureDc := c.hal.temperatureDc } }

/-- The thermal law, the re-arming of the alarm left aside. -/
def regulate (c : Control) : Control :=
  if c.state.mode = .nominal then
    if c.state.temperatureDc ≥ obcTempAlarmDc then switchMode { c with alarmLatched := true } .safe
    else if c.state.temperatureDc ≥ obcTempHeaterOffDc then switchHeater c false
    else if c.state.temperatureDc ≤ obcTempHeaterOnDc then switchHeater c true
    else c
  else switchHeater c false

def monitorTemperature (c : Control) : Control :=
  if c.state.temperatureDc < obcTempHeaterOffDc then { regulate c with alarmLatched := false }
  else regulate c

def thermalReports (c : Control) : List Report :=
  if c.state.mode = .nominal then
    if c.state.temperatureDc ≥ obcTempAlarmDc then
      (if c.alarmLatched = false then
        eventReports c.svc05 .tempAlarm pusSt05HighSeverity c.state.temperatureDc.toUInt16
      else []) ++ modeReports c .safe
    else if c.state.temperatureDc ≥ obcTempHeaterOffDc then heaterReports c false
    else if c.state.temperatureDc ≤ obcTempHeaterOnDc then heaterReports c true
    else []
  else heaterReports c false

theorem length_thermalReports_le (c : Control) : (thermalReports c).length ≤ 3 := by
  have hmode := length_modeReports_le c .safe
  unfold thermalReports
  split_ifs
  · rw [List.length_append]
    exact Nat.add_le_add (length_eventReports_le _ _ _ _) hmode
  · exact hmode.trans (by decide)
  · exact (length_heaterReports_le c false).trans (by decide)
  · exact (length_heaterReports_le c true).trans (by decide)
  · exact Nat.zero_le _
  · exact (length_heaterReports_le c false).trans (by decide)

def raiseAlarm (s : Obsw) : Obsw :=
  if s.alarmLatched = false then
    (svc05Report { s with alarmLatched := true } ObcEventId.tempAlarm.code pusSt05HighSeverity
      s.state.temperatureDc.toUInt16).2
  else s

theorem evolves_raiseAlarm (s : Obsw) :
    Evolves s (raiseAlarm s) { control s with alarmLatched := true }
      (if (control s).alarmLatched = false then
        eventReports (control s).svc05 .tempAlarm pusSt05HighSeverity
          (control s).state.temperatureDc.toUInt16
      else []) := by
  unfold raiseAlarm
  change Evolves s _ _ (if s.alarmLatched = false then _ else _)
  split
  · have hwrite : SameDownlink s { s with alarmLatched := true } := ⟨rfl, rfl, rfl, rfl⟩
    exact (Evolves.write hwrite).event .tempAlarm pusSt05HighSeverity _ (by decide)
  · rename_i hlatched
    simp only [Bool.not_eq_false] at hlatched
    exact ⟨by simp only [control, hlatched], Emits.refl s⟩

/-- `obc_thermal_control` up to the re-arming of the alarm. -/
def regulated (s : Obsw) : Obsw :=
  if s.state.mode = .nominal then
    if s.state.temperatureDc ≥ obcTempAlarmDc then (obcSetMode (raiseAlarm s) ObcMode.safe.code).2
    else if s.state.temperatureDc ≥ obcTempHeaterOffDc then obcApplyHeater s false
    else if s.state.temperatureDc ≤ obcTempHeaterOnDc then obcApplyHeater s true
    else s
  else obcApplyHeater s false

theorem obcThermalControl_eq (s : Obsw) : obcThermalControl s =
    if s.state.temperatureDc < obcTempHeaterOffDc then { regulated s with alarmLatched := false }
    else regulated s := rfl

theorem evolves_regulated (s : Obsw) :
    Evolves s (regulated s) (regulate (control s)) (thermalReports (control s)) := by
  refine Evolves.ite (fun _ => ?_) fun _ => evolves_obcApplyHeater s false
  refine Evolves.ite (fun _ => ?_) fun _ => ?_
  · have halarm := evolves_raiseAlarm s
    have hmode := evolves_obcSetMode (raiseAlarm s) .safe
    rw [halarm.controlled] at hmode
    exact halarm.trans hmode
  refine Evolves.ite (fun _ => evolves_obcApplyHeater s false) fun _ => ?_
  exact Evolves.ite (fun _ => evolves_obcApplyHeater s true) fun _ => Evolves.refl s

theorem evolves_obcThermalControl (s : Obsw) :
    Evolves s (obcThermalControl s) (monitorTemperature (control s))
      (thermalReports (control s)) := by
  have hregulated := evolves_regulated s
  rw [obcThermalControl_eq, monitorTemperature]
  change Evolves s _ (if s.state.temperatureDc < obcTempHeaterOffDc then _ else _) _
  split
  · have hwrite : SameDownlink (regulated s) { regulated s with alarmLatched := false } :=
      ⟨rfl, rfl, rfl, rfl⟩
    have hrearm := hregulated.trans (Evolves.write hwrite)
    rw [List.append_nil] at hrearm
    refine ⟨?_, hrearm.emits⟩
    rw [← hregulated.controlled]
    rfl
  · exact hregulated

theorem monitorTemperature_svc05 (c : Control) : (monitorTemperature c).svc05 = c.svc05 := by
  have hregulate : (regulate c).svc05 = c.svc05 := by
    unfold regulate
    split_ifs <;> simp
  unfold monitorTemperature
  split <;> exact hregulate

def atSample (s : Obsw) : Obsw := obcThermalControl (obcAcquire s)

theorem evolves_atSample (s : Obsw) :
    Evolves s (atSample s) (monitorTemperature (acquire (control s)))
      (thermalReports (acquire (control s))) := by
  have hwrite : SameDownlink s (obcAcquire s) := ⟨rfl, rfl, rfl, rfl⟩
  exact (Evolves.write hwrite).trans (evolves_obcThermalControl (obcAcquire s))

def overflowReports (s : Obsw) : List Report :=
  if s.queue.overflows ≠ s.lastOverflow then
    eventReports (control s).svc05 .tmQueueOverflow pusSt05LowSeverity s.queue.overflows
  else []

/-- The sample is taken whether or not its report finds room. -/
def sampled (s : Obsw) : Obsw := { s with lastOverflow := s.queue.overflows }

@[simp] theorem sampled_queue (s : Obsw) : (sampled s).queue = s.queue := by
  simp only [sampled]

@[simp] theorem sampled_tm (s : Obsw) : (sampled s).tm = s.tm := by
  simp only [sampled]

@[simp] theorem sampled_history (s : Obsw) : (sampled s).history = s.history := by
  simp only [sampled]

theorem evolves_obcSampleOverflow (s : Obsw) :
    Evolves (sampled s) (obcSampleOverflow s) (control s) (overflowReports s) := by
  unfold obcSampleOverflow overflowReports
  change Evolves (sampled s) (if s.queue.overflows ≠ s.lastOverflow then _ else _) _ _
  split
  · exact evolves_svc05Report (sampled s) .tmQueueOverflow pusSt05LowSeverity _ (by decide)
  · rename_i hsame
    have hs : sampled s = s := by
      rw [not_not] at hsame
      rw [sampled, hsame]
    rw [hs]
    exact Evolves.refl s

def periodicReports : Obsw → List UInt8 → List Report
  | _, [] => []
  | s, sid :: sids =>
    if s.svc03.enabled.get (sid.toNat - 1) ≠ false then
      hkReport s sid :: periodicReports (emit s (hkReport s sid)) sids
    else periodicReports s sids

theorem service_periodicReports {s : Obsw} {sids : List UInt8} {r : Report}
    (hr : r ∈ periodicReports s sids) : r.service = pusServiceHousekeeping := by
  induction sids generalizing s with
  | nil => cases hr
  | cons sid sids ih =>
    unfold periodicReports at hr
    split at hr
    · rcases List.mem_cons.mp hr with rfl | hr
      · rfl
      · exact ih hr
    · exact ih hr

def hkSids : List UInt8 := [obcHkSidEssential, obcHkSidDiagnostic]

theorem hkSids_valid : ∀ sid ∈ hkSids, svc03SidValid sid = true := by
  intro sid hsid
  rcases List.mem_pair.mp hsid with rfl | rfl <;> rfl

theorem evolves_svc03TickOne (s : Obsw) (sids : List UInt8)
    (hsids : ∀ sid ∈ sids, svc03SidValid sid = true) :
    Evolves s (sids.foldl svc03TickOne s) (control s) (periodicReports s sids) := by
  induction sids generalizing s with
  | nil => exact Evolves.refl s
  | cons sid sids ih =>
    have hrest : ∀ sid ∈ sids, svc03SidValid sid = true :=
      fun sid hmem => hsids sid (List.mem_cons_of_mem _ hmem)
    rw [List.foldl_cons, periodicReports, svc03TickOne, svc03Generate_eq s (hsids sid (by simp))]
    split
    · have hnext := ih (emit s (hkReport s sid)) hrest
      rw [control_emit] at hnext
      exact (Evolves.send s _).trans hnext
    · exact ih s hrest

def advancePhase (s : Obsw) : Obsw :=
  if s.svc03.phase + 1 < obcHkPeriodTicks then
    { s with svc03 := { s.svc03 with phase := s.svc03.phase + 1 } }
  else { s with svc03 := { s.svc03 with phase := 0 } }

def hkTickReports (s : Obsw) : List Report :=
  if s.svc03.phase + 1 < obcHkPeriodTicks then [] else periodicReports (advancePhase s) hkSids

theorem evolves_svc03Tick (s : Obsw) :
    Evolves s (svc03Tick s) (control (advancePhase s)) (hkTickReports s) := by
  have hcode : svc03Tick s = if s.svc03.phase + 1 < obcHkPeriodTicks then advancePhase s
      else hkSids.foldl svc03TickOne (advancePhase s) := by
    by_cases hphase : s.svc03.phase + 1 < obcHkPeriodTicks
    · simp only [svc03Tick, advancePhase, if_pos hphase]
    · simp only [svc03Tick, advancePhase, if_neg hphase]
      rfl
  have hwrite : SameDownlink s (advancePhase s) := by
    unfold advancePhase
    split <;> exact ⟨rfl, rfl, rfl, rfl⟩
  rw [hcode, hkTickReports]
  split
  · exact Evolves.write hwrite
  · exact (Evolves.write hwrite).trans (evolves_svc03TickOne _ hkSids hkSids_valid)

theorem evolves_fromSample (s : Obsw) :
    Evolves (sampled (atSample s)) (obcTick s)
      (control (advancePhase (obcSampleOverflow (atSample s))))
      (overflowReports (atSample s) ++ hkTickReports (obcSampleOverflow (atSample s))) :=
  (evolves_obcSampleOverflow (atSample s)).trans (evolves_svc03Tick _)

def stepPhase (c : Control) : Control :=
  { c with svc03 := { c.svc03 with
      phase := if c.svc03.phase + 1 < obcHkPeriodTicks then c.svc03.phase + 1 else 0 } }

/-- What a minor cycle does to the controlled state, whatever the downlink looks like. -/
theorem control_obcTick (s : Obsw) :
    control (obcTick s) = stepPhase (monitorTemperature (acquire (control s))) := by
  have hphase (m : Obsw) : control (advancePhase m) = stepPhase (control m) := by
    by_cases hbelow : m.svc03.phase + 1 < obcHkPeriodTicks
    · simp only [advancePhase, stepPhase, control, hbelow, if_true]
    · simp only [advancePhase, stepPhase, control, hbelow, if_false]
  rw [(evolves_fromSample s).controlled, hphase, (evolves_obcSampleOverflow _).controlled,
    (evolves_atSample s).controlled]

theorem valid_obcTick {s : Obsw} (hq : Valid s.queue) : Valid (obcTick s).queue := by
  have hsample := (evolves_atSample s).emits.valid hq
  rw [← sampled_queue] at hsample
  exact (evolves_fromSample s).emits.valid hsample

theorem sends_obcTick (s : Obsw) : Sends s (obcTick s)
    (thermalReports (acquire (control s)) ++
      (overflowReports (atSample s) ++ hkTickReports (obcSampleOverflow (atSample s)))) := by
  have hthermal : Sends s (sampled (atSample s))
      (thermalReports (acquire (control s))) := by
    have hsent := (evolves_atSample s).emits.sent
    rw [← sampled_history] at hsent
    exact hsent
  exact hthermal.trans (evolves_fromSample s).emits.sent

/-- What all reports of a minor cycle say, and all packets before it, all packets after it say. -/
theorem history_forall_obcTick {s : Obsw} {P : Content → Prop}
    (hthermal : ∀ r ∈ thermalReports (acquire (control s)), P r.content)
    (hrest : ∀ r ∈ overflowReports (atSample s) ++ hkTickReports (obcSampleOverflow (atSample s)),
      P r.content)
    (hs : ∀ x ∈ s.history, P (tmContent x.packet)) :
    ∀ x ∈ (obcTick s).history, P (tmContent x.packet) := by
  have hsample := (evolves_atSample s).emits.history_forall hthermal hs
  rw [← sampled_history] at hsample
  exact (evolves_fromSample s).emits.history_forall hrest hsample

end ObswPus.Commanding
