import ObswPus.Commanding.Runs

/-! # Heater safety

In SAFE mode the heater is off: as an invariant of the controlled state that every
transition restores, and as a property of every housekeeping report ever sent.
-/
namespace ObswPus.Safety
open Flight Downlink Commanding

/-- The heater line agrees with its mirror, and is off in SAFE mode. -/
structure HeaterSafe (c : Control) : Prop where
  line : halGetHeater c.hal = c.state.heaterOn
  off : c.state.mode = .safe → c.state.heaterOn = false

section Transitions
variable {c : Control}

/-- Switching off restores safety from any state in which the mirror is right: in
particular from half-way through a transition to SAFE mode. -/
theorem heaterSafe_switchHeater_off (hline : halGetHeater c.hal = c.state.heaterOn) :
    HeaterSafe (switchHeater c false) := by
  unfold switchHeater
  split
  · rename_i hoff
    exact ⟨hline, fun _ => hoff.symm⟩
  · exact ⟨rfl, fun _ => rfl⟩

theorem heaterSafe_switchHeater (h : HeaterSafe c) (hmode : c.state.mode ≠ .safe) (on : Bool) :
    HeaterSafe (switchHeater c on) := by
  unfold switchHeater
  split
  · exact h
  · cases on <;> exact ⟨rfl, fun hsafe => absurd hsafe hmode⟩

theorem heaterSafe_switchMode (h : HeaterSafe c) (target : ObcMode) :
    HeaterSafe (switchMode c target) := by
  unfold switchMode
  split
  · exact h
  split
  · exact heaterSafe_switchHeater_off h.line
  · rename_i htarget
    exact ⟨h.line, fun hsafe => absurd hsafe htarget⟩

theorem heaterSafe_regulate (h : HeaterSafe c) : HeaterSafe (regulate c) := by
  unfold regulate
  split_ifs with hmode
  · have halarm : HeaterSafe { c with alarmLatched := true } := ⟨h.line, h.off⟩
    exact heaterSafe_switchMode halarm .safe
  · exact heaterSafe_switchHeater_off h.line
  · exact heaterSafe_switchHeater h (by rw [hmode]; decide) true
  · exact h
  · exact heaterSafe_switchHeater_off h.line

theorem heaterSafe_monitorTemperature (h : HeaterSafe c) : HeaterSafe (monitorTemperature c) := by
  have hregulate := heaterSafe_regulate h
  unfold monitorTemperature
  split
  · exact ⟨hregulate.line, hregulate.off⟩
  · exact hregulate

theorem heaterSafe_acquire (h : HeaterSafe c) : HeaterSafe (acquire c) := ⟨h.line, h.off⟩

theorem heaterSafe_tcControl (h : HeaterSafe c) (octets : List UInt8) :
    HeaterSafe (tcControl c octets) := by
  unfold tcControl
  split <;> exact ⟨h.line, h.off⟩

theorem heaterSafe_advancePhase {s : Obsw} (h : HeaterSafe (control s)) :
    HeaterSafe (control (advancePhase s)) := by
  unfold advancePhase
  split <;> exact ⟨h.line, h.off⟩

theorem heaterSafe_outcome {s : Obsw} (h : HeaterSafe (control s))
    (read : Except PusStatus Request) : HeaterSafe (outcome s read).control := by
  rcases read with st | request
  · exact h
  cases request with
  | setMode target => exact heaterSafe_switchMode h target
  | setHeater on =>
    simp only [outcome, Request.outcome]
    split
    · exact h
    · rename_i hmode
      exact heaterSafe_switchHeater h hmode on
  | switchHk | oneShotHk | switchEvents | injectTemperature | setTime | resetCounters
  | areYouAlive => exact ⟨h.line, h.off⟩

theorem heaterSafe_obcProcessTc {s : Obsw} (h : HeaterSafe (control s))
    (octets : List UInt8) :
    HeaterSafe (control (obcProcessTc s (some octets) octets.length).2) := by
  have hcount := heaterSafe_tcControl h octets
  rcases hparse : pusTcParse (some octets) octets.length with st | tc <;>
    simp only [tcControl, hparse] at hcount
  · rw [(evolves_obcProcessTc_rejected hparse).controlled]
    exact hcount
  · rw [(evolves_obcProcessTc_routed hparse).controlled]
    split
    · refine heaterSafe_outcome ?_ _
      rw [(evolves_atService s tc).controlled]
      exact hcount
    · exact ⟨hcount.line, hcount.off⟩

theorem heaterSafe_obcTick {s : Obsw} (h : HeaterSafe (control s)) :
    HeaterSafe (control (obcSampleOverflow (atSample s))) ∧ HeaterSafe (control (obcTick s)) := by
  have hsample : HeaterSafe (control (obcSampleOverflow (atSample s))) := by
    rw [(evolves_obcSampleOverflow (atSample s)).controlled, (evolves_atSample s).controlled]
    exact heaterSafe_monitorTemperature (heaterSafe_acquire h)
  refine ⟨hsample, ?_⟩
  rw [(evolves_fromSample s).controlled]
  exact heaterSafe_advancePhase hsample

end Transitions

/-- An essential housekeeping report that shows SAFE mode shows the heater off. -/
def ShowsHeaterOff (content : Content) : Prop :=
  content.1 = pusServiceHousekeeping → content.2.1 = pusSt03Report →
    content.2.2[0]? = some obcHkSidEssential →
    content.2.2[1]? = some ObcMode.safe.code.toUInt8 → content.2.2[8]? = some 0

theorem showsHeaterOff_of_service {content : Content}
    (h : content.1 ≠ pusServiceHousekeeping) : ShowsHeaterOff content :=
  fun hservice => absurd hservice h

theorem showsHeaterOff_eventReport (id : ObcEventId) (severity : UInt8) (aux : UInt16) :
    ShowsHeaterOff (eventReport id severity aux).content :=
  showsHeaterOff_of_service (show pusServiceEvent ≠ pusServiceHousekeeping by decide)

theorem showsHeaterOff_hkReport {s : Obsw} (h : HeaterSafe (control s)) (sid : UInt8) :
    ShowsHeaterOff (hkReport s sid).content := by
  intro _ _ hsid hmode
  by_cases hessential : sid = obcHkSidEssential
  · simp only [Report.content, hkReport, svc03Data, if_pos hessential] at hmode ⊢
    have hcode : s.state.mode.code.toUInt8 = ObcMode.safe.code.toUInt8 := Option.some.inj hmode
    have hsafe : s.state.mode = .safe := by
      cases hm : s.state.mode with
      | safe => rfl
      | nominal =>
        rw [hm] at hcode
        exact absurd hcode (by decide)
    have hoff : s.state.heaterOn = false := h.off hsafe
    rw [hoff]
    rfl
  · simp only [Report.content, hkReport, svc03Data, if_neg hessential] at hsid
    exact absurd (Option.some.inj hsid) hessential

theorem showsHeaterOff_own {c : Control} (h : HeaterSafe c) {r : Report}
    (hr : OwnReport c r) : ShowsHeaterOff r.content := by
  cases hr with
  | housekeeping s sid hs => exact showsHeaterOff_hkReport (hs ▸ h) sid
  | event id severity aux => exact showsHeaterOff_eventReport id severity aux
  | alive =>
    exact showsHeaterOff_of_service (show pusServiceTest ≠ pusServiceHousekeeping by decide)

theorem showsHeaterOff_ordinary {c : Control} (h : HeaterSafe c) {r : Report}
    (hr : Ordinary c r) : ShowsHeaterOff r.content := by
  cases hr with
  | own hown => exact showsHeaterOff_own h hown
  | success | failure =>
    exact showsHeaterOff_of_service (show pusServiceVerification ≠ pusServiceHousekeeping by decide)

theorem showsHeaterOff_overflowReports {s : Obsw} {r : Report} (hr : r ∈ overflowReports s) :
    ShowsHeaterOff r.content := by
  unfold overflowReports eventReports at hr
  split_ifs at hr
  · rw [List.mem_singleton] at hr
    subst hr
    exact showsHeaterOff_eventReport _ _ _
  all_goals cases hr

structure Safe (s : Obsw) : Prop where
  queue : Valid s.queue
  heater : HeaterSafe (control s)
  reports : ∀ x ∈ s.history, ShowsHeaterOff (tmContent x.packet)

theorem safe_obcInit (s : Obsw) : Safe (obcInit s) := by
  rw [obcInit_eq]
  refine ⟨valid_emit _ _ (valid_tmQueueInit s.queue), ?_, ?_⟩
  · rw [control_emit]
    exact ⟨rfl, fun _ => rfl⟩
  · refine (Emits.send (cleared s) _).history_forall ?_ (by simp [cleared])
    intro r hr
    rw [List.mem_singleton] at hr
    subst hr
    exact showsHeaterOff_eventReport _ _ _

theorem safe_obcTick {s : Obsw} (h : Safe s) : Safe (obcTick s) := by
  obtain ⟨hsample, htick⟩ := heaterSafe_obcTick h.heater
  refine ⟨valid_obcTick h.queue, htick, ?_⟩
  refine history_forall_obcTick
    (fun r hr => showsHeaterOff_own h.heater (own_thermalReports hr)) ?_ h.reports
  intro r hr
  rcases List.mem_append.mp hr with hr | hr
  · exact showsHeaterOff_overflowReports hr
  · exact showsHeaterOff_own (heaterSafe_advancePhase hsample) (own_hkTickReports hr)

theorem safe_obcProcessTc {s : Obsw} (h : Safe s) (octets : List UInt8) :
    Safe (obcProcessTc s (some octets) octets.length).2 := by
  obtain ⟨c, rs, hevolves, hordinary⟩ := evolves_obcProcessTc s octets
  refine ⟨hevolves.emits.valid h.queue, heaterSafe_obcProcessTc h.heater octets, ?_⟩
  exact hevolves.emits.history_forall
    (fun r hr => showsHeaterOff_ordinary (heaterSafe_tcControl h.heater octets) (hordinary r hr))
    h.reports

theorem safe_step (u : Obc) (e : Stimulus) (h : Safe u.obsw) : Safe (u.step e).obsw := by
  cases e with
  | tick =>
    rw [obsw_tick]
    exact safe_obcTick h
  | telecommand octets =>
    rw [obsw_telecommand]
    exact safe_obcProcessTc h octets
  | pop buf =>
    rw [obsw_pop]
    exact ⟨valid_tmQueuePop h.queue _ _ _, h.heater, h.reports⟩
  | thermistor valueDc => exact ⟨h.queue, ⟨h.heater.line, h.heater.off⟩, h.reports⟩

/-- In every state reached from power-on the heater line agrees with its mirror, SAFE mode
has the heater off, and no report ever sent shows it otherwise. -/
theorem safe_mode_keeps_heater_off (s : Obsw) (stimuli : List Stimulus) :
    halGetHeater (after s stimuli).obsw.hal = (after s stimuli).obsw.state.heaterOn ∧
      ((after s stimuli).obsw.state.mode = .safe →
        (after s stimuli).obsw.state.heaterOn = false) ∧
      ∀ x ∈ (after s stimuli).obsw.history,
        tmService x.packet = pusServiceHousekeeping → tmSubtype x.packet = pusSt03Report →
        (tmData x.packet)[0]? = some obcHkSidEssential →
        (tmData x.packet)[1]? = some ObcMode.safe.code.toUInt8 →
        (tmData x.packet)[8]? = some 0 := by
  have h : Safe (after s stimuli).obsw :=
    after_invariant (I := fun u => Safe u.obsw) safe_obcInit safe_step s stimuli
  exact ⟨h.heater.line, h.heater.off, h.reports⟩

end ObswPus.Safety
