import ObswPus.Isolation.Ownership

/-! # The schedule of the periodic housekeeping

The phase of the housekeeping period counts the minor cycles since power-on, and no
telecommand owns it. So which minor cycle reports periodically is a matter of its number
alone, and what it reports a matter of the structures enabled then.
-/
namespace ObswPus.Telemetry
open Flight Downlink Commanding Isolation Library

/-- The phase of the housekeeping period and the uptime. -/
def paced : Set Component := {.hkPhase, .uptimeTicks}

theorem paced_not_mode {c : Component} (hc : c ∈ paced) : c ∉ modeComponents := by
  rcases hc with rfl | rfl <;> simp [modeComponents]

theorem paced_request {c : Component} (hc : c ∈ paced) (k : Control) (request : Request) :
    c.read (request.control k) = c.read k := by
  cases request with
  | setMode target => exact onlyChanges_switchMode k target c (paced_not_mode hc)
  | setHeater on =>
    have hheater : c ∉ heaterComponents := fun h => paced_not_mode hc (.inr h)
    simp only [Request.control]
    split
    · rfl
    · exact onlyChanges_switchHeater k on c hheater
  | switchHk | oneShotHk | switchEvents | injectTemperature | setTime | resetCounters
  | areYouAlive => rcases hc with rfl | rfl <;> rfl

/-- Executed or not, a telecommand leaves the pace of the minor cycles alone. -/
theorem paced_obcProcessTc {c : Component} (hc : c ∈ paced) (s : Obsw) (octets : List UInt8) :
    c.read (control (obcProcessTc s (some octets) octets.length).2) = c.read (control s) := by
  obtain ⟨code, hcode⟩ := control_obcProcessTc s octets
  have hfailure (k : Control) : c.read (withFailureCode k code) = c.read k := by
    rcases hc with rfl | rfl <;> rfl
  have hrejected (k : Control) (st : PusStatus) : c.read (countRejected k st) = c.read k := by
    rcases hc with rfl | rfl <;> rfl
  have haccepted (k : Control) : c.read (countAccepted k) = c.read k := by
    rcases hc with rfl | rfl <;> rfl
  rw [hcode, hfailure, tcEffect]
  rcases pusTcParse (some octets) octets.length with st | tc
  · exact hrejected _ st
  dsimp only
  rcases readRequest tc with st | request
  · exact haccepted _
  · exact (paced_request hc _ request).trans (haccepted _)

section Telecommand
variable (s : Obsw) (octets : List UInt8)

theorem phase_obcProcessTc :
    (obcProcessTc s (some octets) octets.length).2.svc03.phase = s.svc03.phase :=
  paced_obcProcessTc (c := .hkPhase) (.inl rfl) s octets

theorem uptime_obcProcessTc :
    (obcProcessTc s (some octets) octets.length).2.state.uptimeTicks = s.state.uptimeTicks :=
  paced_obcProcessTc (c := .uptimeTicks) (.inr rfl) s octets

end Telecommand

section Monitored
variable {k k' : Control} (h : OnlyChanges (insert .alarmLatched modeComponents) k k')
include h

theorem phase_monitored : k'.svc03.phase = k.svc03.phase :=
  h .hkPhase (by simp [modeComponents])

theorem uptime_monitored : k'.state.uptimeTicks = k.state.uptimeTicks :=
  h .uptimeTicks (by simp [modeComponents])

theorem svc03_monitored : k'.svc03 = k.svc03 := by
  refine (Svc03.mk.injEq ..).mpr ⟨?_, phase_monitored h⟩
  funext i
  exact h (.hkFlag i) (by simp [modeComponents])

end Monitored

theorem phase_stepPhase (k : Control) : (stepPhase k).svc03.phase =
    if k.svc03.phase + 1 < obcHkPeriodTicks then k.svc03.phase + 1 else 0 := rfl

theorem uptime_stepPhase (k : Control) :
    (stepPhase k).state.uptimeTicks = k.state.uptimeTicks := rfl

/-- A minor cycle advances phase and uptime, whatever the temperature makes it do. -/
theorem paced_obcTick (s : Obsw) :
    (obcTick s).svc03.phase =
        (if s.svc03.phase + 1 < obcHkPeriodTicks then s.svc03.phase + 1 else 0) ∧
      (obcTick s).state.uptimeTicks = s.state.uptimeTicks + 1 := by
  have hmonitor := onlyChanges_monitorTemperature (acquire (control s))
  have hphase (m : Obsw) : m.svc03.phase = (control m).svc03.phase := rfl
  have huptime (m : Obsw) : m.state.uptimeTicks = (control m).state.uptimeTicks := rfl
  constructor
  · rw [hphase, control_obcTick, phase_stepPhase, phase_monitored hmonitor]
    rfl
  · rw [huptime, control_obcTick, uptime_stepPhase, uptime_monitored hmonitor]
    rfl

theorem svc03IsEnabled_obcTick (s : Obsw) (sid : UInt8) :
    svc03IsEnabled (obcTick s) sid = svc03IsEnabled s sid := by
  have hflags {k k' : Control} (h : OnlyChanges tickComponents k k') :
      k'.svc03.enabled = k.svc03.enabled := by
    funext i
    exact h (.hkFlag i) (by simp [tickComponents])
  have henabled (m : Obsw) : m.svc03.enabled = (control m).svc03.enabled := rfl
  rw [svc03IsEnabled, svc03IsEnabled, henabled, hflags (onlyChanges_obcTick s)]
  rfl

def minorCycles (stimuli : List Stimulus) : ℕ := stimuli.count .tick

theorem minorCycles_tick (stimuli : List Stimulus) :
    minorCycles (stimuli ++ [.tick]) = minorCycles stimuli + 1 := by
  simp [minorCycles]

theorem minorCycles_of_ne {e : Stimulus} (he : e ≠ .tick) (stimuli : List Stimulus) :
    minorCycles (stimuli ++ [e]) = minorCycles stimuli := by
  simp [minorCycles, List.count_append, he]

theorem phase_advance {phase : UInt32} {n : ℕ} (h : phase.toNat = n % 10) :
    (if phase + 1 < obcHkPeriodTicks then phase + 1 else 0).toNat = (n + 1) % 10 ∧
      (phase + 1 < obcHkPeriodTicks ↔ (n + 1) % 10 ≠ 0) := by
  have hten : obcHkPeriodTicks.toNat = 10 := rfl
  have hsucc : (phase + 1).toNat = n % 10 + 1 := by
    rw [UInt32.toNat_add, h, UInt32.toNat_one]
    omega
  have hbelow : phase + 1 < obcHkPeriodTicks ↔ n % 10 + 1 < 10 := by
    rw [UInt32.lt_iff_toNat_lt, hsucc, hten]
  constructor
  · split
    · rename_i hlt
      have hlt' := hbelow.mp hlt
      omega
    · rename_i hend
      have hend' := mt hbelow.mpr hend
      rw [UInt32.toNat_zero]
      omega
  · rw [hbelow]
    omega

/-- In every run phase and uptime count the minor cycles, the uptime in a word that wraps. -/
theorem paced_after (s : Obsw) (stimuli : List Stimulus) :
    (after s stimuli).obsw.svc03.phase.toNat = minorCycles stimuli % 10 ∧
      (after s stimuli).obsw.state.uptimeTicks = UInt32.ofNat (minorCycles stimuli) := by
  induction stimuli using List.reverseRecOn with
  | nil =>
    change (obcInit s).svc03.phase.toNat = 0 ∧ (obcInit s).state.uptimeTicks = 0
    rw [obcInit_eq]
    exact ⟨rfl, rfl⟩
  | append_singleton stimuli e ih =>
    obtain ⟨hphase, huptime⟩ := ih
    rw [after_concat]
    cases e with
    | tick =>
      rw [obsw_tick, (paced_obcTick _).1, (paced_obcTick _).2, minorCycles_tick, huptime]
      exact ⟨(phase_advance hphase).1, (UInt32.ofNat_add _ 1).symm⟩
    | telecommand octets =>
      rw [obsw_telecommand, minorCycles_of_ne Stimulus.noConfusion, phase_obcProcessTc,
        uptime_obcProcessTc]
      exact ⟨hphase, huptime⟩
    | pop buf =>
      rw [obsw_pop, minorCycles_of_ne Stimulus.noConfusion]
      exact ⟨hphase, huptime⟩
    | thermistor valueDc =>
      rw [obsw_thermistor, minorCycles_of_ne Stimulus.noConfusion]
      exact ⟨hphase, huptime⟩

theorem service_thermalReports {c : Control} {r : Report} (hr : r ∈ thermalReports c) :
    r.service = pusServiceEvent := by
  obtain ⟨id, severity, aux, -, rfl⟩ := isEvent_thermalReports hr
  rfl

theorem service_overflowReports {s : Obsw} {r : Report} (hr : r ∈ overflowReports s) :
    r.service = pusServiceEvent := by
  unfold overflowReports eventReports at hr
  split_ifs at hr
  · rw [List.mem_singleton.mp hr]
    rfl
  · cases hr
  · cases hr

/-- The structure that a housekeeping packet of this content reports on, if it is one. -/
def structureOf (c : Content) : Option UInt8 :=
  if c.1 = pusServiceHousekeeping ∧ c.2.1 = pusSt03Report then c.2.2.head? else none

theorem structureOf_hkReport (s : Obsw) (sid : UInt8) :
    structureOf (hkReport s sid).content = some sid := by
  have hhead : (svc03Data s sid).head? = some sid := by
    unfold svc03Data
    split <;> rfl
  exact hhead

theorem structures_periodicReports (s : Obsw) {sids : List UInt8}
    (hsids : ∀ sid ∈ sids, svc03SidValid sid = true) :
    (periodicReports s sids).map (fun r => structureOf r.content) =
      (sids.filter (svc03IsEnabled s)).map some := by
  induction sids generalizing s with
  | nil => rfl
  | cons sid sids ih =>
    have hrest : ∀ sid ∈ sids, svc03SidValid sid = true :=
      fun sid hmem => hsids sid (List.mem_cons_of_mem _ hmem)
    have hflag : svc03IsEnabled s sid = s.svc03.enabled.get (sid.toNat - 1) := by
      rw [svc03IsEnabled, if_neg]
      simp [hsids sid List.mem_cons_self]
    have hflags : svc03IsEnabled (emit s (hkReport s sid)) = svc03IsEnabled s := by
      funext other
      simp only [svc03IsEnabled, emit]
    rw [periodicReports, List.filter_cons, hflag]
    by_cases hon : s.svc03.enabled.get (sid.toNat - 1) = true
    · simp only [hon, ne_eq, Bool.true_eq_false, not_false_eq_true, if_true, List.map_cons,
        structureOf_hkReport, ih _ hrest, hflags]
    · simp only [Bool.not_eq_true] at hon
      simp only [hon, ne_eq, not_true_eq_false, Bool.false_eq_true, if_false, ih _ hrest]

theorem svc03_reporting (s : Obsw) :
    (obcSampleOverflow (atSample s)).svc03 = s.svc03 := by
  have hcontrol : control (obcSampleOverflow (atSample s)) =
      monitorTemperature (acquire (control s)) :=
    (evolves_obcSampleOverflow _).controlled.trans (evolves_atSample s).controlled
  have hsvc03 (m : Obsw) : m.svc03 = (control m).svc03 := rfl
  rw [hsvc03, hcontrol, svc03_monitored (onlyChanges_monitorTemperature (acquire (control s)))]
  rfl

/-- In a minor cycle the periodic reports come last, and they are one for each enabled
structure once the phase has come round, and none before. -/
theorem structures_hkTickReports (s : Obsw) :
    (hkTickReports (obcSampleOverflow (atSample s))).map (fun r => structureOf r.content) =
      if s.svc03.phase + 1 < obcHkPeriodTicks then []
      else (hkSids.filter (svc03IsEnabled s)).map some := by
  have hsvc03 := svc03_reporting s
  rw [hkTickReports, hsvc03]
  split
  · rfl
  · have hflags : svc03IsEnabled (advancePhase (obcSampleOverflow (atSample s))) =
        svc03IsEnabled s := by
      have henabled : (advancePhase (obcSampleOverflow (atSample s))).svc03.enabled =
          s.svc03.enabled := by
        rw [← hsvc03, advancePhase]
        split <;> rfl
      funext sid
      rw [svc03IsEnabled, svc03IsEnabled, henabled]
    rw [structures_periodicReports _ hkSids_valid, hflags]

/-- In every run the phase counts the minor cycles modulo ten, whatever is commanded between
them. So the next minor cycle, after all its other packets, builds one periodic report for
each structure enabled then, in the order of their identifiers, if its number is a multiple
of ten, and no housekeeping report otherwise. -/
theorem housekeeping_schedule (s : Obsw) (stimuli : List Stimulus) :
    (after s stimuli).obsw.svc03.phase.toNat = minorCycles stimuli % 10 ∧
    (after s stimuli).obsw.state.uptimeTicks = UInt32.ofNat (minorCycles stimuli) ∧
    (∀ sid, svc03IsEnabled (obcTick (after s stimuli).obsw) sid =
      svc03IsEnabled (after s stimuli).obsw sid) ∧
    ∃ others periodic : List Sent,
      (obcTick (after s stimuli).obsw).history =
        (after s stimuli).obsw.history ++ (others ++ periodic) ∧
      (∀ x ∈ others, tmService x.packet ≠ pusServiceHousekeeping) ∧
      periodic.map (fun x => structureOf (tmContent x.packet)) =
        if (minorCycles stimuli + 1) % 10 = 0 then
          (hkSids.filter (svc03IsEnabled (after s stimuli).obsw)).map some
        else [] := by
  obtain ⟨hphase, huptime⟩ := paced_after s stimuli
  refine ⟨hphase, huptime, svc03IsEnabled_obcTick _, ?_⟩
  obtain ⟨sent, hhistory, hsent⟩ := sends_obcTick (after s stimuli).obsw
  rw [← List.append_assoc, List.map_append] at hsent
  obtain ⟨others, periodic, rfl, hothers, hperiodic⟩ := List.map_eq_append_iff.mp hsent
  refine ⟨others, periodic, hhistory, ?_, ?_⟩
  · intro x hx
    have hmem : tmContent x.packet ∈ others.map fun x => tmContent x.packet :=
      List.mem_map_of_mem hx
    rw [hothers] at hmem
    obtain ⟨r, hr, hcontent⟩ := List.mem_map.mp hmem
    have hservice : tmService x.packet = r.service := (congrArg Prod.fst hcontent).symm
    have hevent : r.service = pusServiceEvent := by
      rcases List.mem_append.mp hr with hr | hr
      · exact service_thermalReports hr
      · exact service_overflowReports hr
    rw [hservice, hevent]
    decide
  · have hstructures := congrArg (List.map structureOf) hperiodic
    simp only [List.map_map, Function.comp_def] at hstructures
    rw [hstructures, structures_hkTickReports]
    by_cases hdue : (minorCycles stimuli + 1) % 10 = 0
    · rw [if_pos hdue, if_neg (mt (phase_advance hphase).2.mp (not_not.mpr hdue))]
    · rw [if_neg hdue, if_pos ((phase_advance hphase).2.mpr hdue)]

end ObswPus.Telemetry
