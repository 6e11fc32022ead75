import ObswPus.Commanding.Telecommand
import ObswPus.Commanding.MinorCycle

/-! # What a stimulus can send, and runs

Which reports a telecommand and a minor cycle can cause, and the induction rule for
the states that the unit reaches from power-on.
-/
namespace ObswPus.Commanding
open Flight Downlink Library

/-- The reports that the services and the monitoring send while the controlled state is `c`:
no verification report, and no overflow report. -/
inductive OwnReport (c : Control) : Report → Prop where
  | event (id : ObcEventId) (severity : UInt8) (aux : UInt16) (h : id ≠ .tmQueueOverflow) :
      OwnReport c (eventReport id severity aux)
  | housekeeping (s : Obsw) (sid : UInt8) (h : control s = c) : OwnReport c (hkReport s sid)
  | alive : OwnReport c aliveReport

/-- The reports that may be sent while the controlled state is `c`, the overflow report aside. -/
inductive Ordinary (c : Control) : Report → Prop where
  | success (subtype : UInt8) (requestId : UInt32) : Ordinary c (successReport subtype requestId)
  | failure (subtype : UInt8) (requestId : UInt32) (st : PusStatus) :
      Ordinary c (failureReport subtype requestId st)
  | own {r : Report} (h : OwnReport c r) : Ordinary c r

/-- A report of an event other than the overflow of the queue. -/
def IsEvent (r : Report) : Prop :=
  ∃ id severity aux, id ≠ .tmQueueOverflow ∧ r = eventReport id severity aux

section IsEvent
variable {c : Control} {r : Report}

theorem isEvent_eventReports {flags : Svc05} {id : ObcEventId} {severity : UInt8} {aux : UInt16}
    (hid : id ≠ .tmQueueOverflow) (hr : r ∈ eventReports flags id severity aux) : IsEvent r := by
  unfold eventReports at hr
  split at hr
  · exact ⟨id, severity, aux, hid, List.mem_singleton.mp hr⟩
  · cases hr

theorem isEvent_heaterReports {on : Bool} (hr : r ∈ heaterReports c on) : IsEvent r := by
  unfold heaterReports at hr
  split at hr
  · cases hr
  · exact isEvent_eventReports (by decide) hr

theorem isEvent_modeReports {target : ObcMode} (hr : r ∈ modeReports c target) : IsEvent r := by
  unfold modeReports at hr
  split at hr
  · cases hr
  rcases List.mem_append.mp hr with hr | hr
  · split at hr
    · exact isEvent_heaterReports hr
    · cases hr
  · exact isEvent_eventReports (by decide) hr

theorem isEvent_thermalReports (hr : r ∈ thermalReports c) : IsEvent r := by
  unfold thermalReports at hr
  split_ifs at hr
  · rcases List.mem_append.mp hr with hr | hr
    · exact isEvent_eventReports (by decide) hr
    · exact isEvent_modeReports hr
  · exact isEvent_modeReports hr
  · exact isEvent_heaterReports hr
  · exact isEvent_heaterReports hr
  · cases hr
  · exact isEvent_heaterReports hr

end IsEvent

section OwnReport
variable {c c' : Control} {r : Report}

theorem IsEvent.own (h : IsEvent r) : OwnReport c r := by
  obtain ⟨id, severity, aux, hid, rfl⟩ := h
  exact OwnReport.event id severity aux hid

theorem own_thermalReports (hr : r ∈ thermalReports c') : OwnReport c r :=
  (isEvent_thermalReports hr).own

theorem own_oneShotReports {s : Obsw} {sids : List UInt8} (hr : r ∈ oneShotReports s sids) :
    OwnReport (control s) r := by
  induction sids generalizing s with
  | nil => cases hr
  | cons sid sids ih =>
    rcases List.mem_cons.mp hr with rfl | hr
    · exact OwnReport.housekeeping s sid rfl
    · split at hr
      · exact control_emit s (hkReport s sid) ▸ ih hr
      · cases hr

theorem own_periodicReports {s : Obsw} {sids : List UInt8} (hr : r ∈ periodicReports s sids) :
    OwnReport (control s) r := by
  induction sids generalizing s with
  | nil => cases hr
  | cons sid sids ih =>
    unfold periodicReports at hr
    split at hr
    · rcases List.mem_cons.mp hr with rfl | hr
      · exact OwnReport.housekeeping s sid rfl
      · exact control_emit s (hkReport s sid) ▸ ih hr
    · exact ih hr

theorem own_hkTickReports {s : Obsw} (hr : r ∈ hkTickReports s) :
    OwnReport (control (advancePhase s)) r := by
  unfold hkTickReports at hr
  split at hr
  · cases hr
  · exact own_periodicReports hr

theorem own_outcome {s : Obsw} {read : Except PusStatus Request}
    (hr : r ∈ (outcome s read).reports) : OwnReport (control s) r := by
  rcases read with st | request
  · cases hr
  cases request with
  | oneShotHk sids => exact own_oneShotReports hr
  | setMode target => exact (isEvent_modeReports hr).own
  | setHeater on =>
    simp only [outcome, Request.outcome] at hr
    split at hr
    · cases hr
    · exact (isEvent_heaterReports hr).own
  | areYouAlive =>
    rw [outcome, Request.outcome, List.mem_singleton] at hr
    subst hr
    exact OwnReport.alive
  | switchHk | switchEvents | injectTemperature | setTime | resetCounters => cases hr

end OwnReport

section Ordinary
variable {c : Control} {r : Report} {tc : PusTc} {st : PusStatus}

theorem ordinary_acceptanceReports (hr : r ∈ acceptanceReports tc) : Ordinary c r := by
  unfold acceptanceReports at hr
  split at hr
  · rw [List.mem_singleton] at hr
    subst hr
    exact Ordinary.success _ _
  · cases hr

theorem ordinary_completionReports (hr : r ∈ completionReports tc st) : Ordinary c r := by
  unfold completionReports at hr
  split at hr
  · rw [List.mem_singleton] at hr
    subst hr
    split
    · exact Ordinary.success _ _
    · exact Ordinary.failure _ _ st
  · cases hr

theorem ordinary_closingReports {flags : Svc05} (hr : r ∈ closingReports flags tc st) :
    Ordinary c r := by
  rcases List.mem_append.mp hr with hr | hr
  · exact ordinary_completionReports hr
  · split at hr
    · cases hr
    · exact Ordinary.own (isEvent_eventReports (by decide) hr).own

end Ordinary

/-- The controlled state in which the reports of a telecommand are generated. -/
def tcControl (c : Control) (octets : List UInt8) : Control :=
  match pusTcParse (some octets) octets.length with
  | .error st => countRejected c st
  | .ok _ => countAccepted c

theorem evolves_obcProcessTc (s : Obsw) (octets : List UInt8) :
    ∃ c rs, Evolves s (obcProcessTc s (some octets) octets.length).2 c rs ∧
      ∀ r ∈ rs, Ordinary (tcControl (control s) octets) r := by
  unfold tcControl
  rcases hparse : pusTcParse (some octets) octets.length with st | tc
  · refine ⟨_, _, evolves_obcProcessTc_rejected hparse, ?_⟩
    intro r hr
    rcases List.mem_cons.mp hr with rfl | hr
    · exact Ordinary.failure _ _ st
    · exact Ordinary.own (isEvent_eventReports (by decide) hr).own
  · refine ⟨_, _, evolves_obcProcessTc_routed hparse, ?_⟩
    intro r hr
    rcases List.mem_append.mp hr with hr | hr
    · rcases List.mem_append.mp hr with hr | hr
      · exact ordinary_acceptanceReports hr
      · exact Ordinary.own ((evolves_atService s tc).controlled ▸ own_outcome hr)
    · exact ordinary_closingReports hr

section Step
variable (u : Obc)

theorem obsw_tick : (u.step .tick).obsw = obcTick u.obsw := by
  simp only [Obc.step]

theorem obsw_telecommand (octets : List UInt8) : (u.step (.telecommand octets)).obsw =
    (obcProcessTc u.obsw (some octets) octets.length).2 := by
  simp only [Obc.step]

theorem obsw_pop (buf : List UInt8) : (u.step (.pop buf)).obsw =
    { u.obsw with queue := (tmQueuePop u.obsw.queue (some buf) buf.length (some 0)).queue } := by
  simp only [Obc.step]

theorem obsw_thermistor (valueDc : Int16) : (u.step (.thermistor valueDc)).obsw =
    { u.obsw with hal := halInjectTemperature u.obsw.hal valueDc } := by
  simp only [Obc.step]

theorem delivered_tick : (u.step .tick).delivered = u.delivered := by
  simp only [Obc.step]

theorem delivered_telecommand (octets : List UInt8) :
    (u.step (.telecommand octets)).delivered = u.delivered := by
  simp only [Obc.step]

end Step

/-- What power-on establishes and every stimulus preserves holds in every state reached. -/
theorem after_invariant {I : Obc → Prop} (hinit : ∀ s, I (powerOn s))
    (hstep : ∀ u e, I u → I (u.step e)) (s : Obsw) (stimuli : List Stimulus) :
    I (after s stimuli) :=
  Run.run_invariant hstep (hinit s) stimuli

theorem after_append (s : Obsw) (first second : List Stimulus) :
    after s (first ++ second) = Run.run Obc.step (after s first) second :=
  Run.run_append Obc.step _ _ _

theorem after_concat (s : Obsw) (stimuli : List Stimulus) (e : Stimulus) :
    after s (stimuli ++ [e]) = (after s stimuli).step e := after_append s stimuli [e]

/-- The state that `obc_init` has set up when it sends its one report. -/
def cleared (s : Obsw) : Obsw :=
  { hal := halSetHeater halTimeInit false
    queue := tmQueueInit s.queue
    tm := pusTmReset
    svc03 := svc03Init
    svc05 := svc05Init
    state :=
      { mode := .safe
        uptimeTicks := 0
        temperatureDc := halReadTemperature halTimeInit
        heaterOn := false
        tcAccepted := 0
        tcRejected := 0
        lastFailureCode := 0 }
    alarmLatched := false
    lastOverflow := 0
    history := [] }

theorem obcInit_eq (s : Obsw) :
    obcInit s = emit (cleared s) (eventReport .bootCompleted pusSt05Informative 0) := by
  have hsend := svc05Report_eq (cleared s) .bootCompleted pusSt05Informative 0 (by decide)
  have hflag : eventEnabled (cleared s).svc05 .bootCompleted = true := by
    simp [eventEnabled, cleared, svc05Init, ObcEventId.code]
  rw [if_pos hflag] at hsend
  exact congrArg Prod.snd hsend

theorem valid_step {u : Obc} (hq : Valid u.obsw.queue) (e : Stimulus) :
    Valid (u.step e).obsw.queue := by
  cases e with
  | tick =>
    rw [obsw_tick]
    exact valid_obcTick hq
  | telecommand octets =>
    rw [obsw_telecommand]
    obtain ⟨c, rs, hevolves, -⟩ := evolves_obcProcessTc u.obsw octets
    exact hevolves.emits.valid hq
  | pop buf =>
    rw [obsw_pop]
    exact valid_tmQueuePop hq _ _ _
  | thermistor valueDc => exact hq

theorem valid_run {u : Obc} (hq : Valid u.obsw.queue) (stimuli : List Stimulus) :
    Valid (Run.run Obc.step u stimuli).obsw.queue := by
  induction stimuli generalizing u with
  | nil => exact hq
  | cons e stimuli ih => exact ih (valid_step hq e)

theorem valid_powerOn (s : Obsw) : Valid (powerOn s).obsw.queue := by
  rw [powerOn, obcInit_eq]
  exact valid_emit _ _ (valid_tmQueueInit s.queue)

theorem valid_after (s : Obsw) (stimuli : List Stimulus) : Valid (after s stimuli).obsw.queue :=
  valid_run (valid_powerOn s) stimuli

theorem fit_obcTick {s : Obsw} (hfit : Fit s.queue) : Fit (obcTick s).queue := by
  have hsample := (evolves_atSample s).emits.fit hfit
  rw [← sampled_queue] at hsample
  exact (evolves_fromSample s).emits.fit hsample

theorem fit_step {u : Obc} (hq : Valid u.obsw.queue) (hfit : Fit u.obsw.queue) (e : Stimulus) :
    Fit (u.step e).obsw.queue := by
  cases e with
  | tick =>
    rw [obsw_tick]
    exact fit_obcTick hfit
  | telecommand octets =>
    rw [obsw_telecommand]
    obtain ⟨c, rs, hevolves, -⟩ := evolves_obcProcessTc u.obsw octets
    exact hevolves.emits.fit hfit
  | pop buf =>
    rw [obsw_pop]
    exact fit_tmQueuePop hq hfit _ _ _
  | thermistor valueDc => exact hfit

theorem fit_run {u : Obc} (hq : Valid u.obsw.queue) (hfit : Fit u.obsw.queue)
    (stimuli : List Stimulus) : Fit (Run.run Obc.step u stimuli).obsw.queue := by
  induction stimuli generalizing u with
  | nil => exact hfit
  | cons e stimuli ih => exact ih (valid_step hq e) (fit_step hq hfit e)

theorem fit_powerOn (s : Obsw) : Fit (powerOn s).obsw.queue := by
  rw [powerOn, obcInit_eq]
  apply fit_emit _ _
  intro p hp
  rw [cleared, contents_tmQueueInit] at hp
  cases hp

theorem fit_after (s : Obsw) (stimuli : List Stimulus) : Fit (after s stimuli).obsw.queue :=
  fit_run (valid_powerOn s) (fit_powerOn s) stimuli

theorem count_pops {u : Obc} (hq : Valid u.obsw.queue) (hfit : Fit u.obsw.queue)
    {buf : List UInt8} (hbuf : pusMaxPacketSize ≤ buf.length) (n : ℕ) :
    (Run.run Obc.step u (List.replicate n (.pop buf))).obsw.queue.count =
      u.obsw.queue.count - n := by
  induction n generalizing u with
  | zero => rfl
  | succ n ih =>
    rw [List.replicate_succ, Run.run_cons, ih (valid_step hq _) (fit_step hq hfit _), obsw_pop]
    dsimp only
    rw [count_tmQueuePop hq hfit buf hbuf]
    omega

end ObswPus.Commanding
