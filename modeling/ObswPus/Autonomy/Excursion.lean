import ObswPus.Autonomy.Entered
import ObswPus.Commanding.OneShot

/-! # Over-temperature excursions and their report

An excursion that starts in NOMINAL mode is reported at its first minor cycle, one that
starts in SAFE mode is not. The latch is set whether or not the report found a free
slot, so that the report of an excursion can be lost for good.
-/
namespace ObswPus.Autonomy
open Flight Downlink Commanding Library

def AlarmEnabled (u : Obc) : Prop := svc05IsEnabled u.obsw ObcEventId.tempAlarm.code = true

instance (u : Obc) : Decidable (AlarmEnabled u) := inferInstanceAs (Decidable (_ = _))

/-- The event is enabled, and a minor cycle starts with a free slot. -/
def AlarmHeard (u : Obc) (e : Stimulus) : Prop :=
  AlarmEnabled u ∧ (e = .tick → tmQueueCount u.obsw.queue < pusTmQueueDepth)

instance (u : Obc) (e : Stimulus) : Decidable (AlarmHeard u e) :=
  inferInstanceAs (Decidable (_ ∧ (_ → _)))

/-- The next minor cycle acquires 40.0 degrees or more, and no earlier one did with all since
at 25.0 degrees or more. -/
structure ExcursionStart (s : Obsw) (before : List Stimulus) : Prop where
  hot : HotCycle (after s before) .tick
  first : ¬Run.Since Obc.step HotCycle StaysWarm (powerOn s) before

/-- An attempt is made in a hot minor cycle, so that at the start of an excursion the latch is
clear. -/
theorem ExcursionStart.clear {s : Obsw} {before : List Stimulus} (h : ExcursionStart s before) :
    (after s before).obsw.alarmLatched = false := by
  rw [← Bool.not_eq_true, alarmLatched_iff]
  refine fun hsince => h.first (hsince.mono (fun u e hattempt => ?_) fun _ _ hwarm => hwarm)
  obtain ⟨htick, -, -, hhot⟩ := (alarmAttempt_iff u e).mp hattempt
  exact ⟨htick, hhot⟩

theorem no_alarm_entered_of_latched {u : Obc} (hq : Valid u.obsw.queue) {stimuli : List Stimulus}
    (hwarm : Run.AllSteps Obc.step StaysWarm u stimuli) (hlatched : u.obsw.alarmLatched = true) :
    alarmsEntered u stimuli = [] := by
  induction stimuli generalizing u with
  | nil => rw [alarmsEntered, entered, Run.run_nil, List.drop_length]; rfl
  | cons e stimuli ih =>
    have hnext := (alarmLatched_step u e).mpr (.inr ⟨hlatched, hwarm.1⟩)
    rw [← List.singleton_append, alarmsEntered_append hq,
      no_alarm_entered hq (not_alarmAttempt_of_latched hlatched e)]
    exact ih (valid_step hq e) hwarm.2 hnext

/-- While the event is enabled and every minor cycle starts with a free slot: an excursion whose
first minor cycle starts in NOMINAL mode has its one report queued there and no other before it
ends, and one whose first minor cycle starts in SAFE mode has none queued there. -/
theorem excursion_reported (s : Obsw) (before rest : List Stimulus)
    (hheard : Run.AllSteps Obc.step AlarmHeard (powerOn s) (before ++ .tick :: rest))
    (hstart : ExcursionStart s before)
    (hwarm : Run.AllSteps Obc.step StaysWarm ((after s before).step .tick) rest) :
    ((after s before).obsw.state.mode = .nominal →
      alarmsEntered (after s before) [.tick] =
          [⟨pusSt05HighSeverity, ObcEventId.tempAlarm.code,
            (acquired (after s before)).toUInt16⟩] ∧
        alarmsEntered ((after s before).step .tick) rest = []) ∧
      ((after s before).obsw.state.mode = .safe →
        alarmsEntered (after s before) [.tick] = []) := by
  have hq := valid_after s before
  constructor
  · intro hnominal
    have hattempt : AlarmAttempt (after s before) .tick :=
      (alarmAttempt_iff _ _).mpr ⟨rfl, hnominal, hstart.clear, hstart.hot.2⟩
    have hslot : AlarmHeard (after s before) .tick := hheard.at
    constructor
    · rw [alarm_entered hq hattempt hslot.1, if_pos (hslot.2 rfl)]
    · exact no_alarm_entered_of_latched (valid_step hq .tick) hwarm
        ((alarmLatched_step _ .tick).mpr (.inl hattempt))
  · intro hsafe
    apply no_alarm_entered hq
    intro hattempt
    have hmode := ((alarmAttempt_iff _ _).mp hattempt).2.1
    rw [hsafe] at hmode
    cases hmode

theorem excursionStart_of_no_cycle {s : Obsw} {before : List Stimulus}
    (hot : obcTempAlarmDc ≤ acquired (after s before)) (hnone : .tick ∉ before) :
    ExcursionStart s before := by
  refine ⟨⟨rfl, hot⟩, ?_⟩
  rintro ⟨first, e, rest, rfl, ⟨rfl, -⟩, -⟩
  exact hnone (by simp)

theorem excursion_reported_nominal :
    alarmsEntered (after default [.telecommand nominalTelecommand, .thermistor 400]) [.tick] =
      [⟨pusSt05HighSeverity, ObcEventId.tempAlarm.code, 400⟩] := by
  have hacquired : acquired (after default [.telecommand nominalTelecommand, .thermistor 400]) =
      400 := by decide +kernel
  have hreported := ((excursion_reported default
    [.telecommand nominalTelecommand, .thermistor 400] [] (by decide +kernel)
    (excursionStart_of_no_cycle (by decide +kernel) (by decide)) trivial).1 (by decide +kernel)).1
  rw [hacquired] at hreported
  exact hreported

/-- An excursion that starts in SAFE mode: the unit heats up before ground has commanded it. -/
theorem excursion_in_safe_unreported :
    Run.AllSteps Obc.step AlarmHeard (powerOn default) [.thermistor 400, .tick] ∧
      ExcursionStart default [.thermistor 400] ∧
      alarmsEntered (after default [.thermistor 400]) [.tick] = [] :=
  ⟨by decide +kernel, excursionStart_of_no_cycle (by decide +kernel) (by decide),
    by decide +kernel⟩

/-- An over-temperature report has entered the queue since the latch was last clear: it is
queued or has been taken. -/
def AlarmOnItsWay (s : Obsw) (stimuli : List Stimulus) : Prop :=
  ∃ before since, stimuli = before ++ since ∧ (after s before).obsw.alarmLatched = false ∧
    Run.AllSteps Obc.step (fun u e => (u.step e).obsw.alarmLatched = true) (after s before) since ∧
    alarmsEntered (after s before) since ≠ []

/-- A minor cycle that is going to raise the alarm starts with a free slot. -/
def AlarmFits (u : Obc) (e : Stimulus) : Prop :=
  e = .tick → u.obsw.state.mode = .nominal → u.obsw.alarmLatched = false →
    obcTempAlarmDc ≤ u.obsw.hal.temperatureDc → tmQueueCount u.obsw.queue < pusTmQueueDepth

instance (u : Obc) (e : Stimulus) : Decidable (AlarmFits u e) :=
  inferInstanceAs (Decidable (_ → _ → _ → _ → _))

theorem alarmFits_iff (u : Obc) (e : Stimulus) :
    AlarmFits u e ↔ (AlarmAttempt u e → tmQueueCount u.obsw.queue < pusTmQueueDepth) := by
  rw [alarmAttempt_iff, acquired_eq]
  constructor
  · rintro h ⟨htick, hmode, hclear, hhot⟩
    exact h htick hmode hclear hhot
  · intro h htick hmode hclear hhot
    exact h ⟨htick, hmode, hclear, hhot⟩

section OneStep
variable {s : Obsw} {seen : List Stimulus} {e : Stimulus}

theorem alarmOnItsWay_of_attempt (hattempt : AlarmAttempt (after s seen) e)
    (henabled : AlarmEnabled (after s seen)) (hfits : AlarmFits (after s seen) e) :
    AlarmOnItsWay s (seen ++ [e]) := by
  have hclear := ((alarmAttempt_iff _ _).mp hattempt).2.2.1
  have hlatched := (alarmLatched_step (after s seen) e).mpr (.inl hattempt)
  refine ⟨seen, [e], rfl, hclear, ⟨hlatched, trivial⟩, ?_⟩
  rw [alarm_entered (valid_after s seen) hattempt henabled,
    if_pos ((alarmFits_iff _ _).mp hfits hattempt)]
  simp

/-- A report that is on its way stays on its way as long as the latch is kept. -/
theorem AlarmOnItsWay.step (h : AlarmOnItsWay s seen)
    (hlatched : (after s (seen ++ [e])).obsw.alarmLatched = true) :
    AlarmOnItsWay s (seen ++ [e]) := by
  obtain ⟨before, since, rfl, hclear, hsince, halarm⟩ := h
  refine ⟨before, since ++ [e], List.append_assoc _ _ _, hclear, ?_, ?_⟩
  · rw [Run.allSteps_concat]
    rw [List.append_assoc, after_append, Run.run_concat] at hlatched
    exact ⟨hsince, hlatched⟩
  · rw [alarmsEntered_append (valid_after s before)]
    simp [halarm]

theorem alarm_entered_of_onItsWay (hattempt : AlarmAttempt (after s seen) e)
    (h : AlarmOnItsWay s (seen ++ [e])) : alarmsEntered (after s seen) [e] ≠ [] := by
  have hclear := ((alarmAttempt_iff _ _).mp hattempt).2.2.1
  have hlatched := (alarmLatched_step (after s seen) e).mpr (.inl hattempt)
  obtain ⟨before, since, hsplit, hbefore, hsince, halarm⟩ := h
  rcases List.eq_nil_or_concat since with rfl | ⟨since, last, rfl⟩
  · rw [List.append_nil] at hsplit
    rw [← hsplit, after_concat, hlatched] at hbefore
    cases hbefore
  · rw [List.concat_eq_append] at hsplit hsince halarm
    rw [← List.append_assoc] at hsplit
    obtain ⟨rfl, hlast⟩ := List.append_inj' hsplit rfl
    cases hlast
    rcases List.eq_nil_or_concat since with rfl | ⟨since, last, rfl⟩
    · simpa using halarm
    · rw [List.concat_eq_append] at hsince hclear
      rw [Run.allSteps_concat, Run.allSteps_concat] at hsince
      rw [← List.append_assoc, after_concat, after_append] at hclear
      rw [hsince.1.2] at hclear
      cases hclear

end OneStep

/-- With the event always enabled: in every state of a run in which the latch is set, the report
of the excursion has entered the queue since the latch was last clear, if and only if every
minor cycle of the run that raises the alarm starts with a free slot. -/
theorem alarm_on_its_way_iff (s : Obsw) (stimuli : List Stimulus)
    (henabled : Run.AllSteps Obc.step (fun u _ => AlarmEnabled u) (powerOn s) stimuli) :
    (∀ seen later, stimuli = seen ++ later → (after s seen).obsw.alarmLatched = true →
        AlarmOnItsWay s seen) ↔
      Run.AllSteps Obc.step AlarmFits (powerOn s) stimuli := by
  rw [Run.allSteps_iff] at henabled ⊢
  constructor
  · rintro h seen e later rfl
    apply (alarmFits_iff _ _).mpr
    intro hattempt
    have hlatched := (alarmLatched_step (after s seen) e).mpr (.inl hattempt)
    have hway := h (seen ++ [e]) later (by simp) (by rw [after_concat]; exact hlatched)
    have halarm := alarm_entered_of_onItsWay hattempt hway
    rw [alarm_entered (valid_after s seen) hattempt (henabled seen e later rfl)] at halarm
    by_contra hfull
    exact halarm (if_neg hfull)
  · intro hfits seen
    induction seen using List.reverseRecOn with
    | nil =>
      intro later hsplit hlatched
      rw [alarmLatched_iff] at hlatched
      exact absurd hlatched Run.not_since_nil
    | append_singleton seen e ih =>
      intro later hsplit hlatched
      have hsplit' : stimuli = seen ++ e :: later := by rw [hsplit, List.append_assoc]; rfl
      have hstep := hlatched
      rw [after_concat, alarmLatched_step] at hstep
      rcases hstep with hattempt | ⟨hbefore, -⟩
      · exact alarmOnItsWay_of_attempt hattempt (henabled seen e later hsplit')
          (hfits seen e later hsplit')
      · exact (ih (e :: later) hsplit' hbefore).step hlatched

/-- A telecommand that injects 40.0 degrees, without acknowledgement. -/
def hotTelecommand : List UInt8 :=
  [24, 12, 192, 0, 0, 9, 32, 8, 1, 0, 0, 3, 1, 144, 123, 129]

def heatingUp : List Stimulus :=
  [.telecommand nominalTelecommand, .telecommand hotTelecommand, .tick]

theorem alarm_on_its_way_heating_up :
    Run.AllSteps Obc.step AlarmFits (powerOn default) heatingUp ∧
      ∀ seen later, heatingUp = seen ++ later → (after default seen).obsw.alarmLatched = true →
        AlarmOnItsWay default seen := by
  have hfits : Run.AllSteps Obc.step AlarmFits (powerOn default) heatingUp := by decide +kernel
  exact ⟨hfits, (alarm_on_its_way_iff default heatingUp (by decide +kernel)).mpr hfits⟩

def heatingUpUnheard : List Stimulus :=
  [.telecommand nominalTelecommand, .telecommand sixteenStructures, .telecommand hotTelecommand,
    .tick]

/-- The report finds the queue full, the latch is set all the same. -/
theorem alarm_lost :
    Run.AllSteps Obc.step (fun u _ => AlarmEnabled u) (powerOn default) heatingUpUnheard ∧
      (after default heatingUpUnheard).obsw.alarmLatched = true ∧
      ¬AlarmOnItsWay default heatingUpUnheard := by
  refine ⟨by decide +kernel, by decide +kernel, ?_⟩
  rintro ⟨before, since, hsplit, -, -, halarm⟩
  have hnone : alarmsEntered (powerOn default) heatingUpUnheard = [] := by decide +kernel
  rw [hsplit, alarmsEntered_append (valid_powerOn default)] at hnone
  exact halarm (List.append_eq_nil_iff.mp hnone).2

end ObswPus.Autonomy
