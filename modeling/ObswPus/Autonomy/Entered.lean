import ObswPus.Autonomy.Laws

/-! # What enters the downlink queue

The packets that the queue takes while the unit runs, and the over-temperature reports
among them: those attempted while the event is enabled and a slot is free.
-/
namespace ObswPus.Autonomy
open Flight Downlink Commanding Library

/-- All packets that entered the queue: those taken from it, and those it holds. -/
def downlinked (u : Obc) : List (List UInt8) := u.delivered ++ contents u.obsw.queue

def entered (u : Obc) (stimuli : List Stimulus) : List (List UInt8) :=
  (downlinked (Run.run Obc.step u stimuli)).drop (downlinked u).length

def alarmsEntered (u : Obc) (stimuli : List Stimulus) : List Event :=
  eventsWith .tempAlarm (packetEvents (entered u stimuli))

theorem alarm_regulationEvents (rs : List Report) :
    eventsWith .tempAlarm (regulationEvents rs) = eventsWith .tempAlarm (reportedEvents rs) :=
  eventsWith_ofRegulation (.inr (.inr rfl)) _

theorem no_alarm_take {rs : List Report}
    (h : eventsWith .tempAlarm (reportedEvents rs) = []) (n : ℕ) :
    eventsWith .tempAlarm (reportedEvents (rs.take n)) = [] := by
  have hsub : (eventsWith .tempAlarm (reportedEvents (rs.take n))).Sublist
      (eventsWith .tempAlarm (reportedEvents rs)) :=
    ((List.take_sublist n rs).filterMap _).filter _
  rw [h] at hsub
  exact List.sublist_nil.mp hsub

theorem alarm_told (flags : Svc05) (as : List (Thermostat.Announcement Int16)) :
    eventsWith .tempAlarm (told flags as) =
      (eventsWith .tempAlarm (as.map announced)).filter (letsThrough flags) := by
  rw [eventsWith, told, List.filter_comm]
  rfl

theorem no_alarm_modeReports (c : Control) (target : ObcMode) :
    eventsWith .tempAlarm (reportedEvents (modeReports c target)) = [] := by
  rw [← alarm_regulationEvents, regulationEvents_modeReports, alarm_told, alarm_changes]
  rfl

theorem alarm_thermalReports (c : Control) :
    eventsWith .tempAlarm (reportedEvents (thermalReports c)) =
      (((regulatorOf c).alarms thresholds (.cycle c.state.temperatureDc)).map announced).filter
        (letsThrough c.svc05) := by
  rw [← alarm_regulationEvents, regulationEvents_thermalReports, alarm_told, eventsWith_alarm]

theorem no_alarm_rest (s : Obsw) :
    eventsWith .tempAlarm (reportedEvents (overflowReports (atSample s) ++
      hkTickReports (obcSampleOverflow (atSample s)))) = [] := by
  rw [← alarm_regulationEvents, regulationEvents_append, regulationEvents_overflowReports,
    regulationEvents_hkTickReports]
  rfl

theorem temperatureDc_acquire (u : Obc) :
    (acquire (Commanding.control u.obsw)).state.temperatureDc = acquired u :=
  (acquired_eq u).symm

section Step
variable {u : Obc} (hq : Valid u.obsw.queue)
include hq

theorem downlinked_tick : ∃ added,
    downlinked (u.step .tick) = downlinked u ++ added ∧
      eventsWith .tempAlarm (packetEvents added) = eventsWith .tempAlarm (reportedEvents
        ((thermalReports (acquire (Commanding.control u.obsw))).take
          (pusTmQueueDepth - u.obsw.queue.count))) := by
  obtain ⟨added, hthermal, hadded⟩ := (evolves_atSample u.obsw).emits.queued hq
  have hsample := (evolves_atSample u.obsw).emits.valid hq
  rw [← sampled_queue] at hsample hthermal
  obtain ⟨added', hrest, hadded'⟩ := (evolves_fromSample u.obsw).emits.queued hsample
  refine ⟨added ++ added', ?_, ?_⟩
  · simp only [downlinked, obsw_tick, delivered_tick, hrest, hthermal, List.append_assoc]
  · rw [packetEvents_append, eventsWith_append, packetEvents_of_content hadded,
      packetEvents_of_content hadded', no_alarm_take (no_alarm_rest u.obsw), List.append_nil]

theorem downlinked_telecommand (octets : List UInt8) : ∃ added,
    downlinked (u.step (.telecommand octets)) = downlinked u ++ added ∧
      eventsWith .tempAlarm (packetEvents added) = [] := by
  obtain ⟨rs, hemits, hevents⟩ := emits_obcProcessTc u.obsw octets
  obtain ⟨added, hcontents, hadded⟩ := hemits.queued hq
  have hnone : eventsWith .tempAlarm (reportedEvents rs) = [] := by
    rw [← alarm_regulationEvents, hevents, alarm_told, eventsWith_alarm]
    unfold Thermostat.alarms
    split
    · rename_i t ht
      exact absurd ht (requestInput_ne_cycle _ t)
    · rfl
  refine ⟨added, ?_, ?_⟩
  · simp only [downlinked, obsw_telecommand, delivered_telecommand, hcontents, List.append_assoc]
  · rw [packetEvents_of_content hadded, no_alarm_take hnone]

theorem downlinked_pop (buf : List UInt8) : downlinked (u.step (.pop buf)) = downlinked u := by
  simp only [downlinked, Obc.step]
  split
  · rename_i hok
    rw [tmQueuePop_ok hq hok, List.append_assoc, List.singleton_append]
  · rename_i herror
    rw [tmQueuePop_error herror]

theorem downlinked_step (e : Stimulus) :
    downlinked (u.step e) = downlinked u ++ entered u [e] := by
  have hgrown {added : List (List UInt8)} (h : downlinked (u.step e) = downlinked u ++ added) :
      downlinked (u.step e) = downlinked u ++ entered u [e] := by
    rw [entered, Run.run_cons, Run.run_nil, h, List.drop_left]
  cases e with
  | tick =>
    obtain ⟨added, h, -⟩ := downlinked_tick hq
    exact hgrown h
  | telecommand octets =>
    obtain ⟨added, h, -⟩ := downlinked_telecommand hq octets
    exact hgrown h
  | pop buf => exact hgrown ((downlinked_pop hq buf).trans (List.append_nil _).symm)
  | thermistor valueDc => exact hgrown (List.append_nil _).symm

end Step

section Run
variable {u : Obc} (hq : Valid u.obsw.queue)
include hq

/-- What has entered the queue stays there until it is taken. -/
theorem downlinked_run (stimuli : List Stimulus) :
    downlinked (Run.run Obc.step u stimuli) = downlinked u ++ entered u stimuli := by
  suffices hgrown : downlinked u <+: downlinked (Run.run Obc.step u stimuli) by
    obtain ⟨added, hadded⟩ := hgrown
    rw [entered, ← hadded, List.drop_left]
  induction stimuli generalizing u with
  | nil => exact List.prefix_rfl
  | cons e stimuli ih =>
    have hfirst : downlinked u <+: downlinked (u.step e) := ⟨_, (downlinked_step hq e).symm⟩
    exact hfirst.trans (ih (valid_step hq e))

theorem entered_append (first second : List Stimulus) :
    entered u (first ++ second) = entered u first ++ entered (Run.run Obc.step u first) second := by
  have hrun := downlinked_run hq (first ++ second)
  rw [Run.run_append, downlinked_run (valid_run hq first), downlinked_run hq,
    List.append_assoc] at hrun
  exact (List.append_cancel_left hrun).symm

theorem alarmsEntered_append (first second : List Stimulus) :
    alarmsEntered u (first ++ second) =
      alarmsEntered u first ++ alarmsEntered (Run.run Obc.step u first) second := by
  rw [alarmsEntered, entered_append hq, packetEvents_append, eventsWith_append]
  rfl

end Run

section Alarm
variable {u : Obc} {e : Stimulus} (hq : Valid u.obsw.queue)
include hq

theorem no_alarm_entered (hnone : ¬AlarmAttempt u e) : alarmsEntered u [e] = [] := by
  have hstep (added : List (List UInt8)) (h : downlinked (u.step e) = downlinked u ++ added)
      (hadded : eventsWith .tempAlarm (packetEvents added) = []) : alarmsEntered u [e] = [] := by
    rw [downlinked_step hq e] at h
    rw [alarmsEntered, List.append_cancel_left h, hadded]
  cases e with
  | tick =>
    obtain ⟨added, h, hadded⟩ := downlinked_tick hq
    have hcalm : ¬(regulator u).Raises thresholds (acquired u) := fun hraises =>
      hnone ((alarmAttempt_iff_raises u .tick).mpr ⟨rfl, hraises⟩)
    refine hstep added h (hadded.trans (no_alarm_take ?_ _))
    rw [alarm_thermalReports, temperatureDc_acquire]
    change List.filter _ (List.map announced ((regulator u).alarms thresholds _)) = []
    simp only [Thermostat.alarms, if_neg hcalm]
    rfl
  | telecommand octets =>
    obtain ⟨added, h, hadded⟩ := downlinked_telecommand hq octets
    exact hstep added h hadded
  | pop buf => exact hstep [] ((downlinked_pop hq buf).trans (List.append_nil _).symm) rfl
  | thermistor valueDc => exact hstep [] (List.append_nil _).symm rfl

/-- An attempt is the first report of its minor cycle, so that one free slot is enough. -/
theorem alarm_entered (hattempt : AlarmAttempt u e)
    (henabled : svc05IsEnabled u.obsw ObcEventId.tempAlarm.code = true) :
    alarmsEntered u [e] = if tmQueueCount u.obsw.queue < pusTmQueueDepth then
      [⟨pusSt05HighSeverity, ObcEventId.tempAlarm.code, (acquired u).toUInt16⟩] else [] := by
  obtain ⟨rfl, hmode, hclear, hhot⟩ := (alarmAttempt_iff u e).mp hattempt
  obtain ⟨added, h, hadded⟩ := downlinked_tick hq
  rw [downlinked_step hq .tick] at h
  rw [alarmsEntered, List.append_cancel_left h, hadded]
  have hflag : eventEnabled (acquire (Commanding.control u.obsw)).svc05 .tempAlarm = true := by
    rw [svc05IsEnabled_code] at henabled
    exact henabled
  have hreports : thermalReports (acquire (Commanding.control u.obsw)) =
      eventReport .tempAlarm pusSt05HighSeverity (acquired u).toUInt16 ::
        modeReports (acquire (Commanding.control u.obsw)) .safe := by
    rw [← temperatureDc_acquire] at hhot ⊢
    have hmode' : (acquire (Commanding.control u.obsw)).state.mode = .nominal := hmode
    have hclear' : (acquire (Commanding.control u.obsw)).alarmLatched = false := hclear
    rw [thermalReports, if_pos hmode', if_pos hhot, if_pos hclear', eventReports, if_pos hflag]
    rfl
  rw [hreports, tmQueueCount]
  split
  · rename_i hroom
    obtain ⟨free, hfree⟩ : ∃ free, pusTmQueueDepth - u.obsw.queue.count = free + 1 :=
      Nat.exists_eq_add_one_of_ne_zero (by omega)
    rw [hfree, List.take_succ_cons, ← List.singleton_append, reportedEvents_append,
      eventsWith_append, no_alarm_take (no_alarm_modeReports _ _)]
    simp [reportedEvents, eventOf_eventReport, eventsWith]
  · rename_i hfull
    rw [Nat.sub_eq_zero_of_le (Nat.le_of_not_lt hfull), List.take_zero]
    rfl

end Alarm

end ObswPus.Autonomy
