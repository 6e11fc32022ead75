import ObswPus.Library.Past
import ObswPus.Telemetry.OverflowReport

/-! # What the overflow reports say

A minor cycle attempts an overflow report if the drop counter has moved since the last
sample, and reports the counter as it is then: the packets dropped so far. The last sample
never runs ahead of the counter, so that each attempt says more than all before it. Neither
does what ground has heard run ahead of the sample, which gives exactly the runs that report
every overflow.
-/
namespace ObswPus.Telemetry
open Flight Downlink Commanding Library

/-- The auxiliary word of the overflow report that the next minor cycle attempts, if any. -/
def attemptedOverflow (s : Obsw) : Option UInt16 :=
  if tmQueueOverflowCount (atSample s).queue ≠ (atSample s).lastOverflow then
    some (tmQueueOverflowCount (atSample s).queue)
  else none

/-- A minor cycle from the attempt on. -/
def reportSample (s : Obsw) : Obsw :=
  match attemptedOverflow s with
  | none => atSample s
  | some aux =>
    (svc05Report (sampled (atSample s)) ObcEventId.tmQueueOverflow.code pusSt05LowSeverity aux).2

theorem obcTick_eq_reportSample (s : Obsw) : obcTick s = svc03Tick (reportSample s) := by
  rw [obcTick_eq]
  unfold obcSampleOverflow reportSample attemptedOverflow
  by_cases hchanged : tmQueueOverflowCount (atSample s).queue ≠ (atSample s).lastOverflow
  · simp only [if_pos hchanged]
    rfl
  · simp only [if_neg hchanged]

theorem lastOverflow_obcTick (s : Obsw) :
    (obcTick s).lastOverflow = (atSample s).queue.overflows :=
  (evolves_fromSample s).emits.lastOverflow

/-- The packets dropped before the sample of the next minor cycle. -/
def droppedAtSample (s : Obsw) : ℕ := droppedCount (atSample s).history

section Sample
variable {s : Obsw}

theorem toNat_sample {delivered : List (List UInt8)} (h : Ledger s delivered) :
    (atSample s).queue.overflows.toNat = min (droppedAtSample s) 65535 :=
  ((evolves_atSample s).emits.ledger h).dropped

theorem overflows_le_atSample (s : Obsw) : s.queue.overflows ≤ (atSample s).queue.overflows :=
  (silent_atSample s).overflows

theorem attemptedOverflow_some {aux : UInt16} (h : attemptedOverflow s = some aux) :
    aux = (atSample s).queue.overflows ∧ aux ≠ s.lastOverflow := by
  have hlast := (silent_atSample s).lastOverflow
  unfold attemptedOverflow at h
  split at h
  · rename_i hchanged
    cases h
    exact ⟨rfl, hlast ▸ hchanged⟩
  · cases h

/-- What is attempted is past the last sample. -/
theorem lastOverflow_lt_attempted (hle : s.lastOverflow ≤ s.queue.overflows) {aux : UInt16}
    (h : attemptedOverflow s = some aux) : s.lastOverflow < aux := by
  obtain ⟨haux, hne⟩ := attemptedOverflow_some h
  have hbelow : s.lastOverflow ≤ aux := haux ▸ UInt16.le_trans hle (overflows_le_atSample s)
  exact UInt16.lt_of_le_of_ne hbelow hne.symm

end Sample

/-- The last sample is at least `c`, and the counter at least the last sample. -/
structure SampledFrom (c : UInt16) (u : Obc) : Prop where
  reached : c ≤ u.obsw.lastOverflow
  bounded : u.obsw.lastOverflow ≤ u.obsw.queue.overflows

theorem lastOverflow_le_obcTick {s : Obsw} (h : s.lastOverflow ≤ s.queue.overflows) :
    s.lastOverflow ≤ (obcTick s).lastOverflow := by
  rw [lastOverflow_obcTick]
  exact UInt16.le_trans h (overflows_le_atSample s)

theorem lastOverflow_obcTick_le (s : Obsw) :
    (obcTick s).lastOverflow ≤ (obcTick s).queue.overflows := by
  have hmono := (evolves_fromSample s).emits.overflows_le
  rw [sampled_queue] at hmono
  rw [lastOverflow_obcTick]
  exact hmono

theorem sampledFrom_step {c : UInt16} (u : Obc) (e : Stimulus) (h : SampledFrom c u) :
    SampledFrom c (u.step e) := by
  by_cases htick : e = .tick
  · subst htick
    constructor
    · rw [obsw_tick]
      exact UInt16.le_trans h.reached (lastOverflow_le_obcTick h.bounded)
    · rw [obsw_tick]
      exact lastOverflow_obcTick_le _
  · have hsilent := silent_step (u := u) htick
    constructor
    · rw [hsilent.lastOverflow]
      exact h.reached
    · rw [hsilent.lastOverflow]
      exact UInt16.le_trans h.bounded hsilent.overflows

theorem sampledFrom_after (s : Obsw) (stimuli : List Stimulus) :
    SampledFrom 0 (after s stimuli) := by
  refine after_invariant (I := SampledFrom 0) (fun s => ?_) sampledFrom_step s stimuli
  have hlast : (powerOn s).obsw.lastOverflow = 0 := by
    rw [powerOn, obcInit_eq, lastOverflow_emit]
    rfl
  constructor
  · exact hlast ▸ UInt16.le_refl 0
  · rw [hlast, UInt16.le_iff_toNat_le]
    exact Nat.zero_le _

/-- From a minor cycle on, the last sample is at least the one that it took. -/
theorem sampledFrom_tick (s : Obsw) (first rest : List Stimulus) :
    SampledFrom (atSample (after s first).obsw).queue.overflows
      (after s (first ++ .tick :: rest)) := by
  have hsplit : first ++ .tick :: rest = (first ++ [.tick]) ++ rest := by simp
  rw [hsplit, after_append]
  refine Run.run_invariant sampledFrom_step ?_ rest
  rw [after_concat]
  have hnext := sampledFrom_step _ .tick (sampledFrom_after s first)
  refine ⟨?_, hnext.bounded⟩
  rw [obsw_tick, lastOverflow_obcTick]
  exact UInt16.le_refl _

theorem lastReported_obcTick_le {s : Obsw} (henabled : overflowEnabled s = true)
    (hbounded : s.lastOverflow ≤ s.queue.overflows)
    (h : lastReported s.history ≤ s.lastOverflow) :
    lastReported (obcTick s).history ≤ (obcTick s).lastOverflow := by
  have hsilent := silent_atSample s
  have hbehind := silent_svc03Tick (obcSampleOverflow (atSample s))
  have hheard : lastReported (atSample s).history ≤ (atSample s).lastOverflow := by
    rw [lastReported, hsilent.queued, hsilent.lastOverflow]
    exact h
  rw [obcTick_eq, lastReported, hbehind.queued, hbehind.lastOverflow, ← lastReported]
  by_cases hsame : (atSample s).queue.overflows = (atSample s).lastOverflow
  · rw [obcSampleOverflow_same hsame]
    exact hheard
  have hflag := overflowEnabled_atSample henabled
  have hqueued := queuedOverflows_obcSampleOverflow hflag hsame
  have hlast : (obcSampleOverflow (atSample s)).lastOverflow = (atSample s).queue.overflows := by
    rw [obcSampleOverflow_changed hflag hsame, lastOverflow_emit, sampled]
  rw [hlast]
  split at hqueued
  · rw [lastReported_concat hqueued]
    exact UInt16.le_refl _
  · rw [List.append_nil] at hqueued
    rw [lastReported, hqueued, ← lastReported]
    rw [hsilent.lastOverflow] at hheard
    exact UInt16.le_trans hheard (UInt16.le_trans hbounded hsilent.overflows)

theorem lastReported_after_le (s : Obsw) {stimuli : List Stimulus}
    (henabled : StaysEnabled (powerOn s) stimuli) :
    lastReported (after s stimuli).obsw.history ≤ (after s stimuli).obsw.lastOverflow := by
  have hstep (u : Obc) (e : Stimulus)
      (h : SampledFrom 0 u ∧ lastReported u.obsw.history ≤ u.obsw.lastOverflow)
      (hflag : overflowEnabled u.obsw = true) : SampledFrom 0 (u.step e) ∧
        lastReported (u.step e).obsw.history ≤ (u.step e).obsw.lastOverflow := by
    refine ⟨sampledFrom_step u e h.1, ?_⟩
    by_cases htick : e = .tick
    · subst htick
      rw [obsw_tick]
      exact lastReported_obcTick_le hflag h.1.bounded h.2
    · have hsilent := silent_step (u := u) htick
      rw [lastReported, hsilent.queued, hsilent.lastOverflow]
      exact h.2
  have hstart : lastReported (powerOn s).obsw.history ≤ (powerOn s).obsw.lastOverflow := by
    rw [lastReported, queuedOverflows_powerOn]
    exact UInt16.le_iff_toNat_le.mpr (Nat.zero_le _)
  exact (Run.run_invariant_of_allSteps hstep ⟨sampledFrom_after s [], hstart⟩ henabled).2

/-- Behind a minor cycle that has lost its report, one that finds a free slot has that overflow to
report, and does not report it. -/
theorem unreported_of_lost (s : Obsw) {first later : List Stimulus}
    (henabled : StaysEnabled (powerOn s) (first ++ .tick :: later))
    (hlost : LosesReport (after s first).obsw)
    (hroom : tmQueueCount (atSample (after s (first ++ .tick :: later)).obsw).queue <
      pusTmQueueDepth) :
    ¬ReportsOverflow (after s (first ++ .tick :: later)).obsw := by
  obtain ⟨hfirst, hflag, -⟩ := Run.allSteps_append.mp henabled
  have hstuck := lost_report_is_final (valid_after s first) hflag hlost later
  have hrun : Run.run Obc.step ((after s first).step .tick) later =
      after s (first ++ .tick :: later) := by rw [after_append, Run.run_cons]
  rw [hrun] at hstuck
  have hsample := hstuck.silent (silent_atSample _)
  have hheard : lastReported (after s first).obsw.history ≠ 0xFFFF := by
    intro hend
    have hle := lastReported_after_le s hfirst
    rw [hend] at hle
    exact hlost.changed (saturated_of_le hle (by decide))
  have hdiffers : tmQueueOverflowCount
        (atSample (after s (first ++ .tick :: later)).obsw).queue ≠
      lastReported (atSample (after s (first ++ .tick :: later)).obsw).history := by
    rw [lastReported, hsample.heard, tmQueueOverflowCount, hsample.saturated]
    exact hheard.symm
  intro hreports
  have hreport := hreports hroom hdiffers
  have htick := (stuck_step _ .tick ⟨valid_after s _, hstuck⟩).2
  rw [obsw_tick] at htick
  rw [htick.heard, hstuck.heard] at hreport
  exact absurd hreport (by simp)

/-- Exactly these runs report every overflow: after a minor cycle that has lost its report, none
ever finds a free slot again. -/
theorem overflow_reported_iff (s : Obsw) {stimuli : List Stimulus}
    (henabled : StaysEnabled (powerOn s) stimuli) :
    (∀ first rest, stimuli = first ++ .tick :: rest → ReportsOverflow (after s first).obsw) ↔
      ∀ first later rest, stimuli = first ++ .tick :: later ++ .tick :: rest →
        LosesReport (after s first).obsw →
          pusTmQueueDepth ≤
            tmQueueCount (atSample (after s (first ++ .tick :: later)).obsw).queue := by
  constructor
  · rintro hall first later rest rfl hlost
    obtain ⟨hbefore, -⟩ := Run.allSteps_append.mp henabled
    by_contra hroom
    exact unreported_of_lost s hbefore hlost (Nat.not_le.mp hroom)
      (hall (first ++ .tick :: later) rest rfl)
  · rintro hfull first rest rfl
    obtain ⟨hbefore, hflag, -⟩ := Run.allSteps_append.mp henabled
    by_cases hkept : KeepsReports (powerOn s) first
    · exact (announced_after hbefore hkept).reportsOverflow hflag
    · intro hroom
      rw [KeepsReports, Run.allSteps_iff] at hkept
      push Not at hkept
      obtain ⟨lost, e, later, rfl, rfl, hlost⟩ := hkept
      exact absurd hroom (Nat.not_lt.mpr (hfull lost later rest rfl hlost))

/-- In every run the last sample is at most the drop counter. The overflow report that a
minor cycle attempts carries the number of packets dropped before it, as far as a word
counts; packets have been dropped since the sample of each earlier minor cycle, and what
earlier minor cycles attempted is less. -/
theorem overflow_samples_sound (s : Obsw) (stimuli : List Stimulus) :
    obcTick (after s stimuli).obsw = svc03Tick (reportSample (after s stimuli).obsw) ∧
    (after s stimuli).obsw.lastOverflow ≤ tmQueueOverflowCount (after s stimuli).obsw.queue ∧
    ∀ aux, attemptedOverflow (after s stimuli).obsw = some aux →
      aux.toNat = min 65535 (droppedAtSample (after s stimuli).obsw) ∧
      0 < droppedAtSample (after s stimuli).obsw ∧
      ∀ first rest, stimuli = first ++ .tick :: rest →
        droppedAtSample (after s first).obsw < droppedAtSample (after s stimuli).obsw ∧
        ∀ earlier, attemptedOverflow (after s first).obsw = some earlier → earlier < aux := by
  have hbounded := (sampledFrom_after s stimuli).bounded
  refine ⟨obcTick_eq_reportSample _, hbounded, fun aux haux => ?_⟩
  have hnow := toNat_sample (ledger_after s stimuli)
  have hpast := lastOverflow_lt_attempted hbounded haux
  rw [← (attemptedOverflow_some haux).1] at hnow
  have hpast' := UInt16.lt_iff_toNat_lt.mp hpast
  refine ⟨by rw [hnow, Nat.min_comm], by omega, ?_⟩
  rintro first rest rfl
  have hreached := (sampledFrom_tick s first rest).reached
  have hearlier := toNat_sample (ledger_after s first)
  have hless := UInt16.lt_of_le_of_lt hreached hpast
  have hless' := UInt16.lt_iff_toNat_lt.mp hless
  refine ⟨by omega, fun earlier hattempt => ?_⟩
  rw [(attemptedOverflow_some hattempt).1]
  exact hless

/-- Eight damaged telecommands drop one packet, and its report is the second to be dropped. -/
theorem overflow_samples_sound_twice :
    (2 : UInt16).toNat = min 65535
        (droppedAtSample (after default
          (List.replicate 8 (.telecommand damagedTelecommand) ++ [.tick])).obsw) ∧
      (1 : UInt16) < 2 := by
  have hfirst : attemptedOverflow
      (after default (List.replicate 8 (.telecommand damagedTelecommand))).obsw = some 1 := by
    decide +kernel
  have hsecond : attemptedOverflow (after default
      (List.replicate 8 (.telecommand damagedTelecommand) ++ [.tick])).obsw = some 2 := by
    decide +kernel
  have hsound := (overflow_samples_sound default _).2.2 2 hsecond
  exact ⟨hsound.1, (hsound.2.2 _ [] rfl).2 1 hfirst⟩

end ObswPus.Telemetry
