import ObswPus.Telemetry.Overflow
import ObswPus.Telemetry.Conservation
import ObswPus.Codec.Acceptance

/-! # Reporting an overflow

The sample of the drop counter is taken even where its report is dropped. As long as
the counter still runs, that drop moves it past the sample and the next cycle tries
again; once it has run to its end, nothing does.
-/
namespace ObswPus.Telemetry
open Flight Downlink Commanding Codec Library

/-- Ground has heard of the sample, or the counter has moved past it. -/
def Announced (s : Obsw) : Prop :=
  s.lastOverflow = lastReported s.history ∨ s.lastOverflow < s.queue.overflows

/-- The minor cycle samples a counter that has run to its end, and finds no room to say so. -/
structure LosesReport (s : Obsw) : Prop where
  saturated : tmQueueOverflowCount (atSample s).queue = 0xFFFF
  changed : s.lastOverflow ≠ 0xFFFF
  full : pusTmQueueDepth ≤ tmQueueCount (atSample s).queue

instance (s : Obsw) : Decidable (LosesReport s) :=
  decidable_of_iff (tmQueueOverflowCount (atSample s).queue = 0xFFFF ∧ s.lastOverflow ≠ 0xFFFF ∧
      pusTmQueueDepth ≤ tmQueueCount (atSample s).queue)
    ⟨fun h => ⟨h.1, h.2.1, h.2.2⟩, fun h => ⟨h.saturated, h.changed, h.full⟩⟩

theorem Announced.silent {s s' : Obsw} (h : Announced s) (hsilent : Silent s s') :
    Announced s' := by
  unfold Announced lastReported
  rw [hsilent.lastOverflow, hsilent.queued]
  rcases h with hsame | hpast
  · exact Or.inl hsame
  · exact Or.inr (UInt16.lt_of_lt_of_le hpast hsilent.overflows)

theorem lastReported_concat {history history' : List Sent} {aux : UInt16}
    (h : queuedOverflows history' = queuedOverflows history ++ [aux]) :
    lastReported history' = aux := by
  simp [lastReported, h]

section Sample
variable {s : Obsw} (henabled : overflowEnabled s = true)
include henabled

theorem overflowEnabled_atSample : overflowEnabled (atSample s) = true := by
  rw [overflowEnabled_eq, (evolves_atSample s).controlled, monitorTemperature_svc05]
  rw [overflowEnabled_eq] at henabled
  exact henabled

theorem queuedOverflows_obcSampleOverflow (hchanged : s.queue.overflows ≠ s.lastOverflow) :
    queuedOverflows (obcSampleOverflow s).history = queuedOverflows s.history ++
      if s.queue.count < pusTmQueueDepth then [s.queue.overflows] else [] := by
  rw [obcSampleOverflow_changed henabled hchanged, queuedOverflows_emit, overflowAux_overflow,
    sampled_queue, sampled_history]
  rfl

/-- What the sample reports is heard, or its drop is counted, or the counter is at its end. -/
theorem announced_obcSampleOverflow (h : Announced s)
    (hkept : s.queue.overflows = 0xFFFF → s.lastOverflow ≠ 0xFFFF →
      s.queue.count < pusTmQueueDepth) : Announced (obcSampleOverflow s) := by
  by_cases hsame : s.queue.overflows = s.lastOverflow
  · rw [obcSampleOverflow_same hsame]
    exact h
  have hqueued := queuedOverflows_obcSampleOverflow henabled hsame
  have hcode := obcSampleOverflow_changed henabled hsame
  have hlast : (obcSampleOverflow s).lastOverflow = s.queue.overflows := by
    rw [hcode, lastOverflow_emit, sampled]
  rcases Nat.lt_or_ge s.queue.count pusTmQueueDepth with hroom | hfull
  · left
    rw [if_pos hroom] at hqueued
    rw [hlast, lastReported_concat hqueued]
  · right
    have hend : s.queue.overflows.toNat ≠ 65535 := by
      intro hend
      have hsaturated : s.queue.overflows = 0xFFFF := UInt16.toNat_inj.mp hend
      have hroom := hkept hsaturated fun hlast => hsame (hsaturated.trans hlast.symm)
      omega
    have hlt := s.queue.overflows.toNat_lt
    have hfull' : pusTmQueueDepth ≤ (sampled s).queue.count := hfull
    rw [hlast, hcode, UInt16.lt_iff_toNat_lt, toNat_overflows_emit_full _ _ hfull', sampled_queue]
    omega

theorem announced_obcTick (h : Announced s) (hkept : ¬LosesReport s) : Announced (obcTick s) := by
  have hsilent := silent_atSample s
  rw [obcTick_eq]
  refine Announced.silent ?_ (silent_svc03Tick _)
  apply announced_obcSampleOverflow (overflowEnabled_atSample henabled) (h.silent hsilent)
  intro hsaturated hchanged
  by_contra hfull
  rw [hsilent.lastOverflow] at hchanged
  exact hkept ⟨hsaturated, hchanged, Nat.not_lt.mp hfull⟩

end Sample

theorem announced_obcInit (s : Obsw) : Announced (obcInit s) := by
  have hsilent : Silent (cleared s) (obcInit s) := by
    rw [obcInit_eq]
    apply Silent.of_emits (Emits.send _ _)
    intro r hr
    rw [List.mem_singleton] at hr
    subst hr
    exact overflowAux_ordinary (c := control s) (Ordinary.own (OwnReport.event _ _ _ (by decide)))
  exact Announced.silent (Or.inl rfl) hsilent

theorem queuedOverflows_powerOn (s : Obsw) : queuedOverflows (powerOn s).obsw.history = [] := by
  rw [powerOn, obcInit_eq, queuedOverflows_emit]
  rfl

def StaysEnabled (u : Obc) (stimuli : List Stimulus) : Prop :=
  Run.AllSteps Obc.step (fun u _ => overflowEnabled u.obsw = true) u stimuli

/-- No minor cycle of the run loses its report for good. -/
def KeepsReports (u : Obc) (stimuli : List Stimulus) : Prop :=
  Run.AllSteps Obc.step (fun u e => e = .tick → ¬LosesReport u.obsw) u stimuli

instance (u : Obc) (stimuli : List Stimulus) : Decidable (StaysEnabled u stimuli) :=
  inferInstanceAs (Decidable (Run.AllSteps _ _ u stimuli))

instance (u : Obc) (stimuli : List Stimulus) : Decidable (KeepsReports u stimuli) :=
  inferInstanceAs (Decidable (Run.AllSteps _ _ u stimuli))

theorem announced_step (u : Obc) (e : Stimulus)
    (h : Valid u.obsw.queue ∧ Announced u.obsw)
    (hok : overflowEnabled u.obsw = true ∧ (e = .tick → ¬LosesReport u.obsw)) :
    Valid (u.step e).obsw.queue ∧ Announced (u.step e).obsw := by
  refine ⟨valid_step h.1 e, ?_⟩
  by_cases he : e = .tick
  · subst he
    rw [obsw_tick]
    exact announced_obcTick hok.1 h.2 (hok.2 rfl)
  · exact h.2.silent (silent_step he)

theorem announced_after {s : Obsw} {stimuli : List Stimulus}
    (henabled : StaysEnabled (powerOn s) stimuli) (hkept : KeepsReports (powerOn s) stimuli) :
    Announced (after s stimuli).obsw :=
  (Run.run_invariant_of_allSteps announced_step ⟨valid_after s [], announced_obcInit s⟩
    (henabled.and hkept)).2

/-- A minor cycle that finds a free slot and a counter that ground has not heard of queues a report
of it, and queues one only. -/
def ReportsOverflow (s : Obsw) : Prop :=
  tmQueueCount (atSample s).queue < pusTmQueueDepth →
    tmQueueOverflowCount (atSample s).queue ≠ lastReported (atSample s).history →
      queuedOverflows (obcTick s).history =
        queuedOverflows s.history ++ [tmQueueOverflowCount (atSample s).queue]

theorem Announced.reportsOverflow {s : Obsw} (h : Announced s)
    (henabled : overflowEnabled s = true) : ReportsOverflow s := by
  intro hroom hchanged
  have hsilent := silent_atSample s
  have hdiffers : (atSample s).queue.overflows ≠ (atSample s).lastOverflow := by
    rcases h.silent hsilent with hsame | hpast
    · rw [hsame]
      exact hchanged
    · exact fun heq => UInt16.lt_irrefl _ (heq ▸ hpast)
  have hfree : (atSample s).queue.count < pusTmQueueDepth := hroom
  rw [obcTick_eq, (silent_svc03Tick _).queued,
    queuedOverflows_obcSampleOverflow (overflowEnabled_atSample henabled) hdiffers, if_pos hfree,
    hsilent.queued]
  rfl

/-- In a run that loses no report for good, a minor cycle that finds a free slot and a
counter that ground has not heard of queues a report of it, and queues one only. -/
theorem overflow_reported (s : Obsw) (stimuli : List Stimulus)
    (henabled : StaysEnabled (powerOn s) (stimuli ++ [.tick]))
    (hkept : KeepsReports (powerOn s) stimuli)
    (hroom : tmQueueCount (atSample (after s stimuli).obsw).queue < pusTmQueueDepth)
    (hchanged : tmQueueOverflowCount (atSample (after s stimuli).obsw).queue ≠
      lastReported (atSample (after s stimuli).obsw).history) :
    queuedOverflows (obcTick (after s stimuli).obsw).history =
      queuedOverflows (after s stimuli).obsw.history ++
        [tmQueueOverflowCount (atSample (after s stimuli).obsw).queue] := by
  obtain ⟨hbefore, hnow⟩ := Run.allSteps_append.mp henabled
  exact (announced_after hbefore hkept).reportsOverflow hnow.1 hroom hchanged

/-- A connection test whose checksum was damaged on the way. -/
def damagedTelecommand : List UInt8 := [24, 12, 192, 0, 0, 6, 32, 17, 1, 0, 0, 0, 0]

/-- Eight damaged telecommands overfill the queue. The minor cycle behind them finds it full, and
its report is dropped; then one packet is taken. -/
def shortOutage : List Stimulus :=
  List.replicate 8 (.telecommand damagedTelecommand) ++ [.tick, .pop (List.replicate 256 0)]

theorem overflow_reported_short :
    queuedOverflows (obcTick (after default shortOutage).obsw).history = [2] := by
  have hbefore : queuedOverflows (after default shortOutage).obsw.history = [] := by
    decide +kernel
  have hcounter : tmQueueOverflowCount (atSample (after default shortOutage).obsw).queue = 2 := by
    decide +kernel
  rw [overflow_reported default shortOutage (by decide +kernel) (by decide +kernel)
    (by decide +kernel) (by decide +kernel), hbefore, hcounter]
  rfl

/-- The counter stands at its end and has been sampled there, with `reported` heard so far. -/
structure Stuck (reported : List UInt16) (s : Obsw) : Prop where
  saturated : s.queue.overflows = 0xFFFF
  sampled : s.lastOverflow = 0xFFFF
  heard : queuedOverflows s.history = reported

section Stuck
variable {reported : List UInt16}

theorem saturated_of_le {a b : UInt16} (hle : a ≤ b) (ha : 65535 ≤ a.toNat) : b = 0xFFFF := by
  rw [UInt16.le_iff_toNat_le] at hle
  have hlt := b.toNat_lt
  have hliteral : (0xFFFF : UInt16).toNat = 65535 := rfl
  apply UInt16.toNat_inj.mp
  omega

theorem Stuck.silent {s s' : Obsw} (h : Stuck reported s) (hsilent : Silent s s') :
    Stuck reported s' := by
  refine ⟨?_, hsilent.lastOverflow.trans h.sampled, hsilent.queued.trans h.heard⟩
  exact saturated_of_le hsilent.overflows (Nat.le_of_eq (congrArg UInt16.toNat h.saturated).symm)

theorem stuck_step (u : Obc) (e : Stimulus) (h : Valid u.obsw.queue ∧ Stuck reported u.obsw) :
    Valid (u.step e).obsw.queue ∧ Stuck reported (u.step e).obsw := by
  refine ⟨valid_step h.1 e, ?_⟩
  by_cases he : e = .tick
  · subst he
    have hsample := h.2.silent (silent_atSample u.obsw)
    rw [obsw_tick, obcTick_eq,
      obcSampleOverflow_same (hsample.saturated.trans hsample.sampled.symm)]
    exact hsample.silent (silent_svc03Tick _)
  · exact h.2.silent (silent_step he)

end Stuck

theorem stuck_of_losesReport {s : Obsw} (henabled : overflowEnabled s = true)
    (h : LosesReport s) : Stuck (queuedOverflows s.history) (obcTick s) := by
  have hsilent := silent_atSample s
  have hsaturated : (atSample s).queue.overflows = 0xFFFF := h.saturated
  have hchanged : (atSample s).queue.overflows ≠ (atSample s).lastOverflow := by
    rw [hsaturated, hsilent.lastOverflow]
    exact h.changed.symm
  have hflag := overflowEnabled_atSample henabled
  have hcode := obcSampleOverflow_changed hflag hchanged
  have hfull : pusTmQueueDepth ≤ (sampled (atSample s)).queue.count := h.full
  have hnone : ¬(atSample s).queue.count < pusTmQueueDepth := Nat.not_lt.mpr h.full
  rw [obcTick_eq]
  refine Stuck.silent ⟨?_, ?_, ?_⟩ (silent_svc03Tick _)
  · rw [hcode, overflows_emit_full _ _ hfull, sampled_queue, hsaturated]
    rfl
  · rw [hcode, lastOverflow_emit, sampled, hsaturated]
  · rw [queuedOverflows_obcSampleOverflow hflag hchanged, if_neg hnone,
      List.append_nil, hsilent.queued]

/-- Once a minor cycle has lost its report for good, no overflow is reported ever after. -/
theorem lost_report_is_final {u : Obc} (hq : Valid u.obsw.queue)
    (henabled : overflowEnabled u.obsw = true) (h : LosesReport u.obsw)
    (later : List Stimulus) :
    Stuck (queuedOverflows u.obsw.history)
      (Run.run Obc.step (u.step .tick) later).obsw := by
  have hstuck := stuck_of_losesReport henabled h
  rw [← obsw_tick] at hstuck
  exact (Run.run_invariant stuck_step ⟨valid_step hq .tick, hstuck⟩ later).2

/-- What `n` telecommands in a row that each cause a packet leave behind, with no pop. -/
structure Outage (n : ℕ) (u u' : Obc) : Prop where
  built : u.obsw.history.length + n ≤ u'.obsw.history.length
  count : min pusTmQueueDepth (u.obsw.queue.count + n) ≤ u'.obsw.queue.count
  delivered : u'.delivered = u.delivered
  silent : Silent u.obsw u'.obsw

theorem Outage.trans {n k : ℕ} {u m u' : Obc} (first : Outage n u m) (second : Outage k m u') :
    Outage (k + n) u u' := by
  have hbuilt := first.built
  have hbuilt' := second.built
  have hcount := first.count
  have hcount' := second.count
  exact ⟨by omega, by omega, second.delivered.trans first.delivered,
    first.silent.trans second.silent⟩

section Rejected
variable {octets : List UInt8} {st : PusStatus}
  (hparse : pusTcParse (some octets) octets.length = .error st)
include hparse

theorem outage_rejected {u : Obc} (hq : Valid u.obsw.queue) :
    Outage 1 u (u.step (.telecommand octets)) := by
  have hevolves := evolves_obcProcessTc_rejected (s := u.obsw) hparse
  rw [← obsw_telecommand] at hevolves
  obtain ⟨sent, hhistory, hsent⟩ := hevolves.emits.sent
  have hcount := hevolves.emits.count hq
  have hlen := congrArg List.length hsent
  rw [List.length_map, List.length_map, List.length_cons] at hlen
  rw [List.length_cons] at hcount
  refine ⟨?_, by omega, delivered_telecommand u octets, silent_step (by simp)⟩
  rw [hhistory, List.length_append]
  omega

theorem outage_rejections {u : Obc} (hq : Valid u.obsw.queue) (n : ℕ) :
    Outage n u (Run.run Obc.step u (List.replicate n (.telecommand octets))) := by
  induction n generalizing u with
  | zero =>
    exact ⟨Nat.le_refl _, Nat.min_le_right _ _, rfl, ⟨rfl, rfl, UInt16.le_refl _⟩⟩
  | succ n ih => exact (outage_rejected hparse hq).trans (ih (valid_step hq _))

end Rejected

/-- Only a telecommand that passes the acceptance checks can switch the event off. -/
theorem overflowEnabled_step {u : Obc} {e : Stimulus}
    (he : ∀ octets, e = .telecommand octets →
      ∃ st, pusTcParse (some octets) octets.length = .error st) :
    overflowEnabled (u.step e).obsw = overflowEnabled u.obsw := by
  cases e with
  | tick => rw [obsw_tick, overflowEnabled_obcTick]
  | telecommand octets =>
    obtain ⟨st, hparse⟩ := he octets rfl
    rw [obsw_telecommand, overflowEnabled_eq, overflowEnabled_eq,
      (evolves_obcProcessTc_rejected hparse).controlled]
    rfl
  | pop buf =>
    rw [obsw_pop]
    rfl
  | thermistor valueDc =>
    rw [obsw_thermistor]
    rfl

/-- No pass for a long time, while damaged telecommands keep arriving. -/
def outage : List Stimulus := List.replicate 65551 (.telecommand damagedTelecommand)

/-- One minor cycle in the outage, then a pass that takes four packets. -/
def recovery : List Stimulus := .tick :: List.replicate 4 (.pop (List.replicate 256 0))

theorem damagedTelecommand_rejected :
    pusTcParse (some damagedTelecommand) damagedTelecommand.length =
      .error (firstFailing damagedTelecommand) := by
  rw [pusTcParse_eq, if_neg (by decide +kernel)]

theorem outage_damaged (n : ℕ) : Outage n (powerOn default)
    (after default (List.replicate n (.telecommand damagedTelecommand))) := by
  exact outage_rejections damagedTelecommand_rejected (valid_powerOn default) n

/-- That many packets, in a queue from which none is taken, bring the counter to its end. -/
theorem Outage.losesReport {s : Obsw} {stimuli : List Stimulus}
    (h : Outage 65551 (powerOn s) (after s stimuli)) : LosesReport (after s stimuli).obsw := by
  have hq := valid_after s stimuli
  have hsample := (evolves_atSample (after s stimuli).obsw).emits.count hq
  have hcount := h.count
  have hle := hq.count_le
  have hdepth : pusTmQueueDepth = 16 := rfl
  constructor
  · have hge := (ledger_after s stimuli).overflows_ge
    have hdelivered : (after s stimuli).delivered = [] := h.delivered
    have hbuilt := h.built
    rw [hdelivered, List.length_nil] at hge
    exact saturated_of_le (silent_atSample _).overflows (by omega)
  · have hstart : (powerOn s).obsw.lastOverflow = 0 := by
      rw [powerOn, obcInit_eq, lastOverflow_emit, cleared]
    rw [h.silent.lastOverflow, hstart]
    decide
  · rw [tmQueueCount]
    omega

theorem after_recovery (s : Obsw) (stimuli : List Stimulus) :
    after s (stimuli ++ recovery) = Run.run Obc.step ((after s stimuli).step .tick)
      (List.replicate 4 (.pop (List.replicate 256 0))) := by
  rw [after_append, recovery, Run.run_cons]

/-- Four free slots are enough: thermal control sends three packets at most. -/
theorem room_after_recovery (s : Obsw) (stimuli : List Stimulus) :
    tmQueueCount (atSample (after s (stimuli ++ recovery)).obsw).queue < pusTmQueueDepth := by
  have hq := valid_step (valid_after s stimuli) .tick
  have hfit := fit_step (valid_after s stimuli) (fit_after s stimuli) .tick
  have hbuf : pusMaxPacketSize ≤ (List.replicate 256 (0 : UInt8)).length := by
    rw [List.length_replicate]
  have hpops := count_pops hq hfit hbuf 4
  rw [← after_recovery] at hpops
  have hsample := (evolves_atSample (after s (stimuli ++ recovery)).obsw).emits.count
    (valid_after s _)
  have hthermal := length_thermalReports_le (acquire (control (after s (stimuli ++ recovery)).obsw))
  have hle := hq.count_le
  have hdepth : pusTmQueueDepth = 16 := rfl
  rw [tmQueueCount]
  omega

theorem Outage.stuck {s : Obsw} {stimuli : List Stimulus}
    (h : Outage 65551 (powerOn s) (after s stimuli))
    (henabled : overflowEnabled (after s stimuli).obsw = true) :
    Stuck [] (after s (stimuli ++ recovery)).obsw := by
  have hnone : queuedOverflows (after s stimuli).obsw.history = [] :=
    h.silent.queued.trans (queuedOverflows_powerOn s)
  rw [after_recovery, ← hnone]
  exact lost_report_is_final (valid_after s stimuli) henabled h.losesReport _

theorem Stuck.unreported {s : Obsw} {stimuli : List Stimulus}
    (h : Stuck [] (after s stimuli).obsw) :
    tmQueueOverflowCount (atSample (after s stimuli).obsw).queue ≠
        lastReported (atSample (after s stimuli).obsw).history ∧
      queuedOverflows (obcTick (after s stimuli).obsw).history =
        queuedOverflows (after s stimuli).obsw.history := by
  have hsample := h.silent (silent_atSample _)
  have htick := (stuck_step (after s stimuli) .tick ⟨valid_after s stimuli, h⟩).2
  rw [obsw_tick] at htick
  constructor
  · rw [lastReported, hsample.heard, tmQueueOverflowCount, hsample.saturated]
    decide
  · rw [htick.heard, h.heard]

/-- The event stays enabled, the last pass leaves room, the counter has run to its end and no
report of it ever entered the queue: the next minor cycle queues none either. -/
theorem overflow_left_unreported :
    StaysEnabled (powerOn default) (outage ++ recovery ++ [.tick]) ∧
      tmQueueCount (atSample (after default (outage ++ recovery)).obsw).queue < pusTmQueueDepth ∧
      tmQueueOverflowCount (atSample (after default (outage ++ recovery)).obsw).queue ≠
        lastReported (atSample (after default (outage ++ recovery)).obsw).history ∧
      queuedOverflows (obcTick (after default (outage ++ recovery)).obsw).history =
        queuedOverflows (after default (outage ++ recovery)).obsw.history := by
  have houtage : Outage 65551 (powerOn default) (after default outage) := outage_damaged 65551
  have henabled : StaysEnabled (powerOn default) (outage ++ recovery ++ [.tick]) := by
    refine Run.allSteps_of_preserved (fun u e he hu => ?_) (by decide +kernel)
    rw [overflowEnabled_step]
    · exact hu
    · intro octets htelecommand
      subst htelecommand
      have hdamaged : octets = damagedTelecommand := by
        rw [List.mem_append, List.mem_append] at he
        rcases he with (he | he) | he
        · exact Stimulus.telecommand.inj (List.eq_of_mem_replicate he)
        · rcases List.mem_cons.mp he with he | he
          · cases he
          · cases List.eq_of_mem_replicate he
        · simp at he
      exact ⟨_, hdamaged ▸ damagedTelecommand_rejected⟩
  have hflag := (Run.allSteps_append.mp (Run.allSteps_append.mp henabled).1).2.1
  exact ⟨henabled, room_after_recovery default outage, (houtage.stuck hflag).unreported⟩

end ObswPus.Telemetry
