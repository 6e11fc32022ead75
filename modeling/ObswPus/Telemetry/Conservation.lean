import ObswPus.Commanding.Runs
import ObswPus.Downlink.Ledger

/-! # Telemetry conservation

The ledger of the downlink over whole runs: however ticks, telecommands and pops are
interleaved, every packet built is taken, queued or dropped, exactly once and in
order, and the sequence counts of the packets taken show what is missing.
-/
namespace ObswPus.Telemetry
open Flight Downlink Commanding

theorem ledger_cleared (s : Obsw) : Ledger (cleared s) [] := by
  constructor
  · exact valid_tmQueueInit s.queue
  · rfl
  · intro service
    simp [cleared, pusTmReset, builtBy, service.toNat_lt]
  · intro k hk
    exact absurd hk (Nat.not_lt_zero k)
  · rfl
  · rfl

theorem ledger_obcInit (s : Obsw) : Ledger (obcInit s) [] := by
  rw [obcInit_eq]
  exact ledger_emit (ledger_cleared s) _

theorem ledger_obcTick {s : Obsw} {delivered : List (List UInt8)} (h : Ledger s delivered) :
    Ledger (obcTick s) delivered := by
  have hsample := (evolves_atSample s).emits.ledger h
  have hsampled : Ledger (sampled (atSample s)) delivered :=
    hsample.same (sampled_queue _) (sampled_tm _) (sampled_history _)
  exact (evolves_fromSample s).emits.ledger hsampled

theorem ledger_step (u : Obc) (e : Stimulus) (h : Ledger u.obsw u.delivered) :
    Ledger (u.step e).obsw (u.step e).delivered := by
  cases e with
  | tick =>
    rw [obsw_tick, delivered_tick]
    exact ledger_obcTick h
  | telecommand octets =>
    rw [obsw_telecommand, delivered_telecommand]
    obtain ⟨c, rs, hevolves, -⟩ := evolves_obcProcessTc u.obsw octets
    exact hevolves.emits.ledger h
  | pop buf =>
    rw [obsw_pop]
    exact ledger_pop h buf buf.length 0
  | thermistor valueDc =>
    rw [obsw_thermistor]
    exact h.same rfl rfl rfl

theorem ledger_after (s : Obsw) (stimuli : List Stimulus) :
    Ledger (after s stimuli).obsw (after s stimuli).delivered :=
  after_invariant (I := fun u => Ledger u.obsw u.delivered) ledger_obcInit ledger_step s stimuli

/-- In every state reached from power-on: the packets built are numbered; the packets taken,
then those queued, are the packets built without the dropped ones; all drops are counted;
and between two packets taken one after the other the sequence counts differ by one more
than the number of packets dropped between them. -/
theorem telemetry_conserved (s : Obsw) (stimuli : List Stimulus) :
    Numbered (after s stimuli).obsw.history ∧
    (after s stimuli).delivered ++ contents (after s stimuli).obsw.queue =
      kept (after s stimuli).obsw.history ∧
    (tmQueueOverflowCount (after s stimuli).obsw.queue).toNat =
      min (droppedCount (after s stimuli).obsw.history) 65535 ∧
    ∀ before p q rest, (after s stimuli).delivered = before ++ p :: q :: rest →
      ∃ (first gap last : List Sent) (x y : Sent),
        (after s stimuli).obsw.history = first ++ x :: (gap ++ y :: last) ∧
        x.packet = p ∧ y.packet = q ∧ kept first = before ∧ (∀ z ∈ gap, z.queued = false) ∧
        ((tmSeqCount q).toNat + 16384 - (tmSeqCount p).toNat) % 16384 =
          (1 + gap.length) % 16384 := by
  have h := ledger_after s stimuli
  refine ⟨h.numbered, h.conserved, h.dropped, ?_⟩
  intro before p q rest hdelivered
  have hkept : kept (after s stimuli).obsw.history =
      before ++ p :: q :: (rest ++ contents (after s stimuli).obsw.queue) := by
    rw [← h.conserved, hdelivered, List.append_assoc, List.cons_append, List.cons_append]
  exact gap_of_numbered h.numbered hkept

end ObswPus.Telemetry
