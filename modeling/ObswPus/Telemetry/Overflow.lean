import ObswPus.Commanding.Runs

/-! # Overflow reports in the history

The overflow reports that entered the queue, as the history shows them, and what a
minor cycle adds to them. All other functions are silent: they report no overflow.
-/
namespace ObswPus.Telemetry
open Flight Downlink Commanding

/-- The counter value that an overflow report carries; nothing for other content. -/
def overflowAux (c : Content) : Option UInt16 :=
  if c.1 = pusServiceEvent ∧ c.2.2.take 2 = pusPutU16 ObcEventId.tmQueueOverflow.code then
    some (pusGetU16 (c.2.2.drop 2))
  else none

/-- The counter values of the overflow reports that the queue took, oldest first. -/
def queuedOverflows (history : List Sent) : List UInt16 :=
  history.filterMap fun x => if x.queued then overflowAux (tmContent x.packet) else none

/-- The counter as ground last heard of it: zero if it never did. -/
def lastReported (history : List Sent) : UInt16 := (queuedOverflows history).getLast?.getD 0

theorem overflowAux_overflow (severity : UInt8) (aux : UInt16) :
    overflowAux (eventReport .tmQueueOverflow severity aux).content = some aux := by
  have hdrop : (pusPutU16 ObcEventId.tmQueueOverflow.code ++ pusPutU16 aux).drop 2 =
      pusPutU16 aux ++ [] := by
    rw [List.append_nil]
    rfl
  simp only [overflowAux, Report.content, eventReport]
  rw [if_pos ⟨trivial, rfl⟩, hdrop, pusGetU16_pusPutU16]

theorem overflowAux_ordinary {c : Control} {r : Report} (h : Ordinary c r) :
    overflowAux r.content = none := by
  cases h with
  | success | failure => rfl
  | own h =>
    cases h with
    | event id severity aux hid =>
      have hcode : pusPutU16 id.code ≠ pusPutU16 ObcEventId.tmQueueOverflow.code := by
        cases id <;> first | exact absurd rfl hid | decide
      have htake : (pusPutU16 id.code ++ pusPutU16 aux).take 2 = pusPutU16 id.code := rfl
      simp only [overflowAux, Report.content, eventReport, htake, hcode, and_false, if_false]
    | housekeeping | alive => rfl

theorem queuedOverflows_emit (s : Obsw) (r : Report) :
    queuedOverflows (emit s r).history = queuedOverflows s.history ++
      if s.queue.count < pusTmQueueDepth then (overflowAux r.content).toList else [] := by
  simp only [queuedOverflows, history_emit, List.filterMap_append]
  by_cases hroom : s.queue.count < pusTmQueueDepth
  · cases haux : overflowAux r.content <;> simp [hroom, haux]
  · simp [hroom]

/-- From `s` to `s'` no overflow was reported; packets may have been dropped. -/
structure Silent (s s' : Obsw) : Prop where
  lastOverflow : s'.lastOverflow = s.lastOverflow
  queued : queuedOverflows s'.history = queuedOverflows s.history
  overflows : s.queue.overflows ≤ s'.queue.overflows

theorem Silent.trans {s m s' : Obsw} (first : Silent s m) (second : Silent m s') : Silent s s' :=
  ⟨second.lastOverflow.trans first.lastOverflow, second.queued.trans first.queued,
    UInt16.le_trans first.overflows second.overflows⟩

theorem Silent.of_emits {s s' : Obsw} {rs : List Report} (h : Emits s s' rs)
    (hrs : ∀ r ∈ rs, overflowAux r.content = none) : Silent s s' := by
  refine ⟨h.lastOverflow, ?_, h.overflows_le⟩
  induction h with
  | write hsame => rw [hsame.history]
  | send s r =>
    rw [queuedOverflows_emit, hrs r (List.mem_singleton_self r)]
    simp
  | trans _ _ ihfirst ihsecond =>
    rw [ihsecond fun r hr => hrs r (List.mem_append_right _ hr),
      ihfirst fun r hr => hrs r (List.mem_append_left _ hr)]

theorem silent_atSample (s : Obsw) : Silent s (atSample s) :=
  Silent.of_emits (evolves_atSample s).emits fun _ hr =>
    overflowAux_ordinary (Ordinary.own (c := control s) (own_thermalReports hr))

theorem silent_svc03Tick (s : Obsw) : Silent s (svc03Tick s) :=
  Silent.of_emits (evolves_svc03Tick s).emits fun _ hr =>
    overflowAux_ordinary (Ordinary.own (own_hkTickReports hr))

theorem silent_obcProcessTc (s : Obsw) (octets : List UInt8) :
    Silent s (obcProcessTc s (some octets) octets.length).2 := by
  obtain ⟨c, rs, hevolves, hordinary⟩ := evolves_obcProcessTc s octets
  exact Silent.of_emits hevolves.emits fun r hr => overflowAux_ordinary (hordinary r hr)

/-- Every stimulus but the minor cycle is silent. -/
theorem silent_step {u : Obc} {e : Stimulus} (he : e ≠ .tick) :
    Silent u.obsw (u.step e).obsw := by
  cases e with
  | tick => exact absurd rfl he
  | telecommand octets =>
    rw [obsw_telecommand]
    exact silent_obcProcessTc _ octets
  | pop buf =>
    rw [obsw_pop]
    refine ⟨rfl, rfl, ?_⟩
    dsimp only
    rw [overflows_tmQueuePop]
    exact UInt16.le_refl _
  | thermistor valueDc =>
    rw [obsw_thermistor]
    exact ⟨rfl, rfl, UInt16.le_refl _⟩

def overflowEnabled (s : Obsw) : Bool := svc05IsEnabled s ObcEventId.tmQueueOverflow.code

theorem overflowEnabled_eq (s : Obsw) :
    overflowEnabled s = eventEnabled (control s).svc05 .tmQueueOverflow :=
  svc05IsEnabled_code s .tmQueueOverflow

theorem overflowEnabled_obcTick (s : Obsw) :
    overflowEnabled (obcTick s) = overflowEnabled s := by
  rw [overflowEnabled_eq, overflowEnabled_eq, control_obcTick, stepPhase, monitorTemperature_svc05]
  rfl

theorem obcTick_eq (s : Obsw) : obcTick s = svc03Tick (obcSampleOverflow (atSample s)) := rfl

theorem obcSampleOverflow_same {s : Obsw} (hsame : s.queue.overflows = s.lastOverflow) :
    obcSampleOverflow s = s := by
  simp only [obcSampleOverflow, tmQueueOverflowCount, hsame, ne_eq, not_true_eq_false, if_false]

theorem obcSampleOverflow_changed {s : Obsw} (henabled : overflowEnabled s = true)
    (hchanged : s.queue.overflows ≠ s.lastOverflow) :
    obcSampleOverflow s =
      emit (sampled s) (eventReport .tmQueueOverflow pusSt05LowSeverity s.queue.overflows) := by
  have hflag : eventEnabled (sampled s).svc05 .tmQueueOverflow = true := by
    rw [overflowEnabled_eq] at henabled
    exact henabled
  have hsend := svc05Report_eq (sampled s) .tmQueueOverflow pusSt05LowSeverity s.queue.overflows
    (by decide)
  rw [if_pos hflag] at hsend
  simp only [obcSampleOverflow, tmQueueOverflowCount, ne_eq, hchanged, not_false_eq_true, if_true]
  exact congrArg Prod.snd hsend

end ObswPus.Telemetry
