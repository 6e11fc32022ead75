import ObswPus.Commanding.Runs
import ObswPus.Library.TwoRuns

/-! # Initialisation erases all history

`obc_init` leaves the slots and lengths of the queue as they are. Two states that differ
in nothing else, their queues holding the same packets, are twins: every function of
the flight software answers both alike and leaves twins behind.
-/
namespace ObswPus.Isolation
open Flight Downlink Commanding Library

/-- Two queues that hold the same packets and have dropped the same number. -/
structure SameQueue (q q' : TmQueue) : Prop where
  valid : Valid q
  valid' : Valid q'
  contents : contents q' = contents q
  overflows : q'.overflows = q.overflows

theorem SameQueue.count {q q' : TmQueue} (h : SameQueue q q') : q'.count = q.count := by
  have hlen := congrArg List.length h.contents
  rwa [contents_length, contents_length] at hlen

abbrev withQueue (s : Obsw) (q : TmQueue) : Obsw := { s with queue := q }

/-- Two states that differ in nothing but what their queues hold beside their packets. -/
inductive Twin (s : Obsw) : Obsw → Prop where
  | mk {q' : TmQueue} (h : SameQueue s.queue q') : Twin s (withQueue s q')

/-- The same status, and twins left behind. -/
structure Alike (r r' : PusStatus × Obsw) : Prop where
  status : r.1 = r'.1
  twin : Twin r.2 r'.2

section Twin
variable {s s' m m' : Obsw}

theorem Twin.same (h : Twin s s') : SameQueue s.queue s'.queue := by
  cases h with
  | mk h => exact h

theorem Twin.state (h : Twin s s') : s'.state = s.state := by
  cases h
  rfl

theorem Twin.svc03 (h : Twin s s') : s'.svc03 = s.svc03 := by
  cases h
  rfl

theorem Twin.svc05 (h : Twin s s') : s'.svc05 = s.svc05 := by
  cases h
  rfl

theorem Twin.alarmLatched (h : Twin s s') : s'.alarmLatched = s.alarmLatched := by
  cases h
  rfl

theorem Twin.lastOverflow (h : Twin s s') : s'.lastOverflow = s.lastOverflow := by
  cases h
  rfl

/-- What a function writes beside the queue, without reading the queue, keeps twins. -/
theorem Twin.write (h : Twin s s') (g : Obsw → Obsw)
    (hg : ∀ (s : Obsw) (q : TmQueue), g (withQueue s q) = withQueue (g s) q) :
    Twin (g s) (g s') := by
  cases h with
  | mk h =>
    rename_i q'
    have hself : g s = withQueue (g s) s.queue := hg s s.queue
    have hkeeps : (g s).queue = (withQueue (g s) s.queue).queue := congrArg (fun m => m.queue) hself
    rw [hg s q']
    apply Twin.mk
    rw [hkeeps]
    exact h

theorem Twin.ite {p p' : Prop} [Decidable p] [Decidable p'] (hp : p ↔ p')
    (hpos : p → Twin s s') (hneg : ¬p → Twin m m') :
    Twin (if p then s else m) (if p' then s' else m') := Run.related_ite hp hpos hneg

theorem Twin.emit (h : Twin s s') (r : Report) : Twin (Downlink.emit s r) (Downlink.emit s' r) := by
  cases h with
  | mk h =>
    rename_i q'
    have hrest : Downlink.emit (withQueue s q') r =
        withQueue (Downlink.emit s r) (Downlink.emit (withQueue s q') r).queue := by
      simp only [Downlink.emit, h.count]
    rw [hrest]
    refine Twin.mk ⟨valid_emit s r h.valid, valid_emit _ r h.valid', ?_, ?_⟩
    · rcases Nat.lt_or_ge s.queue.count pusTmQueueDepth with hroom | hfull
      · rw [contents_emit_room s r hroom, contents_emit_room _ r (h.count.symm ▸ hroom), h.contents]
      · rw [contents_emit_full s r hfull, contents_emit_full _ r (h.count.symm ▸ hfull), h.contents]
    · rcases Nat.lt_or_ge s.queue.count pusTmQueueDepth with hroom | hfull
      · rw [overflows_emit_room s r hroom, overflows_emit_room _ r (h.count.symm ▸ hroom),
          h.overflows]
      · rw [overflows_emit_full s r hfull, overflows_emit_full _ r (h.count.symm ▸ hfull),
          h.overflows]

theorem Twin.sendStatus (h : Twin s s') : sendStatus s.queue = Downlink.sendStatus s'.queue := by
  rw [Downlink.sendStatus, Downlink.sendStatus, h.same.count]

theorem Twin.alike_send (h : Twin s s') (r : Report) :
    Alike (Downlink.sendStatus s.queue, Downlink.emit s r)
      (Downlink.sendStatus s'.queue, Downlink.emit s' r) := ⟨h.sendStatus, h.emit r⟩

theorem Twin.unchanged (h : Twin s s') (st : PusStatus) : Alike (st, s) (st, s') := ⟨rfl, h⟩

end Twin

theorem Alike.ite {r r' t t' : PusStatus × Obsw} {p p' : Prop} [Decidable p] [Decidable p']
    (hp : p ↔ p') (hpos : p → Alike r r') (hneg : ¬p → Alike t t') :
    Alike (if p then r else t) (if p' then r' else t') := Run.related_ite hp hpos hneg

section Reports
variable {s s' : Obsw} (h : Twin s s')
include h

theorem alike_svc05Report (id : ObcEventId) (severity : UInt8) (aux : UInt16)
    (hseverity : pusSt05Informative ≤ severity ∧ severity ≤ pusSt05HighSeverity) :
    Alike (svc05Report s id.code severity aux) (svc05Report s' id.code severity aux) := by
  rw [svc05Report_eq s id severity aux hseverity, svc05Report_eq s' id severity aux hseverity,
    h.svc05]
  exact Alike.ite Iff.rfl (fun _ => h.alike_send _) fun _ => h.unchanged _

theorem alike_svc03Generate (sid : UInt8) : Alike (svc03Generate s sid) (svc03Generate s' sid) := by
  cases hsid : svc03SidValid sid with
  | false =>
    simp only [svc03Generate, hsid, if_true]
    exact h.unchanged _
  | true =>
    have hdata : svc03Data s' sid = svc03Data s sid := by
      simp only [svc03Data, tmQueueCount, tmQueueOverflowCount, h.state, h.same.count,
        h.same.overflows]
    have hreport : hkReport s' sid = hkReport s sid := by simp only [hkReport, hdata]
    rw [svc03Generate_eq s hsid, svc03Generate_eq s' hsid, hreport]
    exact h.alike_send _

theorem alike_svc01AcceptanceSuccess (tc : PusTc) :
    Alike (svc01AcceptanceSuccess s (some tc)) (svc01AcceptanceSuccess s' (some tc)) := by
  simp only [svc01AcceptanceSuccess, svc01SendSuccess_eq]
  exact Alike.ite Iff.rfl (fun _ => h.unchanged _) fun _ => h.alike_send _

theorem alike_svc01CompletionSuccess (tc : PusTc) :
    Alike (svc01CompletionSuccess s (some tc)) (svc01CompletionSuccess s' (some tc)) := by
  simp only [svc01CompletionSuccess, svc01SendSuccess_eq]
  exact Alike.ite Iff.rfl (fun _ => h.unchanged _) fun _ => h.alike_send _

theorem alike_svc01CompletionFailure (tc : PusTc) (st : PusStatus) :
    Alike (svc01CompletionFailure s (some tc) st) (svc01CompletionFailure s' (some tc) st) := by
  simp only [svc01CompletionFailure, svc01SendFailure_eq]
  exact Alike.ite Iff.rfl (fun _ => h.unchanged _) fun _ => h.alike_send _

end Reports

section Control
variable {s s' : Obsw} (h : Twin s s')
include h

theorem twin_obcApplyHeater (on : Bool) : Twin (obcApplyHeater s on) (obcApplyHeater s' on) := by
  refine Twin.ite (by rw [h.state]) (fun _ => h) fun _ => ?_
  have hwrite := h.write (fun m => { m with
    hal := halSetHeater m.hal on, state := { m.state with heaterOn := on } }) fun _ _ => rfl
  exact (alike_svc05Report hwrite .heaterSwitched pusSt05Informative _ (by decide)).twin

theorem alike_obcSetHeater (on : Bool) : Alike (obcSetHeater s on) (obcSetHeater s' on) := by
  exact Alike.ite (by rw [h.state]) (fun _ => h.unchanged _) fun _ => ⟨rfl, twin_obcApplyHeater h _⟩

theorem alike_obcSetMode (mode : UInt32) : Alike (obcSetMode s mode) (obcSetMode s' mode) := by
  unfold obcSetMode
  split
  · exact h.unchanged _
  · rename_i target htarget
    refine Alike.ite (by rw [h.state]) (fun _ => h.unchanged _) fun _ => ⟨rfl, ?_⟩
    have hwrite := h.write (fun m => { m with state := { m.state with mode := target } })
      fun _ _ => rfl
    have hheater := Twin.ite (p := target = .safe) Iff.rfl
      (fun _ => twin_obcApplyHeater hwrite false) fun _ => hwrite
    exact (alike_svc05Report hheater .modeChanged pusSt05Informative mode.toUInt16 (by decide)).twin

theorem twin_raiseAlarm : Twin (raiseAlarm s) (raiseAlarm s') := by
  have htemperature : s'.state.temperatureDc = s.state.temperatureDc := by rw [h.state]
  refine Twin.ite (by rw [h.alarmLatched]) (fun _ => ?_) fun _ => h
  have hwrite := h.write (fun m => { m with alarmLatched := true }) fun _ _ => rfl
  rw [htemperature]
  exact (alike_svc05Report hwrite .tempAlarm pusSt05HighSeverity _ (by decide)).twin

theorem twin_regulated : Twin (regulated s) (regulated s') := by
  refine Twin.ite (by rw [h.state]) (fun _ => ?_) fun _ => twin_obcApplyHeater h false
  refine Twin.ite (by rw [h.state]) (fun _ => (alike_obcSetMode (twin_raiseAlarm h) _).twin)
    fun _ => ?_
  refine Twin.ite (by rw [h.state]) (fun _ => twin_obcApplyHeater h false) fun _ => ?_
  exact Twin.ite (by rw [h.state]) (fun _ => twin_obcApplyHeater h true) fun _ => h

theorem twin_obcThermalControl : Twin (obcThermalControl s) (obcThermalControl s') := by
  rw [obcThermalControl_eq, obcThermalControl_eq]
  refine Twin.ite (by rw [h.state]) (fun _ => ?_) fun _ => twin_regulated h
  exact (twin_regulated h).write (fun m => { m with alarmLatched := false }) fun _ _ => rfl

theorem twin_obcSampleOverflow : Twin (obcSampleOverflow s) (obcSampleOverflow s') := by
  have hcounter : tmQueueOverflowCount s'.queue = tmQueueOverflowCount s.queue := h.same.overflows
  refine Twin.ite (by rw [h.lastOverflow, hcounter]) (fun _ => ?_) fun _ => h
  have hwrite := h.write (fun m => { m with lastOverflow := tmQueueOverflowCount s.queue })
    fun _ _ => rfl
  rw [hcounter]
  exact (alike_svc05Report hwrite .tmQueueOverflow pusSt05LowSeverity _ (by decide)).twin

theorem twin_svc03TickOne (sid : UInt8) : Twin (svc03TickOne s sid) (svc03TickOne s' sid) := by
  exact Twin.ite (by rw [h.svc03]) (fun _ => (alike_svc03Generate h sid).twin) fun _ => h

end Control

theorem twin_foldl_svc03TickOne (sids : List UInt8) {s s' : Obsw} (h : Twin s s') :
    Twin (sids.foldl svc03TickOne s) (sids.foldl svc03TickOne s') := by
  induction sids generalizing s s' with
  | nil => exact h
  | cons sid sids ih => exact ih (twin_svc03TickOne h sid)

theorem twin_svc03Tick {s s' : Obsw} (h : Twin s s') : Twin (svc03Tick s) (svc03Tick s') := by
  refine Twin.ite (by rw [h.svc03]) (fun _ => ?_) fun _ => twin_foldl_svc03TickOne _ ?_
  · exact h.write (fun m => { m with svc03 := { m.svc03 with phase := m.svc03.phase + 1 } })
      fun _ _ => rfl
  · exact h.write (fun m => { m with svc03 := { m.svc03 with phase := 0 } }) fun _ _ => rfl

theorem alike_svc03ApplyFrom (tc : PusTc) (enable oneShot : Bool) (indices : List ℕ)
    {s s' : Obsw} (h : Twin s s') :
    Alike (svc03ApplyFrom tc enable oneShot s indices)
      (svc03ApplyFrom tc enable oneShot s' indices) := by
  induction indices generalizing s s' with
  | nil => exact h.unchanged _
  | cons i indices ih =>
    have hwrite := h.write (fun m => { m with svc03 := { m.svc03 with
      enabled := m.svc03.enabled.set ((pusGetU8 (tc.appDataAt (1 + i))).toNat - 1) enable } })
      fun _ _ => rfl
    refine Alike.ite Iff.rfl (fun _ => ?_) fun _ => ih hwrite
    have hgenerated := alike_svc03Generate h (pusGetU8 (tc.appDataAt (1 + i)))
    exact Alike.ite (by rw [hgenerated.status]) (fun _ => hgenerated) fun _ => ih hgenerated.twin

theorem twin_obcTick {s s' : Obsw} (h : Twin s s') : Twin (obcTick s) (obcTick s') := by
  have hacquire := h.write obcAcquire fun _ _ => rfl
  exact twin_svc03Tick (twin_obcSampleOverflow (twin_obcThermalControl hacquire))

section Telecommand
variable {s s' : Obsw} (h : Twin s s') (tc : PusTc)
include h

theorem alike_svc03ApplyList (enable oneShot : Bool) :
    Alike (svc03ApplyList s tc enable oneShot) (svc03ApplyList s' tc enable oneShot) := by
  refine Alike.ite Iff.rfl (fun _ => h.unchanged _) fun _ => ?_
  refine Alike.ite Iff.rfl (fun _ => h.unchanged _) fun _ => ?_
  refine Alike.ite Iff.rfl (fun _ => h.unchanged _) fun _ => ?_
  exact Alike.ite Iff.rfl (fun _ => h.unchanged _) fun _ => alike_svc03ApplyFrom tc _ _ _ h

theorem alike_svc03Handle : Alike (svc03Handle s (some tc)) (svc03Handle s' (some tc)) := by
  refine Alike.ite Iff.rfl (fun _ => alike_svc03ApplyList h tc _ _) fun _ => ?_
  refine Alike.ite Iff.rfl (fun _ => alike_svc03ApplyList h tc _ _) fun _ => ?_
  exact Alike.ite Iff.rfl (fun _ => alike_svc03ApplyList h tc _ _) fun _ => h.unchanged _

theorem alike_svc05SetEnabled (value : Bool) :
    Alike (svc05SetEnabled s tc value) (svc05SetEnabled s' tc value) := by
  refine Alike.ite Iff.rfl (fun _ => h.unchanged _) fun _ => ?_
  refine Alike.ite Iff.rfl (fun _ => h.unchanged _) fun _ => ?_
  refine Alike.ite Iff.rfl (fun _ => h.unchanged _) fun _ => ?_
  refine Alike.ite Iff.rfl (fun _ => h.unchanged _) fun _ => ⟨rfl, ?_⟩
  exact h.write (fun m => { m with svc05 := { m.svc05 with
    enabled := (List.range (pusGetU8 (tc.appDataAt 0)).toNat).foldl (fun enabled i =>
      enabled.set ((pusGetU16 (tc.appDataAt (1 + i * 2))).toNat - 1) value) m.svc05.enabled } })
    fun _ _ => rfl

theorem alike_svc05Handle : Alike (svc05Handle s (some tc)) (svc05Handle s' (some tc)) := by
  refine Alike.ite Iff.rfl (fun _ => alike_svc05SetEnabled h tc _) fun _ => ?_
  exact Alike.ite Iff.rfl (fun _ => alike_svc05SetEnabled h tc _) fun _ => h.unchanged _

theorem alike_svc08Handle : Alike (svc08Handle s (some tc)) (svc08Handle s' (some tc)) := by
  refine Alike.ite Iff.rfl (fun _ => h.unchanged _) fun _ => ?_
  refine Alike.ite Iff.rfl (fun _ => h.unchanged _) fun _ => ?_
  refine Alike.ite Iff.rfl (fun _ => ?_) fun _ => ?_
  · refine Alike.ite Iff.rfl (fun _ => h.unchanged _) fun _ => ?_
    exact Alike.ite Iff.rfl (fun _ => h.unchanged _) fun _ => alike_obcSetMode h _
  refine Alike.ite Iff.rfl (fun _ => ?_) fun _ => ?_
  · refine Alike.ite Iff.rfl (fun _ => h.unchanged _) fun _ => ?_
    exact Alike.ite Iff.rfl (fun _ => h.unchanged _) fun _ => alike_obcSetHeater h _
  have hwrite (g : Hal → Hal) := h.write (fun m => { m with hal := g m.hal }) fun _ _ => rfl
  refine Alike.ite Iff.rfl (fun _ => ?_) fun _ => ?_
  · exact Alike.ite Iff.rfl (fun _ => h.unchanged _) fun _ =>
      ⟨rfl, hwrite fun hal => halInjectTemperature hal (pusGetI16 (tc.appDataAt 1))⟩
  refine Alike.ite Iff.rfl (fun _ => ?_) fun _ => ?_
  · exact Alike.ite Iff.rfl (fun _ => h.unchanged _) fun _ => ⟨rfl, hwrite fun hal =>
      halSetCucTime hal (pusGetU32 (tc.appDataAt 1)) (pusGetU16 (tc.appDataAt 5))⟩
  refine Alike.ite Iff.rfl (fun _ => ?_) fun _ => h.unchanged _
  exact Alike.ite Iff.rfl (fun _ => h.unchanged _) fun _ =>
    ⟨rfl, h.write obcResetCounters fun _ _ => rfl⟩

theorem alike_svc17Handle : Alike (svc17Handle s (some tc)) (svc17Handle s' (some tc)) := by
  refine Alike.ite Iff.rfl (fun _ => h.unchanged _) fun _ => ?_
  refine Alike.ite Iff.rfl (fun _ => h.unchanged _) fun _ => ?_
  rw [svc17Send_eq, svc17Send_eq]
  exact h.alike_send _

theorem alike_obcRoute : Alike (obcRoute s tc) (obcRoute s' tc) := by
  refine Alike.ite Iff.rfl (fun _ => alike_svc03Handle h tc) fun _ => ?_
  refine Alike.ite Iff.rfl (fun _ => alike_svc05Handle h tc) fun _ => ?_
  refine Alike.ite Iff.rfl (fun _ => alike_svc08Handle h tc) fun _ => ?_
  exact Alike.ite Iff.rfl (fun _ => alike_svc17Handle h tc) fun _ => h.unchanged _

theorem twin_atService : Twin (atService s tc) (atService s' tc) := by
  have hwrite := h.write (fun m => { m with
    state := { m.state with tcAccepted := saturatingSucc m.state.tcAccepted } }) fun _ _ => rfl
  exact (alike_svc01AcceptanceSuccess hwrite tc).twin

end Telecommand

theorem alike_closeTc {r r' : PusStatus × Obsw} (h : Alike r r') (tc : PusTc) :
    Alike (closeTc tc r) (closeTc tc r') := by
  obtain ⟨st, m⟩ := r
  obtain ⟨st', m'⟩ := r'
  obtain ⟨rfl, h⟩ := h
  refine Alike.ite Iff.rfl (fun _ => ⟨rfl, (alike_svc01CompletionSuccess h tc).twin⟩) fun _ =>
    ⟨rfl, ?_⟩
  have hwrite := h.write (fun m => { m with state := { m.state with lastFailureCode := st.code } })
    fun _ _ => rfl
  exact (alike_svc05Report (alike_svc01CompletionFailure hwrite tc st).twin .tcRejected
    pusSt05LowSeverity _ (by decide)).twin

/-- Any octets get the same status. -/
theorem alike_obcProcessTc {s s' : Obsw} (h : Twin s s') (octets : List UInt8) :
    Alike (obcProcessTc s (some octets) octets.length)
      (obcProcessTc s' (some octets) octets.length) := by
  rcases hparse : pusTcParse (some octets) octets.length with st | tc
  · simp only [obcProcessTc, hparse, svc01RejectRaw_eq]
    have hwrite := h.write (fun m => { m with state := { m.state with
      tcRejected := saturatingSucc m.state.tcRejected, lastFailureCode := st.code } })
      fun _ _ => rfl
    exact ⟨rfl, (alike_svc05Report (hwrite.emit (rejectionReport octets st)) .tcRejected
      pusSt05LowSeverity _ (by decide)).twin⟩
  · rw [obcProcessTc_routed hparse, obcProcessTc_routed hparse]
    exact alike_closeTc (alike_obcRoute (twin_atService h tc) tc) tc

theorem SameQueue.pop {q q' : TmQueue} (h : SameQueue q q') (octets : List UInt8) (cap n : ℕ) :
    (tmQueuePop q (some octets) cap (some n)).status =
        (tmQueuePop q' (some octets) cap (some n)).status ∧
      (tmQueuePop q (some octets) cap (some n)).buf =
        (tmQueuePop q' (some octets) cap (some n)).buf ∧
      (tmQueuePop q (some octets) cap (some n)).outLen =
        (tmQueuePop q' (some octets) cap (some n)).outLen ∧
      SameQueue (tmQueuePop q (some octets) cap (some n)).queue
        (tmQueuePop q' (some octets) cap (some n)).queue := by
  rcases hcontents : Downlink.contents q with _ | ⟨p, rest⟩
  · rw [tmQueuePop_nil hcontents, tmQueuePop_nil (h.contents.trans hcontents)]
    exact ⟨rfl, rfl, rfl, h⟩
  · obtain ⟨m, hm, hrest, hcount, hpop⟩ := tmQueuePop_cons h.valid hcontents octets cap n
    obtain ⟨m', hm', hrest', hcount', hpop'⟩ :=
      tmQueuePop_cons h.valid' (h.contents.trans hcontents) octets cap n
    have hsame : SameQueue m m' :=
      ⟨hm, hm', hrest'.trans hrest.symm, by rw [hcount', h.overflows, hcount]⟩
    rw [hpop, hpop']
    split <;> exact ⟨rfl, rfl, rfl, hsame⟩

theorem Twin.requeue {s s' : Obsw} (h : Twin s s') {q q' : TmQueue} (hq : SameQueue q q') :
    Twin (withQueue s q) (withQueue s' q') := by
  cases h with
  | mk h => exact Twin.mk (s := withQueue s q) hq

/-- Whatever the statics held before, `obc_init` leaves twins. -/
theorem twin_obcInit (s s' : Obsw) : Twin (obcInit s) (obcInit s') := by
  have hqueue : SameQueue (tmQueueInit s.queue) (tmQueueInit s'.queue) :=
    ⟨valid_tmQueueInit _, valid_tmQueueInit _, rfl, rfl⟩
  have hcleared : Twin (cleared s) (cleared s') := Twin.mk (s := cleared s) hqueue
  rw [obcInit_eq, obcInit_eq]
  exact hcleared.emit _

/-- What the environment gets back: nothing, a status, or the outcome of a pop. -/
inductive Reply where
  | nothing
  | status (st : PusStatus)
  | popped (st : PusStatus) (buf : Option (List UInt8)) (outLen : Option ℕ)
  deriving DecidableEq

def reply (u : Obc) : Stimulus → Reply
  | .telecommand octets => .status (obcProcessTc u.obsw (some octets) octets.length).1
  | .pop buf =>
    let popped := tmQueuePop u.obsw.queue (some buf) buf.length (some 0)
    .popped popped.status popped.buf popped.outLen
  | .tick => .nothing
  | .thermistor _ => .nothing

/-- Twins that have delivered the same packets. -/
structure TwinUnits (u u' : Obc) : Prop where
  obsw : Twin u.obsw u'.obsw
  delivered : u.delivered = u'.delivered

section Units
variable {u u' : Obc} (h : TwinUnits u u')
include h

theorem reply_eq (e : Stimulus) : reply u e = reply u' e := by
  cases e with
  | telecommand octets => rw [reply, reply, (alike_obcProcessTc h.obsw octets).status]
  | pop buf =>
    obtain ⟨hstatus, hbuf, hlen, -⟩ := h.obsw.same.pop buf buf.length 0
    simp only [reply, hstatus, hbuf, hlen]
  | tick | thermistor => rfl

theorem twinUnits_step (e : Stimulus) : TwinUnits (u.step e) (u'.step e) := by
  cases e with
  | tick =>
    refine ⟨?_, by rw [delivered_tick, delivered_tick, h.delivered]⟩
    rw [obsw_tick, obsw_tick]
    exact twin_obcTick h.obsw
  | telecommand octets =>
    refine ⟨?_, by rw [delivered_telecommand, delivered_telecommand, h.delivered]⟩
    rw [obsw_telecommand, obsw_telecommand]
    exact (alike_obcProcessTc h.obsw octets).twin
  | pop buf =>
    obtain ⟨hstatus, hbuf, hlen, hqueue⟩ := h.obsw.same.pop buf buf.length 0
    refine ⟨?_, by simp only [Obc.step, hstatus, hbuf, hlen, h.delivered]⟩
    rw [obsw_pop, obsw_pop]
    exact h.obsw.requeue hqueue
  | thermistor valueDc =>
    refine ⟨?_, h.delivered⟩
    rw [obsw_thermistor, obsw_thermistor]
    exact h.obsw.write (fun m => { m with hal := halInjectTemperature m.hal valueDc })
      fun _ _ => rfl

end Units

theorem twinUnits_powerOn (s s' : Obsw) : TwinUnits (powerOn s) (powerOn s') :=
  ⟨twin_obcInit s s', rfl⟩

/-- After `obc_init` no trace of the earlier state is left: from any two states of the statics
the same stimuli get the same status codes and the same packets, octet for octet. -/
theorem init_erases_history (s s' : Obsw) (stimuli : List Stimulus) :
    Run.observations Obc.step reply (powerOn s) stimuli =
        Run.observations Obc.step reply (powerOn s') stimuli ∧
      (after s stimuli).delivered = (after s' stimuli).delivered ∧
      contents (after s stimuli).obsw.queue = contents (after s' stimuli).obsw.queue ∧
      (after s stimuli).obsw.state = (after s' stimuli).obsw.state := by
  have hstep (u u' : Obc) (e : Stimulus) (h : TwinUnits u u') := twinUnits_step h e
  have hreply (u u' : Obc) (e : Stimulus) (h : TwinUnits u u') := reply_eq h e
  have hunits : TwinUnits (after s stimuli) (after s' stimuli) :=
    Run.run_congr hstep (twinUnits_powerOn s s') stimuli
  refine ⟨Run.observations_eq hstep hreply (twinUnits_powerOn s s') stimuli, hunits.delivered,
    hunits.obsw.same.contents.symm, hunits.obsw.state.symm⟩

end ObswPus.Isolation
