import ObswPus.Autonomy.Attempts
import ObswPus.Library.Past
import ObswPus.OnBoardTime.Rate
import ObswPus.Telemetry.Schedule

/-! # Time stamps

A packet carries the on-board time at which it is built. The clock advances once, at the
start of a minor cycle, and is set by one function of service 8 alone; so all packets of a
stimulus carry the time that the clock reads after it, unless it sets the clock.
-/
namespace ObswPus.OnBoardTime
open Flight Downlink Commanding Telemetry Autonomy Library

/-- What the on-board time is computed from. -/
def clockOf (h : Hal) : UInt32 × UInt32 × UInt16 := (h.ticks, h.epochCoarse, h.epochFine)

theorem halGetCucTime_congr {h h' : Hal} (hsame : clockOf h' = clockOf h) :
    halGetCucTime h' = halGetCucTime h := by
  simp only [clockOf, Prod.mk.injEq] at hsame
  simp only [halGetCucTime, hsame]

/-- On the way from `s` to `s'` the clock stands still, and all packets built carry its time. -/
structure Stamps (s s' : Obsw) : Prop where
  clock : clockOf s'.hal = clockOf s.hal
  stamped : ∃ sent, s'.history = s.history ++ sent ∧
    ∀ x ∈ sent, tmTime x.packet = halGetCucTime s.hal

namespace Stamps
variable {s m s' : Obsw}

theorem write (hclock : clockOf s'.hal = clockOf s.hal)
    (hhistory : s'.history = s.history) : Stamps s s' :=
  ⟨hclock, [], by rw [hhistory, List.append_nil], fun _ hx => nomatch hx⟩

theorem refl (s : Obsw) : Stamps s s := write rfl rfl

theorem trans (first : Stamps s m) (second : Stamps m s') : Stamps s s' := by
  obtain ⟨sent, hhistory, hsent⟩ := first.stamped
  obtain ⟨sent', hhistory', hsent'⟩ := second.stamped
  refine ⟨second.clock.trans first.clock, sent ++ sent', ?_, fun x hx => ?_⟩
  · rw [hhistory', hhistory, List.append_assoc]
  · rcases List.mem_append.mp hx with hx | hx
    · exact hsent x hx
    · exact (hsent' x hx).trans (halGetCucTime_congr first.clock)

theorem send (s : Obsw) (r : Report) : Stamps s (emit s r) := by
  refine ⟨by rw [emit], _, history_emit s r, fun x hx => ?_⟩
  rw [List.mem_singleton] at hx
  subst hx
  exact tmTime_tmPacket _ _ r

theorem ite {p : Prop} [Decidable p] (hpos : p → Stamps s m) (hneg : ¬p → Stamps s s') :
    Stamps s (if p then m else s') := by
  split
  · rename_i h
    exact hpos h
  · rename_i h
    exact hneg h

theorem checked {p : Prop} [Decidable p] {st : PusStatus} {r : PusStatus × Obsw}
    (h : Stamps s r.2) : Stamps s (if p then (st, s) else r).2 := by
  split
  · exact refl s
  · exact h

theorem event (h : Stamps s s') (id : ObcEventId) (severity : UInt8) (aux : UInt16)
    (hseverity : pusSt05Informative ≤ severity ∧ severity ≤ pusSt05HighSeverity) :
    Stamps s (svc05Report s' id.code severity aux).2 := by
  rw [svc05Report_eq s' id severity aux hseverity]
  split
  · exact h.trans (send s' _)
  · exact h

end Stamps

section Functions
variable (s : Obsw)

theorem stamps_obcApplyHeater (on : Bool) : Stamps s (obcApplyHeater s on) := by
  refine Stamps.ite (fun _ => Stamps.refl s) fun _ => ?_
  let m : Obsw := { s with hal := halSetHeater s.hal on, state := { s.state with heaterOn := on } }
  have hline : Stamps s m := Stamps.write rfl rfl
  exact hline.event .heaterSwitched pusSt05Informative _ (by decide)

theorem stamps_obcSetMode (target : ObcMode) : Stamps s (obcSetMode s target.code).2 := by
  simp only [obcSetMode, ObcMode.ofCode_code]
  split
  · exact Stamps.refl s
  let m : Obsw := { s with state := { s.state with mode := target } }
  have hmode : Stamps s m := Stamps.write rfl rfl
  have hheater : Stamps s (if target = .safe then obcApplyHeater m false else m) :=
    Stamps.ite (fun _ => hmode.trans (stamps_obcApplyHeater m false)) fun _ => hmode
  exact hheater.event .modeChanged pusSt05Informative _ (by decide)

theorem stamps_raiseAlarm : Stamps s (raiseAlarm s) := by
  refine Stamps.ite (fun _ => ?_) fun _ => Stamps.refl s
  have hlatch : Stamps s { s with alarmLatched := true } := Stamps.write rfl rfl
  exact hlatch.event .tempAlarm pusSt05HighSeverity _ (by decide)

theorem stamps_regulated : Stamps s (regulated s) := by
  refine Stamps.ite (fun _ => ?_) fun _ => stamps_obcApplyHeater s false
  refine Stamps.ite (fun _ => (stamps_raiseAlarm s).trans (stamps_obcSetMode _ .safe)) fun _ => ?_
  refine Stamps.ite (fun _ => stamps_obcApplyHeater s false) fun _ => ?_
  exact Stamps.ite (fun _ => stamps_obcApplyHeater s true) fun _ => Stamps.refl s

theorem stamps_obcThermalControl : Stamps s (obcThermalControl s) := by
  rw [obcThermalControl_eq]
  exact Stamps.ite (fun _ => (stamps_regulated s).trans (Stamps.write rfl rfl)) fun _ =>
    stamps_regulated s

theorem stamps_obcSampleOverflow : Stamps s (obcSampleOverflow s) := by
  refine Stamps.ite (fun _ => ?_) fun _ => Stamps.refl s
  have hsample : Stamps s (sampled s) := Stamps.write rfl rfl
  exact hsample.event .tmQueueOverflow pusSt05LowSeverity _ (by decide)

theorem stamps_svc03Generate (sid : UInt8) : Stamps s (svc03Generate s sid).2 := by
  by_cases hsid : svc03SidValid sid = true
  · rw [svc03Generate_eq s hsid]
    exact Stamps.send s _
  · rw [svc03Generate, if_pos (by simpa using hsid)]
    exact Stamps.refl s

theorem stamps_svc03Tick : Stamps s (svc03Tick s) := by
  have hpass (m : Obsw) (sid : UInt8) : Stamps m (svc03TickOne m sid) :=
    Stamps.ite (fun _ => stamps_svc03Generate m sid) fun _ => Stamps.refl m
  have hpasses (sids : List UInt8) (m : Obsw) : Stamps m (sids.foldl svc03TickOne m) := by
    induction sids generalizing m with
    | nil => exact Stamps.refl m
    | cons sid sids ih => exact (hpass m sid).trans (ih _)
  let m : Obsw := { s with svc03 := { s.svc03 with phase := 0 } }
  have hphase : Stamps s m := Stamps.write rfl rfl
  exact Stamps.ite (fun _ => Stamps.write rfl rfl) fun _ => hphase.trans (hpasses _ m)

/-- The rest of a minor cycle happens at the time to which its start has advanced the clock. -/
theorem stamps_obcTick : Stamps (obcAcquire s) (obcTick s) :=
  ((stamps_obcThermalControl _).trans (stamps_obcSampleOverflow _)).trans (stamps_svc03Tick _)

end Functions

/-- A handler leaves the clock alone unless its telecommand reads as a request to set it. -/
def StampsUnlessSet (s : Obsw) (r : PusStatus × Obsw) (read : Except PusStatus Request) : Prop :=
  (∀ coarse fine, read ≠ .ok (.setTime coarse fine)) → Stamps s r.2

namespace StampsUnlessSet
variable {s : Obsw} {r r' : PusStatus × Obsw} {read read' : Except PusStatus Request}

theorem of_stamps (h : Stamps s r.2) : StampsUnlessSet s r read := fun _ => h

theorem unchanged (s : Obsw) (st : PusStatus) : StampsUnlessSet s (st, s) read :=
  of_stamps (Stamps.refl s)

theorem ite {p : Prop} [Decidable p] (hpos : p → StampsUnlessSet s r read)
    (hneg : ¬p → StampsUnlessSet s r' read') :
    StampsUnlessSet s (if p then r else r') (if p then read else read') := by
  split
  · rename_i h
    exact hpos h
  · rename_i h
    exact hneg h

end StampsUnlessSet

section Handlers
variable (s : Obsw) (tc : PusTc)

theorem stamps_svc03ApplyFrom (on oneShot : Bool) (indices : List ℕ) :
    Stamps s (svc03ApplyFrom tc on oneShot s indices).2 := by
  induction indices generalizing s with
  | nil => exact Stamps.refl s
  | cons i indices ih =>
    rw [svc03ApplyFrom]
    dsimp only
    have hgenerate := stamps_svc03Generate s (pusGetU8 (tc.appDataAt (1 + i)))
    split
    · split
      · exact hgenerate
      · exact hgenerate.trans (ih _)
    · let m : Obsw := { s with svc03 := { s.svc03 with
        enabled := s.svc03.enabled.set ((pusGetU8 (tc.appDataAt (1 + i))).toNat - 1) on } }
      have hflag : Stamps s m := Stamps.write rfl rfl
      exact hflag.trans (ih m)

theorem stamps_svc03ApplyList (on oneShot : Bool) :
    Stamps s (svc03ApplyList s tc on oneShot).2 := by
  rw [svc03ApplyList_eq]
  split
  · exact Stamps.refl s
  · exact stamps_svc03ApplyFrom s tc on oneShot _

theorem stamps_svc03Handle : Stamps s (svc03Handle s (some tc)).2 := by
  unfold svc03Handle
  dsimp only
  split_ifs
  · exact stamps_svc03ApplyList s tc true false
  · exact stamps_svc03ApplyList s tc false false
  · exact stamps_svc03ApplyList s tc false true
  · exact Stamps.refl s

theorem stamps_svc05SetEnabled (on : Bool) : Stamps s (svc05SetEnabled s tc on).2 := by
  rw [svc05SetEnabled_eq]
  split
  · exact Stamps.refl s
  · exact Stamps.write rfl rfl

theorem stamps_svc05Handle : Stamps s (svc05Handle s (some tc)).2 := by
  unfold svc05Handle
  dsimp only
  split_ifs
  · exact stamps_svc05SetEnabled s tc false
  · exact stamps_svc05SetEnabled s tc true
  · exact Stamps.refl s

theorem stamps_obcSetHeater (on : Bool) : Stamps s (obcSetHeater s on).2 :=
  Stamps.checked (stamps_obcApplyHeater s _)

theorem stamps_setModeArgument (code : UInt32) : Stamps s (obcSetMode s code).2 := by
  cases hcode : ObcMode.ofCode code with
  | none =>
    rw [obcSetMode, hcode]
    exact Stamps.refl s
  | some target =>
    have hsame : code = target.code := by
      unfold ObcMode.ofCode at hcode
      split_ifs at hcode with hsafe hnominal
      · cases hcode
        exact hsafe
      · cases hcode
        exact hnominal
    rw [hsame]
    exact stamps_obcSetMode s target

theorem stamps_svc08Handle :
    StampsUnlessSet s (svc08Handle s (some tc)) (readFunction tc) := by
  refine .ite (fun _ => .unchanged s _) fun _ => ?_
  refine .ite (fun _ => .unchanged s _) fun _ => ?_
  refine .ite (fun _ => .of_stamps ?_) fun _ => ?_
  · exact Stamps.checked (Stamps.checked (stamps_setModeArgument s _))
  refine .ite (fun _ => .of_stamps ?_) fun _ => ?_
  · exact Stamps.checked (Stamps.checked (stamps_obcSetHeater s _))
  refine .ite (fun _ => .of_stamps ?_) fun _ => ?_
  · exact Stamps.checked (Stamps.write rfl rfl)
  refine .ite (fun _ => .ite (fun _ => .unchanged s _) fun _ hread => ?_) fun _ => ?_
  · exact absurd rfl (hread _ _)
  refine .ite (fun _ => .of_stamps ?_) fun _ => .unchanged s _
  exact Stamps.checked (Stamps.write rfl rfl)

theorem stamps_svc17Handle : Stamps s (svc17Handle s (some tc)).2 := by
  refine Stamps.checked (Stamps.checked ?_)
  rw [svc17Send_eq]
  exact Stamps.send s _

theorem stamps_obcRoute : StampsUnlessSet s (obcRoute s tc) (readRequest tc) := by
  refine .ite (fun _ => .of_stamps (stamps_svc03Handle s tc)) fun _ => ?_
  refine .ite (fun _ => .of_stamps (stamps_svc05Handle s tc)) fun _ => ?_
  refine .ite (fun _ => stamps_svc08Handle s tc) fun _ => ?_
  exact .ite (fun _ => .of_stamps (stamps_svc17Handle s tc)) fun _ => .unchanged s _

end Handlers

section Verification
variable (s : Obsw) (tc : PusTc)

theorem stamps_svc01AcceptanceSuccess : Stamps s (svc01AcceptanceSuccess s (some tc)).2 := by
  refine Stamps.checked ?_
  rw [svc01SendSuccess_eq]
  exact Stamps.send s _

theorem stamps_svc01CompletionSuccess : Stamps s (svc01CompletionSuccess s (some tc)).2 := by
  refine Stamps.checked ?_
  rw [svc01SendSuccess_eq]
  exact Stamps.send s _

theorem stamps_svc01CompletionFailure (st : PusStatus) :
    Stamps s (svc01CompletionFailure s (some tc) st).2 := by
  refine Stamps.checked ?_
  rw [svc01SendFailure_eq]
  exact Stamps.send s _

theorem stamps_atService : Stamps s (atService s tc) := by
  let m : Obsw :=
    { s with state := { s.state with tcAccepted := saturatingSucc s.state.tcAccepted } }
  have hcount : Stamps s m := Stamps.write rfl rfl
  exact hcount.trans (stamps_svc01AcceptanceSuccess m tc)

theorem stamps_closeTc (routed : PusStatus × Obsw) :
    Stamps routed.2 (closeTc tc routed).2 := by
  unfold closeTc
  split
  · exact stamps_svc01CompletionSuccess routed.2 tc
  · let m : Obsw :=
      { routed.2 with state := { routed.2.state with lastFailureCode := routed.1.code } }
    have hcode : Stamps routed.2 m := Stamps.write rfl rfl
    exact (hcode.trans (stamps_svc01CompletionFailure m tc routed.1)).event .tcRejected
      pusSt05LowSeverity _ (by decide)

end Verification

/-- The time to which a stimulus sets the clock, if it does. -/
def clockSet : Stimulus → Option (UInt32 × UInt16)
  | .telecommand octets =>
    match requested octets with
    | some (.setTime coarse fine) => some (coarse, fine)
    | _ => none
  | _ => none

theorem clockSet_eq_none {octets : List UInt8}
    (h : ∀ coarse fine, requested octets ≠ some (.setTime coarse fine)) :
    clockSet (.telecommand octets) = none := by
  simp only [clockSet]

theorem stamps_obcProcessTc (s : Obsw) {octets : List UInt8}
    (h : clockSet (.telecommand octets) = none) :
    Stamps s (obcProcessTc s (some octets) octets.length).2 := by
  rcases hparse : pusTcParse (some octets) octets.length with st | tc
  · let m : Obsw := { s with state := { s.state with
      tcRejected := saturatingSucc s.state.tcRejected, lastFailureCode := st.code } }
    have hcount : Stamps s m := Stamps.write rfl rfl
    simp only [obcProcessTc, hparse, svc01RejectRaw_eq]
    exact (hcount.trans (Stamps.send m _)).event .tcRejected pusSt05LowSeverity _ (by decide)
  · rw [obcProcessTc_routed hparse]
    refine ((stamps_atService s tc).trans (stamps_obcRoute _ tc fun coarse fine hread => ?_)).trans
      (stamps_closeTc tc _)
    simp only [clockSet, requested, hparse, hread, Except.toOption] at h
    cases h

/-- The time stamp of a packet in units of 1/65536 s. -/
def stampOf (x : Sent) : ℕ := cucValue (tmTime x.packet)

/-- All packets of a stimulus that does not set the clock carry the time after it. -/
theorem stamps_step (u : Obc) {e : Stimulus} (h : clockSet e = none) :
    ∃ sent, (u.step e).obsw.history = u.obsw.history ++ sent ∧
      ∀ x ∈ sent, stampOf x = reportedTime (u.step e).obsw.hal := by
  have hstamps (s s' : Obsw) (hs : Stamps s s') : ∃ sent, s'.history = s.history ++ sent ∧
      ∀ x ∈ sent, stampOf x = reportedTime s'.hal := by
    obtain ⟨sent, hhistory, hsent⟩ := hs.stamped
    refine ⟨sent, hhistory, fun x hx => ?_⟩
    rw [stampOf, hsent x hx, reportedTime, halGetCucTime_congr hs.clock]
  cases e with
  | tick =>
    rw [obsw_tick]
    have htick := hstamps _ _ (stamps_obcTick u.obsw)
    exact htick
  | telecommand octets =>
    rw [obsw_telecommand]
    exact hstamps _ _ (stamps_obcProcessTc u.obsw h)
  | pop buf =>
    rw [obsw_pop]
    exact hstamps _ _ (Stamps.write rfl rfl)
  | thermistor valueDc =>
    rw [obsw_thermistor]
    exact hstamps _ _ (Stamps.write rfl rfl)

theorem clockOf_step (u : Obc) {e : Stimulus} (h : clockSet e = none) :
    clockOf (u.step e).obsw.hal =
      if e = .tick then clockOf (halTimeAdvance u.obsw.hal) else clockOf u.obsw.hal := by
  cases e with
  | tick =>
    rw [obsw_tick, if_pos rfl]
    exact (stamps_obcTick u.obsw).clock
  | telecommand octets =>
    rw [obsw_telecommand, if_neg (by simp)]
    exact (stamps_obcProcessTc u.obsw h).clock
  | pop buf =>
    rw [obsw_pop, if_neg (by simp)]
  | thermistor valueDc =>
    rw [obsw_thermistor, if_neg (by simp)]
    rfl

theorem clockOf_after (s : Obsw) {stimuli : List Stimulus}
    (h : ∀ e ∈ stimuli, clockSet e = none) :
    clockOf (after s stimuli).obsw.hal = (UInt32.ofNat (minorCycles stimuli), 0, 0) := by
  induction stimuli using List.reverseRecOn with
  | nil =>
    rw [after, Run.run_nil, powerOn, obcInit_eq]
    simp only [emit, cleared]
    rfl
  | append_singleton stimuli e ih =>
    have hbefore := ih fun e' he' => h e' (List.mem_append_left _ he')
    simp only [clockOf, Prod.mk.injEq] at hbefore
    rw [after, Run.run_concat, clockOf_step _ (h e (by simp)), minorCycles, List.count_append,
      List.count_singleton]
    change (if e = .tick then clockOf (halTimeAdvance (after s stimuli).obsw.hal)
      else clockOf (after s stimuli).obsw.hal) = _
    simp only [clockOf, halTimeAdvance, hbefore, beq_iff_eq]
    split
    · rw [UInt32.ofNat_add]
      rfl
    · rfl

/-- In the first 42949672 minor cycles a clock that nobody has set reads the exact time. -/
theorem reportedTime_after (s : Obsw) {stimuli : List Stimulus}
    (h : ∀ e ∈ stimuli, clockSet e = none) (hcycles : 100 * minorCycles stimuli < 2 ^ 32) :
    reportedTime (after s stimuli).obsw.hal = exactTime (minorCycles stimuli) := by
  have hclock := clockOf_after s h
  simp only [clockOf, Prod.mk.injEq] at hclock
  obtain ⟨hticks, hcoarse, hfine⟩ := hclock
  have hcount : (after s stimuli).obsw.hal.ticks.toNat = minorCycles stimuli := by
    rw [hticks, UInt32.toNat_ofNat_of_lt' (by simp only [UInt32.size]; omega)]
  have hepoch : epoch (after s stimuli).obsw.hal = 0 := by
    rw [epoch, hcoarse, hfine]
    rfl
  rw [reportedTime_eq, hepoch, elapsedMs_eq (by omega), hcount, exactTime_eq, Nat.zero_add]
  omega

theorem exactTime_mono {t t' : ℕ} (h : t ≤ t') : exactTime t ≤ exactTime t' :=
  Nat.div_le_div_right (Nat.mul_le_mul_right _ h)

theorem minorCycles_append (first rest : List Stimulus) :
    minorCycles (first ++ rest) = minorCycles first + minorCycles rest :=
  List.count_append

theorem sent_stamped (s : Obsw) {first : List Stimulus} {e : Stimulus}
    (hset : ∀ e' ∈ first ++ [e], clockSet e' = none)
    (hcycles : 100 * minorCycles (first ++ [e]) < 2 ^ 32) :
    ∃ sent, (after s (first ++ [e])).obsw.history = (after s first).obsw.history ++ sent ∧
      ∀ x ∈ sent, stampOf x = exactTime (minorCycles (first ++ [e])) := by
  have hstep := stamps_step (after s first) (hset e (by simp))
  have hlast : (after s first).step e = after s (first ++ [e]) := by
    rw [after, after, Run.run_concat]
  rwa [hlast, reportedTime_after s hset hcycles] at hstep

theorem stamp_boot (s : Obsw) : (after s []).obsw.history.map stampOf = [0] := by
  rw [after, Run.run_nil, powerOn, obcInit_eq, history_emit]
  simp only [cleared, List.nil_append, List.map_cons, List.map_nil, List.cons.injEq, and_true,
    stampOf, tmTime_tmPacket]
  decide +kernel

/-- The stamps of a run are in order, each the exact time of a minor cycle that has passed. -/
theorem stamps_ordered (s : Obsw) {stimuli : List Stimulus}
    (hset : ∀ e ∈ stimuli, clockSet e = none) (hcycles : 100 * minorCycles stimuli < 2 ^ 32) :
    ((after s stimuli).obsw.history.map stampOf).Pairwise (· ≤ ·) ∧
      ∀ x ∈ (after s stimuli).obsw.history, ∃ t ≤ minorCycles stimuli,
        stampOf x = exactTime t := by
  induction stimuli using List.reverseRecOn with
  | nil =>
    refine ⟨by rw [stamp_boot]; exact List.pairwise_singleton _ _, fun x hx => ⟨0, le_rfl, ?_⟩⟩
    have hmem := List.mem_map_of_mem (f := stampOf) hx
    rwa [stamp_boot, List.mem_singleton] at hmem
  | append_singleton stimuli e ih =>
    have hgrown := minorCycles_append stimuli [e]
    obtain ⟨hpairwise, hexact⟩ := ih (fun e' he' => hset e' (List.mem_append_left _ he')) (by omega)
    obtain ⟨sent, hhistory, hsent⟩ := sent_stamped s hset hcycles
    rw [hhistory, List.map_append, List.pairwise_append]
    refine ⟨⟨hpairwise, ?_, ?_⟩, fun x hx => ?_⟩
    · refine List.pairwise_of_forall_mem_list fun a ha b hb => ?_
      obtain ⟨x, hx, rfl⟩ := List.mem_map.mp ha
      obtain ⟨y, hy, rfl⟩ := List.mem_map.mp hb
      rw [hsent x hx, hsent y hy]
    · intro a ha b hb
      obtain ⟨x, hx, rfl⟩ := List.mem_map.mp ha
      obtain ⟨y, hy, rfl⟩ := List.mem_map.mp hb
      obtain ⟨t, ht, hstamp⟩ := hexact x hx
      rw [hstamp, hsent y hy]
      exact exactTime_mono (by omega)
    · rcases List.mem_append.mp hx with hx | hx
      · obtain ⟨t, ht, hstamp⟩ := hexact x hx
        exact ⟨t, by omega, hstamp⟩
      · exact ⟨_, le_rfl, hsent x hx⟩

/-- As long as nobody sets the clock, and for 42949672 minor cycles, each packet carries the exact
time of the minor cycle in which it is built, the boot report the time zero; and no packet carries
an earlier time than one built before it. -/
theorem time_stamps (s : Obsw) (stimuli : List Stimulus) (hset : ∀ e ∈ stimuli, clockSet e = none)
    (hcycles : 100 * minorCycles stimuli < 2 ^ 32) :
    (after s []).obsw.history.map stampOf = [0] ∧
    (∀ first e rest, stimuli = first ++ e :: rest →
      ∃ sent, (after s (first ++ [e])).obsw.history = (after s first).obsw.history ++ sent ∧
        ∀ x ∈ sent, stampOf x = exactTime (minorCycles (first ++ [e]))) ∧
    ((after s stimuli).obsw.history.map stampOf).Pairwise (· ≤ ·) := by
  refine ⟨stamp_boot s, ?_, (stamps_ordered s hset hcycles).1⟩
  rintro first e rest rfl
  have hsplit : first ++ e :: rest = (first ++ [e]) ++ rest := by simp
  rw [hsplit] at hset hcycles
  have hgrown := minorCycles_append (first ++ [e]) rest
  exact sent_stamped s (fun e' he' => hset e' (List.mem_append_left _ he')) (by omega)

/-- A mode change before the first minor cycle, and what that reports. -/
theorem time_stamps_nominal :
    (∃ sent, (after default [.telecommand nominalTelecommand, .thermistor 20, .tick]).obsw.history =
        (after default [.telecommand nominalTelecommand, .thermistor 20]).obsw.history ++ sent ∧
        ∀ x ∈ sent, stampOf x = 6553) ∧
      ((after default [.telecommand nominalTelecommand, .thermistor 20, .tick]).obsw.history.map
        stampOf).Pairwise (· ≤ ·) := by
  obtain ⟨-, hsent, hordered⟩ := time_stamps default
    [.telecommand nominalTelecommand, .thermistor 20, .tick] (by decide +kernel) (by decide)
  exact ⟨hsent [.telecommand nominalTelecommand, .thermistor 20] .tick [] rfl, hordered⟩

end ObswPus.OnBoardTime
