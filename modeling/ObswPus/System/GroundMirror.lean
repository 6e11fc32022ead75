import ObswPus.System.ClosedLoop
import ObswPus.Telemetry.EventFlags

/-! # Mode and heater on the ground

From the event reports that it receives, ground can keep mode and heater state. As long as it
does not itself switch events 2 and 5 off, no report repeats what ground already has, and
once everything has been read ground has what the unit has.
-/
namespace ObswPus.System
open Flight Downlink Commanding Telemetry Autonomy Ground Uplink Runner Library Codec

abbrev evtModeChanged : ℕ := 2
abbrev evtHeaterSwitched : ℕ := 5

/-- Mode and heater state as the auxiliary words of the reports give them. -/
structure GroundMirror where
  mode : ℕ
  heaterOn : ℕ
  deriving DecidableEq

/-- An event report is taken over; one of the value that ground already has is refused. -/
def GroundMirror.hear (m : GroundMirror) (p : TmPacket) : Option GroundMirror :=
  if p.service = svcEvent then
    if p.eventId = evtModeChanged then
      if p.eventAux = m.mode then none else some { m with mode := p.eventAux }
    else if p.eventId = evtHeaterSwitched then
      if p.eventAux = m.heaterOn then none else some { m with heaterOn := p.eventAux }
    else some m
  else some m

/-- What ground has after these packets: it starts with SAFE mode and the heater off. -/
def groundMirrored (packets : List TmPacket) : Option GroundMirror :=
  packets.foldlM GroundMirror.hear { mode := 0, heaterOn := 0 }

def groundMirrorOf (s : Obsw) : GroundMirror :=
  { mode := s.state.mode.code.toNat, heaterOn := s.state.heaterOn.toNat }

def decodedMirror (m : Mirror) : GroundMirror :=
  { mode := m.mode.toNat, heaterOn := m.heater.toNat }

theorem decodedMirror_mirrorOf (s : Obsw) : decodedMirror (mirrorOf s) = groundMirrorOf s := by
  have hmode (mode : ObcMode) : mode.code.toUInt16.toNat = mode.code.toNat := by
    cases mode <;> rfl
  have hheater (on : Bool) : on.toUInt16.toNat = on.toNat := by
    cases on <;> rfl
  rw [decodedMirror, mirrorOf, groundMirrorOf, hmode, hheater]

theorem event_groundView {p : List UInt8} (h : Documented (groundView p))
    (hservice : (groundView p).service = 5) :
    (groundView p).eventId = (pusGetU16 (tmData p)).toNat ∧
      (groundView p).eventAux = (pusGetU16 ((tmData p).drop 2)).toNat := by
  have hlen : (tmData p).length = 4 := by
    unfold Documented at h
    rw [hservice] at h
    exact h.1
  have hdrop : slice (tmData p) 2 4 = ((tmData p).drop 2).take 2 := by
    rw [slice, List.drop_take]
  refine ⟨?_, ?_⟩
  · rw [TmPacket.eventId, ← fromBytes_pusPutU16, pusPutU16_pusGetU16 _ (by omega)]
    rfl
  · have htail : 2 ≤ ((tmData p).drop 2).length := by
      rw [List.length_drop]
      omega
    rw [TmPacket.eventAux, ← fromBytes_pusPutU16, pusPutU16_pusGetU16 _ htail, ← hdrop]
    rfl

/-- An event report is taken as its event is. -/
theorem hear_event {p : TmPacket} {ev : Event} (hservice : p.service = svcEvent)
    (hid : p.eventId = ev.id.toNat) (haux : p.eventAux = ev.aux.toNat) (m : Mirror) :
    (decodedMirror m).hear p = (m.hear ev).map decodedMirror := by
  have hmode : p.eventId = evtModeChanged ↔ ev.id = ObcEventId.modeChanged.code := by
    rw [hid]
    exact UInt16.toNat_inj (b := ObcEventId.modeChanged.code)
  have hheater : p.eventId = evtHeaterSwitched ↔ ev.id = ObcEventId.heaterSwitched.code := by
    rw [hid]
    exact UInt16.toNat_inj (b := ObcEventId.heaterSwitched.code)
  simp only [GroundMirror.hear, Mirror.hear, hservice, hmode, hheater, haux, decodedMirror,
    UInt16.toNat_inj, if_true]
  split_ifs <;> rfl

theorem hear_groundView {p : List UInt8} (h : Documented (groundView p)) (m : Mirror) :
    (decodedMirror m).hear (groundView p) =
      ((eventOf (tmContent p)).elim (some m) m.hear).map decodedMirror := by
  have hservice : (groundView p).service = svcEvent ↔ (tmContent p).1 = pusServiceEvent :=
    UInt8.toNat_inj (b := pusServiceEvent)
  by_cases hevent : (groundView p).service = svcEvent
  · obtain ⟨hid, haux⟩ := event_groundView h hevent
    rw [eventOf, if_pos (hservice.mp hevent)]
    exact hear_event hevent hid haux m
  · rw [GroundMirror.hear, if_neg hevent, eventOf, if_neg (mt hservice.mpr hevent)]
    rfl

theorem hear_groundPackets {history : List Sent} (h : Built history) (m : Mirror) :
    (groundPackets history).foldlM GroundMirror.hear (decodedMirror m) =
      ((eventsOf history).foldlM Mirror.hear m).map decodedMirror := by
  induction history generalizing m with
  | nil => rfl
  | cons x history ih =>
    have hrest : Built history := fun x' hx' => h x' (List.mem_cons_of_mem x hx')
    have hfirst := hear_groundView (decodes_groundPackets h List.mem_cons_self).2 m
    rw [groundPackets, List.map_cons, List.foldlM_cons, hfirst, eventsOf, List.filterMap_cons]
    cases hevent : eventOf (tmContent x.packet) with
    | none => exact ih hrest m
    | some ev =>
      rw [List.foldlM_cons, Option.elim_some]
      cases m.hear ev with
      | none => rfl
      | some m' => exact ih hrest m'

/-- The command does not switch event 2 or event 5 off. -/
def LeavesOn (c : Command) : Prop :=
  ∀ ids, c = .switchEvents ids false → evtModeChanged ∉ ids ∧ evtHeaterSwitched ∉ ids

/-- The stimulus does not switch this event off. -/
def Keeps (i : Fin obcEventMaxIds) (e : Stimulus) : Prop := eventSwitch i e ≠ some false

theorem keeps_occasion (i : Fin obcEventMaxIds) {t : Option Telecommand}
    (h : ∀ sent ∈ t, ∀ ids, sent.command = .switchEvents ids false → i.val + 1 ∉ ids) :
    Keeps i (occasion (t.map Telecommand.octets)) := by
  rcases t with _ | t
  · exact fun hswitch => nomatch hswitch
  intro hswitch
  change requestSwitch i (requested t.octets) = some false at hswitch
  rw [t.requested_octets] at hswitch
  cases hcommand : t.command with
  | switchEvents ids on =>
    rw [hcommand, Command.asks, Command.asksList] at hswitch
    split_ifs at hswitch with hnone hlisted
    · cases hswitch
    · cases hswitch
    · simp only [Except.toOption, requestSwitch] at hswitch
      split at hswitch
      · rename_i hmem
        obtain ⟨id', hid', hval⟩ := List.mem_map.mp hmem
        obtain ⟨id, hid, rfl⟩ := List.mem_map.mp hid'
        have hmax : eventFormat.maxId = 8 := rfl
        have hrange : id ≤ eventFormat.maxId := by
          by_contra hbig
          exact hlisted ⟨id, hid, fun hin => hbig hin.2⟩
        rw [UInt16.toNat_ofNat_of_lt' (by simp only [UInt16.size]; omega)] at hval
        cases hswitch
        exact h t rfl ids hcommand (hval ▸ hid)
      · cases hswitch
  | switchHk sids on | oneShotHk sids =>
    rw [hcommand, Command.asks, Command.asksList] at hswitch
    split_ifs at hswitch <;> cases hswitch
  | setMode mode =>
    rw [hcommand, Command.asks] at hswitch
    split_ifs at hswitch <;> cases hswitch
  | setHeater | injectTemperature | setTime | resetCounters | areYouAlive =>
    rw [hcommand] at hswitch
    cases hswitch

/-- The places of events 2 and 5. -/
abbrev modeFlag : Fin obcEventMaxIds := ⟨1, by decide⟩
abbrev heaterFlag : Fin obcEventMaxIds := ⟨4, by decide⟩

theorem mirrorHeard_iff (u : Obc) : MirrorHeard u ↔
    u.obsw.svc05.enabled modeFlag = true ∧ u.obsw.svc05.enabled heaterFlag = true := Iff.rfl

theorem mirrorHeard_step {u : Obc} {e : Stimulus} (hmode : Keeps modeFlag e)
    (hheater : Keeps heaterFlag e) (h : MirrorHeard u) : MirrorHeard (u.step e) := by
  have hflag (i : Fin obcEventMaxIds) (hkeeps : Keeps i e) (hon : u.obsw.svc05.enabled i = true) :
      (u.step e).obsw.svc05.enabled i = true := by
    rw [eventFlag_step, hon]
    unfold Keeps at hkeeps
    rcases hswitch : eventSwitch i e with _ | _ | _
    · rfl
    · exact absurd hswitch hkeeps
    · rfl
  rw [mirrorHeard_iff] at h ⊢
  exact ⟨hflag _ hmode h.1, hflag _ hheater h.2⟩

/-- Both events are on, and those built so far give mode and heater state. -/
structure Mirrors (u : Obc) : Prop where
  heard : MirrorHeard u
  exact : mirrored (eventsOf u.obsw.history) = some (mirrorOf u.obsw)

theorem mirrors_powerOn (s : Obsw) : Mirrors (powerOn s) := by
  have hinit : (powerOn s).obsw =
      emit (cleared s) (eventReport .bootCompleted pusSt05Informative 0) := obcInit_eq s
  have hboot : eventsOf (powerOn s).obsw.history = [⟨pusSt05Informative, 1, 0⟩] := by
    rw [eventsOf, hinit, history_emit]
    simp only [cleared, List.nil_append, List.filterMap_cons, tmContent_tmPacket,
      eventOf_eventReport, List.filterMap_nil]
    rfl
  refine ⟨?_, ?_⟩
  · rw [mirrorHeard_iff, hinit]
    exact ⟨rfl, rfl⟩
  · rw [hboot, mirrorOf_eq, regulator_powerOn]
    rfl

theorem mirrors_step {u : Obc} {e : Stimulus} (h : Mirrors u)
    (hkeeps : Keeps modeFlag e ∧ Keeps heaterFlag e) : Mirrors (u.step e) := by
  refine ⟨mirrorHeard_step hkeeps.1 hkeeps.2 h.heard, ?_⟩
  have hexact := h.exact
  unfold mirrored at hexact ⊢
  rw [eventsOf_step, List.foldlM_append, hexact]
  exact hear_newEvents h.heard e

theorem mirrors_after (s : Obsw) {stimuli : List Stimulus}
    (h : ∀ e ∈ stimuli, Keeps modeFlag e ∧ Keeps heaterFlag e) : Mirrors (after s stimuli) :=
  Run.run_invariant_of_allSteps (fun _ _ hu hkeeps => mirrors_step hu hkeeps) (mirrors_powerOn s)
    (Run.allSteps_of_forall h _)

/-- The packets of such a run, as ground decodes them, give what the unit has. -/
theorem groundMirrored_groundPackets {u : Obc} (h : Mirrors u) (hbuilt : Built u.obsw.history) :
    groundMirrored (groundPackets u.obsw.history) = some (groundMirrorOf u.obsw) := by
  have hexact := h.exact
  unfold mirrored at hexact
  have hstart : decodedMirror ⟨ObcMode.safe.code.toUInt16, false.toUInt16⟩ = ⟨0, 0⟩ := rfl
  rw [groundMirrored, ← hstart, hear_groundPackets hbuilt, hexact, Option.map_some,
    decodedMirror_mirrorOf]

theorem groundMirrored_prefix {packets packets' : List TmPacket} {m : GroundMirror}
    (h : groundMirrored packets = some m) (hfront : packets' <+: packets) :
    ∃ m', groundMirrored packets' = some m' := by
  obtain ⟨rest, rfl⟩ := hfront
  rw [groundMirrored, List.foldlM_append] at h
  cases hfirst : groundMirrored packets' with
  | none =>
    rw [groundMirrored] at hfirst
    rw [hfirst] at h
    cases h
  | some m' => exact ⟨m', rfl⟩

/-- Commands that leave events 2 and 5 on: whatever the calls on the ground link, no report
received repeats the mode or the heater state that ground already has, and once everything has
been read ground has both as the unit has them. -/
theorem ground_follows (s : Obsw) {client : Client} {sent : List Telecommand}
    (huplink : Uplinks client sent) (hon : ∀ t ∈ sent, LeavesOn t.command) {sock : List Arrival}
    (hsock : Arrives (groundPackets (Runner.serveClient s client).obsw.history) sock)
    (calls : List LinkCall) :
    ∃ m, groundMirrored (afterCalls (connected sock) calls).received = some m ∧
      (events (afterCalls (connected sock) calls).sock = [] →
        m = groundMirrorOf (Runner.serveClient s client).obsw) := by
  obtain ⟨stimuli, hreached, hrequested⟩ := huplink.served s
  have hkeeps : ∀ e ∈ stimuli, Keeps modeFlag e ∧ Keeps heaterFlag e := by
    refine forall_of_passedOn (fun _ => ⟨(nomatch ·), (nomatch ·)⟩) fun e he => ?_
    rw [hrequested] at he
    obtain ⟨t, ht, rfl⟩ := List.mem_map.mp he
    refine ⟨keeps_occasion _ fun t' ht' ids hids => ?_, keeps_occasion _ fun t' ht' ids hids => ?_⟩
    · exact (hon t' (mem_of_some_mem_schedule (Option.mem_def.mp ht' ▸ ht)) ids hids).1
    · exact (hon t' (mem_of_some_mem_schedule (Option.mem_def.mp ht' ▸ ht)) ids hids).2
  have hmirrors := mirrors_after s hkeeps
  have hall := groundMirrored_groundPackets hmirrors (built_after s stimuli)
  obtain ⟨hfront, hend⟩ := huplink.received s hsock calls
  rw [← hreached] at hall
  obtain ⟨m, hm⟩ := groundMirrored_prefix hall hfront
  refine ⟨m, hm, fun hread => ?_⟩
  rw [hend hread, hall] at hm
  exact (Option.some.inj hm).symm

theorem ground_follows_nominal :
    groundMirrored (afterCalls (connected orderedSock) [.drain 4]).received =
      some { mode := 1, heaterOn := 0 } := by
  have hon : ∀ t ∈ [orderNominal], LeavesOn t.command := by
    intro t ht ids hcommand
    rw [List.mem_singleton.mp ht] at hcommand
    cases hcommand
  obtain ⟨m, hm, hend⟩ := ground_follows default uplinks_orderingClient hon (arrives_singly _)
    [.drain 4]
  exact hm.trans (congrArg some ((hend (by decide +kernel)).trans (by decide +kernel)))

end ObswPus.System
