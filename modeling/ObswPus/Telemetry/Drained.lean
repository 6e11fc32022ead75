import ObswPus.Commanding.Verification
import ObswPus.Telemetry.Conservation
import ObswPus.Commanding.Effect
import ObswPus.Library.Past

/-! # Operation with a drained queue

How many packets a minor cycle and a telecommand can send, and that the sixteen slots
are enough as long as each of them finds the queue empty.
-/
namespace ObswPus.Telemetry
open Flight Downlink Commanding Codec Library

theorem length_overflowReports_le (s : Obsw) : (overflowReports s).length ≤ 1 := by
  unfold overflowReports
  split
  · exact length_eventReports_le _ _ _ _
  · exact Nat.zero_le _

theorem length_periodicReports_le (s : Obsw) (sids : List UInt8) :
    (periodicReports s sids).length ≤ sids.length := by
  induction sids generalizing s with
  | nil => exact Nat.le_refl _
  | cons sid sids ih =>
    rw [periodicReports, List.length_cons]
    split
    · exact Nat.succ_le_succ (ih _)
    · exact (ih s).trans (Nat.le_succ _)

theorem length_hkTickReports_le (s : Obsw) : (hkTickReports s).length ≤ 2 := by
  unfold hkTickReports
  split
  · exact Nat.zero_le _
  · exact length_periodicReports_le _ hkSids

theorem length_closingReports_le (flags : Svc05) (tc : PusTc) (st : PusStatus) :
    (closingReports flags tc st).length ≤ if st = .ok then 1 else 2 := by
  have hcompletion : (completionReports tc st).length ≤ 1 := by
    unfold completionReports
    split <;> simp
  have hevent : (failureEvents flags st).length ≤ 1 := length_eventReports_le _ _ _ _
  rw [closingReports, List.length_append]
  split
  · exact hcompletion
  · exact Nat.add_le_add hcompletion hevent

/-- A request that sends two packets of its own succeeds, so that no event follows them. -/
theorem length_outcome_closing_le (s : Obsw) (read : Except PusStatus Request)
    (h : ∀ sids, read ≠ .ok (.oneShotHk sids)) :
    (outcome s read).reports.length + (if (outcome s read).status = .ok then 1 else 2) ≤ 3 := by
  have hle := length_outcome_le s read h
  have hclosing (st : PusStatus) : (if st = .ok then 1 else 2) ≤ 2 := by split <;> decide
  rcases read with st | request
  · exact Nat.add_le_add (Nat.zero_le 1) (hclosing st)
  cases request with
  | oneShotHk sids => exact absurd rfl (h sids)
  | setMode target => exact Nat.add_le_add_right hle 1
  | setHeater on =>
    have hheater := length_heaterReports_le (control s) on
    simp only [outcome, Request.outcome]
    split
    · exact Nat.add_le_add (Nat.zero_le 1) (hclosing _)
    · exact Nat.add_le_add_right (hheater.trans (by decide)) 1
  | switchHk | switchEvents | injectTemperature | setTime | resetCounters =>
    simp [outcome, Request.outcome]
  | areYouAlive => exact Nat.add_le_add (Nat.le_refl 1) (hclosing _)

def routedReports (s : Obsw) (tc : PusTc) : List Report :=
  acceptanceReports tc ++ (serviceOutcome s tc).reports ++
    closingReports (control s).svc05 tc (serviceOutcome s tc).status

theorem length_routedReports_le (s : Obsw) (tc : PusTc)
    (h : ¬∃ sids, readRequest tc = .ok (.oneShotHk sids)) : (routedReports s tc).length ≤ 4 := by
  have hacceptance := length_acceptanceReports_le tc
  have hservice := length_outcome_closing_le (atService s tc) (readRequest tc)
    fun sids hread => h ⟨sids, hread⟩
  have hclosing := length_closingReports_le (control s).svc05 tc (serviceOutcome s tc).status
  rw [← serviceOutcome] at hservice
  rw [routedReports, List.length_append, List.length_append]
  omega

theorem length_routedReports_oneShot_le {s : Obsw} (hq : Valid s.queue) {tc : PusTc}
    {sids : List UInt8} (hread : readRequest tc = .ok (.oneShotHk sids))
    (hempty : tmQueueCount s.queue = 0) (hfew : sids.length ≤ 14) :
    (routedReports s tc).length ≤ sids.length + 2 := by
  have hacceptance := length_acceptanceReports_le tc
  have hfree := freeSlots_atService hq tc
  have hdepth : pusTmQueueDepth = 16 := rfl
  have hroom : sids.length ≤ freeSlots (atService s tc) := by omega
  have hservice : serviceOutcome s tc =
      ⟨.ok, control (atService s tc), oneShotReports (atService s tc) sids⟩ := by
    rw [serviceOutcome, hread, outcome, Request.outcome, if_pos hroom]
  have hclosing := length_closingReports_le (control s).svc05 tc (serviceOutcome s tc).status
  have hreports := length_oneShotReports (atService s tc) sids
  rw [hservice, if_pos rfl] at hclosing
  rw [routedReports, List.length_append, List.length_append, hservice, hreports]
  omega

section MinorCycle
variable {s : Obsw} (hq : Valid s.queue)
include hq

/-- Thermal control sends three packets at most, and so does the rest of a minor cycle. -/
theorem count_obcTick_le : tmQueueCount (obcTick s).queue ≤ tmQueueCount s.queue + 6 := by
  have hthermal := (evolves_atSample s).emits.count hq
  have hsample := (evolves_atSample s).emits.valid hq
  rw [← sampled_queue] at hsample hthermal
  have hrest := (evolves_fromSample s).emits.count hsample
  have hcontrol := length_thermalReports_le (acquire (control s))
  have hoverflow := length_overflowReports_le (atSample s)
  have hhk := length_hkTickReports_le (obcSampleOverflow (atSample s))
  rw [List.length_append] at hrest
  simp only [tmQueueCount]
  omega

theorem overflows_obcTick (hroom : tmQueueCount s.queue + 6 ≤ pusTmQueueDepth) :
    tmQueueOverflowCount (obcTick s).queue = tmQueueOverflowCount s.queue := by
  have hcontrol := length_thermalReports_le (acquire (control s))
  have hoverflow := length_overflowReports_le (atSample s)
  have hhk := length_hkTickReports_le (obcSampleOverflow (atSample s))
  have hcount := (evolves_atSample s).emits.count hq
  have hsample := (evolves_atSample s).emits.valid hq
  rw [tmQueueCount] at hroom
  have hthermal := (evolves_atSample s).emits.overflows_room hq (by omega)
  rw [← sampled_queue] at hsample hthermal hcount
  have hrest := (evolves_fromSample s).emits.overflows_room hsample
    (by rw [List.length_append]; omega)
  exact hrest.trans hthermal

end MinorCycle

section Routed
variable {s : Obsw} (hq : Valid s.queue) (octets : List UInt8)
include hq

/-- The reports of any telecommand, and their number. -/
theorem emits_obcProcessTc_le : ∃ rs, Emits s (obcProcessTc s (some octets) octets.length).2 rs ∧
    (rs.length ≤ 4 ∨ ∃ tc, pusTcParse (some octets) octets.length = .ok tc ∧
      (tc.serviceType = pusServiceHousekeeping ∧ tc.serviceSubtype = pusSt03OneShot ∧
        ValidSidList tc) ∧
      (tmQueueCount s.queue = 0 → listCount tc ≤ 14 → rs.length ≤ listCount tc + 2)) := by
  rcases hparse : pusTcParse (some octets) octets.length with st | tc
  · refine ⟨_, (evolves_obcProcessTc_rejected hparse).emits, .inl ?_⟩
    have hevent : (failureEvents (control s).svc05 st).length ≤ 1 := length_eventReports_le _ _ _ _
    rw [List.length_cons]
    omega
  · have hemits : Emits s (obcProcessTc s (some octets) octets.length).2 (routedReports s tc) :=
      (evolves_obcProcessTc_routed hparse).emits
    refine ⟨_, hemits, ?_⟩
    by_cases hone : ∃ sids, readRequest tc = .ok (.oneShotHk sids)
    · have hrequest := (readRequest_oneShot_iff tc).mp hone
      refine .inr ⟨tc, rfl, hrequest, fun hempty hfew => ?_⟩
      have hread : readRequest tc = .ok (.oneShotHk (listedSids tc)) := by
        rw [readRequest, if_pos hrequest.1, readHousekeeping, hrequest.2.1,
          checkSids_of_valid hrequest.2.2]
        rfl
      rw [← length_listedSids] at hfew ⊢
      exact length_routedReports_oneShot_le hq hread hempty hfew
    · exact .inl (length_routedReports_le s tc hone)

end Routed

/-- Minor cycles and telecommands find the queue empty. -/
def Drained (u : Obc) : Stimulus → Prop
  | .tick | .telecommand _ => tmQueueCount u.obsw.queue = 0
  | .pop _ | .thermistor _ => True

/-- A one-shot request, if it is one, asks for fourteen structures at most. -/
def FewStructures : Stimulus → Prop
  | .telecommand octets => ∀ tc, pusTcParse (some octets) octets.length = .ok tc →
      tc.serviceType = pusServiceHousekeeping → tc.serviceSubtype = pusSt03OneShot →
      ValidSidList tc → listCount tc ≤ 14
  | _ => True

theorem overflows_step {u : Obc} (hq : Valid u.obsw.queue) {e : Stimulus} (hdrained : Drained u e)
    (hfew : FewStructures e) :
    tmQueueOverflowCount (u.step e).obsw.queue = tmQueueOverflowCount u.obsw.queue := by
  have hdepth : pusTmQueueDepth = 16 := rfl
  cases e with
  | tick =>
    rw [obsw_tick]
    have hempty : tmQueueCount u.obsw.queue = 0 := hdrained
    exact overflows_obcTick hq (by omega)
  | telecommand octets =>
    rw [obsw_telecommand]
    have hempty : tmQueueCount u.obsw.queue = 0 := hdrained
    obtain ⟨rs, hemits, hlen⟩ := emits_obcProcessTc_le hq octets
    apply hemits.overflows_room hq
    rw [tmQueueCount] at hempty
    rcases hlen with hlen | ⟨tc, hparse, ⟨hservice, hsubtype, hlist⟩, hlen⟩
    · omega
    · have hcount := hfew tc hparse hservice hsubtype hlist
      have hreports := hlen hempty hcount
      omega
  | pop buf =>
    rw [obsw_pop]
    exact overflows_tmQueuePop _ _ _ _
  | thermistor valueDc => rfl

/-- The queue is well formed, and no packet has been counted as dropped. -/
structure NothingCounted (u : Obc) : Prop where
  valid : Valid u.obsw.queue
  zero : tmQueueOverflowCount u.obsw.queue = 0

theorem nothingCounted_powerOn (s : Obsw) : NothingCounted (powerOn s) := by
  refine ⟨valid_powerOn s, ?_⟩
  rw [powerOn, obcInit_eq, tmQueueOverflowCount, overflows_emit_room]
  · rfl
  · exact show 0 < pusTmQueueDepth by decide

theorem nothingCounted_after {s : Obsw} {stimuli : List Stimulus}
    (hdrained : Run.AllSteps Obc.step Drained (powerOn s) stimuli)
    (hfew : ∀ e ∈ stimuli, FewStructures e) : NothingCounted (after s stimuli) :=
  Run.run_invariant_of_allSteps
    (fun _ e h hok => ⟨valid_step h.valid e, (overflows_step h.valid hok.1 hok.2).trans h.zero⟩)
    (nothingCounted_powerOn s) (hdrained.and (Run.allSteps_of_forall hfew _))

/-- With the queue emptied before each minor cycle and each telecommand, and no request for more
than fourteen structures, no packet is ever dropped and the drop counter stays zero. In any state
a minor cycle queues six packets at most, and a telecommand other than (3,27) four. -/
theorem drained_never_overflows (s : Obsw) (stimuli : List Stimulus)
    (hdrained : Run.AllSteps Obc.step Drained (powerOn s) stimuli)
    (hfew : ∀ e ∈ stimuli, FewStructures e) :
    (∀ x ∈ (after s stimuli).obsw.history, x.queued = true) ∧
      tmQueueOverflowCount (after s stimuli).obsw.queue = 0 ∧
      tmQueueCount (obcTick (after s stimuli).obsw).queue ≤
        tmQueueCount (after s stimuli).obsw.queue + 6 ∧
      ∀ octets, (∀ tc, pusTcParse (some octets) octets.length = .ok tc →
          ¬(tc.serviceType = pusServiceHousekeeping ∧ tc.serviceSubtype = pusSt03OneShot)) →
        tmQueueCount (obcProcessTc (after s stimuli).obsw (some octets) octets.length).2.queue ≤
          tmQueueCount (after s stimuli).obsw.queue + 4 := by
  have hq := valid_after s stimuli
  have hzero := (nothingCounted_after hdrained hfew).zero
  refine ⟨?_, hzero, count_obcTick_le hq, fun octets hother => ?_⟩
  · have hdropped := (ledger_after s stimuli).dropped
    rw [tmQueueOverflowCount] at hzero
    rw [hzero] at hdropped
    have hnone : droppedCount (after s stimuli).obsw.history = 0 := by
      have hnumber : (0 : UInt16).toNat = 0 := rfl
      omega
    rw [droppedCount, List.countP_eq_zero] at hnone
    intro x hx
    simpa using hnone x hx
  · obtain ⟨rs, hemits, hlen⟩ := emits_obcProcessTc_le hq octets
    have hcount := hemits.count hq
    rcases hlen with hlen | ⟨tc, hparse, ⟨hservice, hsubtype, -⟩, -⟩
    · simp only [tmQueueCount]
      omega
    · exact absurd ⟨hservice, hsubtype⟩ (hother tc hparse)

/-- `drain_downlink`: packets are taken into its buffer until the queue is empty. -/
def drainDownlink (u : Obc) : List Stimulus :=
  List.replicate (tmQueueCount u.obsw.queue) (.pop (List.replicate pusMaxPacketSize 0))

/-- `serve_client`: the queue is drained after power-on and after each request. -/
def serveClient : Obc → List Stimulus → List Stimulus
  | u, [] => drainDownlink u
  | u, e :: requests =>
    drainDownlink u ++ e :: serveClient ((Run.run Obc.step u (drainDownlink u)).step e) requests

theorem drained_pops (u : Obc) (buf : List UInt8) (n : ℕ) :
    Run.AllSteps Obc.step Drained u (List.replicate n (.pop buf)) := by
  induction n generalizing u with
  | zero => trivial
  | succ n ih => exact ⟨trivial, ih _⟩

theorem count_drainDownlink {u : Obc} (hq : Valid u.obsw.queue) (hfit : Fit u.obsw.queue) :
    tmQueueCount (Run.run Obc.step u (drainDownlink u)).obsw.queue = 0 := by
  have hbuf : pusMaxPacketSize ≤ (List.replicate pusMaxPacketSize (0 : UInt8)).length := by
    rw [List.length_replicate]
  rw [tmQueueCount, drainDownlink, count_pops hq hfit hbuf, tmQueueCount, Nat.sub_self]

/-- Every request of a client finds the queue empty. -/
theorem drained_serveClient {u : Obc} (hq : Valid u.obsw.queue) (hfit : Fit u.obsw.queue)
    (requests : List Stimulus) :
    Run.AllSteps Obc.step Drained u (serveClient u requests) := by
  induction requests generalizing u with
  | nil => exact drained_pops u _ _
  | cons e requests ih =>
    have hempty := count_drainDownlink hq hfit
    have hvalid := valid_run hq (drainDownlink u)
    have hfits := fit_run hq hfit (drainDownlink u)
    have hhere : Drained (Run.run Obc.step u (drainDownlink u)) e := by
      cases e with
      | tick | telecommand => exact hempty
      | pop | thermistor => trivial
    exact Run.allSteps_append.mpr
      ⟨drained_pops u _ _, hhere, ih (valid_step hvalid e) (fit_step hvalid hfits e)⟩

theorem fewStructures_serveClient (u : Obc) {requests : List Stimulus}
    (hfew : ∀ e ∈ requests, FewStructures e) : ∀ e ∈ serveClient u requests, FewStructures e := by
  have hdrain (m : Obc) : ∀ e ∈ drainDownlink m, FewStructures e := by
    intro e he
    rw [List.eq_of_mem_replicate he]
    trivial
  induction requests generalizing u with
  | nil => exact hdrain u
  | cons e requests ih =>
    intro d hd
    rcases List.mem_append.mp hd with hd | hd
    · exact hdrain u d hd
    rcases List.mem_cons.mp hd with rfl | hd
    · exact hfew d List.mem_cons_self
    · exact ih _ (fun e he => hfew e (List.mem_cons_of_mem _ he)) d hd

/-- A client that never asks for more than fourteen structures loses nothing. -/
theorem nothingCounted_serveClient (s : Obsw) {requests : List Stimulus}
    (hfew : ∀ e ∈ requests, FewStructures e) :
    NothingCounted (after s (serveClient (powerOn s) requests)) :=
  nothingCounted_after (drained_serveClient (valid_powerOn s) (fit_powerOn s) requests)
    (fewStructures_serveClient _ hfew)

theorem fewStructures_of_service {octets : List UInt8}
    (h : (decodedTc octets).serviceType ≠ pusServiceHousekeeping) :
    FewStructures (.telecommand octets) := by
  intro tc htc hservice
  rw [(pusTcParse_ok htc).2] at hservice
  exact absurd hservice h

theorem fewStructures_nominal :
    ∀ e ∈ [Stimulus.telecommand nominalTelecommand, .tick], FewStructures e := by
  intro e he
  rcases List.mem_pair.mp he with rfl | rfl
  · exact fewStructures_of_service (by decide +kernel)
  · trivial

/-- A client that commands NOMINAL mode and lets a minor cycle pass. -/
theorem drained_never_overflows_client :
    tmQueueOverflowCount (after default (serveClient (powerOn default)
      [.telecommand nominalTelecommand, .tick])).obsw.queue = 0 :=
  (drained_never_overflows default _
    (drained_serveClient (valid_powerOn default) (fit_powerOn default) _)
    (fewStructures_serveClient _ fewStructures_nominal)).2.1

end ObswPus.Telemetry
