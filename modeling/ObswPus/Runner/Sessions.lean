import ObswPus.Commanding.Buffer
import ObswPus.Runner.Transmission
import ObswPus.Uplink.Reception

/-! # Sessions

A session of the runner is a run of the unit in which the queue is emptied after every
request. However the octets of the uplink arrive, and whatever becomes of those of the
downlink, the client is sent a beginning of the packets that the queue has taken, in
their order, and all of them as long as no call fails.
-/
namespace ObswPus.Runner
open Flight Downlink Commanding Uplink Library

/-- The stimuli that the runner passes on for its client. -/
def passedOn (stimuli : List Stimulus) : List Stimulus :=
  stimuli.filter fun
    | .pop _ => false
    | _ => true

theorem passedOn_pops (n : ℕ) (buf : List UInt8) (stimuli : List Stimulus) :
    passedOn (List.replicate n (.pop buf) ++ stimuli) = passedOn stimuli := by
  rw [passedOn, List.filter_append, List.filter_replicate]
  rfl

theorem receiveTc_outLen_le {socket : Socket} {buf : List UInt8} {len : ℕ}
    (h : ¬(receiveTc socket buf pusMaxPacketSize len).rc ≤ 0) :
    (receiveTc socket buf pusMaxPacketSize len).outLen ≤
      (receiveTc socket buf pusMaxPacketSize len).buf.length := by
  cases hnext : tcReader.next (stream socket) with
  | none => exact absurd (receiveTc_none socket buf len hnext) h
  | some n =>
    obtain ⟨-, htake, -, hlen⟩ := receiveTc_some socket buf len hnext
    have hwhole := congrArg List.length htake
    rw [hlen, List.length_take_of_le (tcReader.le _ n hnext), List.length_take] at hwhole
    have hfits : n ≤ (receiveTc socket buf 256 len).buf.length := by omega
    exact hlen.trans_le hfits

/-- The runner gives its whole buffer to the application; the telecommand alone counts. -/
theorem obsw_received (u : Obc) {buf : List UInt8} {len : ℕ} (hlen : len ≤ buf.length) :
    (obcProcessTc u.obsw (some buf) len).2 = (u.step (.telecommand (buf.take len))).obsw := by
  rw [obsw_telecommand, obcProcessTc_take u.obsw hlen]

theorem history_pops (u : Obc) (n : ℕ) : (pops u n).obsw.history = u.obsw.history := by
  induction n generalizing u with
  | zero => rfl
  | succ n ih => rw [pops_succ, ih, obsw_pop]

theorem ledger_run {u : Obc} (h : Ledger u.obsw u.delivered) (stimuli : List Stimulus) :
    Ledger (Run.run Obc.step u stimuli).obsw (Run.run Obc.step u stimuli).delivered :=
  Run.run_invariant (fun u e hu => Telemetry.ledger_step u e hu) h stimuli

/-- The client has been sent what the unit has delivered, and nothing is waiting. -/
structure Settled (u : Obc) (outlet : Outlet) : Prop where
  ledger : Ledger u.obsw u.delivered
  fit : Fit u.obsw.queue
  empty : tmQueueCount u.obsw.queue = 0
  taken : outlet.taken = u.delivered.flatten

theorem Settled.kept {u : Obc} {outlet : Outlet} (h : Settled u outlet) :
    outlet.taken = (kept u.obsw.history).flatten := by
  have hnone : contents u.obsw.queue = [] := by
    rw [← List.length_eq_zero_iff, contents_length]
    exact h.empty
  rw [← h.ledger.conserved, hnone, List.append_nil, h.taken]

theorem settled_drainDownlink {u : Obc} (hledger : Ledger u.obsw u.delivered)
    (hfit : Fit u.obsw.queue) {outlet : Outlet} (htaken : outlet.taken = u.delivered.flatten)
    (packet : List UInt8) (len : ℕ) :
    (drainDownlink u.obsw outlet packet len).outlet.sends <:+ outlet.sends ∧
      ((¬(drainDownlink u.obsw outlet packet len).rc < 0 ∧
          ∃ n, (drainDownlink u.obsw outlet packet len).obsw = (pops u n).obsw ∧
            Settled (pops u n) (drainDownlink u.obsw outlet packet len).outlet) ∨
        ((drainDownlink u.obsw outlet packet len).rc < 0 ∧ ¬Steady outlet.sends ∧
          ∃ n, (drainDownlink u.obsw outlet packet len).obsw = (pops u n).obsw ∧
            (drainDownlink u.obsw outlet packet len).outlet.taken <+:
              (Downlink.kept (pops u n).obsw.history).flatten)) := by
  have hall : outlet.taken ++ (contents u.obsw.queue).flatten =
      (Downlink.kept u.obsw.history).flatten := by
    rw [htaken, ← List.flatten_append, hledger.conserved]
  obtain ⟨hsends, hcases⟩ := drainDownlink_cases hledger.queue hfit outlet packet len
  rw [hall] at hcases
  refine ⟨hsends, hcases.imp ?_ ?_⟩
  · rintro ⟨hrc, hobsw, hsent⟩
    refine ⟨by rw [hrc]; decide, _, hobsw, ?_⟩
    have hledger' := ledger_run hledger
      (List.replicate (tmQueueCount u.obsw.queue) (.pop packetBuffer))
    have hempty := Telemetry.count_drainDownlink hledger.queue hfit
    rw [← pops_count] at hempty
    have hnone : contents (pops u (tmQueueCount u.obsw.queue)).obsw.queue = [] := by
      rw [← List.length_eq_zero_iff, contents_length]
      exact hempty
    have hconserved := hledger'.conserved
    change (pops u _).delivered ++ contents (pops u _).obsw.queue =
      Downlink.kept (pops u _).obsw.history at hconserved
    rw [hnone, List.append_nil, history_pops] at hconserved
    exact ⟨hledger', fit_run hledger.queue hfit _, hempty, by rw [hsent, hconserved]⟩
  · rintro ⟨hrc, hsteady, ⟨n, hobsw⟩, hsent⟩
    exact ⟨by rw [hrc]; decide, hsteady, n, hobsw, by rwa [history_pops]⟩

/-- From `u` on, a client with these requests and these calls of `send` has been served: the unit
has taken the stimuli, each with the queue empty, and the client has been sent a beginning of what
the queue has taken. -/
structure Serves (u : Obc) (requests : List Stimulus) (sends : List Send) (served : Served)
    (stimuli : List Stimulus) : Prop where
  reached : served.obsw = (Run.run Obc.step u stimuli).obsw
  drained : Run.AllSteps Obc.step Telemetry.Drained u stimuli
  asked : passedOn stimuli <+: requests
  sent : served.outlet.taken <+: (kept served.obsw.history).flatten
  complete : Steady sends → passedOn stimuli = requests ∧
    served.outlet.taken = (kept served.obsw.history).flatten ∧ tmQueueCount served.obsw.queue = 0

theorem Settled.serves {u : Obc} {outlet : Outlet} (h : Settled u outlet) (sends : List Send) :
    Serves u [] sends ⟨u.obsw, outlet⟩ [] :=
  ⟨rfl, trivial, List.prefix_rfl, h.kept ▸ List.prefix_rfl, fun _ => ⟨rfl, h.kept, h.empty⟩⟩

section Compose
variable {u : Obc} {requests : List Stimulus} {sends : List Send} {served : Served}
  {stimuli : List Stimulus}

theorem Serves.pops {n : ℕ} (h : Serves (pops u n) requests sends served stimuli) :
    Serves u requests sends served (List.replicate n (.pop packetBuffer) ++ stimuli) := by
  refine ⟨?_, Run.allSteps_append.mpr ⟨Telemetry.drained_pops _ _ _, h.drained⟩, ?_, h.sent, ?_⟩
  · rw [Run.run_append]
    exact h.reached
  · rw [passedOn_pops]
    exact h.asked
  · rw [passedOn_pops]
    exact h.complete

theorem Serves.request {e : Stimulus} (he : e = .tick ∨ ∃ octets, e = .telecommand octets)
    (hempty : tmQueueCount u.obsw.queue = 0)
    (h : Serves (u.step e) requests sends served stimuli) :
    Serves u (e :: requests) sends served (e :: stimuli) := by
  have hrequest : passedOn (e :: stimuli) = e :: passedOn stimuli := by
    rcases he with rfl | ⟨octets, rfl⟩ <;> rfl
  refine ⟨h.reached, ⟨?_, h.drained⟩, ?_, h.sent, fun hsteady => ?_⟩
  · rcases he with rfl | ⟨octets, rfl⟩ <;> exact hempty
  · rw [hrequest]
    exact (List.prefix_cons_inj e).mpr h.asked
  · obtain ⟨hasked, hall⟩ := h.complete hsteady
    exact ⟨by rw [hrequest, hasked], hall⟩

end Compose

/-- The queue is emptied, and the session goes on unless a call of `send` has failed. -/
theorem serves_drainDownlink {u : Obc} (hledger : Ledger u.obsw u.delivered)
    (hfit : Fit u.obsw.queue) {outlet : Outlet} (htaken : outlet.taken = u.delivered.flatten)
    (packet : List UInt8) (len : ℕ) (requests : List Stimulus) (next : Served)
    (hnext : ∀ w, Settled w (drainDownlink u.obsw outlet packet len).outlet →
      (drainDownlink u.obsw outlet packet len).obsw = w.obsw →
        ∃ stimuli, Serves w requests (drainDownlink u.obsw outlet packet len).outlet.sends next
          stimuli) :
    ∃ stimuli, Serves u requests outlet.sends
      (if (drainDownlink u.obsw outlet packet len).rc < 0 then
        ⟨(drainDownlink u.obsw outlet packet len).obsw,
          (drainDownlink u.obsw outlet packet len).outlet⟩
      else next) stimuli := by
  obtain ⟨hsends, ⟨hrc, n, hobsw, hsettled⟩ | ⟨hrc, hsteady, n, hobsw, hsent⟩⟩ :=
    settled_drainDownlink hledger hfit htaken packet len
  · obtain ⟨stimuli, hserves⟩ := hnext _ hsettled hobsw
    rw [if_neg hrc]
    have hsame : Serves (pops u n) requests outlet.sends next stimuli :=
      ⟨hserves.reached, hserves.drained, hserves.asked, hserves.sent,
        fun hsteady => hserves.complete (hsteady.suffix hsends)⟩
    exact ⟨_, hsame.pops⟩
  · rw [if_pos hrc]
    have hbroken : Serves (pops u n) requests outlet.sends
        ⟨(drainDownlink u.obsw outlet packet len).obsw,
          (drainDownlink u.obsw outlet packet len).outlet⟩ [] :=
      ⟨hobsw, trivial, List.nil_prefix, by rwa [hobsw], fun h => absurd h hsteady⟩
    exact ⟨_, hbroken.pops⟩

theorem Settled.pass {u : Obc} {outlet : Outlet} (h : Settled u outlet) {e : Stimulus}
    (he : e = .tick ∨ ∃ octets, e = .telecommand octets) (packet : List UInt8) (len : ℕ)
    (requests : List Stimulus) (next : Served)
    (hnext : ∀ w, Settled w (drainDownlink (u.step e).obsw outlet packet len).outlet →
      (drainDownlink (u.step e).obsw outlet packet len).obsw = w.obsw →
        ∃ stimuli, Serves w requests
          (drainDownlink (u.step e).obsw outlet packet len).outlet.sends next stimuli) :
    ∃ stimuli, Serves u (e :: requests) outlet.sends
      (if (drainDownlink (u.step e).obsw outlet packet len).rc < 0 then
        ⟨(drainDownlink (u.step e).obsw outlet packet len).obsw,
          (drainDownlink (u.step e).obsw outlet packet len).outlet⟩
      else next) stimuli := by
  have hdelivered : (u.step e).delivered = u.delivered := by
    rcases he with rfl | ⟨octets, rfl⟩ <;> rfl
  obtain ⟨stimuli, hserves⟩ := serves_drainDownlink (Telemetry.ledger_step u e h.ledger)
    (fit_step h.ledger.queue h.fit e) (by rw [hdelivered, h.taken]) packet len requests next hnext
  exact ⟨_, hserves.request he h.empty⟩

/-- The passes of the loop, from a unit whose queue is empty. -/
theorem serves_serveLoop (packet : List UInt8) (outLen : ℕ) (passes : List Readiness) {u : Obc}
    {outlet : Outlet} (h : Settled u outlet) (socket : Socket) (buf : List UInt8) (len : ℕ) :
    ∃ stimuli, Serves u (clientRequests passes socket buf len) outlet.sends
      (serveLoop packet outLen passes u.obsw socket outlet buf len) stimuli := by
  induction passes generalizing u outlet socket buf len with
  | nil => exact ⟨[], h.serves outlet.sends⟩
  | cons pass passes ih =>
    cases pass with
    | interrupted => exact ih h socket buf len
    | timeout =>
      refine h.pass (.inl rfl) packet outLen _ _ fun w hw hobsw => ?_
      rw [obsw_tick] at hw hobsw ⊢
      rw [hobsw]
      exact ih hw socket buf len
    | readable =>
      rw [serveLoop, clientRequests]
      by_cases hrc : (receiveTc socket buf pusMaxPacketSize len).rc ≤ 0
      · rw [if_pos hrc, if_pos hrc]
        exact ⟨[], h.serves outlet.sends⟩
      · rw [if_neg hrc, if_neg hrc, obsw_received u (receiveTc_outLen_le hrc)]
        refine h.pass (.inr ⟨_, rfl⟩) packet outLen _ _ fun w hw hobsw => ?_
        rw [hobsw]
        exact ih hw _ _ _

/-- What a client has been served is a run of the unit from power-on. -/
theorem serves_serveClient (s : Obsw) (client : Client) :
    ∃ stimuli, Serves (powerOn s)
      (clientRequests client.passes client.socket client.buf client.len) client.sends
      (serveClient s client) stimuli := by
  have hnothing : (⟨[], client.sends⟩ : Outlet).taken = (powerOn s).delivered.flatten := rfl
  refine serves_drainDownlink (Telemetry.ledger_obcInit s) (fit_powerOn s) hnothing client.packet
    client.outLen _ _ fun w hw hobsw => ?_
  have hinit : (powerOn s).obsw = obcInit s := rfl
  rw [hinit] at hw hobsw ⊢
  rw [hobsw]
  exact serves_serveLoop _ _ _ hw _ _ _

/-- Whatever the statics held before, and whatever `select`, `recv` and `send` meet: the statics
that a client leaves are those after power-on and a beginning of its requests, each of which finds
the queue empty; and the client is sent, octet for octet, a beginning of the packets that the queue
has taken. If no call of `send` fails, every request has been passed on, every packet has been sent
whole, and none is left behind. -/
theorem client_is_served (s : Obsw) (client : Client) :
    (∃ stimuli, (serveClient s client).obsw = (after s stimuli).obsw ∧
      Run.AllSteps Obc.step Telemetry.Drained (powerOn s) stimuli ∧
      passedOn stimuli <+:
        clientRequests client.passes client.socket client.buf client.len ∧
      (Steady client.sends →
        passedOn stimuli = clientRequests client.passes client.socket client.buf client.len)) ∧
    (serveClient s client).outlet.taken <+: (kept (serveClient s client).obsw.history).flatten ∧
    (Steady client.sends →
      (serveClient s client).outlet.taken = (kept (serveClient s client).obsw.history).flatten ∧
        tmQueueCount (serveClient s client).obsw.queue = 0) := by
  obtain ⟨stimuli, h⟩ := serves_serveClient s client
  exact ⟨⟨stimuli, h.reached, h.drained, h.asked, fun hsteady => (h.complete hsteady).1⟩, h.sent,
    fun hsteady => (h.complete hsteady).2⟩

end ObswPus.Runner
