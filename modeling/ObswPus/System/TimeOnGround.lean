import ObswPus.OnBoardTime.Stamps
import ObswPus.System.ClosedLoop

/-! # On-board time on the ground

Ground reads the on-board time off each packet. Unless it sets the clock itself, the times come
in order and are the exact times of minor cycles, however the packets arrive.
-/
namespace ObswPus.System
open Flight Downlink Commanding Telemetry OnBoardTime Ground Uplink Runner Library Codec

/-- Both time fields of a packet as one number of 1/65536 s. -/
def onBoardTime (p : TmPacket) : ℕ := p.timeCoarse * 65536 + p.timeFine

theorem onBoardTime_groundPackets (history : List Sent) :
    (groundPackets history).map onBoardTime = history.map stampOf := by
  rw [groundPackets, List.map_map]
  rfl

theorem clockSet_occasion {t : Option Telecommand}
    (h : ∀ sent ∈ t, ∀ coarse fine, sent.command ≠ .setTime coarse fine) :
    clockSet (occasion (t.map Telecommand.octets)) = none := by
  rcases t with _ | t
  · rfl
  have hcommand := h t rfl
  refine clockSet_eq_none fun coarse fine hasks => ?_
  rw [t.requested_octets] at hasks
  cases hc : t.command with
  | setTime coarse fine => exact absurd hc (hcommand coarse fine)
  | switchHk sids on | oneShotHk sids | switchEvents ids on =>
    rw [hc, Command.asks, Command.asksList] at hasks
    split_ifs at hasks <;> cases hasks
  | setMode mode =>
    rw [hc, Command.asks] at hasks
    split_ifs at hasks <;> cases hasks
  | setHeater | injectTemperature | resetCounters | areYouAlive =>
    rw [hc] at hasks
    cases hasks

theorem minorCycles_passedOn (stimuli : List Stimulus) :
    minorCycles (passedOn stimuli) = minorCycles stimuli := by
  induction stimuli with
  | nil => rfl
  | cons e stimuli ih =>
    have hcons (e : Stimulus) (l : List Stimulus) :
        minorCycles (e :: l) = minorCycles [e] + minorCycles l := minorCycles_append [e] l
    cases e with
    | pop buf =>
      rw [hcons]
      exact ih.trans (Nat.zero_add _).symm
    | tick | telecommand | thermistor =>
      change minorCycles (_ :: passedOn stimuli) = _
      rw [hcons, hcons _ stimuli, ih]

theorem minorCycles_requestsFor (occasions : List (Option Telecommand)) :
    minorCycles (requestsFor occasions) = occasions.countP Option.isNone := by
  rw [minorCycles, requestsFor, List.count, List.countP_map]
  congr 1
  funext t
  cases t <;> rfl

/-- The packets of a client that never sets the time, in a session of 42949672 minor cycles at most:
whatever the calls on the ground link, the times received come in order, and each is the exact time
of a minor cycle that has passed. -/
theorem times_received (s : Obsw) {client : Client} {sent : List Telecommand}
    (huplink : Uplinks client sent)
    (hset : ∀ t ∈ sent, ∀ coarse fine, t.command ≠ .setTime coarse fine)
    (hcycles : 100 * (schedule client.passes sent).countP Option.isNone < 2 ^ 32)
    {sock : List Arrival}
    (hsock : Arrives (groundPackets (Runner.serveClient s client).obsw.history) sock)
    (calls : List LinkCall) :
    ((afterCalls (connected sock) calls).received.map onBoardTime).Pairwise (· ≤ ·) ∧
      ∀ p ∈ (afterCalls (connected sock) calls).received,
        ∃ t ≤ (schedule client.passes sent).countP Option.isNone,
          onBoardTime p = exactTime t := by
  obtain ⟨stimuli, hreached, hrequested⟩ := huplink.served s
  have hunset : ∀ e ∈ stimuli, clockSet e = none := by
    refine forall_of_passedOn (fun _ => rfl) fun e he => ?_
    rw [hrequested] at he
    obtain ⟨t, ht, rfl⟩ := List.mem_map.mp he
    exact clockSet_occasion fun t' ht' =>
      hset t' (mem_of_some_mem_schedule (Option.mem_def.mp ht' ▸ ht))
  have hcount : minorCycles stimuli = (schedule client.passes sent).countP Option.isNone := by
    rw [← minorCycles_passedOn, hrequested, minorCycles_requestsFor]
  obtain ⟨hordered, hexact⟩ := stamps_ordered s hunset (by rwa [hcount])
  rw [← hreached, ← onBoardTime_groundPackets] at hordered
  rw [← hreached, hcount] at hexact
  obtain ⟨hfront, -⟩ := huplink.received s hsock calls
  refine ⟨hordered.sublist (hfront.map onBoardTime).sublist, fun p hp => ?_⟩
  obtain ⟨x, hx, rfl⟩ := List.mem_map.mp (hfront.subset hp)
  exact hexact x hx

theorem times_received_nominal :
    ((afterCalls (connected orderedSock) [.drain 4]).received.map onBoardTime).Pairwise (· ≤ ·) ∧
      ∀ p ∈ (afterCalls (connected orderedSock) [.drain 4]).received,
        ∃ t ≤ 1, onBoardTime p = exactTime t := by
  have hset : ∀ t ∈ [orderNominal], ∀ coarse fine, t.command ≠ .setTime coarse fine := by
    intro t ht coarse fine hcommand
    rw [List.mem_singleton.mp ht] at hcommand
    cases hcommand
  exact times_received default uplinks_orderingClient hset (by decide) (arrives_singly _)
    [.drain 4]

end ObswPus.System
