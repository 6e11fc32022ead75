import ObswPus.Downlink.Emission
import ObswPus.Flight.Reports

/-! # Events in the history

Ground's view of the service 5 reports: severity, identifier and auxiliary word of
each, in the order in which they were built or in which they entered the queue.
-/
namespace ObswPus.Downlink
open Flight

/-- An event report as ground reads it. -/
structure Event where
  severity : UInt8
  id : UInt16
  aux : UInt16
  deriving DecidableEq

/-- The event that a packet of this content reports, if it is an event report. -/
def eventOf (c : Content) : Option Event :=
  if c.1 = pusServiceEvent then
    some { severity := c.2.1, id := pusGetU16 c.2.2, aux := pusGetU16 (c.2.2.drop 2) }
  else none

/-- The events of a history, whether or not the queue took their packets. -/
def eventsOf (history : List Sent) : List Event :=
  history.filterMap fun x => eventOf (tmContent x.packet)

def packetEvents (packets : List (List UInt8)) : List Event :=
  packets.filterMap fun p => eventOf (tmContent p)

def reportedEvents (rs : List Report) : List Event := rs.filterMap fun r => eventOf r.content

theorem eventsOf_append (history sent : List Sent) :
    eventsOf (history ++ sent) = eventsOf history ++ eventsOf sent := by
  simp only [eventsOf, List.filterMap_append]

theorem packetEvents_append (packets added : List (List UInt8)) :
    packetEvents (packets ++ added) = packetEvents packets ++ packetEvents added := by
  simp only [packetEvents, List.filterMap_append]

theorem reportedEvents_append (rs rs' : List Report) :
    reportedEvents (rs ++ rs') = reportedEvents rs ++ reportedEvents rs' := by
  simp only [reportedEvents, List.filterMap_append]

/-- Packets show the events of the reports whose contents they carry. -/
theorem packetEvents_of_content {packets : List (List UInt8)} {rs : List Report}
    (h : packets.map tmContent = rs.map Report.content) :
    packetEvents packets = reportedEvents rs := by
  have hevents := congrArg (List.filterMap eventOf) h
  simpa only [List.filterMap_map, Function.comp_def, packetEvents, reportedEvents] using hevents

/-- From `s` to `s'` the history grows by packets that carry exactly these reports. -/
def Sends (s s' : Obsw) (rs : List Report) : Prop :=
  ∃ sent, s'.history = s.history ++ sent ∧
    sent.map (fun x => tmContent x.packet) = rs.map Report.content

theorem Sends.trans {s m s' : Obsw} {rs rs' : List Report} (first : Sends s m rs)
    (second : Sends m s' rs') : Sends s s' (rs ++ rs') := by
  obtain ⟨sent, hhistory, hsent⟩ := first
  obtain ⟨sent', hhistory', hsent'⟩ := second
  exact ⟨sent ++ sent', by rw [hhistory', hhistory, List.append_assoc], by simp [hsent, hsent']⟩

def eventsBetween (s s' : Obsw) : List Event := eventsOf (s'.history.drop s.history.length)

theorem Sends.eventsBetween {s s' : Obsw} {rs : List Report} (h : Sends s s' rs) :
    eventsBetween s s' = reportedEvents rs := by
  obtain ⟨sent, hhistory, hsent⟩ := h
  have hevents := congrArg (List.filterMap eventOf) hsent
  rw [Downlink.eventsBetween, hhistory, List.drop_left]
  simpa only [List.filterMap_map, Function.comp_def, eventsOf, reportedEvents] using hevents

theorem Sends.eventsOf {s s' : Obsw} {rs : List Report} (h : Sends s s' rs) :
    eventsOf s'.history = eventsOf s.history ++ Downlink.eventsBetween s s' := by
  obtain ⟨sent, hhistory, -⟩ := h
  rw [Downlink.eventsBetween, hhistory, List.drop_left, eventsOf_append]

end ObswPus.Downlink
