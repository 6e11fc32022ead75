import ObswPus.Downlink.Emission
import ObswPus.Flight.Services

/-! # The reports of the services

Every report the flight software can send, as data, and for each sending function
the list of reports it emits. `control` is all of the state that is not on the
downlink path; no sending function changes it.
-/
namespace ObswPus.Commanding
open Flight Downlink

/-- The state that commanding and monitoring act on. -/
structure Control where
  hal : Hal
  svc03 : Svc03
  svc05 : Svc05
  state : ObcState
  alarmLatched : Bool
  deriving DecidableEq

def control (s : Obsw) : Control :=
  { hal := s.hal, svc03 := s.svc03, svc05 := s.svc05, state := s.state,
    alarmLatched := s.alarmLatched }

@[simp] theorem control_emit (s : Obsw) (r : Report) : control (emit s r) = control s := by
  simp only [control, emit]

/-- From `s` to `s'` the controlled state becomes `c` and the reports `rs` are sent. -/
structure Evolves (s s' : Obsw) (c : Control) (rs : List Report) : Prop where
  controlled : control s' = c
  emits : Emits s s' rs

namespace Evolves
variable {s m s' : Obsw} {c c' : Control} {rs rs' : List Report}

theorem refl (s : Obsw) : Evolves s s (control s) [] := ⟨rfl, Emits.refl s⟩

theorem write (h : SameDownlink s s') : Evolves s s' (control s') [] := ⟨rfl, Emits.write h⟩

theorem send (s : Obsw) (r : Report) : Evolves s (emit s r) (control s) [r] :=
  ⟨control_emit s r, Emits.send s r⟩

theorem trans (first : Evolves s m c rs) (second : Evolves m s' c' rs') :
    Evolves s s' c' (rs ++ rs') := ⟨second.controlled, first.emits.trans second.emits⟩

/-- Code, controlled state and reports branch on the same condition. -/
theorem ite {p : Prop} [Decidable p] (hpos : p → Evolves s m c rs)
    (hneg : ¬p → Evolves s s' c' rs') :
    Evolves s (if p then m else s') (if p then c else c') (if p then rs else rs') := by
  split
  · rename_i h
    exact hpos h
  · rename_i h
    exact hneg h

end Evolves

def successReport (subtype : UInt8) (requestId : UInt32) : Report :=
  ⟨pusServiceVerification, subtype, pusPutU32 requestId, by
    rw [length_pusPutU32]
    decide⟩

def failureReport (subtype : UInt8) (requestId : UInt32) (code : PusStatus) : Report :=
  ⟨pusServiceVerification, subtype, pusPutU32 requestId ++ pusPutU16 code.code, by
    rw [List.length_append, length_pusPutU32, length_pusPutU16]
    decide⟩

theorem svc01SendSuccess_eq (s : Obsw) (subtype : UInt8) (requestId : UInt32) :
    svc01SendSuccess s subtype requestId =
      (sendStatus s.queue, emit s (successReport subtype requestId)) :=
  pusTmSend_eq s (successReport subtype requestId) (some (pusPutU32 requestId)) rfl (by simp)

theorem svc01SendFailure_eq (s : Obsw) (subtype : UInt8) (requestId : UInt32)
    (code : PusStatus) :
    svc01SendFailure s subtype requestId code =
      (sendStatus s.queue, emit s (failureReport subtype requestId code)) :=
  pusTmSend_eq s (failureReport subtype requestId code)
    (some (pusPutU32 requestId ++ pusPutU16 code.code)) rfl (by simp)

def acceptanceReports (tc : PusTc) : List Report :=
  if pusTcAckRequested (some tc) pusAckAcceptance then
    [successReport pusSt01AcceptanceSuccess tc.requestId]
  else []

/-- The completion report of an execution that ended with status `st`. -/
def completionReports (tc : PusTc) (st : PusStatus) : List Report :=
  if pusTcAckRequested (some tc) pusAckCompletion then
    [if st = .ok then successReport pusSt01CompletionSuccess tc.requestId
      else failureReport pusSt01CompletionFailure tc.requestId st]
  else []

section Verification
variable (s : Obsw) (tc : PusTc)

theorem evolves_svc01AcceptanceSuccess :
    Evolves s (svc01AcceptanceSuccess s (some tc)).2 (control s) (acceptanceReports tc) := by
  simp only [svc01AcceptanceSuccess, svc01SendSuccess_eq, acceptanceReports]
  cases pusTcAckRequested (some tc) pusAckAcceptance with
  | false => exact Evolves.refl s
  | true => exact Evolves.send s _

theorem evolves_svc01CompletionSuccess :
    Evolves s (svc01CompletionSuccess s (some tc)).2 (control s) (completionReports tc .ok) := by
  simp only [svc01CompletionSuccess, svc01SendSuccess_eq, completionReports]
  cases pusTcAckRequested (some tc) pusAckCompletion with
  | false => exact Evolves.refl s
  | true => exact Evolves.send s _

theorem evolves_svc01CompletionFailure {st : PusStatus} (hst : st ≠ .ok) :
    Evolves s (svc01CompletionFailure s (some tc) st).2 (control s) (completionReports tc st) := by
  simp only [svc01CompletionFailure, svc01SendFailure_eq, completionReports, if_neg hst]
  cases pusTcAckRequested (some tc) pusAckCompletion with
  | false => exact Evolves.refl s
  | true => exact Evolves.send s _

end Verification

def rawRequestId (octets : List UInt8) : UInt32 :=
  if 4 ≤ octets.length then pusGetU32 octets else 0

def rejectionReport (octets : List UInt8) (st : PusStatus) : Report :=
  failureReport pusSt01AcceptanceFailure (rawRequestId octets) st

theorem svc01RejectRaw_eq (s : Obsw) (octets : List UInt8) (st : PusStatus) :
    svc01RejectRaw s (some octets) octets.length st =
      (sendStatus s.queue, emit s (rejectionReport octets st)) :=
  svc01SendFailure_eq s _ _ st

def eventReport (id : ObcEventId) (severity : UInt8) (aux : UInt16) : Report :=
  ⟨pusServiceEvent, severity, pusPutU16 id.code ++ pusPutU16 aux, by
    rw [List.length_append, length_pusPutU16, length_pusPutU16]
    decide⟩

def eventEnabled (flags : Svc05) (id : ObcEventId) : Bool :=
  flags.enabled.get (id.code.toNat - 1)

def eventReports (flags : Svc05) (id : ObcEventId) (severity : UInt8) (aux : UInt16) :
    List Report :=
  if eventEnabled flags id then [eventReport id severity aux] else []

theorem length_eventReports_le (flags : Svc05) (id : ObcEventId) (severity : UInt8)
    (aux : UInt16) : (eventReports flags id severity aux).length ≤ 1 := by
  unfold eventReports
  split <;> simp

theorem svc05IdValid_code (id : ObcEventId) : svc05IdValid id.code = true := by
  cases id <;> rfl

theorem svc05IsEnabled_code (s : Obsw) (id : ObcEventId) :
    svc05IsEnabled s id.code = eventEnabled s.svc05 id := by
  simp only [svc05IsEnabled, svc05IdValid_code, Bool.true_eq_false, if_false]
  rfl

section Event
variable (s : Obsw) (id : ObcEventId) (severity : UInt8) (aux : UInt16)
  (hseverity : pusSt05Informative ≤ severity ∧ severity ≤ pusSt05HighSeverity)
include hseverity

theorem svc05Report_eq :
    svc05Report s id.code severity aux =
      if eventEnabled s.svc05 id then (sendStatus s.queue, emit s (eventReport id severity aux))
      else (.ok, s) := by
  have hrange : ¬(severity < pusSt05Informative ∨ pusSt05HighSeverity < severity) := by
    rintro (h | h)
    · exact absurd hseverity.1 (UInt8.not_le.mpr h)
    · exact absurd hseverity.2 (UInt8.not_le.mpr h)
  have hsend : pusTmSend s pusServiceEvent severity (some (pusPutU16 id.code ++ pusPutU16 aux)) 4 =
      (sendStatus s.queue, emit s (eventReport id severity aux)) :=
    pusTmSend_eq s (eventReport id severity aux) (some (pusPutU16 id.code ++ pusPutU16 aux)) rfl
      (by simp)
  simp only [svc05Report, svc05IdValid_code, Bool.true_eq_false, if_false, if_neg hrange, hsend,
    eventEnabled]
  by_cases hflag : s.svc05.enabled.get (id.code.toNat - 1) = true
  · simp only [hflag, if_true, Bool.true_eq_false, if_false]
  · simp only [Bool.not_eq_true] at hflag
    simp only [hflag, if_true, Bool.false_eq_true, if_false]

theorem evolves_svc05Report :
    Evolves s (svc05Report s id.code severity aux).2 (control s)
      (eventReports (control s).svc05 id severity aux) := by
  rw [svc05Report_eq s id severity aux hseverity]
  change Evolves s _ _ (if eventEnabled s.svc05 id then _ else _)
  cases eventEnabled s.svc05 id with
  | false => exact Evolves.refl s
  | true => exact Evolves.send s _

end Event

/-- An event is subject to the flags of the state in which it is reported. -/
theorem Evolves.event {s s' : Obsw} {c : Control} {rs : List Report} (h : Evolves s s' c rs)
    (id : ObcEventId) (severity : UInt8) (aux : UInt16)
    (hseverity : pusSt05Informative ≤ severity ∧ severity ≤ pusSt05HighSeverity) :
    Evolves s (svc05Report s' id.code severity aux).2 c
      (rs ++ eventReports c.svc05 id severity aux) := by
  obtain ⟨rfl, hemits⟩ := h
  exact Evolves.trans ⟨rfl, hemits⟩ (evolves_svc05Report s' id severity aux hseverity)

theorem svc03Data_length (s : Obsw) (sid : UInt8) :
    (svc03Data s sid).length = if sid = obcHkSidEssential then 9 else 10 := by
  unfold svc03Data
  split <;> simp

/-- The housekeeping report that structure `sid` yields in state `s`. -/
def hkReport (s : Obsw) (sid : UInt8) : Report :=
  ⟨pusServiceHousekeeping, pusSt03Report, svc03Data s sid, by
    rw [svc03Data_length]
    split <;> decide⟩

theorem svc03Generate_eq (s : Obsw) {sid : UInt8} (hsid : svc03SidValid sid = true) :
    svc03Generate s sid = (sendStatus s.queue, emit s (hkReport s sid)) := by
  simp only [svc03Generate, hsid, Bool.true_eq_false, if_false]
  rw [← svc03Data_length s sid]
  exact pusTmSend_eq s (hkReport s sid) (some (svc03Data s sid)) rfl (by simp)

def aliveReport : Report := ⟨pusServiceTest, pusSt17IAmAlive, [], by decide⟩

theorem svc17Send_eq (s : Obsw) :
    pusTmSend s pusServiceTest pusSt17IAmAlive none 0 = (sendStatus s.queue, emit s aliveReport) :=
  pusTmSend_eq s aliveReport none rfl (fun _ => rfl)

end ObswPus.Commanding
