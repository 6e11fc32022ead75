import ObswPus.Ground.ParsedTelemetry

/-! # The telemetry part of the interface control document

Which packets ground may expect, as `ICD.md` lists them (sections 1, 2, 4 and 7): the
header fields, and for each service and subtype the size and the range of the source
data. Everything is said of the octets and of what the ground decoder makes of them.
-/
namespace ObswPus.Ground
open Flight Downlink Codec

/-- The structure identifier of a housekeeping report. -/
def TmPacket.structureId (tm : TmPacket) : ℕ := (tm.data.getD 0 0).toNat

/-- The event table: identifier, severity and auxiliary data. The alarm temperature is a
signed word, so what is at least 400 is below the sign bit. -/
def documentedEvent : ℕ → ℕ → ℕ → Prop
  | 1, 1, aux => aux = 0
  | 2, 1, aux => aux ≤ 1
  | 3, 2, aux => 1 ≤ aux ∧ aux ≤ 17
  | 4, 2, aux => 0 < aux
  | 5, 1, aux => aux ≤ 1
  | 6, 4, aux => 400 ≤ aux ∧ aux < 32768
  | _, _, _ => False

/-- The reports of section 7. -/
def Documented (tm : TmPacket) : Prop :=
  match tm.service, tm.subtype with
  | 1, 1 | 1, 7 => tm.data.length = 4
  | 1, 2 | 1, 8 => tm.data.length = 6 ∧ 1 ≤ tm.failureCode ∧ tm.failureCode ≤ 17
  | 3, 25 =>
    (tm.structureId = 1 ∧ tm.data.length = 9) ∨ (tm.structureId = 2 ∧ tm.data.length = 10)
  | 5, severity => tm.data.length = 4 ∧ documentedEvent tm.eventId severity tm.eventAux
  | 17, 2 => tm.data = []
  | _, _ => False

/-- A packet as the document describes it. -/
structure Conforms (p : List UInt8) : Prop where
  length_ge : 21 ≤ p.length
  length_le : p.length ≤ 256
  version : octetAt p 0 / 32 = 0
  secHdrFlag : octetAt p 0 / 8 % 2 = 1
  seqFlags : octetAt p 2 / 64 = 3
  accepted : ∃ tm, parseTm p = .ok tm ∧ tm.apid = obcApid ∧ tm.destinationId = 1 ∧ Documented tm

/-- A report that the document lists, whatever the counters and the time of its packet. -/
def InIcd (r : Report) : Prop := ∀ tm time, Documented (parsedPacket tm time r)

/-- The packet of a listed report conforms. -/
theorem conforms_tmPacket {r : Report} (h : InIcd r) (tm : PusTm) (time : UInt32 × UInt16) :
    Conforms (tmPacket tm time r) := by
  have hmin : pusTmMinLen = 21 := rfl
  have hmax : pusMaxPacketSize = 256 := rfl
  have hlen := tmPacket_length tm time r
  have hfits := r.fits
  have hword0 := word0_tmPacket tm time r
  have hword1 := word1_tmPacket tm time r
  have h1 := octetAt_lt (tmPacket tm time r) 1
  have h3 := octetAt_lt (tmPacket tm time r) 3
  exact
    { length_ge := by omega
      length_le := by omega
      version := by omega
      secHdrFlag := by omega
      seqFlags := by omega
      accepted := ⟨_, parseTm_tmPacket tm time r, rfl, rfl, h tm time⟩ }

end ObswPus.Ground
