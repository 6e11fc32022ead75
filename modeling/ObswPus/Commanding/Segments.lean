import ObswPus.Codec.Acceptance
import ObswPus.Commanding.Runs

/-! # Segmented telecommands

The parser decodes the sequence flags of the primary header and compares them with
nothing. A segment that is in order otherwise is executed as a complete telecommand, in
every state; only the remaining checks can keep it out.
-/
namespace ObswPus.Commanding
open Flight Codec

/-- The sequence flags: the two leading bits of the third octet. -/
def sequenceFlags (octets : List UInt8) : ℕ := octetAt octets 2 / 64

abbrev unsegmented : ℕ := 3

/-- The unpacked header holds them in a field that no check of the parser reads. -/
theorem toNat_seqFlags (octets : List UInt8) :
    (unpackedHeader octets).seqFlags.toNat = sequenceFlags octets := by
  have hfield := toNat_field (pusGetU16 (octets.drop 2)) 14 0x03 2 (by decide) (by decide) rfl
  have h2 := octetAt_lt octets 2
  have h3 := octetAt_lt octets 3
  simp only [UInt16.reduceToNat, Nat.reducePow, toNat_pusGetU16_drop, Nat.reduceAdd] at hfield
  rw [unpackedHeader, hfield, sequenceFlags]
  omega

/-- A telecommand for this unit in every respect but its sequence flags, which are free. -/
structure Addressed (b : List UInt8) : Prop where
  long : 13 ≤ b.length
  declaredLength : 7 + (octetAt b 4 * 256 + octetAt b 5) = b.length
  checksum : ChecksumRight b
  version : octetAt b 0 / 32 = 0
  packetType : octetAt b 0 / 16 % 2 = 1
  secHdrFlag : octetAt b 0 / 8 % 2 = 1
  apid : octetAt b 0 % 8 * 256 + octetAt b 1 = 0x00C
  pusVersion : octetAt b 6 / 16 = 2

theorem firstFailing_ok_iff (b : List UInt8) : firstFailing b = .ok ↔ Addressed b := by
  simp (disch := decide) only [firstFailing, check_ok_iff, ne_eq, not_not, Nat.not_lt]
  constructor
  · rintro ⟨hlong, hlength, hcrc, hversion, htype, hflag, hapid, hpus, -⟩
    exact ⟨hlong, hlength, hcrc, hversion, htype, hflag, hapid, hpus⟩
  · intro h
    exact ⟨h.long, h.declaredLength, h.checksum, h.version, h.packetType, h.secHdrFlag, h.apid,
      h.pusVersion, trivial⟩

/-- The octets are accepted as a telecommand, counted and handed to the service router. -/
def Executed (s : Obsw) (octets : List UInt8) : Prop :=
  ∃ tc, pusTcParse (some octets) octets.length = .ok tc ∧
    (atService s tc).state.tcAccepted = saturatingSucc s.state.tcAccepted ∧
    obcProcessTc s (some octets) octets.length = closeTc tc (obcRoute (atService s tc) tc)

theorem executed_iff (s : Obsw) (octets : List UInt8) : Executed s octets ↔ Addressed octets := by
  rw [← firstFailing_ok_iff]
  constructor
  · rintro ⟨tc, hparse, -⟩
    exact (pusTcParse_ok hparse).1
  · intro hok
    have hparse : pusTcParse (some octets) octets.length = .ok (decodedTc octets) := by
      rw [pusTcParse_eq, if_pos hok]
    have hcount := congrArg Control.state (evolves_atService s (decodedTc octets)).controlled
    exact ⟨_, hparse, congrArg ObcState.tcAccepted hcount, obcProcessTc_routed hparse⟩

/-- No segment is executed exactly where the octets are not a segment that is addressed to
the unit: in every state, all octets that are addressed to it are counted and executed. -/
theorem segment_not_executed_iff (s : Obsw) (stimuli : List Stimulus) (octets : List UInt8) :
    ((Executed (after s stimuli).obsw octets → sequenceFlags octets = unsegmented) ↔
      ¬(Addressed octets ∧ sequenceFlags octets ≠ unsegmented)) ∧
    (Executed (after s stimuli).obsw octets ↔ Addressed octets) := by
  refine ⟨?_, executed_iff _ octets⟩
  rw [executed_iff]
  constructor
  · rintro h ⟨haddressed, hflags⟩
    exact hflags (h haddressed)
  · intro h haddressed
    by_contra hflags
    exact h ⟨haddressed, hflags⟩

/-- The first segment of a telecommand whose data so far orders NOMINAL mode. -/
def firstSegment : List UInt8 := [24, 12, 64, 0, 0, 8, 32, 8, 1, 0, 0, 1, 1, 147, 100]

/-- It is executed in the first state after power-on: it is counted, and the mode changes. -/
theorem first_segment_executed :
    ¬(Executed (after default []).obsw firstSegment →
        sequenceFlags firstSegment = unsegmented) ∧
      (after default []).obsw.state.mode = .safe ∧
      (after default [.telecommand firstSegment]).obsw.state.mode = .nominal ∧
      (after default [.telecommand firstSegment]).obsw.state.tcAccepted = 1 := by
  refine ⟨?_, by decide +kernel, by decide +kernel, by decide +kernel⟩
  intro h
  have hok : firstFailing firstSegment = .ok := by decide +kernel
  rw [executed_iff, ← firstFailing_ok_iff] at h
  exact absurd (h hok) (by decide)

end ObswPus.Commanding
