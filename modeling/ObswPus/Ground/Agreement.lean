import ObswPus.Ground.BuiltPacket

/-! # Ground and flight agree on telecommands

What the ground builder writes with default header options, the parser decodes to the
values it was built from. What it writes with one defective option, the parser rejects
with the failure code documented for that defect.
-/
namespace ObswPus.Ground
open Flight Codec

section Decodes
variable (a : TcArguments)

/-- The parser decodes exactly what the builder was given. -/
structure Decodes (tc : PusTc) : Prop where
  service : tc.serviceType.toNat = a.service
  subtype : tc.serviceSubtype.toNat = a.subtype
  sourceId : tc.sourceId.toNat = a.sourceId
  ack : tc.ackFlags.toNat = a.ack
  seqCount : tc.prim.seqCount.toNat = a.seqCount
  dataLen : tc.appDataLen = a.data.length
  data : (tc.appData.getD []).take tc.appDataLen = a.data

structure InRange : Prop where
  service : a.service < 256
  subtype : a.subtype < 256
  ack : a.ack < 16
  seqCount : a.seqCount < 16384

theorem applicationData_builtPacket :
    ((decodedTc (builtPacket a)).appData.getD []).take (decodedTc (builtPacket a)).appDataLen =
      a.data := by
  have hlen := length_builtPacket a
  have hdrop : (builtPacket a).drop 11 = a.data ++ bigEndian2 (packetCrc a) := rfl
  have hcount : (builtPacket a).length - 13 = a.data.length := by omega
  simp only [decodedTc, hcount, hdrop]
  split
  · exact List.take_left
  · rename_i hempty
    have hnil : a.data = [] := List.length_eq_zero_iff.mp (by omega)
    rw [hnil]
    rfl

variable {a} in
theorem decodes_builtPacket (h : InRange a) (hsource : a.sourceId < 65536) :
    Decodes a (decodedTc (builtPacket a)) := by
  obtain ⟨-, -, h2, h3, -, -, h6⟩ := octetAt_builtPacket a
  have hservice := h.service
  have hsubtype := h.subtype
  have hack := h.ack
  have hcount := h.seqCount
  constructor
  case service =>
    have hoctet : octetAt (builtPacket a) 7 = a.service % 256 := toNat_ofNat_octet (by omega)
    exact hoctet.trans (Nat.mod_eq_of_lt hservice)
  case subtype =>
    have hoctet : octetAt (builtPacket a) 8 = a.subtype % 256 := toNat_ofNat_octet (by omega)
    exact hoctet.trans (Nat.mod_eq_of_lt hsubtype)
  case sourceId =>
    have hhigh : octetAt (builtPacket a) 9 = a.sourceId / 256 := toNat_ofNat_octet (by omega)
    have hlow : octetAt (builtPacket a) 10 = a.sourceId % 256 := toNat_ofNat_octet (by omega)
    rw [decodedTc, toNat_pusGetU16_drop, hhigh, hlow]
    omega
  case ack =>
    have hmask := Nat.and_two_pow_sub_one_eq_mod (octetAt (builtPacket a) 6) 4
    simp only [Nat.reducePow, Nat.add_one_sub_one] at hmask
    have hnibble : (decodedTc (builtPacket a)).ackFlags.toNat = octetAt (builtPacket a) 6 &&& 15 :=
      UInt8.toNat_and _ _
    rw [hnibble, hmask, h6, versionAck]
    omega
  case seqCount =>
    have hfield := toNat_lowField (pusGetU16 ((builtPacket a).drop 2)) 0x3FFF 14 rfl
    rw [toNat_pusGetU16_drop, h2, h3] at hfield
    have hflags : seqFlagUnsegmented = 3 := rfl
    apply hfield.trans
    rw [headerWord1]
    omega
  case dataLen =>
    rw [decodedTc, length_builtPacket]
    rfl
  case data => exact applicationData_builtPacket a

end Decodes

/-- The header options are left at their defaults. -/
structure DefaultHeader (a : TcArguments) : Prop where
  apid : a.apid = obcApid
  pusVersion : a.pusVersion = pusVersionC
  ccsdsVersion : a.ccsdsVersion = 0
  packetType : a.packetType = 1
  secHdrFlag : a.secHdrFlag = 1
  declaredLength : a.declaredLength = none
  validCrc : a.validCrc = true

/-- One header option with another value than its default. -/
inductive HeaderDefect where
  | ccsdsVersion (v : ℕ)
  | packetType (v : ℕ)
  | secHdrFlag (v : ℕ)
  | apid (v : ℕ)
  | pusVersion (v : ℕ)
  | declaredLength (v : ℕ)
  | crc

namespace HeaderDefect

def inject (a : TcArguments) : HeaderDefect → TcArguments
  | .ccsdsVersion v => { a with ccsdsVersion := v }
  | .packetType v => { a with packetType := v }
  | .secHdrFlag v => { a with secHdrFlag := v }
  | .apid v => { a with apid := v }
  | .pusVersion v => { a with pusVersion := v }
  | .declaredLength v => { a with declaredLength := some v }
  | .crc => { a with validCrc := false }

/-- The value is still another one when it has been cut to the width of its field. -/
def Defective (a : TcArguments) : HeaderDefect → Prop
  | .ccsdsVersion v => v % 8 ≠ 0
  | .packetType v => v % 2 ≠ 1
  | .secHdrFlag v => v % 2 ≠ 1
  | .apid v => v % 2048 ≠ obcApid
  | .pusVersion v => v % 16 ≠ pusVersionC
  | .declaredLength v => v % 65536 ≠ a.data.length + 6
  | .crc => True

/-- The failure code documented for the defect. -/
def code : HeaderDefect → PusStatus
  | .ccsdsVersion _ => .badVersion
  | .packetType _ => .badPacketType
  | .secHdrFlag _ => .noSecHeader
  | .apid _ => .badApid
  | .pusVersion _ => .badVersion
  | .declaredLength _ => .badLength
  | .crc => .badCrc

end HeaderDefect

/-- With default header options the parser decodes exactly what the builder was given, up to the
longest packet that the length field can express. With one defective option it returns the
failure code documented for it, whatever the other arguments are. -/
theorem ground_and_flight_agree (a : TcArguments) (hheader : DefaultHeader a)
    (hsource : a.sourceId < 65536) (hdata : a.data.length ≤ 65529) :
    (InRange a → ∃ packet tc, buildTc a = some packet ∧
      pusTcParse (some packet) packet.length = .ok tc ∧ Decodes a tc) ∧
    ∀ defect : HeaderDefect, defect.Defective a →
      ∃ packet, buildTc (defect.inject a) = some packet ∧
        pusTcParse (some packet) packet.length = .error defect.code := by
  obtain ⟨hapid, hpus, hversion, htype, hflag, hlength, hcrc⟩ := hheader
  have hlong : (a.data.length + 6) % 65536 = a.data.length + 6 := Nat.mod_eq_of_lt (by omega)
  have hobc : obcApid % 2048 = 0x00C := rfl
  have hpusC : pusVersionC % 16 = 2 := rfl
  constructor
  · intro hrange
    have hpass : firstFailing (builtPacket a) = .ok := by
      rw [firstFailing_builtPacket]
      simp [lengthField, hlength, hlong, hcrc, hversion, htype, hflag, hapid, hobc, hpus, hpusC]
    refine ⟨builtPacket a, decodedTc (builtPacket a), buildTc_eq a hsource, ?_,
      decodes_builtPacket hrange hsource⟩
    rw [pusTcParse_eq, if_pos hpass]
  · intro defect hdefect
    have hfail : firstFailing (builtPacket (defect.inject a)) = defect.code := by
      rw [firstFailing_builtPacket]
      cases defect <;> simp only [HeaderDefect.Defective] at hdefect <;>
        simp [HeaderDefect.inject, HeaderDefect.code, hdefect, lengthField, hlength, hlong, hcrc,
          hversion, htype, hflag, hapid, hobc, hpus]
    have hcode : defect.code ≠ .ok := by cases defect <;> simp [HeaderDefect.code]
    refine ⟨builtPacket (defect.inject a), ?_, ?_⟩
    · have hsame : (defect.inject a).sourceId = a.sourceId := by cases defect <;> rfl
      exact buildTc_eq _ (hsame ▸ hsource)
    · rw [pusTcParse_eq, hfail, if_neg hcode]

def nominalArguments : TcArguments :=
  { service := 8
    subtype := 1
    data := [1, 1]
    seqCount := 5 }

theorem ground_and_flight_agree_nominal :
    (∃ packet tc, buildTc nominalArguments = some packet ∧
        pusTcParse (some packet) packet.length = .ok tc ∧ Decodes nominalArguments tc) ∧
      ∃ packet, buildTc { nominalArguments with apid := 0x2A } = some packet ∧
        pusTcParse (some packet) packet.length = .error .badApid := by
  have hagree := ground_and_flight_agree nominalArguments
    ⟨rfl, rfl, rfl, rfl, rfl, rfl, rfl⟩ (by decide) (by decide)
  exact ⟨hagree.1 ⟨by decide, by decide, by decide, by decide⟩,
    hagree.2 (.apid 0x2A) (by simp [HeaderDefect.Defective])⟩

end ObswPus.Ground
