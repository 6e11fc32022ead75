import ObswPus.Ground.ParsedTelemetry
import ObswPus.Downlink.Ledger

/-! # The round trip of telemetry

What the on-board builder makes of source data that fits its buffer, ground decodes to the
same data, and the build leaves its mark on two counters alone. A build that is refused
leaves no mark at all.
-/
namespace ObswPus.Ground
open Flight Downlink Library

/-- A build in state `s` whose octets ground decodes to what was built, and which advances the
sequence count and the counter of its service by one. -/
structure RoundTrip (s : Obsw) (service subtype : UInt8) (data : List UInt8)
    (built : BuildResult) : Prop where
  status : built.status = .ok
  outLen : built.outLen = some (21 + data.length)
  parsed : parseTm ((built.buf.getD []).take (21 + data.length)) =
    .ok
      { apid := 0x00C
        seqCount := s.tm.seqCount.toNat % 16384
        service := service.toNat
        subtype := subtype.toNat
        msgCounter := (s.tm.msgCounter.get service.toNat).toNat
        destinationId := 1
        timeCoarse := (halGetCucTime s.hal).1.toNat
        timeFine := (halGetCucTime s.hal).2.toNat
        data := data
        raw := (built.buf.getD []).take (21 + data.length) }
  seqCount : built.obsw.tm.seqCount.toNat = (s.tm.seqCount.toNat + 1) % 16384
  msgCounter : ∀ other : UInt8, (built.obsw.tm.msgCounter.get other.toNat).toNat =
    if service = other then ((s.tm.msgCounter.get other.toNat).toNat + 1) % 65536
    else (s.tm.msgCounter.get other.toNat).toNat
  frame : built.obsw = { s with tm := built.obsw.tm }

/-- The build of a report, octet by octet, and the packet it decodes to. -/
theorem roundTrip_report (s : Obsw) (r : Report) (buf : List UInt8) :
    RoundTrip s r.service r.subtype r.data
      ⟨.ok, some (storeAt buf 0 (tmPacket s.tm (halGetCucTime s.hal) r)),
        some (pusTmMinLen + r.data.length), { s with tm := countPacket s.tm r.service }⟩ := by
  have htake : (storeAt buf 0 (tmPacket s.tm (halGetCucTime s.hal) r)).take
      (21 + r.data.length) = tmPacket s.tm (halGetCucTime s.hal) r := by
    have hlen := tmPacket_length s.tm (halGetCucTime s.hal) r
    have hstored := take_storeAt_zero buf (tmPacket s.tm (halGetCucTime s.hal) r)
    rwa [hlen] at hstored
  constructor
  · rfl
  · rfl
  · rw [Option.getD_some, htake, parseTm_tmPacket]
    rfl
  · exact seqCount_countPacket s.tm r.service
  · exact msgCounter_countPacket s.tm r.service
  · rfl

theorem pusTmBuild_refused {s : Obsw} {buf src : Option (List UInt8)} {cap srcLen : ℕ}
    {service subtype : UInt8} {out : Option ℕ}
    (h : (pusTmBuild s buf cap service subtype src srcLen out).status ≠ .ok) :
    (pusTmBuild s buf cap service subtype src srcLen out).buf = buf ∧
      (pusTmBuild s buf cap service subtype src srcLen out).outLen = out ∧
      (pusTmBuild s buf cap service subtype src srcLen out).obsw = s := by
  have hpack (hdr : CcsdsPrimaryHeader) (hfail : (ccsdsPackPrimary (some hdr) buf cap).1 ≠ .ok) :
      (ccsdsPackPrimary (some hdr) buf cap).2 = buf := by
    unfold ccsdsPackPrimary at hfail ⊢
    split
    · split
      · rfl
      · rename_i hroom
        exact absurd (by simp [hroom]) hfail
    · rfl
  obtain ⟨built, hbuilt⟩ : ∃ built, pusTmBuild s buf cap service subtype src srcLen out = built :=
    ⟨_, rfl⟩
  rw [hbuilt] at h ⊢
  unfold pusTmBuild at hbuilt
  split at hbuilt
  · rw [← hbuilt]
    exact ⟨rfl, rfl, rfl⟩
  split at hbuilt
  · rw [← hbuilt]
    exact ⟨rfl, rfl, rfl⟩
  dsimp only at hbuilt
  split at hbuilt
  · rw [← hbuilt]
    exact ⟨rfl, rfl, rfl⟩
  split at hbuilt
  · rename_i hfail
    rw [← hbuilt]
    exact ⟨hpack _ hfail, rfl, rfl⟩
  · rw [← hbuilt] at h
    exact absurd rfl h

/-- Source data that fits buffer and packet is built, sent to ground and decoded there without
loss, whatever the counters and the clock hold; a build that is refused changes neither
buffer nor counters. -/
theorem telemetry_round_trip (s : Obsw) (cap : ℕ) (service subtype : UInt8) :
    (∀ (buf data : List UInt8) (src : Option (List UInt8)) (n : ℕ),
      (src.getD []).take data.length = data → 21 + data.length ≤ min cap 256 →
      RoundTrip s service subtype data
        (pusTmBuild s (some buf) cap service subtype src data.length (some n))) ∧
    ∀ (buf src : Option (List UInt8)) (srcLen : ℕ) (out : Option ℕ),
      (pusTmBuild s buf cap service subtype src srcLen out).status ≠ .ok →
      (pusTmBuild s buf cap service subtype src srcLen out).buf = buf ∧
        (pusTmBuild s buf cap service subtype src srcLen out).outLen = out ∧
        (pusTmBuild s buf cap service subtype src srcLen out).obsw = s := by
  constructor
  · intro buf data src n hsrc hfits
    obtain ⟨r, rfl, rfl, rfl⟩ :
        ∃ r : Report, r.service = service ∧ r.subtype = subtype ∧ r.data = data :=
      ⟨⟨service, subtype, data, hfits.trans (Nat.min_le_right _ _)⟩, rfl, rfl, rfl⟩
    rw [pusTmBuild_of_source hsrc s buf cap n (hfits.trans (Nat.min_le_left _ _))]
    exact roundTrip_report s r buf
  · exact fun _ _ _ _ => pusTmBuild_refused

/-- Two octets of source data in the smallest buffer that takes them, and the same in one that
is an octet too small. -/
theorem telemetry_round_trip_fitting :
    RoundTrip default 17 2 [0xAB, 0xCD] (pusTmBuild default (some (List.replicate 23 0)) 23 17 2
        (some [0xAB, 0xCD]) 2 (some 0)) ∧
      (pusTmBuild default (some (List.replicate 22 0)) 22 17 2 (some [0xAB, 0xCD]) 2
        (some 0)).obsw = default :=
  ⟨(telemetry_round_trip default 23 17 2).1 (List.replicate 23 0) [0xAB, 0xCD]
      (some [0xAB, 0xCD]) 0 rfl (by decide),
    ((telemetry_round_trip default 22 17 2).2 (some (List.replicate 22 0)) (some [0xAB, 0xCD]) 2
      (some 0) (by decide)).2.2⟩

end ObswPus.Ground
