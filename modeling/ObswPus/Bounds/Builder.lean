import ObswPus.Bounds.Telemetry

/-! # The packet builder and the end of its buffer

The builder past its guard stores header, source data and checksum one behind the other,
from the start of the buffer on. So only the guard keeps it within the buffer, and the sum
that the guard compares is a wrapping one: this is where the two sizes matter in full.
-/
namespace ObswPus.Bounds
open Flight Library Access Downlink
variable {fuel : ℕ}

theorem wrappedSum {srcLen : ℕ} (hlen : srcLen < sizeModulus) (hwraps : sizeModulus ≤ 21 + srcLen) :
    (21 + srcLen) % sizeModulus = 21 + srcLen - sizeModulus := by
  have hsize : 21 ≤ sizeModulus := by decide
  rw [Nat.mod_eq_sub_mod hwraps, Nat.mod_eq_of_lt (by omega)]

section Builder
variable (s : Obsw) (service subtype : UInt8) {buf src : List UInt8} {srcLen : ℕ} (n : ℕ)

theorem pusTmBuild_refuses (h : buf.length < (21 + srcLen) % sizeModulus ∨
    256 < (21 + srcLen) % sizeModulus) :
    pusTmBuild fuel s (some buf) buf.length service subtype (some src) srcLen (some n) =
      .ok ⟨.bufferTooSmall, some buf, some n, s⟩ := by
  have hguard : buf.length < (pusTmMinLen + srcLen) % sizeModulus ∨
      pusMaxPacketSize < (pusTmMinLen + srcLen) % sizeModulus := h
  simp only [pusTmBuild, Option.isNone_some, Bool.false_eq_true, or_self, if_false, false_and,
    if_pos hguard]
  rfl

/-- Past the guard, the primary header has a guard of its own. -/
theorem pusTmBuild_short (hheader : buf.length < 6)
    (hcap : (21 + srcLen) % sizeModulus ≤ buf.length) :
    pusTmBuild fuel s (some buf) buf.length service subtype (some src) srcLen (some n) =
      .ok ⟨.bufferTooSmall, some buf, some n, s⟩ := by
  have hguard : ¬(buf.length < (pusTmMinLen + srcLen) % sizeModulus ∨
      pusMaxPacketSize < (pusTmMinLen + srcLen) % sizeModulus) := by
    have hmin : pusTmMinLen = 21 := rfl
    have hmax : pusMaxPacketSize = 256 := rfl
    rw [hmin, hmax]
    omega
  have hroom : buf.length < ccsdsPrimaryHeaderLen := hheader
  simp only [pusTmBuild, Option.isNone_some, Bool.false_eq_true, or_self, if_false, false_and,
    if_neg hguard, ccsdsPackPrimary_eq _ le_rfl, ok_bind, Flight.ccsdsPackPrimary, if_pos hroom]
  rfl

/-- A sum that wraps to no more than the capacity passes the guard, and the first octet that
does not fit is written right behind the buffer. -/
theorem pusTmBuild_overruns (hfuel : sizeModulus ≤ fuel) (hbuf : buf.length < sizeModulus)
    (hlen : srcLen < sizeModulus) (hsrc : srcLen ≤ src.length) (hwraps : sizeModulus ≤ 21 + srcLen)
    (hheader : 6 ≤ buf.length) (hcap : 21 + srcLen - sizeModulus ≤ buf.length) :
    pusTmBuild fuel s (some buf) buf.length service subtype (some src) srcLen (some n) =
      .error (.outOfBounds buf.length buf.length) := by
  have hsize : 276 ≤ sizeModulus := by decide
  have hmax : pusMaxPacketSize = 256 := rfl
  have htake : ((some src).getD []).take srcLen = src.take srcLen := rfl
  have hdata : (src.take srcLen).length = srcLen := List.length_take_of_le hsrc
  rw [pusTmBuild_stored s service subtype n (wrappedSum hlen hwraps) hcap (by omega) hheader le_rfl
    htake hdata (by omega) (by omega) (by omega), stored_of_lt, error_bind]
  rw [length_storedPacket, hdata]
  exact hbuf.trans_le hwraps

/-- The builder comes to an end within the buffer, and answers by the true length. -/
def WithinBuffer (fuel : ℕ) (s : Obsw) (buf : List UInt8) (service subtype : UInt8)
    (src : List UInt8) (srcLen n : ℕ) : Prop :=
  ∃ built,
    pusTmBuild fuel s (some buf) buf.length service subtype (some src) srcLen (some n) =
        .ok built ∧
      built.status = if 21 + srcLen ≤ min buf.length 256 then .ok else .bufferTooSmall

variable {s service subtype n}

theorem withinBuffer_of_refused (hlarge : ¬21 + srcLen ≤ min buf.length 256)
    (h : pusTmBuild fuel s (some buf) buf.length service subtype (some src) srcLen (some n) =
      .ok ⟨.bufferTooSmall, some buf, some n, s⟩) :
    WithinBuffer fuel s buf service subtype src srcLen n :=
  ⟨_, h, (if_neg hlarge).symm⟩

theorem withinBuffer_of_fits (hfuel : sizeModulus ≤ fuel) (hbuf : buf.length < sizeModulus)
    (hlen : srcLen < sizeModulus) (hsrc : srcLen ≤ src.length)
    (hfits : 21 + srcLen ≤ min buf.length 256) :
    WithinBuffer fuel s buf service subtype src srcLen n := by
  have hsize : 276 ≤ sizeModulus := by decide
  have hmax : pusMaxPacketSize = 256 := rfl
  have hsum : (21 + srcLen) % sizeModulus = 21 + srcLen := Nat.mod_eq_of_lt (by omega)
  have htake : ((some src).getD []).take srcLen = src.take srcLen := rfl
  have hdata : (src.take srcLen).length = srcLen := List.length_take_of_le hsrc
  have hlength := length_storedPacket s.tm (halGetCucTime s.hal) service subtype (21 + srcLen)
    (src.take srcLen)
  rw [WithinBuffer, pusTmBuild_stored s service subtype n hsum (by omega) (by omega) (by omega)
    le_rfl htake hdata (by omega) (by omega) (by omega), stored_of_le (by omega), ok_bind,
    if_pos hfits]
  exact ⟨_, rfl, rfl⟩

/-- The builder stays within its buffer and answers by the true length exactly if the sum that
its guard compares does not wrap, or is refused nevertheless. -/
theorem builder_within_buffer_iff (hfuel : sizeModulus ≤ fuel) (hbuf : buf.length < sizeModulus)
    (hlen : srcLen < sizeModulus) (hsrc : srcLen ≤ src.length) :
    WithinBuffer fuel s buf service subtype src srcLen n ↔
      21 + srcLen < sizeModulus ∨ buf.length < 6 ∨ buf.length < 21 + srcLen - sizeModulus := by
  constructor
  · rintro ⟨built, hbuilt, -⟩
    by_contra hnone
    have hoverrun := pusTmBuild_overruns s service subtype n hfuel hbuf hlen hsrc (by omega)
      (by omega) (by omega)
    rw [hbuilt] at hoverrun
    cases hoverrun
  · intro hguarded
    by_cases hfits : 21 + srcLen ≤ min buf.length 256
    · exact withinBuffer_of_fits hfuel hbuf hlen hsrc hfits
    · apply withinBuffer_of_refused hfits
      by_cases hwraps : sizeModulus ≤ 21 + srcLen
      · have hsum := wrappedSum hlen hwraps
        by_cases hcap : buf.length < 21 + srcLen - sizeModulus
        · exact pusTmBuild_refuses s service subtype n (by omega)
        · exact pusTmBuild_short s service subtype n (by omega) (hsum.trans_le (Nat.not_lt.mp hcap))
      · have hsum : (21 + srcLen) % sizeModulus = 21 + srcLen := Nat.mod_eq_of_lt (by omega)
        exact pusTmBuild_refuses s service subtype n (by omega)

theorem builder_within_buffer_iff_fitting :
    WithinBuffer sizeModulus default (List.replicate 23 0) 17 2 [0xAB, 0xCD] 2 0 :=
  (builder_within_buffer_iff le_rfl (by decide) (by decide) (by decide)).mpr (.inl (by decide))

end Builder

/-- The longest source data there is wraps the sum to 20, and a full-size buffer is overrun. -/
theorem pusTmBuild_overruns_longest :
    pusTmBuild sizeModulus default (some (List.replicate 256 0)) 256 17 2
        (some (List.replicate (2 ^ 64 - 1) 0)) (2 ^ 64 - 1) (some 0) =
        .error (.outOfBounds 256 256) ∧
      ¬WithinBuffer sizeModulus default (List.replicate 256 0) 17 2
        (List.replicate (2 ^ 64 - 1) 0) (2 ^ 64 - 1) 0 := by
  have hbuf : (List.replicate 256 (0 : UInt8)).length = 256 := List.length_replicate
  have hsrc : (List.replicate (2 ^ 64 - 1) (0 : UInt8)).length = 2 ^ 64 - 1 :=
    List.length_replicate
  have hmod : sizeModulus = 2 ^ 64 := rfl
  have hoverrun : pusTmBuild sizeModulus default (some (List.replicate 256 0))
      (List.replicate 256 (0 : UInt8)).length 17 2 (some (List.replicate (2 ^ 64 - 1) 0))
      (2 ^ 64 - 1) (some 0) = .error (.outOfBounds _ _) :=
    pusTmBuild_overruns default 17 2 0 le_rfl (by omega) (by omega) hsrc.ge (by omega) (by omega)
      (by omega)
  constructor
  · rwa [hbuf] at hoverrun
  · rintro ⟨built, hbuilt, -⟩
    rw [hbuilt] at hoverrun
    cases hoverrun

end ObswPus.Bounds
