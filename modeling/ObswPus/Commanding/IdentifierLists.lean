import ObswPus.Commanding.Refinement
import ObswPus.Commanding.Effect

/-! # Identifier lists

The two telecommand pairs that switch reports on and off take a list of identifiers, led
by its count. Here the list is read off the application data alone, whatever the width of
an identifier, and both handlers are this reading followed by one simultaneous switch.
-/
namespace ObswPus.Commanding
open Flight Downlink Library

structure Carries (tc : PusTc) (d : List UInt8) : Prop where
  length : tc.appDataLen = d.length
  data : applicationData tc = d

/-- How many octets an identifier has, the range from 1 that it lies in, and the status that
refuses any other. -/
structure ListFormat where
  width : ℕ
  maxId : ℕ
  unknown : PusStatus

def hkFormat : ListFormat := ⟨1, 2, .unknownSid⟩

def eventFormat : ListFormat := ⟨2, 8, .unknownEvent⟩

/-- The count octet of a list; zero for a list without one. -/
def announcedCount (d : List UInt8) : ℕ := (d.getD 0 0).toNat

namespace ListFormat
variable (f : ListFormat) (d : List UInt8)

def identifiers : List ℕ :=
  (List.range (announcedCount d)).map fun i =>
    BigEndian.value ((d.drop (1 + i * f.width)).take f.width)

def status : PusStatus :=
  if d = [] ∨ d.length ≠ 1 + announcedCount d * f.width then .badLength
  else if announcedCount d = 0 then .badParameter
  else if ∃ id ∈ f.identifiers d, ¬(1 ≤ id ∧ id ≤ f.maxId) then f.unknown
  else .ok

variable {f d}

theorem of_status_ok (hunknown : f.unknown ≠ .ok) (hok : f.status d = .ok) :
    d.length = 1 + announcedCount d * f.width ∧ ∀ id ∈ f.identifiers d, 1 ≤ id := by
  unfold status at hok
  split_ifs at hok with hlen hcount hbad
  · exact absurd hok hunknown
  · refine ⟨not_not.mp (not_or.mp hlen).2, fun id hid => ?_⟩
    by_contra hzero
    exact hbad ⟨id, hid, fun hrange => hzero hrange.1⟩

end ListFormat

/-- The flags of the listed identifiers, which count from one, have the commanded value and
the others keep theirs. -/
def switchListed {n : ℕ} (ids : List ℕ) (on : Bool) (flags : FixedArray n Bool) :
    FixedArray n Bool :=
  fun i => if i.val + 1 ∈ ids then on else flags i

theorem foldl_set_eq_switchListed {n : ℕ} {ids : List ℕ} (hpos : ∀ id ∈ ids, 1 ≤ id) (on : Bool)
    (flags : FixedArray n Bool) :
    ids.foldl (fun flags id => flags.set (id - 1) on) flags = switchListed ids on flags := by
  have hmap : ids.foldl (fun flags id => flags.set (id - 1) on) flags =
      (ids.map (· - 1)).foldl (fun flags i => flags.set i on) flags := by
    rw [List.foldl_map]
  have hmem (i : ℕ) : i ∈ ids.map (· - 1) ↔ i + 1 ∈ ids := by
    rw [List.mem_map]
    constructor
    · rintro ⟨id, hid, rfl⟩
      rwa [Nat.sub_add_cancel (hpos id hid)]
    · intro hi
      exact ⟨i + 1, hi, Nat.add_sub_cancel i 1⟩
  funext i
  rw [hmap, FixedArray.foldl_set_apply, switchListed]
  simp only [hmem]

section Carries
variable {tc : PusTc} {d : List UInt8} (h : Carries tc d)
include h

theorem Carries.octet {i : ℕ} (hi : i < d.length) :
    pusGetU8 (tc.appDataAt i) = d.getD i 0 := by
  rw [pusGetU8_appDataAt (h.length.symm ▸ hi), h.data]

theorem Carries.listCount (hpos : 0 < d.length) : listCount tc = announcedCount d := by
  rw [Commanding.listCount, h.octet hpos]
  rfl

theorem Carries.value_sidAt {i : ℕ} (hi : 1 + i < d.length) :
    BigEndian.value ((d.drop (1 + i)).take 1) = (sidAt tc i).toNat := by
  have hget : d.getD (1 + i) 0 = d[1 + i] := by simp [hi]
  rw [sidAt, h.octet hi, hget, List.drop_eq_getElem_cons hi, List.take_succ_cons, List.take_zero,
    BigEndian.value_singleton]

theorem Carries.value_eventIdAt {i : ℕ} (hi : 2 + i * 2 < d.length) :
    BigEndian.value ((d.drop (1 + i * 2)).take 2) = (eventIdAt tc i).toNat := by
  have hfirst : 1 + i * 2 < d.length := by omega
  have hsecond : 1 + i * 2 + 1 < d.length := by omega
  have hword : eventIdAt tc i = ((pusGetU8 (tc.appDataAt (1 + i * 2))).toUInt16 <<< 8) |||
      (pusGetU8 (tc.appDataAt (1 + i * 2 + 1))).toUInt16 := pusGetU16_appDataAt tc (1 + i * 2)
  have hget : d.getD (1 + i * 2) 0 = d[1 + i * 2] := by simp [hfirst]
  have hget' : d.getD (1 + i * 2 + 1) 0 = d[1 + i * 2 + 1] := by simp [hsecond]
  rw [hword, BigEndian.toNat_join16, h.octet hfirst, h.octet hsecond, hget, hget',
    List.drop_eq_getElem_cons hfirst, List.take_succ_cons, List.drop_eq_getElem_cons hsecond,
    List.take_succ_cons, List.take_zero, BigEndian.value_pair]

/-- The checks of the code come to the status of the list, whatever it holds. -/
theorem Carries.checkList {α : Type} (f : ListFormat) (hunknown : f.unknown ≠ .ok) {ids : List α}
    {toNat : α → ℕ} {valid : α → Bool}
    (hids : d.length = 1 + announcedCount d * f.width → ids.map toNat = f.identifiers d)
    (hvalid : ∀ id, valid id = true ↔ 1 ≤ toNat id ∧ toNat id ≤ f.maxId) :
    checkList tc f.width ids valid f.unknown =
      if f.status d = .ok then .ok ids else .error (f.status d) := by
  rw [Commanding.checkList, ListFormat.status, h.length]
  by_cases hempty : d = []
  · simp [hempty]
  have hpos : 0 < d.length := List.length_pos_iff.mpr hempty
  have hlong : ¬d.length < 1 := by omega
  rw [h.listCount hpos]
  by_cases hlen : d.length = 1 + announcedCount d * f.width
  · by_cases hcount : announcedCount d = 0
    · simp [hempty, hlen, hcount]
    have hany : (ids.any fun id => !valid id) = true ↔
        ∃ id ∈ f.identifiers d, ¬(1 ≤ id ∧ id ≤ f.maxId) := by
      simp only [← hids hlen, List.any_eq_true, List.mem_map, exists_exists_and_eq_and,
        Bool.not_eq_true', ← Bool.not_eq_true, hvalid]
    simp only [hempty, hlong, ← hlen, hcount, ne_eq, not_true_eq_false, or_self, if_false, hany]
    by_cases hbad : ∃ id ∈ f.identifiers d, ¬(1 ≤ id ∧ id ≤ f.maxId)
    · simp only [if_pos hbad, if_neg hunknown]
    · simp only [if_neg hbad, if_true]
  · simp [hempty, hlong, hlen]

theorem Carries.map_listedSids
    (hlen : d.length = 1 + announcedCount d * hkFormat.width) :
    (listedSids tc).map UInt8.toNat = hkFormat.identifiers d := by
  have hwidth : hkFormat.width = 1 := rfl
  rw [listedSids, List.map_map, ListFormat.identifiers, h.listCount (by omega)]
  refine List.map_congr_left fun i hi => ?_
  have hi' := List.mem_range.mp hi
  rw [hwidth] at hlen ⊢
  rw [Nat.mul_one, h.value_sidAt (by omega)]
  rfl

theorem Carries.map_listedEvents
    (hlen : d.length = 1 + announcedCount d * eventFormat.width) :
    (listedEvents tc).map UInt16.toNat = eventFormat.identifiers d := by
  have hwidth : eventFormat.width = 2 := rfl
  rw [listedEvents, List.map_map, ListFormat.identifiers, h.listCount (by omega)]
  refine List.map_congr_left fun i hi => ?_
  have hi' := List.mem_range.mp hi
  rw [hwidth] at hlen ⊢
  rw [h.value_eventIdAt (by omega)]
  rfl

theorem Carries.checkSids :
    checkSids tc =
      if hkFormat.status d = .ok then .ok (listedSids tc) else .error (hkFormat.status d) := by
  refine h.checkList hkFormat (by decide) h.map_listedSids fun sid => ?_
  simp only [svc03SidValid, decide_eq_true_eq, UInt8.le_iff_toNat_le]
  rfl

theorem Carries.checkEvents :
    checkEvents tc =
      if eventFormat.status d = .ok then .ok (listedEvents tc)
      else .error (eventFormat.status d) := by
  refine h.checkList eventFormat (by decide) h.map_listedEvents fun id => ?_
  simp only [svc05IdValid, decide_eq_true_eq, UInt16.le_iff_toNat_le]
  rfl

end Carries

/-- The handler validates the list in full before it switches anything: it returns the status
of the application data, which decides between all of the switch and none of it. -/
theorem identifier_lists_exact (s : Obsw) {tc : PusTc} {d : List UInt8} (h : Carries tc d)
    (on : Bool) :
    (tc.serviceSubtype = (if on then pusSt03Enable else pusSt03Disable) →
      svc03Handle s (some tc) =
        (hkFormat.status d,
          if hkFormat.status d = .ok then
            { s with svc03 := { s.svc03 with
              enabled := switchListed (hkFormat.identifiers d) on s.svc03.enabled } }
          else s)) ∧
    (tc.serviceSubtype = (if on then pusSt05Enable else pusSt05Disable) →
      svc05Handle s (some tc) =
        (eventFormat.status d,
          if eventFormat.status d = .ok then
            { s with svc05 := { s.svc05 with
              enabled := switchListed (eventFormat.identifiers d) on s.svc05.enabled } }
          else s)) := by
  constructor
  · intro hsubtype
    have hhandle : svc03Handle s (some tc) = svc03ApplyList s tc on false := by
      rw [svc03Handle, hsubtype]
      cases on <;> rfl
    rw [hhandle, svc03ApplyList_eq, h.checkSids]
    by_cases hok : hkFormat.status d = .ok
    · obtain ⟨hlen, hpos⟩ := ListFormat.of_status_ok (by decide) hok
      rw [if_pos hok, if_pos hok, hok]
      have hlisted : (List.range (listCount tc)).map (sidAt tc) = listedSids tc := rfl
      dsimp only
      rw [svc03ApplyFrom_switch, hlisted, ← foldl_set_eq_switchListed hpos,
        ← h.map_listedSids hlen, List.foldl_map]
    · simp only [if_neg hok]
  · intro hsubtype
    have hhandle : svc05Handle s (some tc) = svc05SetEnabled s tc on := by
      rw [svc05Handle, hsubtype]
      cases on <;> rfl
    rw [hhandle, svc05SetEnabled_eq, h.checkEvents]
    by_cases hok : eventFormat.status d = .ok
    · obtain ⟨hlen, hpos⟩ := ListFormat.of_status_ok (by decide) hok
      rw [if_pos hok, if_pos hok, hok]
      dsimp only
      rw [← foldl_set_eq_switchListed hpos, ← h.map_listedEvents hlen, List.foldl_map]
    · simp only [if_neg hok]

/-- A telecommand that enables both housekeeping structures, the second one first. -/
def enableBoth : PusTc :=
  { prim :=
      { version := 0
        packetType := ccsdsTypeTc
        secHdrFlag := 1
        apid := pusTcApid
        seqFlags := ccsdsSeqFlagUnsegmented
        seqCount := 0
        dataLength := 9 }
    pusVersion := pusVersionC
    ackFlags := 0
    serviceType := pusServiceHousekeeping
    serviceSubtype := pusSt03Enable
    sourceId := 0
    appData := some [2, 2, 1]
    appDataLen := 3
    requestId := 0x180CC000 }

/-- A telecommand that disables the events 1 and 3. -/
def disableTwo : PusTc :=
  { enableBoth with
    serviceType := pusServiceEvent
    serviceSubtype := pusSt05Disable
    appData := some [2, 0, 1, 0, 3]
    appDataLen := 5 }

theorem identifier_lists_exact_both :
    svc03Handle default (some enableBoth) =
        (.ok, { (default : Obsw) with svc03 := { (default : Obsw).svc03 with
          enabled := switchListed [2, 1] true (default : Obsw).svc03.enabled } }) ∧
      svc05Handle default (some disableTwo) =
        (.ok, { (default : Obsw) with svc05 := { (default : Obsw).svc05 with
          enabled := switchListed [1, 3] false (default : Obsw).svc05.enabled } }) :=
  ⟨(identifier_lists_exact default (d := [2, 2, 1]) ⟨rfl, rfl⟩ true).1 rfl,
    (identifier_lists_exact default (d := [2, 0, 1, 0, 3]) ⟨rfl, rfl⟩ false).2 rfl⟩

end ObswPus.Commanding
