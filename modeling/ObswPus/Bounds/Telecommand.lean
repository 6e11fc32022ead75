import ObswPus.Bounds.Reports
import ObswPus.Commanding.Effect

/-! # Checked access in telecommand processing

The services and the processing of a telecommand, with checked access to its application
data, which end where the declared length has them end, and to the flags that lists of
identifiers address. Whatever is received, in whatever state: no access is out of bounds, no
null pointer is followed, every loop ends, and the result is that of the unchecked program.
-/
namespace ObswPus.Bounds
open Flight Library Access Codec Commanding
variable (fuel : ℕ)

def appData (tc : PusTc) : Option (List UInt8) := tc.appData.map (List.take tc.appDataLen)

/-- The application data are there as long as declared. -/
def Holds (tc : PusTc) : Prop := tc.appDataLen ≤ (tc.appData.getD []).length

section Reads
variable {tc : PusTc} (htc : Holds tc) {i : ℕ}
include htc

theorem appData_eq_some (h : 0 < tc.appDataLen) : ∃ octets, tc.appData = some octets ∧
    appData tc = some (octets.take tc.appDataLen) ∧
    (octets.take tc.appDataLen).length = tc.appDataLen := by
  cases hdata : tc.appData with
  | none =>
    rw [Holds, hdata] at htc
    exact absurd h (Nat.not_lt.mpr htc)
  | some octets =>
    rw [Holds, hdata] at htc
    exact ⟨octets, rfl, by rw [appData, hdata, Option.map_some], List.length_take_of_le htc⟩

theorem appData_getU8 (hi : i < tc.appDataLen) :
    pusGetU8 (appData tc) i = .ok (Flight.pusGetU8 (tc.appDataAt i)) := by
  obtain ⟨octets, hdata, htaken, hlen⟩ := appData_eq_some htc (Nat.zero_lt_of_lt hi)
  rw [htaken, pusGetU8_eq (by omega), PusTc.appDataAt, hdata]
  simp only [Flight.pusGetU8, Option.getD_some, List.getD_eq_getElem?_getD, List.getElem?_drop,
    Nat.add_zero, List.getElem?_take_of_lt hi]

theorem appData_getU16 (hi : i + 2 ≤ tc.appDataLen) :
    pusGetU16 (appData tc) i = .ok (Flight.pusGetU16 (tc.appDataAt i)) := by
  have hfirst := appData_getU8 htc (show i < tc.appDataLen by omega)
  have hsecond := appData_getU8 htc (show i + 1 < tc.appDataLen by omega)
  rw [pusGetU16, hfirst, ok_bind, hsecond, ok_bind]
  simp only [pure_eq_ok, PusTc.appDataAt, Flight.pusGetU8, Flight.pusGetU16,
    List.getD_eq_getElem?_getD, List.getElem?_drop, Nat.add_zero]

theorem appData_getU32 (hi : i + 4 ≤ tc.appDataLen) :
    pusGetU32 (appData tc) i = .ok (Flight.pusGetU32 (tc.appDataAt i)) := by
  have hfirst := appData_getU8 htc (show i < tc.appDataLen by omega)
  have hsecond := appData_getU8 htc (show i + 1 < tc.appDataLen by omega)
  have hthird := appData_getU8 htc (show i + 2 < tc.appDataLen by omega)
  have hfourth := appData_getU8 htc (show i + 3 < tc.appDataLen by omega)
  rw [pusGetU32, hfirst, ok_bind, hsecond, ok_bind, hthird, ok_bind, hfourth, ok_bind]
  simp only [pure_eq_ok, PusTc.appDataAt, Flight.pusGetU8, Flight.pusGetU32,
    List.getD_eq_getElem?_getD, List.getElem?_drop, Nat.add_zero]

end Reads

theorem forall_of_not_any {n : UInt8} {p : ℕ → Prop} [DecidablePred p]
    (h : ¬((List.range n.toNat).any fun i => decide (p i)) = true) : ∀ i < n, ¬p i.toNat := by
  intro i hi hp
  apply h
  rw [List.any_eq_true]
  exact ⟨i.toNat, List.mem_range.mpr (UInt8.lt_iff_toNat_lt.mp hi), decide_eq_true hp⟩

/-- One pass of the loop that validates the structure identifiers. -/
def checkSid (tc : PusTc) (i : UInt8) (_ : Unit) : Access (Pass Unit PusStatus) := do
  let sid ← pusGetU8 (appData tc) (1 + i.toNat)
  if svc03SidValid sid = false then return .leave .unknownSid
  else return .next ()

def applySid (tc : PusTc) (enable oneShot : Bool) (i : UInt8) (s : Obsw) :
    Access (Pass Obsw (PusStatus × Obsw)) := do
  let sid ← pusGetU8 (appData tc) (1 + i.toNat)
  if oneShot ≠ false then
    let generated ← svc03Generate fuel s sid
    if generated.1 ≠ .ok then return .leave generated
    else return .next generated.2
  else
    let enabled ← writeCell s.svc03.enabled (unsignedPred sid.toNat) enable
    return .next { s with svc03 := { s.svc03 with enabled := enabled } }

def svc03ApplyList (s : Obsw) (tc : PusTc) (enable oneShot : Bool) :
    Access (PusStatus × Obsw) :=
  if tc.appDataLen < 1 then return (.badLength, s)
  else do
    let count ← pusGetU8 (appData tc) 0
    if tc.appDataLen ≠ 1 + count.toNat then return (.badLength, s)
    else if count = 0 then return (.badParameter, s)
    else
      match ← forU8 fuel count (checkSid tc) () with
      | .leave st => return (st, s)
      | .next _ =>
        match ← forU8 fuel count (applySid fuel tc enable oneShot) s with
        | .leave left => return left
        | .next s => return (.ok, s)

section Housekeeping
variable {fuel} {tc : PusTc}

theorem forU8_checkSid (htc : Holds tc) {count : UInt8} (hlen : tc.appDataLen = 1 + count.toNat)
    (hfuel : 65542 ≤ fuel) : forU8 fuel count (checkSid tc) () =
      .ok (if (List.range count.toNat).any fun i => svc03SidValid (sidAt tc i) = false then
        .leave .unknownSid else .next ()) := by
  have hcount := count.toNat_lt
  apply forU8_search _ _ _ (by omega)
  intro i hi u
  rw [UInt8.lt_iff_toNat_lt] at hi
  rw [checkSid, appData_getU8 htc (by omega), ok_bind]
  simp only [decide_eq_true_eq]
  exact ite_eq (fun _ => rfl) fun _ => rfl

def appliedSid (tc : PusTc) (enable oneShot : Bool) (i : ℕ) (s : Obsw) :
    Pass Obsw (PusStatus × Obsw) :=
  if oneShot ≠ false then
    if (Flight.svc03Generate s (sidAt tc i)).1 ≠ .ok then
      .leave (Flight.svc03Generate s (sidAt tc i))
    else .next (Flight.svc03Generate s (sidAt tc i)).2
  else
    .next { s with svc03 :=
      { s.svc03 with enabled := s.svc03.enabled.set ((sidAt tc i).toNat - 1) enable } }

theorem loopPasses_appliedSid (enable oneShot : Bool) (is : List ℕ) (s : Obsw) :
    (match loopPasses (appliedSid tc enable oneShot) is s with
      | .leave left => left
      | .next s => (.ok, s)) = svc03ApplyFrom tc enable oneShot s is := by
  induction is generalizing s with
  | nil => rfl
  | cons i is ih =>
    rw [loopPasses, svc03ApplyFrom, appliedSid]
    dsimp only
    change _ = if oneShot ≠ false then
      if (Flight.svc03Generate s (sidAt tc i)).1 ≠ .ok then Flight.svc03Generate s (sidAt tc i)
      else svc03ApplyFrom tc enable oneShot (Flight.svc03Generate s (sidAt tc i)).2 is
      else _
    split_ifs
    · rfl
    · exact ih _
    · exact ih _

theorem unsignedPred_sid {sid : UInt8} (h : svc03SidValid sid ≠ false) :
    unsignedPred sid.toNat = sid.toNat - 1 ∧ sid.toNat - 1 < obcHkMaxStructures := by
  have hlt := sid.toNat_lt
  simp only [svc03SidValid, ne_eq, decide_eq_false_iff_not, not_not, UInt8.le_iff_toNat_le] at h
  have hmax : (UInt8.ofNat obcHkMaxStructures).toNat = 2 := rfl
  have hone : (1 : UInt8).toNat = 1 := rfl
  have h2 : obcHkMaxStructures = 2 := rfl
  exact ⟨unsignedPred_eq (by omega) (by omega), by omega⟩

theorem applySid_eq (htc : Holds tc) {count : UInt8} (hlen : tc.appDataLen = 1 + count.toNat)
    (hfuel : 65542 ≤ fuel) (enable oneShot : Bool) {i : UInt8} (hi : i < count)
    (hvalid : svc03SidValid (sidAt tc i.toNat) ≠ false) (s : Obsw) :
    applySid fuel tc enable oneShot i s = .ok (appliedSid tc enable oneShot i.toNat s) := by
  rw [UInt8.lt_iff_toNat_lt] at hi
  obtain ⟨hpred, hflag⟩ := unsignedPred_sid hvalid
  rw [applySid, appData_getU8 htc (by omega), ok_bind]
  apply ite_eq
  · intro _
    rw [svc03Generate_eq hfuel, ok_bind]
    exact ite_eq (fun _ => rfl) fun _ => rfl
  · intro _
    change (writeCell s.svc03.enabled (unsignedPred (sidAt tc i.toNat).toNat) enable >>= _) = _
    rw [hpred, writeCell_eq _ hflag]
    rfl

theorem svc03ApplyList_eq (hfuel : 65542 ≤ fuel) (s : Obsw) (htc : Holds tc)
    (enable oneShot : Bool) :
    svc03ApplyList fuel s tc enable oneShot =
      .ok (Flight.svc03ApplyList s tc enable oneShot) := by
  apply ite_eq (fun _ => rfl)
  intro hpos
  rw [appData_getU8 htc (by omega), ok_bind]
  dsimp only
  apply ite_eq (fun _ => rfl)
  intro hlen
  rw [not_not] at hlen
  apply ite_eq (fun _ => rfl)
  intro _
  rw [forU8_checkSid htc hlen hfuel, ok_bind]
  by_cases hunknown : ((List.range (Flight.pusGetU8 (tc.appDataAt 0)).toNat).any fun i =>
      svc03SidValid (sidAt tc i) = false) = true
  · rw [if_pos hunknown]
    exact (congrArg Except.ok (if_pos hunknown)).symm
  · have hvalid := forall_of_not_any hunknown
    have hcount := (Flight.pusGetU8 (tc.appDataAt 0)).toNat_lt
    rw [if_neg hunknown]
    dsimp only
    rw [forU8_eq (appliedSid tc enable oneShot) (fun _ => True)
      (fun i hi s _ => applySid_eq htc hlen hfuel enable oneShot hi (hvalid i hi) s)
      (fun _ _ _ _ _ _ => trivial) (by omega) trivial, ok_bind]
    apply Eq.trans _ (congrArg Except.ok (if_neg hunknown)).symm
    rw [← loopPasses_appliedSid]
    cases loopPasses (appliedSid tc enable oneShot) _ s <;> rfl

end Housekeeping

def svc03Handle (s : Obsw) (tc : Option PusTc) : Access (PusStatus × Obsw) :=
  match tc with
  | none => return (.null, s)
  | some tc =>
    if tc.serviceSubtype = pusSt03Enable then svc03ApplyList fuel s tc true false
    else if tc.serviceSubtype = pusSt03Disable then svc03ApplyList fuel s tc false false
    else if tc.serviceSubtype = pusSt03OneShot then svc03ApplyList fuel s tc false true
    else return (.unknownSubtype, s)

theorem svc03Handle_eq {fuel : ℕ} (hfuel : 65542 ≤ fuel) (s : Obsw) {tc : PusTc}
    (htc : Holds tc) : svc03Handle fuel s (some tc) = .ok (Flight.svc03Handle s (some tc)) := by
  apply ite_eq (fun _ => svc03ApplyList_eq hfuel s htc true false)
  intro _
  apply ite_eq (fun _ => svc03ApplyList_eq hfuel s htc false false)
  intro _
  exact ite_eq (fun _ => svc03ApplyList_eq hfuel s htc false true) fun _ => rfl

/-- One pass of the loop that validates the event identifiers. -/
def checkEvent (tc : PusTc) (i : UInt8) (_ : Unit) : Access (Pass Unit PusStatus) := do
  let id ← pusGetU16 (appData tc) (1 + i.toNat * 2)
  if svc05IdValid id = false then return .leave .unknownEvent
  else return .next ()

def writeEvent (tc : PusTc) (value : Bool) (i : UInt8) (enabled : FixedArray obcEventMaxIds Bool) :
    Access (Pass (FixedArray obcEventMaxIds Bool) (FixedArray obcEventMaxIds Bool)) := do
  let id ← pusGetU16 (appData tc) (1 + i.toNat * 2)
  let enabled ← writeCell enabled (unsignedPred id.toNat) value
  return .next enabled

def svc05SetEnabled (s : Obsw) (tc : PusTc) (value : Bool) : Access (PusStatus × Obsw) :=
  if tc.appDataLen < 1 then return (.badLength, s)
  else do
    let count ← pusGetU8 (appData tc) 0
    if tc.appDataLen ≠ 1 + count.toNat * 2 then return (.badLength, s)
    else if count = 0 then return (.badParameter, s)
    else
      match ← forU8 fuel count (checkEvent tc) () with
      | .leave st => return (st, s)
      | .next _ =>
        let pass ← forU8 fuel count (writeEvent tc value) s.svc05.enabled
        return (.ok, { s with svc05 := { s.svc05 with enabled := pass.out } })

def svc05Handle (s : Obsw) (tc : Option PusTc) : Access (PusStatus × Obsw) :=
  match tc with
  | none => return (.null, s)
  | some tc =>
    if tc.serviceSubtype = pusSt05Disable then svc05SetEnabled fuel s tc false
    else if tc.serviceSubtype = pusSt05Enable then svc05SetEnabled fuel s tc true
    else return (.unknownSubtype, s)

section Events
variable {fuel} {tc : PusTc}

def eventAt (tc : PusTc) (i : ℕ) : UInt16 := Flight.pusGetU16 (tc.appDataAt (1 + i * 2))

theorem forU8_checkEvent (htc : Holds tc) {count : UInt8}
    (hlen : tc.appDataLen = 1 + count.toNat * 2) (hfuel : 65542 ≤ fuel) :
    forU8 fuel count (checkEvent tc) () =
      .ok (if (List.range count.toNat).any fun i => svc05IdValid (eventAt tc i) = false then
        .leave .unknownEvent else .next ()) := by
  have hcount := count.toNat_lt
  apply forU8_search _ _ _ (by omega)
  intro i hi u
  rw [UInt8.lt_iff_toNat_lt] at hi
  rw [checkEvent, appData_getU16 htc (by omega), ok_bind]
  simp only [decide_eq_true_eq]
  exact ite_eq (fun _ => rfl) fun _ => rfl

theorem forU8_writeEvent (htc : Holds tc) {count : UInt8}
    (hlen : tc.appDataLen = 1 + count.toNat * 2) (hfuel : 65542 ≤ fuel) (value : Bool)
    (hvalid : ∀ i < count, svc05IdValid (eventAt tc i.toNat) ≠ false)
    (enabled : FixedArray obcEventMaxIds Bool) :
    forU8 fuel count (writeEvent tc value) enabled =
      .ok (.next ((List.range count.toNat).foldl
        (fun enabled i => enabled.set ((eventAt tc i).toNat - 1) value) enabled)) := by
  have hcount := count.toNat_lt
  apply forU8_fold (fun i enabled => FixedArray.set enabled ((eventAt tc i).toNat - 1) value) _
    (by omega)
  intro i hi enabled
  obtain ⟨hpred, hflag⟩ := unsignedPred_event (hvalid i hi)
  rw [UInt8.lt_iff_toNat_lt] at hi
  rw [writeEvent, appData_getU16 htc (by omega), ok_bind]
  change (writeCell enabled (unsignedPred (eventAt tc i.toNat).toNat) value >>= _) = _
  rw [hpred, writeCell_eq _ hflag]
  rfl

theorem svc05SetEnabled_eq (hfuel : 65542 ≤ fuel) (s : Obsw) (htc : Holds tc) (value : Bool) :
    svc05SetEnabled fuel s tc value = .ok (Flight.svc05SetEnabled s tc value) := by
  apply ite_eq (fun _ => rfl)
  intro hpos
  rw [appData_getU8 htc (by omega), ok_bind]
  dsimp only
  apply ite_eq (fun _ => rfl)
  intro hlen
  rw [not_not] at hlen
  apply ite_eq (fun _ => rfl)
  intro _
  rw [forU8_checkEvent htc hlen hfuel, ok_bind]
  by_cases hunknown : ((List.range (Flight.pusGetU8 (tc.appDataAt 0)).toNat).any fun i =>
      svc05IdValid (eventAt tc i) = false) = true
  · rw [if_pos hunknown]
    exact (congrArg Except.ok (if_pos hunknown)).symm
  · have hvalid := forall_of_not_any hunknown
    rw [if_neg hunknown]
    dsimp only
    rw [forU8_writeEvent htc hlen hfuel value hvalid, ok_bind]
    exact (congrArg Except.ok (if_neg hunknown)).symm

theorem svc05Handle_eq (hfuel : 65542 ≤ fuel) (s : Obsw) (htc : Holds tc) :
    svc05Handle fuel s (some tc) = .ok (Flight.svc05Handle s (some tc)) := by
  apply ite_eq (fun _ => svc05SetEnabled_eq hfuel s htc false)
  intro _
  exact ite_eq (fun _ => svc05SetEnabled_eq hfuel s htc true) fun _ => rfl

end Events

def svc08Handle (s : Obsw) (tc : Option PusTc) : Access (PusStatus × Obsw) :=
  match tc with
  | none => return (.null, s)
  | some tc =>
    if tc.serviceSubtype ≠ pusSt08Perform then return (.unknownSubtype, s)
    else if tc.appDataLen < 1 then return (.badLength, s)
    else do
      let fid ← pusGetU8 (appData tc) 0
      let argLen := tc.appDataLen - 1
      if fid = obcFidSetMode then
        if argLen ≠ 1 then return (.badLength, s)
        else
          let arg8 ← pusGetU8 (appData tc) 1
          if arg8 ≠ ObcMode.safe.code.toUInt8 ∧ arg8 ≠ ObcMode.nominal.code.toUInt8 then
            return (.badParameter, s)
          else obcSetMode fuel s arg8.toUInt32
      else if fid = obcFidSetHeater then
        if argLen ≠ 1 then return (.badLength, s)
        else
          let arg8 ← pusGetU8 (appData tc) 1
          if 1 < arg8 then return (.badParameter, s)
          else obcSetHeater fuel s (if arg8 ≠ 0 then true else false)
      else if fid = obcFidInjectTemp then
        if argLen ≠ 2 then return (.badLength, s)
        else
          let valueDc ← pusGetI16 (appData tc) 1
          return (.ok, { s with hal := halInjectTemperature s.hal valueDc })
      else if fid = obcFidSetTime then
        if argLen ≠ 6 then return (.badLength, s)
        else
          let coarse ← pusGetU32 (appData tc) 1
          let fine ← pusGetU16 (appData tc) 5
          return (.ok, { s with hal := halSetCucTime s.hal coarse fine })
      else if fid = obcFidResetCounters then
        if argLen ≠ 0 then return (.badLength, s)
        else return (.ok, obcResetCounters s)
      else return (.unknownFunction, s)

def svc17Handle (s : Obsw) (tc : Option PusTc) : Access (PusStatus × Obsw) :=
  match tc with
  | none => return (.null, s)
  | some tc =>
    if tc.serviceSubtype ≠ pusSt17AreYouAlive then return (.unknownSubtype, s)
    else if tc.appDataLen ≠ 0 then return (.badLength, s)
    else pusTmSend fuel s pusServiceTest pusSt17IAmAlive none 0

def obcRoute (s : Obsw) (tc : PusTc) : Access (PusStatus × Obsw) :=
  if tc.serviceType = pusServiceHousekeeping then svc03Handle fuel s (some tc)
  else if tc.serviceType = pusServiceEvent then svc05Handle fuel s (some tc)
  else if tc.serviceType = pusServiceFunction then svc08Handle fuel s (some tc)
  else if tc.serviceType = pusServiceTest then svc17Handle fuel s (some tc)
  else return (.unknownService, s)

def obcProcessTc (s : Obsw) (buf : Option (List UInt8)) (len : ℕ) :
    Access (PusStatus × Obsw) := do
  match ← pusTcParse fuel buf len with
  | .error st =>
    let s := { s with state := { s.state with
      tcRejected := saturatingSucc s.state.tcRejected
      lastFailureCode := st.code } }
    let reported ← svc01RejectRaw fuel s buf len st
    let reported ← svc05Report fuel reported.2 ObcEventId.tcRejected.code pusSt05LowSeverity st.code
    return (st, reported.2)
  | .ok tc =>
    let s := { s with state := { s.state with tcAccepted := saturatingSucc s.state.tcAccepted } }
    let reported ← svc01AcceptanceSuccess fuel s (some tc)
    let routed ← obcRoute fuel reported.2 tc
    let st := routed.1
    let s := routed.2
    if st = .ok then
      let reported ← svc01CompletionSuccess fuel s (some tc)
      return (st, reported.2)
    else
      let s := { s with state := { s.state with lastFailureCode := st.code } }
      let reported ← svc01CompletionFailure fuel s (some tc) st
      let reported ←
        svc05Report fuel reported.2 ObcEventId.tcRejected.code pusSt05LowSeverity st.code
      return (st, reported.2)

section Processing
variable {fuel} (hfuel : 65542 ≤ fuel) (s : Obsw)
include hfuel

theorem svc08Handle_eq {tc : PusTc} (htc : Holds tc) :
    svc08Handle fuel s (some tc) = .ok (Flight.svc08Handle s (some tc)) := by
  apply ite_eq (fun _ => rfl)
  intro _
  apply ite_eq (fun _ => rfl)
  intro hpos
  rw [appData_getU8 htc (by omega), ok_bind]
  dsimp only
  apply ite_eq
  · intro _
    apply ite_eq (fun _ => rfl)
    intro hlen
    rw [appData_getU8 htc (by omega), ok_bind]
    exact ite_eq (fun _ => rfl) fun _ => obcSetMode_eq hfuel s _
  intro _
  apply ite_eq
  · intro _
    apply ite_eq (fun _ => rfl)
    intro hlen
    rw [appData_getU8 htc (by omega), ok_bind]
    exact ite_eq (fun _ => rfl) fun _ => obcSetHeater_eq hfuel s _
  intro _
  apply ite_eq
  · intro _
    apply ite_eq (fun _ => rfl)
    intro hlen
    rw [pusGetI16, appData_getU16 htc (by omega)]
    rfl
  intro _
  apply ite_eq
  · intro _
    apply ite_eq (fun _ => rfl)
    intro hlen
    rw [appData_getU32 htc (by omega), ok_bind, appData_getU16 htc (by omega)]
    rfl
  intro _
  apply ite_eq
  · intro _
    exact ite_eq (fun _ => rfl) fun _ => rfl
  · intro _
    rfl

theorem svc17Handle_eq (tc : PusTc) :
    svc17Handle fuel s (some tc) = .ok (Flight.svc17Handle s (some tc)) := by
  apply ite_eq (fun _ => rfl)
  intro _
  apply ite_eq (fun _ => rfl)
  intro _
  exact pusTmSend_eq hfuel s _ _ (Nat.zero_le _) (by decide)

theorem obcRoute_eq {tc : PusTc} (htc : Holds tc) :
    obcRoute fuel s tc = .ok (Flight.obcRoute s tc) := by
  apply ite_eq (fun _ => svc03Handle_eq hfuel s htc)
  intro _
  apply ite_eq (fun _ => svc05Handle_eq hfuel s htc)
  intro _
  apply ite_eq (fun _ => svc08Handle_eq hfuel s htc)
  intro _
  exact ite_eq (fun _ => svc17Handle_eq hfuel s tc) fun _ => rfl

end Processing

theorem holds_of_parse {octets : List UInt8} {tc : PusTc}
    (h : Flight.pusTcParse (some octets) octets.length = .ok tc) : Holds tc := by
  obtain ⟨-, rfl⟩ := pusTcParse_ok h
  change octets.length - 13 ≤
    ((if 0 < octets.length - 13 then some (octets.drop 11) else none).getD []).length
  split
  · rw [Option.getD_some, List.length_drop]
    omega
  · omega

/-- Any octets, in any state, reached or not: no access is out of bounds, no null pointer is
followed, no loop takes more passes than a packet can have octets, and the outcome is that of
the unchecked program. -/
theorem telecommand_in_bounds (s : Obsw) (octets : List UInt8) (hfuel : 65542 ≤ fuel) :
    obcProcessTc fuel s (some octets) octets.length =
      .ok (Flight.obcProcessTc s (some octets) octets.length) := by
  rw [obcProcessTc, pusTcParse_eq hfuel, ok_bind, Flight.obcProcessTc]
  cases hparse : Flight.pusTcParse (some octets) octets.length with
  | error st =>
    dsimp only
    rw [svc01RejectRaw_eq hfuel, ok_bind, svc05Report_eq hfuel]
    rfl
  | ok tc =>
    dsimp only
    rw [svc01AcceptanceSuccess_eq hfuel, ok_bind, obcRoute_eq hfuel _ (holds_of_parse hparse),
      ok_bind]
    apply ite_eq
    · intro _
      rw [svc01CompletionSuccess_eq hfuel]
      rfl
    · intro _
      rw [svc01CompletionFailure_eq hfuel, ok_bind, svc05Report_eq hfuel]
      rfl

theorem telecommand_in_bounds_nominal :
    obcProcessTc 65542 (after default []).obsw (some nominalTelecommand)
        nominalTelecommand.length =
      .ok (Flight.obcProcessTc (after default []).obsw (some nominalTelecommand)
        nominalTelecommand.length) :=
  telecommand_in_bounds 65542 (after default []).obsw nominalTelecommand le_rfl

end ObswPus.Bounds
