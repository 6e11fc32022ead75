import ObswPus.Commanding.Request

/-! # The service handlers refine their requests

One theorem for each handler, from the loops up: whatever the state and the decoded
telecommand, the handler returns the status, leaves the controlled state and emits
the reports of the request that the telecommand reads as.
-/
namespace ObswPus.Commanding
open Flight Downlink Library

theorem svc03ApplyFrom_switch (tc : PusTc) (on : Bool) (s : Obsw) (indices : List ℕ) :
    svc03ApplyFrom tc on false s indices =
      (.ok, { s with svc03 := { s.svc03 with
        enabled := (indices.map (sidAt tc)).foldl
          (fun flags sid => flags.set (sid.toNat - 1) on) s.svc03.enabled } }) := by
  induction indices generalizing s with
  | nil => rfl
  | cons i indices ih =>
    rw [svc03ApplyFrom]
    simp only [ne_eq, not_true_eq_false, if_false, ih, List.map_cons, List.foldl_cons, sidAt]

/-- The one-shot loop runs until its list or the free slots of the queue are used up. -/
theorem svc03ApplyFrom_oneShot (tc : PusTc) (on : Bool) (s : Obsw) (indices : List ℕ)
    (hsids : ∀ sid ∈ indices.map (sidAt tc), svc03SidValid sid = true) :
    Refines s (svc03ApplyFrom tc on true s indices)
      ((Request.oneShotHk (indices.map (sidAt tc))).outcome s) := by
  induction indices generalizing s with
  | nil => exact ⟨by simp [svc03ApplyFrom, Request.outcome], Evolves.refl s⟩
  | cons i indices ih =>
    have hsid : svc03SidValid (sidAt tc i) = true := hsids _ (by simp)
    have hrest : ∀ sid ∈ indices.map (sidAt tc), svc03SidValid sid = true :=
      fun sid hmem => hsids sid (by simp only [List.map_cons, List.mem_cons, hmem, or_true])
    have hgenerate := svc03Generate_eq s hsid
    simp only [sidAt] at hgenerate
    rw [svc03ApplyFrom]
    simp only [ne_eq, Bool.true_eq_false, not_false_eq_true, if_true, hgenerate, sendStatus]
    rcases Nat.lt_or_ge s.queue.count pusTmQueueDepth with hroom | hfull
    · simp only [if_pos hroom, not_true_eq_false, if_false]
      have hnext := ih (emit s (hkReport s (sidAt tc i))) hrest
      have hcount := count_emit_room s (hkReport s (sidAt tc i)) hroom
      refine ⟨hnext.status.trans ?_, ?_⟩
      · have hfree :
            (indices.map (sidAt tc)).length ≤ freeSlots (emit s (hkReport s (sidAt tc i))) ↔
              ((i :: indices).map (sidAt tc)).length ≤ freeSlots s := by
          simp only [freeSlots, hcount, List.length_map, List.length_cons]
          omega
        simp only [Request.outcome, hfree]
      · simp only [Request.outcome, List.map_cons, oneShotReports, if_pos hroom]
        exact ⟨hnext.evolves.controlled.trans (control_emit s _), Emits.cons hnext.evolves.emits⟩
    · simp only [if_neg (Nat.not_lt.mpr hfull), reduceCtorEq, not_false_eq_true, if_true]
      refine ⟨?_, ?_⟩
      · have hfree : ¬((i :: indices).map (sidAt tc)).length ≤ freeSlots s := by
          simp only [freeSlots, List.length_map, List.length_cons]
          omega
        simp only [Request.outcome, if_neg hfree]
      · simp only [Request.outcome, List.map_cons, oneShotReports,
          if_neg (Nat.not_lt.mpr hfull)]
        exact Evolves.send s _

theorem checkList_ok {α : Type} {tc : PusTc} {width : ℕ} {ids ids' : List α} {valid : α → Bool}
    {unknown : PusStatus} (h : checkList tc width ids valid unknown = .ok ids') :
    ids' = ids ∧ (∀ id ∈ ids, valid id = true) ∧ tc.appDataLen = 1 + listCount tc * width ∧
      0 < listCount tc := by
  unfold checkList at h
  split at h
  · cases h
  split at h
  · cases h
  split at h
  · cases h
  rename_i hlen hcount hvalid
  cases h
  refine ⟨rfl, ?_, by omega, Nat.pos_of_ne_zero hcount⟩
  simpa using hvalid

theorem countOctet_eq_zero (tc : PusTc) : pusGetU8 (tc.appDataAt 0) = 0 ↔ listCount tc = 0 := by
  rw [listCount, ← UInt8.toNat_inj]
  rfl

theorem svc03ApplyList_eq (s : Obsw) (tc : PusTc) (on oneShot : Bool) :
    svc03ApplyList s tc on oneShot =
      match checkSids tc with
      | .error st => (st, s)
      | .ok _ => svc03ApplyFrom tc on oneShot s (List.range (listCount tc)) := by
  have hlist : (pusGetU8 (tc.appDataAt 0)).toNat = listCount tc := rfl
  have hany : ((List.range (listCount tc)).any fun i =>
        svc03SidValid (pusGetU8 (tc.appDataAt (1 + i))) = false) =
      (listedSids tc).any (fun sid => !svc03SidValid sid) := by
    simp [listedSids, List.any_map, Function.comp_def, sidAt]
  simp only [svc03ApplyList, checkSids, checkList, hlist, countOctet_eq_zero, hany, Nat.mul_one]
  by_cases hempty : tc.appDataLen < 1
  · simp only [hempty, true_or, if_true]
  · simp only [hempty, false_or, if_false]
    split_ifs <;> rfl

theorem refines_svc03ApplyList_switch (s : Obsw) (tc : PusTc) (on : Bool) :
    Refines s (svc03ApplyList s tc on false)
      (outcome s ((checkSids tc).map (.switchHk · on))) := by
  rw [svc03ApplyList_eq]
  rcases hcheck : checkSids tc with st | sids
  · exact Refines.unchanged s st
  · obtain ⟨rfl, -⟩ := checkList_ok hcheck
    simp only [svc03ApplyFrom_switch]
    exact ⟨rfl, Evolves.write ⟨rfl, rfl, rfl, rfl⟩⟩

theorem refines_svc03ApplyList_oneShot (s : Obsw) (tc : PusTc) (on : Bool) :
    Refines s (svc03ApplyList s tc on true) (outcome s ((checkSids tc).map .oneShotHk)) := by
  rw [svc03ApplyList_eq]
  rcases hcheck : checkSids tc with st | sids
  · exact Refines.unchanged s st
  · obtain ⟨rfl, hvalid, -⟩ := checkList_ok hcheck
    exact svc03ApplyFrom_oneShot tc on s _ hvalid

theorem refines_svc03Handle (s : Obsw) (tc : PusTc) :
    Refines s (svc03Handle s (some tc)) (outcome s (readHousekeeping tc)) := by
  refine Refines.ite (fun _ => refines_svc03ApplyList_switch s tc true) fun _ => ?_
  refine Refines.ite (fun _ => refines_svc03ApplyList_switch s tc false) fun _ => ?_
  exact Refines.ite (fun _ => refines_svc03ApplyList_oneShot s tc false) fun _ =>
    Refines.unchanged s _

theorem svc05SetEnabled_eq (s : Obsw) (tc : PusTc) (on : Bool) :
    svc05SetEnabled s tc on =
      match checkEvents tc with
      | .error st => (st, s)
      | .ok ids => (.ok, { s with svc05 := { s.svc05 with
          enabled :=
            ids.foldl (fun flags id => flags.set (id.toNat - 1) on) s.svc05.enabled } }) := by
  have hlist : (pusGetU8 (tc.appDataAt 0)).toNat = listCount tc := rfl
  have hany : ((List.range (listCount tc)).any fun i =>
        svc05IdValid (pusGetU16 (tc.appDataAt (1 + i * 2))) = false) =
      (listedEvents tc).any (fun id => !svc05IdValid id) := by
    simp [listedEvents, List.any_map, Function.comp_def, eventIdAt]
  simp only [svc05SetEnabled, checkEvents, checkList, hlist, countOctet_eq_zero, hany]
  by_cases hempty : tc.appDataLen < 1
  · simp only [hempty, true_or, if_true]
  · simp only [hempty, false_or, if_false]
    split_ifs
    · rfl
    · rfl
    · rfl
    · simp only [listedEvents, List.foldl_map]
      rfl

theorem refines_svc05SetEnabled (s : Obsw) (tc : PusTc) (on : Bool) :
    Refines s (svc05SetEnabled s tc on)
      (outcome s ((checkEvents tc).map (.switchEvents · on))) := by
  rw [svc05SetEnabled_eq]
  rcases checkEvents tc with st | ids
  · exact Refines.unchanged s st
  · exact ⟨rfl, Evolves.write ⟨rfl, rfl, rfl, rfl⟩⟩

theorem refines_svc05Handle (s : Obsw) (tc : PusTc) :
    Refines s (svc05Handle s (some tc)) (outcome s (readEvent tc)) := by
  refine Refines.ite (fun _ => refines_svc05SetEnabled s tc false) fun _ => ?_
  exact Refines.ite (fun _ => refines_svc05SetEnabled s tc true) fun _ => Refines.unchanged s _

theorem refines_obcSetMode (s : Obsw) (target : ObcMode) :
    Refines s (obcSetMode s target.code) ((Request.setMode target).outcome s) :=
  ⟨obcSetMode_status s target, evolves_obcSetMode s target⟩

theorem refines_obcSetHeater (s : Obsw) (on : Bool) :
    Refines s (obcSetHeater s on) ((Request.setHeater on).outcome s) := by
  have hon : (if on ≠ false then true else false) = on := by cases on <;> rfl
  simp only [obcSetHeater, Request.outcome, hon]
  split
  · exact Refines.unchanged s _
  · exact ⟨rfl, evolves_obcApplyHeater s on⟩

/-- The range check before `obc_set_mode` admits exactly the modes that it knows. -/
theorem readSetMode_eq (tc : PusTc) : readSetMode tc =
    if pusGetU8 (tc.appDataAt 1) = 0 then .ok (.setMode .safe)
    else if pusGetU8 (tc.appDataAt 1) = 1 then .ok (.setMode .nominal)
    else .error .badParameter := by
  have hcast (v n : UInt8) : v.toUInt32 = n.toUInt32 ↔ v = n := by
    rw [← UInt32.toNat_inj, ← UInt8.toNat_inj]
    simp
  have hsafe : (pusGetU8 (tc.appDataAt 1)).toUInt32 = 0 ↔ pusGetU8 (tc.appDataAt 1) = 0 :=
    hcast _ 0
  have hnominal : (pusGetU8 (tc.appDataAt 1)).toUInt32 = 1 ↔ pusGetU8 (tc.appDataAt 1) = 1 :=
    hcast _ 1
  simp only [readSetMode, ObcMode.ofCode, hsafe, hnominal]
  split_ifs <;> rfl

theorem refines_setModeArgument (s : Obsw) (tc : PusTc) :
    Refines s
      (if pusGetU8 (tc.appDataAt 1) ≠ ObcMode.safe.code.toUInt8 ∧
          pusGetU8 (tc.appDataAt 1) ≠ ObcMode.nominal.code.toUInt8 then (.badParameter, s)
        else obcSetMode s (pusGetU8 (tc.appDataAt 1)).toUInt32)
      (outcome s (readSetMode tc)) := by
  rw [readSetMode_eq]
  by_cases hsafe : pusGetU8 (tc.appDataAt 1) = 0
  · rw [hsafe]
    exact refines_obcSetMode s .safe
  by_cases hnominal : pusGetU8 (tc.appDataAt 1) = 1
  · rw [hnominal]
    exact refines_obcSetMode s .nominal
  · rw [if_pos ⟨hsafe, hnominal⟩, if_neg hsafe, if_neg hnominal]
    exact Refines.unchanged s _

theorem refines_setHeaterArgument (s : Obsw) (tc : PusTc) :
    Refines s
      (if 1 < pusGetU8 (tc.appDataAt 1) then (.badParameter, s)
        else obcSetHeater s (if pusGetU8 (tc.appDataAt 1) ≠ 0 then true else false))
      (outcome s (readSetHeater tc)) := by
  refine Refines.ite (fun _ => Refines.unchanged s _) fun _ => ?_
  have hon : (if pusGetU8 (tc.appDataAt 1) ≠ 0 then true else false) =
      decide (pusGetU8 (tc.appDataAt 1) ≠ 0) := by
    split <;> simp [*]
  rw [hon]
  exact refines_obcSetHeater s _

theorem refines_svc08Handle (s : Obsw) (tc : PusTc) :
    Refines s (svc08Handle s (some tc)) (outcome s (readFunction tc)) := by
  refine Refines.ite (fun _ => Refines.unchanged s _) fun _ => ?_
  refine Refines.ite (fun _ => Refines.unchanged s _) fun _ => ?_
  refine Refines.ite (fun _ => ?_) fun _ => ?_
  · exact Refines.ite (fun _ => Refines.unchanged s _) fun _ => refines_setModeArgument s tc
  refine Refines.ite (fun _ => ?_) fun _ => ?_
  · exact Refines.ite (fun _ => Refines.unchanged s _) fun _ => refines_setHeaterArgument s tc
  refine Refines.ite (fun _ => ?_) fun _ => ?_
  · exact Refines.ite (fun _ => Refines.unchanged s _) fun _ =>
      ⟨rfl, Evolves.write ⟨rfl, rfl, rfl, rfl⟩⟩
  refine Refines.ite (fun _ => ?_) fun _ => ?_
  · exact Refines.ite (fun _ => Refines.unchanged s _) fun _ =>
      ⟨rfl, Evolves.write ⟨rfl, rfl, rfl, rfl⟩⟩
  refine Refines.ite (fun _ => ?_) fun _ => Refines.unchanged s _
  exact Refines.ite (fun _ => Refines.unchanged s _) fun _ =>
    ⟨rfl, Evolves.write ⟨rfl, rfl, rfl, rfl⟩⟩

theorem refines_svc17Handle (s : Obsw) (tc : PusTc) :
    Refines s (svc17Handle s (some tc)) (outcome s (readTest tc)) := by
  refine Refines.ite (fun _ => Refines.unchanged s _) fun _ => ?_
  refine Refines.ite (fun _ => Refines.unchanged s _) fun _ => ?_
  rw [svc17Send_eq]
  exact ⟨rfl, Evolves.send s _⟩

/-- Executing a telecommand is executing the request it reads as. -/
theorem refines_obcRoute (s : Obsw) (tc : PusTc) :
    Refines s (obcRoute s tc) (outcome s (readRequest tc)) := by
  refine Refines.ite (fun _ => refines_svc03Handle s tc) fun _ => ?_
  refine Refines.ite (fun _ => refines_svc05Handle s tc) fun _ => ?_
  refine Refines.ite (fun _ => refines_svc08Handle s tc) fun _ => ?_
  exact Refines.ite (fun _ => refines_svc17Handle s tc) fun _ => Refines.unchanged s _

end ObswPus.Commanding
