import ObswPus.Commanding.Response

/-! # One-shot housekeeping

How far a one-shot request gets: its reports enter the queue until the free slots are
used up, so that a validated list can still be served in part.
-/
namespace ObswPus.Commanding
open Flight Downlink Codec

/-- An identifier list that passes validation. -/
structure ValidSidList (tc : PusTc) : Prop where
  length : tc.appDataLen = 1 + listCount tc
  nonempty : 1 ≤ listCount tc
  sids : ∀ sid ∈ listedSids tc, sid = obcHkSidEssential ∨ sid = obcHkSidDiagnostic

theorem checkSids_of_valid {tc : PusTc} (h : ValidSidList tc) :
    checkSids tc = .ok (listedSids tc) := by
  have hlen : ¬(tc.appDataLen < 1 ∨ tc.appDataLen ≠ 1 + listCount tc * 1) := by
    have := h.length
    omega
  have hcount : listCount tc ≠ 0 := Nat.one_le_iff_ne_zero.mp h.nonempty
  have hvalid : ¬(listedSids tc).any (fun sid => !svc03SidValid sid) = true := by
    simp only [List.any_eq_true, not_exists, not_and]
    intro sid hsid
    rcases h.sids sid hsid with rfl | rfl <;> decide
  simp only [checkSids, checkList, if_neg hlen, if_neg hcount, if_neg hvalid]

theorem length_listedSids (tc : PusTc) : (listedSids tc).length = listCount tc := by
  simp [listedSids]

def hkHeading (content : Content) : UInt8 × UInt8 × Option UInt8 :=
  (content.1, content.2.1, content.2.2[0]?)

theorem hkHeading_hkReport (s : Obsw) (sid : UInt8) :
    hkHeading (hkReport s sid).content = (pusServiceHousekeeping, pusSt03Report, some sid) := by
  simp only [hkHeading, Report.content, hkReport, svc03Data]
  split <;> rfl

theorem freeSlots_emit (s : Obsw) (r : Report) (hroom : s.queue.count < pusTmQueueDepth) :
    freeSlots (emit s r) = freeSlots s - 1 := by
  rw [freeSlots, freeSlots, count_emit_room s r hroom, Nat.sub_add_eq]

/-- The reports that find room are those of the first listed structures, one for each. -/
theorem take_oneShotReports (s : Obsw) (sids : List UInt8) :
    ((oneShotReports s sids).take (freeSlots s)).map (fun r => hkHeading r.content) =
      (sids.take (freeSlots s)).map fun sid =>
        (pusServiceHousekeeping, pusSt03Report, some sid) := by
  induction sids generalizing s with
  | nil => simp [oneShotReports]
  | cons sid sids ih =>
    rcases Nat.lt_or_ge s.queue.count pusTmQueueDepth with hroom | hfull
    · obtain ⟨free, hfree⟩ : ∃ free, freeSlots s = free + 1 :=
        Nat.exists_eq_add_one_of_ne_zero (by rw [freeSlots]; omega)
      have hrest := ih (emit s (hkReport s sid))
      rw [freeSlots_emit s _ hroom, hfree, Nat.add_sub_cancel] at hrest
      rw [hfree, oneShotReports, if_pos hroom]
      simp only [List.take_succ_cons, List.map_cons, hkHeading_hkReport, hrest]
    · have hfree : freeSlots s = 0 := Nat.sub_eq_zero_of_le hfull
      rw [hfree, List.take_zero, List.take_zero]
      rfl

section Loop
variable {s : Obsw} {tc : PusTc} (hsubtype : tc.serviceSubtype = pusSt03OneShot)
  (hlist : ValidSidList tc)
include hsubtype hlist

/-- A validated request returns an error exactly when the queue cannot take all of it. -/
theorem svc03Handle_oneShot_status :
    (svc03Handle s (some tc)).1 = if listCount tc ≤ freeSlots s then .ok else .queueFull := by
  rw [(refines_svc03Handle s tc).status, readHousekeeping, hsubtype, checkSids_of_valid hlist,
    ← length_listedSids]
  rfl

/-- Exactly as many of its reports enter the queue as there are free slots for. -/
theorem contents_svc03Handle_oneShot (hq : Valid s.queue) :
    ∃ added, contents (svc03Handle s (some tc)).2.queue = contents s.queue ++ added ∧
      added.map (fun p => hkHeading (tmContent p)) =
        ((listedSids tc).take (freeSlots s)).map
          fun sid => (pusServiceHousekeeping, pusSt03Report, some sid) := by
  have hemits := (refines_svc03Handle s tc).evolves.emits
  have hread : readHousekeeping tc = .ok (.oneShotHk (listedSids tc)) := by
    rw [readHousekeeping, hsubtype, checkSids_of_valid hlist]
    rfl
  rw [hread] at hemits
  obtain ⟨added, hcontents, hadded⟩ := hemits.queued hq
  refine ⟨added, hcontents, ?_⟩
  have hheadings := congrArg (List.map hkHeading) hadded
  rw [List.map_map, List.map_map] at hheadings
  exact hheadings.trans (take_oneShotReports s (listedSids tc))

end Loop

/-- One report for each listed structure, in list order, has entered the queue. -/
def OneShotComplete (s : Obsw) (tc : PusTc) : Prop :=
  (svc03Handle s (some tc)).1 = .ok ∧
    ∃ added, contents (svc03Handle s (some tc)).2.queue = contents s.queue ++ added ∧
      added.map (fun p => hkHeading (tmContent p)) =
        (listedSids tc).map fun sid => (pusServiceHousekeeping, pusSt03Report, some sid)

/-- The request has failed and none of its reports has entered the queue. -/
def OneShotRefused (s : Obsw) (tc : PusTc) : Prop :=
  (svc03Handle s (some tc)).1 ≠ .ok ∧
    contents (svc03Handle s (some tc)).2.queue = contents s.queue

/-- The loop ran to its end. Behind the validation, only its error break returns an error. -/
def LoopCompletes (s : Obsw) (tc : PusTc) : Prop := (svc03Handle s (some tc)).1 = .ok

section AllOrNothing
variable {s : Obsw} {tc : PusTc} (hsubtype : tc.serviceSubtype = pusSt03OneShot)
  (hlist : ValidSidList tc)
include hsubtype hlist

theorem loopCompletes_iff : LoopCompletes s tc ↔ listCount tc ≤ freeSlots s := by
  rw [LoopCompletes, svc03Handle_oneShot_status hsubtype hlist]
  split <;> simp [*]

theorem allOrNothing_iff (hq : Valid s.queue) :
    OneShotComplete s tc ∨ OneShotRefused s tc ↔
      freeSlots s = 0 ∨ listCount tc ≤ freeSlots s := by
  have hstatus := svc03Handle_oneShot_status (s := s) hsubtype hlist
  obtain ⟨added, hcontents, hadded⟩ := contents_svc03Handle_oneShot hsubtype hlist hq
  have hlen := length_listedSids tc
  constructor
  · rintro (⟨hok, -⟩ | ⟨-, hsame⟩)
    · exact .inr ((loopCompletes_iff hsubtype hlist).mp hok)
    · have hnone : added = [] := by simpa [hsame] using hcontents
      have hcount := congrArg List.length hadded
      simp only [hnone, List.map_nil, List.length_nil, List.length_map, List.length_take,
        hlen] at hcount
      have := hlist.nonempty
      omega
  · rintro (hfull | hfits)
    · right
      have hnone : added = [] := by simpa [hfull] using hadded
      refine ⟨?_, by rw [hcontents, hnone, List.append_nil]⟩
      have := hlist.nonempty
      rw [hstatus, if_neg (by omega)]
      decide
    · left
      refine ⟨(loopCompletes_iff hsubtype hlist).mpr hfits, added, hcontents, ?_⟩
      rw [hadded, List.take_of_length_le (by omega)]

end AllOrNothing

theorem freeSlots_atService {s : Obsw} (hq : Valid s.queue) (tc : PusTc) :
    freeSlots (atService s tc) =
      pusTmQueueDepth - (tmQueueCount s.queue + (acceptanceReports tc).length) := by
  have hcount := (evolves_atService s tc).emits.count hq
  have hle := hq.count_le
  rw [freeSlots, hcount, tmQueueCount]
  omega

/-- A one-shot request with a valid list is served to its end exactly when the queue has
room for its acceptance report and all its housekeeping reports. It is served all or
nothing in one more case only: when the service finds the queue full. -/
theorem one_shot_all_or_nothing_iff (s : Obsw) (stimuli : List Stimulus) (tc : PusTc)
    (hsubtype : tc.serviceSubtype = pusSt03OneShot) (hlist : ValidSidList tc) :
    ((OneShotComplete (atService (after s stimuli).obsw tc) tc ∨
          OneShotRefused (atService (after s stimuli).obsw tc) tc) ∧
        LoopCompletes (atService (after s stimuli).obsw tc) tc ↔
      tmQueueCount (after s stimuli).obsw.queue + (acceptanceReports tc).length +
        listCount tc ≤ pusTmQueueDepth) ∧
    (OneShotComplete (atService (after s stimuli).obsw tc) tc ∨
        OneShotRefused (atService (after s stimuli).obsw tc) tc ↔
      pusTmQueueDepth ≤ tmQueueCount (after s stimuli).obsw.queue + (acceptanceReports tc).length ∨
        tmQueueCount (after s stimuli).obsw.queue + (acceptanceReports tc).length +
          listCount tc ≤ pusTmQueueDepth) := by
  have hq := valid_after s stimuli
  have hentry := (evolves_atService (after s stimuli).obsw tc).emits.valid hq
  have hfree := freeSlots_atService hq tc
  have hpos := hlist.nonempty
  rw [loopCompletes_iff hsubtype hlist, allOrNothing_iff hsubtype hlist hentry, hfree]
  omega

def twoStructures : PusTc := decodedTc [24, 12, 192, 0, 0, 9, 32, 3, 27, 0, 0, 2, 1, 2, 0, 0]

theorem twoStructures_valid : ValidSidList twoStructures :=
  ⟨by decide +kernel, by decide +kernel, by decide +kernel⟩

theorem one_shot_two_structures :
    (OneShotComplete (atService (after default []).obsw twoStructures) twoStructures ∨
        OneShotRefused (atService (after default []).obsw twoStructures) twoStructures) ∧
      LoopCompletes (atService (after default []).obsw twoStructures) twoStructures :=
  (one_shot_all_or_nothing_iff default [] twoStructures (by decide +kernel)
    twoStructures_valid).1.mpr (by decide +kernel)

/-- A request for the essential report, sixteen times over. -/
def sixteenStructures : List UInt8 :=
  [24, 12, 192, 0, 0, 23, 32, 3, 27, 0, 0, 16,
    1, 1, 1, 1, 1, 1, 1, 1, 1, 1, 1, 1, 1, 1, 1, 1, 20, 215]

/-- After power-on the boot report takes one of the sixteen slots: fifteen of the sixteen
requested reports enter the queue, and the request fails. -/
theorem one_shot_served_in_part :
    pusTcParse (some sixteenStructures) sixteenStructures.length =
        .ok (decodedTc sixteenStructures) ∧
      (decodedTc sixteenStructures).serviceType = pusServiceHousekeeping ∧
      (decodedTc sixteenStructures).serviceSubtype = pusSt03OneShot ∧
      ValidSidList (decodedTc sixteenStructures) ∧
      (obcProcessTc (after default []).obsw (some sixteenStructures)
        sixteenStructures.length).1 = .queueFull ∧
      ¬(OneShotComplete (atService (after default []).obsw (decodedTc sixteenStructures))
            (decodedTc sixteenStructures) ∨
          OneShotRefused (atService (after default []).obsw (decodedTc sixteenStructures))
            (decodedTc sixteenStructures)) ∧
      ¬LoopCompletes (atService (after default []).obsw (decodedTc sixteenStructures))
        (decodedTc sixteenStructures) := by
  have hparse : pusTcParse (some sixteenStructures) sixteenStructures.length =
      .ok (decodedTc sixteenStructures) := by
    rw [pusTcParse_eq, if_pos (by decide +kernel)]
  have hlist : ValidSidList (decodedTc sixteenStructures) :=
    ⟨by decide +kernel, by decide +kernel, by decide +kernel⟩
  have hstatus : (svc03Handle (atService (after default []).obsw (decodedTc sixteenStructures))
      (some (decodedTc sixteenStructures))).1 = .queueFull := by decide +kernel
  have hbefore : (atService (after default []).obsw
      (decodedTc sixteenStructures)).queue.count = 1 := by decide +kernel
  have hafter : (svc03Handle (atService (after default []).obsw (decodedTc sixteenStructures))
      (some (decodedTc sixteenStructures))).2.queue.count = 16 := by decide +kernel
  refine ⟨hparse, by decide +kernel, by decide +kernel, hlist, by decide +kernel, ?_, ?_⟩
  · rintro (⟨hok, -⟩ | ⟨-, hsame⟩)
    · rw [hstatus] at hok
      cases hok
    · have hcount := congrArg List.length hsame
      rw [contents_length, contents_length, hbefore, hafter] at hcount
      omega
  · intro hloop
    rw [LoopCompletes, hstatus] at hloop
    cases hloop

end ObswPus.Commanding
