import ObswPus.Commanding.OneShot

/-! # Verification reports

Whether the verification reports that a telecommand asks for reach an empty queue. They
share its sixteen slots with what the service sends: only a one-shot request can send
enough to displace one, and then it is the completion report.
-/
namespace ObswPus.Commanding
open Flight Downlink Codec

def isAcceptance (content : Content) : Bool :=
  content.1 == pusServiceVerification && content.2.1 == pusSt01AcceptanceSuccess

def isCompletion (content : Content) : Bool :=
  content.1 == pusServiceVerification &&
    (content.2.1 == pusSt01CompletionSuccess || content.2.1 == pusSt01CompletionFailure)

/-- The reports asked for are there, each once and with the request identifier. -/
structure VerificationKept (octets : List UInt8) (tc : PusTc) (packets : List Content) : Prop where
  acceptance : pusTcAckRequested (some tc) pusAckAcceptance →
    packets.filter isAcceptance =
      [(pusServiceVerification, pusSt01AcceptanceSuccess, octets.take 4)]
  completion : pusTcAckRequested (some tc) pusAckCompletion →
    ∃ content, packets.filter isCompletion = [content] ∧ content.2.2.take 4 = octets.take 4

theorem own_service_ne {c : Control} {r : Report} (hr : OwnReport c r) :
    r.service ≠ pusServiceVerification := by
  cases hr with
  | event => exact show pusServiceEvent ≠ pusServiceVerification by decide
  | housekeeping => exact show pusServiceHousekeeping ≠ pusServiceVerification by decide
  | alive => exact show pusServiceTest ≠ pusServiceVerification by decide

theorem servicePackets_service_ne {s : Obsw} {tc : PusTc} {content : Content}
    (h : content ∈ servicePackets s tc) : content.1 ≠ pusServiceVerification := by
  obtain ⟨r, hr, rfl⟩ := List.mem_map.mp h
  exact own_service_ne (own_outcome hr)

theorem failureEvent_service_ne {s : Obsw} {st : PusStatus} {content : Content}
    (h : content ∈ failureEvent s st) : content.1 ≠ pusServiceVerification := by
  unfold failureEvent at h
  split at h
  · rw [List.mem_singleton] at h
    subst h
    exact show pusServiceEvent ≠ pusServiceVerification by decide
  · cases h

theorem isAcceptance_of_service {content : Content} (h : content.1 ≠ pusServiceVerification) :
    isAcceptance content = false := by
  simp [isAcceptance, h]

theorem isCompletion_of_service {content : Content} (h : content.1 ≠ pusServiceVerification) :
    isCompletion content = false := by
  simp [isCompletion, h]

theorem length_oneShotReports (s : Obsw) (sids : List UInt8) :
    (oneShotReports s sids).length = min sids.length (freeSlots s + 1) := by
  induction sids generalizing s with
  | nil => simp [oneShotReports]
  | cons sid sids ih =>
    rw [oneShotReports, List.length_cons, List.length_cons]
    split
    · rename_i hroom
      have hfree : 0 < freeSlots s := Nat.sub_pos_of_lt hroom
      rw [ih, freeSlots_emit s _ hroom]
      omega
    · rename_i hfull
      have hfree : freeSlots s = 0 := Nat.sub_eq_zero_of_le (Nat.not_lt.mp hfull)
      rw [List.length_nil, hfree]
      omega

theorem length_outcome_le (s : Obsw) (read : Except PusStatus Request)
    (h : ∀ sids, read ≠ .ok (.oneShotHk sids)) : (outcome s read).reports.length ≤ 2 := by
  rcases read with st | request
  · exact Nat.zero_le _
  cases request with
  | oneShotHk sids => exact absurd rfl (h sids)
  | setMode target => exact length_modeReports_le _ target
  | setHeater on =>
    simp only [outcome, Request.outcome]
    split
    · exact Nat.zero_le _
    · exact (length_heaterReports_le _ on).trans (by decide)
  | switchHk | switchEvents | injectTemperature | setTime | resetCounters | areYouAlive =>
    simp [outcome, Request.outcome]

theorem validSidList_of_check {tc : PusTc} {sids : List UInt8} (h : checkSids tc = .ok sids) :
    ValidSidList tc ∧ sids = listedSids tc := by
  obtain ⟨hsids, hvalid, hlen, hpos⟩ := checkList_ok h
  refine ⟨⟨by omega, hpos, ?_⟩, hsids⟩
  intro sid hsid
  have hrange := hvalid sid hsid
  rw [svc03SidValid, decide_eq_true_eq, UInt8.le_iff_toNat_le, UInt8.le_iff_toNat_le] at hrange
  have hmax : (UInt8.ofNat obcHkMaxStructures).toNat = 2 := rfl
  have hmin : (1 : UInt8).toNat = 1 := rfl
  have hcases : sid.toNat = 1 ∨ sid.toNat = 2 := by omega
  rcases hcases with hsid | hsid
  · exact .inl (UInt8.toNat_inj.mp hsid)
  · exact .inr (UInt8.toNat_inj.mp hsid)

theorem map_ne_ok {α : Type} {r : Except PusStatus α} {f : α → Request} {request : Request}
    (hf : ∀ a, f a ≠ request) : r.map f ≠ .ok request := by
  rcases r with st | a
  · exact fun h => by cases h
  · exact fun h => hf a (Except.ok.inj h)

theorem ite_ne {α : Type} {p : Prop} [Decidable p] {a b x : α} (ha : a ≠ x) (hb : b ≠ x) :
    (if p then a else b) ≠ x := by
  split <;> assumption

theorem readFunction_ne_oneShot (tc : PusTc) (sids : List UInt8) :
    readFunction tc ≠ .ok (.oneShotHk sids) := by
  have hmode : readSetMode tc ≠ .ok (.oneShotHk sids) := by
    unfold readSetMode
    split <;> simp
  have hheater : readSetHeater tc ≠ .ok (.oneShotHk sids) := ite_ne (by simp) (by simp)
  refine ite_ne (by simp) (ite_ne (by simp) ?_)
  refine ite_ne (ite_ne (by simp) hmode) ?_
  refine ite_ne (ite_ne (by simp) hheater) ?_
  refine ite_ne (ite_ne (by simp) (by simp)) ?_
  refine ite_ne (ite_ne (by simp) (by simp)) ?_
  exact ite_ne (ite_ne (by simp) (by simp)) (by simp)

theorem readRequest_oneShot_iff (tc : PusTc) :
    (∃ sids, readRequest tc = .ok (.oneShotHk sids)) ↔
      tc.serviceType = pusServiceHousekeeping ∧ tc.serviceSubtype = pusSt03OneShot ∧
        ValidSidList tc := by
  constructor
  · rintro ⟨sids, h⟩
    unfold readRequest at h
    split_ifs at h with hservice
    · unfold readHousekeeping at h
      split_ifs at h with _ _ hsubtype
      · exact absurd h (map_ne_ok (by simp))
      · exact absurd h (map_ne_ok (by simp))
      · rcases hcheck : checkSids tc with st | listed
        · rw [hcheck] at h
          cases h
        · exact ⟨hservice, hsubtype, (validSidList_of_check hcheck).1⟩
    · unfold readEvent at h
      split_ifs at h
      · exact absurd h (map_ne_ok (by simp))
      · exact absurd h (map_ne_ok (by simp))
    · exact absurd h (readFunction_ne_oneShot tc sids)
    · unfold readTest at h
      split_ifs at h
      cases h
  · rintro ⟨hservice, hsubtype, hlist⟩
    refine ⟨listedSids tc, ?_⟩
    rw [readRequest, if_pos hservice, readHousekeeping, hsubtype, checkSids_of_valid hlist]
    rfl

theorem length_acceptanceReports_le (tc : PusTc) : (acceptanceReports tc).length ≤ 1 := by
  unfold acceptanceReports
  split <;> simp

section Room
variable {s : Obsw} {tc : PusTc} (hempty : tmQueueCount s.queue = 0) (hq : Valid s.queue)
include hempty hq

/-- What is sent before the completion report fills an empty queue only when a one-shot
request with a valid list asks for that much. -/
theorem fills_queue_iff :
    pusTmQueueDepth ≤ (acceptanceReports tc).length + (servicePackets s tc).length ↔
      (tc.serviceType = pusServiceHousekeeping ∧ tc.serviceSubtype = pusSt03OneShot ∧
        ValidSidList tc) ∧
      pusTmQueueDepth ≤ (acceptanceReports tc).length + listCount tc := by
  have hacceptance := length_acceptanceReports_le tc
  have hfree := freeSlots_atService hq tc
  have hdepth : pusTmQueueDepth = 16 := rfl
  rw [servicePackets, List.length_map, serviceOutcome]
  by_cases hone : ∃ sids, readRequest tc = .ok (.oneShotHk sids)
  · have hservice := (readRequest_oneShot_iff tc).mp hone
    obtain ⟨hhk, hsubtype, hlist⟩ := hservice
    have hread : readRequest tc = .ok (.oneShotHk (listedSids tc)) := by
      rw [readRequest, if_pos hhk, readHousekeeping, hsubtype, checkSids_of_valid hlist]
      rfl
    have hlen : (outcome (atService s tc) (readRequest tc)).reports.length =
        min (listCount tc) (freeSlots (atService s tc) + 1) := by
      rw [hread, ← length_listedSids]
      exact length_oneShotReports _ _
    rw [hlen, hfree, hempty]
    simp only [hhk, hsubtype, hlist, and_self, true_and]
    omega
  · have hlen := length_outcome_le (atService s tc) (readRequest tc)
      (fun sids h => hone ⟨sids, h⟩)
    have hother := mt (readRequest_oneShot_iff tc).mpr hone
    simp only [hother, false_and, iff_false]
    omega

end Room

def completionContent (octets : List UInt8) (st : PusStatus) : Content :=
  if st = .ok then (pusServiceVerification, pusSt01CompletionSuccess, octets.take 4)
  else (pusServiceVerification, pusSt01CompletionFailure, octets.take 4 ++ pusPutU16 st.code)

theorem isCompletion_completionContent (octets : List UInt8) (st : PusStatus) :
    isCompletion (completionContent octets st) = true ∧
      isAcceptance (completionContent octets st) = false := by
  unfold completionContent
  split <;> exact ⟨rfl, rfl⟩

theorem take_completionContent {octets : List UInt8} (hlen : 4 ≤ octets.length)
    (st : PusStatus) : (completionContent octets st).2.2.take 4 = octets.take 4 := by
  unfold completionContent
  split
  · simp
  · rw [List.take_append_of_le_length (by simp [hlen]), List.take_take, Nat.min_self]

/-- The response in three parts: acceptance, service, and a tail that starts with completion. -/
theorem acceptedResponse_eq (s : Obsw) (octets : List UInt8) (tc : PusTc) (st : PusStatus) :
    acceptedResponse s octets tc st =
      (if pusTcAckRequested (some tc) pusAckAcceptance then
        [(pusServiceVerification, pusSt01AcceptanceSuccess, octets.take 4)]
      else []) ++ servicePackets s tc ++
      ((if pusTcAckRequested (some tc) pusAckCompletion then [completionContent octets st]
          else []) ++
        if st = .ok then [] else failureEvent s st) := by
  unfold acceptedResponse completionContent
  by_cases hok : st = .ok
  · simp only [if_pos hok, List.append_nil]
  · simp only [if_neg hok]

theorem filter_take_append {α : Type} {p : α → Bool} {xs ys zs : List α}
    (hys : ∀ y ∈ ys, p y = false) {n : ℕ} (hxs : xs.length ≤ n) :
    ((xs ++ ys ++ zs).take n).filter p =
      xs.filter p ++ (zs.take (n - (xs.length + ys.length))).filter p := by
  have hmiddle : (ys.take (n - xs.length)).filter p = [] := by
    rw [List.filter_eq_nil_iff]
    intro y hy
    simp [hys y (List.mem_of_mem_take hy)]
  rw [List.take_append, List.take_append, List.take_of_length_le hxs, List.filter_append,
    List.filter_append, hmiddle, List.append_nil, List.length_append]

section Kept
variable (s : Obsw) (octets : List UInt8) (tc : PusTc) (st : PusStatus)

theorem filter_isAcceptance_take :
    ((acceptedResponse s octets tc st).take pusTmQueueDepth).filter isAcceptance =
      if pusTcAckRequested (some tc) pusAckAcceptance then
        [(pusServiceVerification, pusSt01AcceptanceSuccess, octets.take 4)]
      else [] := by
  rw [acceptedResponse_eq, filter_take_append
    (fun content h => isAcceptance_of_service (servicePackets_service_ne h)) (by split <;> simp)]
  have htail (k : ℕ) : ((((if pusTcAckRequested (some tc) pusAckCompletion then
      [completionContent octets st] else []) ++
        if st = .ok then [] else failureEvent s st)).take k).filter isAcceptance = [] := by
    rw [List.filter_eq_nil_iff]
    intro content h
    rcases List.mem_append.mp (List.mem_of_mem_take h) with h | h
    · split at h
      · rw [List.mem_singleton] at h
        subst h
        simp [(isCompletion_completionContent octets st).2]
      · cases h
    · split at h
      · cases h
      · simp [isAcceptance_of_service (failureEvent_service_ne h)]
  rw [htail, List.append_nil]
  split <;> rfl

/-- The completion report is kept unless what is sent before it fills the queue. -/
theorem filter_isCompletion_take
    (hcompletion : pusTcAckRequested (some tc) pusAckCompletion = true) :
    ((acceptedResponse s octets tc st).take pusTmQueueDepth).filter isCompletion =
      if pusTmQueueDepth ≤ (acceptanceReports tc).length + (servicePackets s tc).length then []
      else [completionContent octets st] := by
  have hlen : (if pusTcAckRequested (some tc) pusAckAcceptance then
      [((pusServiceVerification, pusSt01AcceptanceSuccess, octets.take 4) : Content)]
      else []).length = (acceptanceReports tc).length := by
    unfold acceptanceReports
    split <;> rfl
  have hfirst : (if pusTcAckRequested (some tc) pusAckAcceptance then
      [((pusServiceVerification, pusSt01AcceptanceSuccess, octets.take 4) : Content)]
      else []).filter isCompletion = [] := by
    split <;> rfl
  have hle := length_acceptanceReports_le tc
  rw [acceptedResponse_eq, filter_take_append
    (fun content h => isCompletion_of_service (servicePackets_service_ne h))
    (by split <;> simp), hlen, hfirst, if_pos hcompletion, List.nil_append]
  by_cases hfull : pusTmQueueDepth ≤ (acceptanceReports tc).length + (servicePackets s tc).length
  · rw [if_pos hfull, Nat.sub_eq_zero_of_le hfull]
    rfl
  · rw [if_neg hfull]
    obtain ⟨k, hk⟩ : ∃ k, pusTmQueueDepth -
        ((acceptanceReports tc).length + (servicePackets s tc).length) = k + 1 :=
      Nat.exists_eq_add_one_of_ne_zero (by omega)
    have hrest :
        ((if st = .ok then [] else failureEvent s st).take k).filter isCompletion = [] := by
      rw [List.filter_eq_nil_iff]
      intro content h
      have h := List.mem_of_mem_take h
      split at h
      · cases h
      · simp [isCompletion_of_service (failureEvent_service_ne h)]
    rw [hk, List.singleton_append, List.take_succ_cons, List.filter_cons_of_pos
      (isCompletion_completionContent octets st).1, hrest]

end Kept

/-- In an empty queue the response stands alone, cut off where the queue is full. -/
theorem contents_obcProcessTc_empty {s : Obsw} (hempty : tmQueueCount s.queue = 0)
    (hq : Valid s.queue) {octets : List UInt8} {tc : PusTc}
    (hparse : pusTcParse (some octets) octets.length = .ok tc) :
    (contents (obcProcessTc s (some octets) octets.length).2.queue).map tmContent =
      (acceptedResponse s octets tc
        (obcProcessTc s (some octets) octets.length).1).take pusTmQueueDepth := by
  obtain ⟨rs, hemits, hcontent⟩ := emits_response _ octets
  obtain ⟨added, hcontents, hadded⟩ := hemits.queued hq
  have hcount : s.queue.count = 0 := hempty
  have hnone : contents s.queue = [] := List.length_eq_zero_iff.mp (by simpa using hcount)
  rw [hcontents, hnone, List.nil_append, hadded, hcount, Nat.sub_zero, List.map_take, hcontent]
  simp only [response, hparse]

/-- With the queue empty before an accepted telecommand, the verification reports it asks for
are all kept, except the completion report of a one-shot request that fills the queue. -/
theorem verification_kept_iff (s : Obsw) (stimuli : List Stimulus) (octets : List UInt8)
    (tc : PusTc) (hempty : tmQueueCount (after s stimuli).obsw.queue = 0)
    (hparse : pusTcParse (some octets) octets.length = .ok tc) :
    VerificationKept octets tc
        ((contents (obcProcessTc (after s stimuli).obsw (some octets)
          octets.length).2.queue).map tmContent) ↔
      ¬(pusTcAckRequested (some tc) pusAckCompletion = true ∧
        (tc.serviceType = pusServiceHousekeeping ∧ tc.serviceSubtype = pusSt03OneShot ∧
          ValidSidList tc) ∧
        pusTmQueueDepth ≤ (acceptanceReports tc).length + listCount tc) := by
  have hq := valid_after s stimuli
  have hlen := (firstFailing_ok (pusTcParse_ok hparse).1).1
  rw [← fills_queue_iff hempty hq, contents_obcProcessTc_empty hempty hq hparse]
  constructor
  · rintro hkept ⟨hcompletion, hfull⟩
    obtain ⟨content, hfilter, -⟩ := hkept.completion hcompletion
    rw [filter_isCompletion_take _ _ _ _ hcompletion, if_pos hfull] at hfilter
    cases hfilter
  · intro hroom
    refine ⟨fun hacceptance => ?_, fun hcompletion => ?_⟩
    · rw [filter_isAcceptance_take, if_pos hacceptance]
    · refine ⟨completionContent octets (obcProcessTc (after s stimuli).obsw (some octets)
        octets.length).1, ?_, take_completionContent (by omega) _⟩
      rw [filter_isCompletion_take _ _ _ _ hcompletion,
        if_neg (fun hfull => hroom ⟨hcompletion, hfull⟩)]

def drained : List Stimulus := [.pop (List.replicate 256 0)]

theorem verification_kept_test :
    VerificationKept testTelecommand (decodedTc testTelecommand)
      ((contents (obcProcessTc (after default drained).obsw (some testTelecommand)
        testTelecommand.length).2.queue).map tmContent) :=
  (verification_kept_iff default drained testTelecommand (decodedTc testTelecommand)
    (by decide +kernel) (by rw [pusTcParse_eq, if_pos (by decide +kernel)])).mpr
    (fun h => absurd h.2.1.1 (by decide +kernel))

/-- Fifteen reports in one request, with acceptance and completion acknowledged. -/
def fifteenStructures : List UInt8 :=
  [24, 12, 192, 0, 0, 22, 41, 3, 27, 0, 0, 15, 1, 1, 1, 1, 1, 1, 1, 1, 1, 1, 1, 1, 1, 1, 1, 24, 42]

/-- The acceptance report and the fifteen reports fill the queue: the request succeeds, its
completion is acknowledged by nothing. -/
theorem completion_report_lost :
    tmQueueCount (after default drained).obsw.queue = 0 ∧
      pusTcParse (some fifteenStructures) fifteenStructures.length =
        .ok (decodedTc fifteenStructures) ∧
      (obcProcessTc (after default drained).obsw (some fifteenStructures)
        fifteenStructures.length).1 = .ok ∧
      ¬VerificationKept fifteenStructures (decodedTc fifteenStructures)
        ((contents (obcProcessTc (after default drained).obsw (some fifteenStructures)
          fifteenStructures.length).2.queue).map tmContent) := by
  have hnone : ((contents (obcProcessTc (after default drained).obsw (some fifteenStructures)
      fifteenStructures.length).2.queue).map tmContent).filter isCompletion = [] := by
    decide +kernel
  refine ⟨by decide +kernel, by rw [pusTcParse_eq, if_pos (by decide +kernel)],
    by decide +kernel, ?_⟩
  intro hkept
  obtain ⟨content, hone, -⟩ := hkept.completion (by decide +kernel)
  rw [hnone] at hone
  cases hone

end ObswPus.Commanding
