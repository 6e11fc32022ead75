import ObswPus.Ground.Icd
import ObswPus.Commanding.Asked
import ObswPus.Commanding.Rejection
import ObswPus.Telemetry.Overflow

/-! # Conformance of the downlink

Every report that the flight software sends is one that the interface control document
lists, so that in every reachable state the downlink queue holds nothing else. The one
fact about runs behind it: the overflow sample never exceeds the drop counter, which
makes every reported drop count positive.
-/
namespace ObswPus.Ground
open Flight Downlink Codec Commanding Telemetry

section Reports
variable {r : Report}

theorem inIcd_success {subtype : UInt8} (requestId : UInt32)
    (h : subtype = pusSt01AcceptanceSuccess ∨ subtype = pusSt01CompletionSuccess) :
    InIcd (successReport subtype requestId) := by
  intro tm time
  rcases h with rfl | rfl <;> exact length_pusPutU32 requestId

theorem code_range {st : PusStatus} (hst : st ≠ .ok) :
    1 ≤ st.code.toNat ∧ st.code.toNat ≤ 17 := by
  cases st <;> first | exact absurd rfl hst | decide

theorem inIcd_failure {subtype : UInt8} (requestId : UInt32) {st : PusStatus}
    (h : subtype = pusSt01AcceptanceFailure ∨ subtype = pusSt01CompletionFailure)
    (hst : st ≠ .ok) : InIcd (failureReport subtype requestId st) := by
  have hlen : (pusPutU32 requestId ++ pusPutU16 st.code).length = 6 := by simp
  have hcode : slice (pusPutU32 requestId ++ pusPutU16 st.code) 4 6 = pusPutU16 st.code :=
    slice_of_drop [] rfl rfl
  have hrange := code_range hst
  rw [← fromBytes_pusPutU16, ← hcode] at hrange
  intro tm time
  rcases h with rfl | rfl <;> exact ⟨hlen, hrange⟩

theorem inIcd_event (id : ObcEventId) (severity : UInt8) (aux : UInt16)
    (h : documentedEvent id.code.toNat severity.toNat aux.toNat) :
    InIcd (eventReport id severity aux) := by
  have hlen : (pusPutU16 id.code ++ pusPutU16 aux).length = 4 := by simp
  have hid : slice (pusPutU16 id.code ++ pusPutU16 aux) 0 2 = pusPutU16 id.code :=
    slice_of_drop (pusPutU16 aux) rfl rfl
  have haux : slice (pusPutU16 id.code ++ pusPutU16 aux) 2 4 = pusPutU16 aux :=
    slice_of_drop [] rfl rfl
  rw [← fromBytes_pusPutU16 id.code, ← fromBytes_pusPutU16 aux, ← hid, ← haux] at h
  intro tm time
  exact ⟨hlen, h⟩

theorem inIcd_eventReports {flags : Svc05} {id : ObcEventId} {severity : UInt8} {aux : UInt16}
    (hr : r ∈ eventReports flags id severity aux)
    (h : documentedEvent id.code.toNat severity.toNat aux.toNat) : InIcd r := by
  unfold eventReports at hr
  split at hr
  · rw [List.mem_singleton] at hr
    subst hr
    exact inIcd_event id severity aux h
  · cases hr

theorem sid_cases {sid : UInt8} (h : svc03SidValid sid = true) : sid = 1 ∨ sid = 2 := by
  have hrange := of_decide_eq_true h
  rw [UInt8.le_iff_toNat_le, UInt8.le_iff_toNat_le] at hrange
  have hmax : (UInt8.ofNat obcHkMaxStructures).toNat = 2 := rfl
  have hmin : (1 : UInt8).toNat = 1 := rfl
  have htwo : (2 : UInt8).toNat = 2 := rfl
  rw [← UInt8.toNat_inj, ← UInt8.toNat_inj]
  omega

theorem inIcd_hkReport (s : Obsw) {sid : UInt8} (h : svc03SidValid sid = true) :
    InIcd (hkReport s sid) := by
  have hlen := svc03Data_length s sid
  intro tm time
  rcases sid_cases h with rfl | rfl
  · exact .inl ⟨rfl, hlen⟩
  · exact .inr ⟨rfl, hlen⟩

theorem inIcd_aliveReport : InIcd aliveReport := fun _ _ => rfl

theorem inIcd_failureEvents {flags : Svc05} {st : PusStatus} (hst : st ≠ .ok)
    (hr : r ∈ failureEvents flags st) : InIcd r :=
  inIcd_eventReports hr (code_range hst)

theorem toNat_toUInt16 (on : Bool) : on.toUInt16.toNat ≤ 1 := by
  cases on <;> decide

theorem inIcd_heaterReports {c : Control} {on : Bool} (hr : r ∈ heaterReports c on) :
    InIcd r := by
  unfold heaterReports at hr
  split at hr
  · cases hr
  · exact inIcd_eventReports hr (toNat_toUInt16 on)

theorem inIcd_modeReports {c : Control} {target : ObcMode} (hr : r ∈ modeReports c target) :
    InIcd r := by
  unfold modeReports at hr
  split at hr
  · cases hr
  rcases List.mem_append.mp hr with hr | hr
  · split at hr
    · exact inIcd_heaterReports hr
    · cases hr
  · have haux : target.code.toUInt16.toNat ≤ 1 := by
      cases target <;> decide
    exact inIcd_eventReports hr haux

theorem inIcd_oneShotReports {s : Obsw} {sids : List UInt8}
    (hsids : ∀ sid ∈ sids, svc03SidValid sid = true) (hr : r ∈ oneShotReports s sids) :
    InIcd r := by
  induction sids generalizing s with
  | nil => cases hr
  | cons sid sids ih =>
    rcases List.mem_cons.mp hr with rfl | hr
    · exact inIcd_hkReport s (hsids sid List.mem_cons_self)
    · split at hr
      · exact ih (fun sid hsid => hsids sid (List.mem_cons_of_mem _ hsid)) hr
      · cases hr

theorem valid_of_readRequest {tc : PusTc} {sids : List UInt8}
    (h : readRequest tc = .ok (.oneShotHk sids)) : ∀ sid ∈ sids, svc03SidValid sid = true := by
  have hasked := asked_of_readRequest h
  cases hasked with
  | oneShotHk hservice hsubtype hsids =>
    obtain ⟨rfl, hvalid, -⟩ := checkList_ok hsids
    exact hvalid

theorem inIcd_outcome {s : Obsw} {tc : PusTc} (hr : r ∈ (outcome s (readRequest tc)).reports) :
    InIcd r := by
  rcases hread : readRequest tc with st | request <;> rw [hread] at hr
  · cases hr
  cases request with
  | oneShotHk sids => exact inIcd_oneShotReports (valid_of_readRequest hread) hr
  | setMode target => exact inIcd_modeReports hr
  | setHeater on =>
    simp only [outcome, Request.outcome] at hr
    split at hr
    · cases hr
    · exact inIcd_heaterReports hr
  | areYouAlive =>
    rw [outcome, Request.outcome, List.mem_singleton] at hr
    subst hr
    exact inIcd_aliveReport
  | switchHk | switchEvents | injectTemperature | setTime | resetCounters => cases hr

theorem inIcd_acceptanceReports {tc : PusTc} (hr : r ∈ acceptanceReports tc) : InIcd r := by
  unfold acceptanceReports at hr
  split at hr
  · rw [List.mem_singleton] at hr
    subst hr
    exact inIcd_success _ (.inl rfl)
  · cases hr

theorem inIcd_completionReports {tc : PusTc} {st : PusStatus} (hr : r ∈ completionReports tc st) :
    InIcd r := by
  unfold completionReports at hr
  split at hr
  · rw [List.mem_singleton] at hr
    subst hr
    split
    · exact inIcd_success _ (.inr rfl)
    · rename_i hst
      exact inIcd_failure _ (.inr rfl) hst
  · cases hr

theorem inIcd_closingReports {flags : Svc05} {tc : PusTc} {st : PusStatus}
    (hr : r ∈ closingReports flags tc st) : InIcd r := by
  rcases List.mem_append.mp hr with hr | hr
  · exact inIcd_completionReports hr
  · split at hr
    · cases hr
    · rename_i hst
      exact inIcd_failureEvents hst hr

/-- A telecommand sends listed reports only. -/
theorem evolves_obcProcessTc_inIcd (s : Obsw) (octets : List UInt8) :
    ∃ c rs, Evolves s (obcProcessTc s (some octets) octets.length).2 c rs ∧
      ∀ r ∈ rs, InIcd r := by
  rcases hparse : pusTcParse (some octets) octets.length with st | tc
  · have hst := (pusTcParse_error hparse).2
    refine ⟨_, _, evolves_obcProcessTc_rejected hparse, ?_⟩
    intro r hr
    rcases List.mem_cons.mp hr with rfl | hr
    · exact inIcd_failure _ (.inl rfl) hst
    · exact inIcd_failureEvents hst hr
  · refine ⟨_, _, evolves_obcProcessTc_routed hparse, ?_⟩
    intro r hr
    rcases List.mem_append.mp hr with hr | hr
    · rcases List.mem_append.mp hr with hr | hr
      · exact inIcd_acceptanceReports hr
      · exact inIcd_outcome hr
    · exact inIcd_closingReports hr

theorem alarm_range {t : Int16} (h : t ≥ obcTempAlarmDc) :
    400 ≤ t.toUInt16.toNat ∧ t.toUInt16.toNat < 32768 := by
  have hlow := Int16.toUInt16_le (by decide) h
  have hhigh := Int16.toUInt16_le (Int16.le_trans (by decide) h) (Int16.le_maxValue t)
  rw [UInt16.le_iff_toNat_le] at hlow hhigh
  have halarm : obcTempAlarmDc.toUInt16.toNat = 400 := rfl
  have hmax : Int16.maxValue.toUInt16.toNat = 32767 := rfl
  omega

theorem inIcd_thermalReports {c : Control} (hr : r ∈ thermalReports c) : InIcd r := by
  unfold thermalReports at hr
  split_ifs at hr with _ halarm
  · rcases List.mem_append.mp hr with hr | hr
    · exact inIcd_eventReports hr (alarm_range halarm)
    · exact inIcd_modeReports hr
  · exact inIcd_modeReports hr
  · exact inIcd_heaterReports hr
  · exact inIcd_heaterReports hr
  · cases hr
  · exact inIcd_heaterReports hr

/-- A reported drop count is positive, as the counter is ahead of its sample. -/
theorem inIcd_overflowReports {s : Obsw} (hsample : s.lastOverflow ≤ s.queue.overflows)
    (hr : r ∈ overflowReports s) : InIcd r := by
  unfold overflowReports at hr
  split at hr
  · rename_i hchanged
    have hpos : 0 < s.queue.overflows.toNat := by
      rw [ne_eq, ← UInt16.toNat_inj] at hchanged
      rw [UInt16.le_iff_toNat_le] at hsample
      omega
    exact inIcd_eventReports hr hpos
  · cases hr

theorem inIcd_periodicReports {s : Obsw} {sids : List UInt8}
    (hsids : ∀ sid ∈ sids, svc03SidValid sid = true) (hr : r ∈ periodicReports s sids) :
    InIcd r := by
  induction sids generalizing s with
  | nil => cases hr
  | cons sid sids ih =>
    have hrest : ∀ sid ∈ sids, svc03SidValid sid = true :=
      fun sid hsid => hsids sid (List.mem_cons_of_mem _ hsid)
    unfold periodicReports at hr
    split at hr
    · rcases List.mem_cons.mp hr with rfl | hr
      · exact inIcd_hkReport s (hsids sid List.mem_cons_self)
      · exact ih hrest hr
    · exact ih hrest hr

theorem inIcd_hkTickReports {s : Obsw} (hr : r ∈ hkTickReports s) : InIcd r := by
  unfold hkTickReports at hr
  split at hr
  · cases hr
  · exact inIcd_periodicReports hkSids_valid hr

end Reports

/-- The queue is in order and holds conforming packets only, and the sample of the drop
counter is not ahead of the counter. -/
structure Conforming (s : Obsw) : Prop where
  valid : Valid s.queue
  packets : ∀ p ∈ contents s.queue, Conforms p
  sample : s.lastOverflow ≤ s.queue.overflows

theorem Conforming.emit {s : Obsw} {r : Report} (h : Conforming s) (hr : InIcd r) :
    Conforming (emit s r) := by
  refine ⟨valid_emit s r h.valid, ?_, ?_⟩
  · intro p hp
    rcases Nat.lt_or_ge s.queue.count pusTmQueueDepth with hroom | hfull
    · rw [contents_emit_room s r hroom, List.mem_append, List.mem_singleton] at hp
      rcases hp with hp | rfl
      · exact h.packets p hp
      · exact conforms_tmPacket hr _ _
    · rw [contents_emit_full s r hfull] at hp
      exact h.packets p hp
  · rw [lastOverflow_emit]
    exact UInt16.le_trans h.sample (overflows_le_emit s r)

theorem Conforming.of_emits {s s' : Obsw} {rs : List Report} (h : Conforming s)
    (hemits : Emits s s' rs) (hrs : ∀ r ∈ rs, InIcd r) : Conforming s' :=
  hemits.invariant (P := InIcd) (I := Conforming)
    (fun _ _ hsame hs =>
      ⟨hsame.queue ▸ hs.valid, hsame.queue ▸ hs.packets, by
        rw [hsame.lastOverflow, hsame.queue]
        exact hs.sample⟩)
    (fun _ _ hr hs => hs.emit hr) hrs h

theorem conforming_powerOn (s : Obsw) : Conforming (powerOn s).obsw := by
  rw [powerOn, obcInit_eq]
  have hempty : Conforming (cleared s) := by
    refine ⟨valid_tmQueueInit s.queue, ?_, UInt16.le_refl 0⟩
    intro p hp
    rw [cleared, contents_tmQueueInit] at hp
    cases hp
  exact hempty.emit (inIcd_event _ _ _ rfl)

theorem conforming_obcTick {s : Obsw} (h : Conforming s) : Conforming (obcTick s) := by
  have hsample := h.of_emits (evolves_atSample s).emits fun _ hr => inIcd_thermalReports hr
  have hsampled : Conforming (sampled (atSample s)) :=
    ⟨hsample.valid, hsample.packets, UInt16.le_refl _⟩
  apply hsampled.of_emits (evolves_fromSample s).emits
  intro r hr
  rcases List.mem_append.mp hr with hr | hr
  · exact inIcd_overflowReports hsample.sample hr
  · exact inIcd_hkTickReports hr

theorem conforming_step (u : Obc) (e : Stimulus) (h : Conforming u.obsw) :
    Conforming (u.step e).obsw := by
  cases e with
  | tick =>
    rw [obsw_tick]
    exact conforming_obcTick h
  | telecommand octets =>
    rw [obsw_telecommand]
    obtain ⟨c, rs, hevolves, hlisted⟩ := evolves_obcProcessTc_inIcd u.obsw octets
    exact h.of_emits hevolves.emits hlisted
  | pop buf =>
    rw [obsw_pop]
    refine ⟨valid_tmQueuePop h.valid _ _ _, ?_, ?_⟩
    · intro p hp
      exact h.packets p (mem_of_mem_tmQueuePop h.valid hp)
    · dsimp only
      rw [overflows_tmQueuePop]
      exact h.sample
  | thermistor valueDc => exact ⟨h.valid, h.packets, h.sample⟩

/-- In every state reached from power-on, every packet awaiting downlink conforms to the
interface control document. -/
theorem downlink_conforms (s : Obsw) (stimuli : List Stimulus) :
    ∀ p ∈ contents (after s stimuli).obsw.queue, Conforms p :=
  (after_invariant (I := fun u => Conforming u.obsw) conforming_powerOn conforming_step s
    stimuli).packets

/-- A mode change, a minor cycle that switches the heater on, and a command that is accepted and
fails: six packets wait. -/
theorem downlink_conforms_several :
    let u := after default
      [.telecommand nominalTelecommand, .thermistor 20, .tick, .telecommand unknownModeTelecommand]
    (contents u.obsw.queue).length = 6 ∧ ∀ p ∈ contents u.obsw.queue, Conforms p := by
  refine ⟨?_, downlink_conforms default
    [.telecommand nominalTelecommand, .thermistor 20, .tick, .telecommand unknownModeTelecommand]⟩
  rw [contents_length]
  decide +kernel

end ObswPus.Ground
