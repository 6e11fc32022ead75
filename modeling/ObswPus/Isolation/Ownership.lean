import ObswPus.Commanding.Asked
import ObswPus.Commanding.Effect
import ObswPus.Commanding.Rejection
import ObswPus.Codec.Acceptance
import ObswPus.Library.Frame

/-! # What a telecommand owns

The controlled state as a family of components, the components that each service,
subtype and function may change, and the proof that a telecommand executed with success
changes no other, its own count aside. A minor cycle changes nothing that is configured
by telecommand.
-/
namespace ObswPus.Isolation
open Flight Downlink Commanding Library

/-- The components of the controlled state: every variable outside the downlink path, the
flag arrays flag by flag. -/
inductive Component where
  | mode
  | uptimeTicks
  | temperatureDc
  | heaterOn
  | heaterLine
  | tcAccepted
  | tcRejected
  | lastFailureCode
  | alarmLatched
  | hkFlag (i : Fin obcHkMaxStructures)
  | hkPhase
  | eventFlag (i : Fin obcEventMaxIds)
  | ticks
  | epochCoarse
  | epochFine
  | injectedTemperature
  deriving DecidableEq

def Component.Value : Component → Type
  | .mode => ObcMode
  | .uptimeTicks | .hkPhase | .ticks | .epochCoarse => UInt32
  | .temperatureDc | .injectedTemperature => Int16
  | .heaterOn | .heaterLine | .alarmLatched | .hkFlag _ | .eventFlag _ => Bool
  | .tcAccepted | .tcRejected | .lastFailureCode | .epochFine => UInt16

def Component.read : (c : Component) → Control → c.Value
  | .mode, k => k.state.mode
  | .uptimeTicks, k => k.state.uptimeTicks
  | .temperatureDc, k => k.state.temperatureDc
  | .heaterOn, k => k.state.heaterOn
  | .heaterLine, k => k.hal.heaterOn
  | .tcAccepted, k => k.state.tcAccepted
  | .tcRejected, k => k.state.tcRejected
  | .lastFailureCode, k => k.state.lastFailureCode
  | .alarmLatched, k => k.alarmLatched
  | .hkFlag i, k => k.svc03.enabled i
  | .hkPhase, k => k.svc03.phase
  | .eventFlag i, k => k.svc05.enabled i
  | .ticks, k => k.hal.ticks
  | .epochCoarse, k => k.hal.epochCoarse
  | .epochFine, k => k.hal.epochFine
  | .injectedTemperature, k => k.hal.temperatureDc

/-- Nothing of the controlled state is left out. -/
theorem control_eq_of_read {k k' : Control} (h : ∀ c : Component, c.read k' = c.read k) :
    k' = k := by
  obtain ⟨hal, svc03, svc05, state, alarmLatched⟩ := k
  obtain ⟨hal', svc03', svc05', state', alarmLatched'⟩ := k'
  have hflags : svc03'.enabled = svc03.enabled := by
    funext i
    exact h (.hkFlag i)
  have hevents : svc05'.enabled = svc05.enabled := by
    funext i
    exact h (.eventFlag i)
  congr 1
  · exact (Hal.mk.injEq ..).mpr
      ⟨h .ticks, h .epochCoarse, h .epochFine, h .injectedTemperature, h .heaterLine⟩
  · exact (Svc03.mk.injEq ..).mpr ⟨hflags, h .hkPhase⟩
  · exact (Svc05.mk.injEq ..).mpr hevents
  · exact (ObcState.mk.injEq ..).mpr
      ⟨h .mode, h .uptimeTicks, h .temperatureDc, h .heaterOn, h .tcAccepted, h .tcRejected,
        h .lastFailureCode⟩
  · exact h .alarmLatched

abbrev OnlyChanges (owned : Set Component) (k k' : Control) : Prop :=
  Changes Component.read owned k k'

def heaterComponents : Set Component := {.heaterOn, .heaterLine}

def modeComponents : Set Component := {.mode, .heaterOn, .heaterLine}

section Switches
variable (k : Control)

theorem onlyChanges_switchHeater (on : Bool) :
    OnlyChanges heaterComponents k (switchHeater k on) := by
  apply Changes.ite
  · exact fun _ => Changes.refl k
  · intro _ c hc
    cases c <;> first | rfl | exact absurd (by simp [heaterComponents]) hc

theorem onlyChanges_switchMode (target : ObcMode) :
    OnlyChanges modeComponents k (switchMode k target) := by
  have hset : OnlyChanges modeComponents k { k with state := { k.state with mode := target } } := by
    intro c hc
    cases c <;> first | rfl | exact absurd (by simp [modeComponents]) hc
  have hheater : heaterComponents ⊆ modeComponents := fun c hc => .inr hc
  apply Changes.ite
  · exact fun _ => Changes.refl k
  · intro _
    apply Changes.ite
    · exact fun _ => hset.trans ((onlyChanges_switchHeater _ false).mono hheater)
    · exact fun _ => hset

end Switches

/-- What each function of service 8 may change. -/
def functionComponents (fid : UInt8) : Set Component :=
  if fid = obcFidSetMode then modeComponents
  else if fid = obcFidSetHeater then heaterComponents
  else if fid = obcFidInjectTemp then {.injectedTemperature}
  else if fid = obcFidResetCounters then {.tcAccepted, .tcRejected, .lastFailureCode}
  else if fid = obcFidSetTime then {.epochCoarse, .epochFine}
  else ∅

def listedHkFlags (tc : PusTc) : Set Component :=
  {c | ∃ i, c = .hkFlag i ∧ ∃ sid ∈ listedSids tc, sid.toNat = i.val + 1}

def listedEventFlags (tc : PusTc) : Set Component :=
  {c | ∃ i, c = .eventFlag i ∧ ∃ id ∈ listedEvents tc, id.toNat = i.val + 1}

/-- What a telecommand may change, by its service, its subtype and its function: a one-shot
request for housekeeping and a connection test own nothing. -/
def owned (tc : PusTc) : Set Component :=
  if tc.serviceType = pusServiceHousekeeping then
    if tc.serviceSubtype = pusSt03Enable ∨ tc.serviceSubtype = pusSt03Disable then
      listedHkFlags tc
    else ∅
  else if tc.serviceType = pusServiceEvent then
    if tc.serviceSubtype = pusSt05Enable ∨ tc.serviceSubtype = pusSt05Disable then
      listedEventFlags tc
    else ∅
  else if tc.serviceType = pusServiceFunction then
    if tc.serviceSubtype = pusSt08Perform then functionComponents (pusGetU8 (tc.appDataAt 0))
    else ∅
  else ∅

section Owned
variable {tc : PusTc}

theorem owned_housekeeping {on : Bool} (hservice : tc.serviceType = pusServiceHousekeeping)
    (hsubtype : tc.serviceSubtype = if on then pusSt03Enable else pusSt03Disable) :
    owned tc = listedHkFlags tc := by
  have hswitch : tc.serviceSubtype = pusSt03Enable ∨ tc.serviceSubtype = pusSt03Disable := by
    cases on
    · exact .inr hsubtype
    · exact .inl hsubtype
  rw [owned, if_pos hservice, if_pos hswitch]

theorem owned_event {on : Bool} (hservice : tc.serviceType = pusServiceEvent)
    (hsubtype : tc.serviceSubtype = if on then pusSt05Enable else pusSt05Disable) :
    owned tc = listedEventFlags tc := by
  have hother : ¬tc.serviceType = pusServiceHousekeeping := by
    rw [hservice]
    decide
  have hswitch : tc.serviceSubtype = pusSt05Enable ∨ tc.serviceSubtype = pusSt05Disable := by
    cases on
    · exact .inr hsubtype
    · exact .inl hsubtype
  rw [owned, if_neg hother, if_pos hservice, if_pos hswitch]

theorem owned_function {fid : UInt8} {argLen : ℕ} (h : AsksFunction tc fid argLen) :
    owned tc = functionComponents fid := by
  have hhousekeeping : ¬tc.serviceType = pusServiceHousekeeping := by
    rw [h.service]
    decide
  have hevent : ¬tc.serviceType = pusServiceEvent := by
    rw [h.service]
    decide
  rw [owned, if_neg hhousekeeping, if_neg hevent, if_pos h.service, if_pos h.subtype, h.fid]

end Owned

theorem set_of_ne {n : ℕ} (flags : FixedArray n Bool) (on : Bool) {id : ℕ} {i : Fin n}
    (hpos : 1 ≤ id) (h : id ≠ i.val + 1) : flags.set (id - 1) on i = flags i := by
  have hne : ¬i.val = id - 1 := by omega
  simp only [FixedArray.set, if_neg hne]

section Requests
variable (k : Control) {tc : PusTc}

theorem onlyChanges_switchHk {sids : List UInt8} (on : Bool) (h : checkSids tc = .ok sids) :
    OnlyChanges (listedHkFlags tc) k (switchHk k sids on) := by
  obtain ⟨rfl, hvalid, -⟩ := checkList_ok h
  intro c hc
  cases c with
  | hkFlag i =>
    apply foldl_apply_of_untouched
    intro sid hsid flags
    have hpos : 1 ≤ sid.toNat := UInt8.le_iff_toNat_le.mp (of_decide_eq_true (hvalid sid hsid)).1
    exact set_of_ne flags on hpos fun heq => hc ⟨i, rfl, sid, hsid, heq⟩
  | _ => rfl

theorem onlyChanges_switchEvents {ids : List UInt16} (on : Bool) (h : checkEvents tc = .ok ids) :
    OnlyChanges (listedEventFlags tc) k (switchEvents k ids on) := by
  obtain ⟨rfl, hvalid, -⟩ := checkList_ok h
  intro c hc
  cases c with
  | eventFlag i =>
    apply foldl_apply_of_untouched
    intro id hid flags
    have hpos : 1 ≤ id.toNat := UInt16.le_iff_toNat_le.mp (of_decide_eq_true (hvalid id hid)).1
    exact set_of_ne flags on hpos fun heq => hc ⟨i, rfl, id, hid, heq⟩
  | _ => rfl

/-- A request changes only what its telecommand owns. -/
theorem onlyChanges_request {request : Request} (h : Asked tc request) :
    OnlyChanges (owned tc) k (request.control k) := by
  cases h with
  | switchHk on hservice hsubtype hsids =>
    rw [owned_housekeeping hservice hsubtype]
    exact onlyChanges_switchHk k on hsids
  | switchEvents on hservice hsubtype hids =>
    rw [owned_event hservice hsubtype]
    exact onlyChanges_switchEvents k on hids
  | @setMode target h =>
    rw [owned_function h]
    exact onlyChanges_switchMode k target
  | @setHeater on h =>
    rw [owned_function h]
    apply Changes.ite
    · exact fun _ => Changes.refl k
    · exact fun _ => onlyChanges_switchHeater k on
  | injectTemperature h =>
    rw [owned_function h]
    intro c hc
    cases c <;> first | rfl | exact absurd rfl hc
  | setTime h =>
    rw [owned_function h]
    intro c hc
    cases c <;> first | rfl | exact absurd (.inl rfl) hc | exact absurd (.inr rfl) hc
  | resetCounters h =>
    rw [owned_function h]
    intro c hc
    cases c <;> first
      | rfl
      | exact absurd (.inl rfl) hc
      | exact absurd (.inr (.inl rfl)) hc
      | exact absurd (.inr (.inr rfl)) hc
  | oneShotHk | areYouAlive => exact Changes.refl k

end Requests

theorem onlyChanges_obcProcessTc {s : Obsw} {octets : List UInt8} {tc : PusTc}
    (hparse : pusTcParse (some octets) octets.length = .ok tc)
    (hok : (obcProcessTc s (some octets) octets.length).1 = .ok) :
    OnlyChanges (insert .tcAccepted (owned tc)) (control s)
      (control (obcProcessTc s (some octets) octets.length).2) := by
  rw [obcProcessTc_routed_status hparse] at hok
  have hcount : OnlyChanges (insert .tcAccepted (owned tc)) (control s)
      (countAccepted (control s)) := by
    intro c hc
    cases c <;> first | rfl | exact absurd (.inl rfl) hc
  rw [(evolves_obcProcessTc_routed hparse).controlled, if_pos hok]
  rw [serviceOutcome, outcome_control, (evolves_atService s tc).controlled]
  apply hcount.trans
  rcases hread : readRequest tc with st | request
  · exact Changes.refl _
  · exact (onlyChanges_request _ (asked_of_readRequest hread)).mono (Set.subset_insert _ _)

/-- What a minor cycle may change. -/
def tickComponents : Set Component :=
  {.uptimeTicks, .temperatureDc, .ticks, .mode, .heaterOn, .heaterLine, .alarmLatched, .hkPhase}

section Tick
variable (k : Control)

theorem onlyChanges_regulate :
    OnlyChanges (insert .alarmLatched modeComponents) k (regulate k) := by
  have hheater (on : Bool) :
      OnlyChanges (insert .alarmLatched modeComponents) k (switchHeater k on) :=
    (onlyChanges_switchHeater k on).mono fun c hc => .inr (.inr hc)
  have hlatch : OnlyChanges (insert .alarmLatched modeComponents) k
      { k with alarmLatched := true } := by
    intro c hc
    cases c <;> first | rfl | exact absurd (.inl rfl) hc
  apply Changes.ite
  · intro _
    apply Changes.ite
    · exact fun _ => hlatch.trans ((onlyChanges_switchMode _ .safe).mono (Set.subset_insert _ _))
    · intro _
      apply Changes.ite
      · exact fun _ => hheater false
      · exact fun _ => Changes.ite (fun _ => hheater true) fun _ => Changes.refl k
  · exact fun _ => hheater false

theorem onlyChanges_monitorTemperature :
    OnlyChanges (insert .alarmLatched modeComponents) k (monitorTemperature k) := by
  have hregulate := onlyChanges_regulate k
  apply Changes.ite
  · intro _
    apply hregulate.trans
    intro c hc
    cases c <;> first | rfl | exact absurd (.inl rfl) hc
  · exact fun _ => hregulate

end Tick

theorem onlyChanges_obcTick (s : Obsw) :
    OnlyChanges tickComponents (control s) (control (obcTick s)) := by
  have hacquire : OnlyChanges tickComponents (control s) (acquire (control s)) := by
    intro c hc
    cases c <;> first | rfl | exact absurd (by simp [tickComponents]) hc
  have hmonitor : insert .alarmLatched modeComponents ⊆ tickComponents := by
    intro c hc
    rcases hc with rfl | rfl | rfl | rfl <;> simp [tickComponents]
  have hphase (k : Control) : OnlyChanges tickComponents k (stepPhase k) := by
    intro c hc
    cases c <;> first | rfl | exact absurd (by simp [tickComponents]) hc
  rw [control_obcTick]
  exact (hacquire.trans ((onlyChanges_monitorTemperature _).mono hmonitor)).trans (hphase _)

/-- What only telecommands change: the report flags, the telecommand counters and the failure
code, the time epoch and the injected temperature. -/
def configured : Set Component :=
  {c | (∃ i, c = .hkFlag i) ∨ (∃ i, c = .eventFlag i) ∨ c = .tcAccepted ∨ c = .tcRejected ∨
    c = .lastFailureCode ∨ c = .epochCoarse ∨ c = .epochFine ∨ c = .injectedTemperature}

theorem configured_of_obcTick {c : Component} (hc : c ∈ configured) : c ∉ tickComponents := by
  rcases hc with ⟨i, rfl⟩ | ⟨i, rfl⟩ | rfl | rfl | rfl | rfl | rfl | rfl <;>
    simp [tickComponents]

/-- In every reachable state: a telecommand that is executed with success changes, its own
count aside, only what it owns, and a minor cycle changes nothing that is configured. -/
theorem telecommand_changes_only_owned (s : Obsw) (stimuli : List Stimulus) :
    (∀ octets, (obcProcessTc (after s stimuli).obsw (some octets) octets.length).1 = .ok →
      ∃ tc, pusTcParse (some octets) octets.length = .ok tc ∧
        OnlyChanges (insert .tcAccepted (owned tc)) (control (after s stimuli).obsw)
          (control (obcProcessTc (after s stimuli).obsw (some octets) octets.length).2) ∧
        (obcProcessTc (after s stimuli).obsw (some octets) octets.length).2.lastOverflow =
          (after s stimuli).obsw.lastOverflow) ∧
      ∀ c ∈ configured, c.read (control (obcTick (after s stimuli).obsw)) =
        c.read (control (after s stimuli).obsw) := by
  constructor
  · intro octets hok
    rcases hparse : pusTcParse (some octets) octets.length with st | tc
    · rw [obcProcessTc_rejected_status hparse] at hok
      exact absurd hok (Codec.pusTcParse_error hparse).2
    · exact ⟨tc, rfl, onlyChanges_obcProcessTc hparse hok, lastOverflow_obcProcessTc _ octets⟩
  · intro c hc
    exact onlyChanges_obcTick _ c (configured_of_obcTick hc)

theorem telecommand_changes_only_owned_nominal :
    (obcProcessTc (after default []).obsw (some nominalTelecommand)
        nominalTelecommand.length).1 = .ok ∧
      ∃ tc, pusTcParse (some nominalTelecommand) nominalTelecommand.length = .ok tc ∧
        OnlyChanges (insert .tcAccepted (owned tc)) (control (after default []).obsw)
          (control (obcProcessTc (after default []).obsw (some nominalTelecommand)
            nominalTelecommand.length).2) ∧
        (obcProcessTc (after default []).obsw (some nominalTelecommand)
            nominalTelecommand.length).2.lastOverflow =
          (after default []).obsw.lastOverflow := by
  have hok : (obcProcessTc (after default []).obsw (some nominalTelecommand)
      nominalTelecommand.length).1 = .ok := by
    decide +kernel
  exact ⟨hok, (telecommand_changes_only_owned default []).1 nominalTelecommand hok⟩

end ObswPus.Isolation
