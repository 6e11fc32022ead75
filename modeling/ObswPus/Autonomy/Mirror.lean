import ObswPus.Autonomy.Laws

/-! # The mirror on ground

Ground takes mode and heater state from the events: it starts with SAFE mode and the
heater off, and takes over each value that events 2 and 5 report. As long as both
events stay enabled its mirror is exact after every stimulus, and no report repeats the
value that it already holds.
-/
namespace ObswPus.Autonomy
open Flight Downlink Commanding Library

/-- Mode and heater state as auxiliary words. -/
structure Mirror where
  mode : UInt16
  heater : UInt16
  deriving DecidableEq

/-- A report is taken over; a report of the value already held is refused. -/
def Mirror.hear (m : Mirror) (ev : Event) : Option Mirror :=
  if ev.id = ObcEventId.modeChanged.code then
    if ev.aux = m.mode then none else some { m with mode := ev.aux }
  else if ev.id = ObcEventId.heaterSwitched.code then
    if ev.aux = m.heater then none else some { m with heater := ev.aux }
  else some m

/-- The mirror after these events, starting with SAFE mode and the heater off. -/
def mirrored (events : List Event) : Option Mirror :=
  events.foldlM Mirror.hear { mode := ObcMode.safe.code.toUInt16, heater := false.toUInt16 }

def mirrorOf (s : Obsw) : Mirror :=
  { mode := s.state.mode.code.toUInt16, heater := s.state.heaterOn.toUInt16 }

theorem foldlM_filter {α β : Type*} {f : β → α → Option β} (p : α → Bool) {l : List α}
    (h : ∀ a ∈ l, p a = false → ∀ b, f b a = some b) (b : β) :
    (l.filter p).foldlM f b = l.foldlM f b := by
  induction l generalizing b with
  | nil => rfl
  | cons a l ih =>
    have hrest := fun a' ha' => h a' (List.mem_cons_of_mem a ha')
    cases hp : p a with
    | true =>
      rw [List.filter_cons_of_pos hp, List.foldlM_cons, List.foldlM_cons]
      exact bind_congr fun b' => ih hrest b'
    | false =>
      rw [List.filter_cons_of_neg (by simp [hp]), List.foldlM_cons, h a List.mem_cons_self hp b,
        ih hrest]
      rfl

def panelMirror (p : Thermostat.Panel) : Mirror :=
  { mode := p.active.toUInt16, heater := p.heater.toUInt16 }

theorem hear_announced (p : Thermostat.Panel) (a : Thermostat.Announcement Int16) :
    (panelMirror p).hear (announced a) = (p.hear a).map panelMirror := by
  have hword (on on' : Bool) : on.toUInt16 = on'.toUInt16 ↔ on = on' := by
    cases on <;> cases on' <;> decide
  cases a with
  | alarm t => rfl
  | heater on =>
    have hother : ObcEventId.heaterSwitched.code ≠ ObcEventId.modeChanged.code := by decide
    simp only [announced, Mirror.hear, panelMirror, Thermostat.Panel.hear, hword, hother, if_false,
      if_true]
    split <;> rfl
  | active on =>
    simp only [announced, Mirror.hear, panelMirror, Thermostat.Panel.hear, hword, if_true]
    split <;> rfl

theorem hear_map_announced (p : Thermostat.Panel) (as : List (Thermostat.Announcement Int16)) :
    (as.map announced).foldlM Mirror.hear (panelMirror p) =
      (as.foldlM Thermostat.Panel.hear p).map panelMirror := by
  induction as generalizing p with
  | nil => rfl
  | cons a as ih =>
    rw [List.map_cons, List.foldlM_cons, List.foldlM_cons, hear_announced]
    cases p.hear a with
    | none => rfl
    | some p' => exact ih p'

def MirrorHeard (u : Obc) : Prop :=
  svc05IsEnabled u.obsw ObcEventId.modeChanged.code = true ∧
    svc05IsEnabled u.obsw ObcEventId.heaterSwitched.code = true

instance (u : Obc) : Decidable (MirrorHeard u) := inferInstanceAs (Decidable (_ ∧ _))

theorem mirrorOf_eq (u : Obc) : mirrorOf u.obsw = panelMirror (regulator u).panel := by
  have hmode (mode : ObcMode) : mode.code.toUInt16 = (decide (mode = .nominal)).toUInt16 := by
    cases mode <;> rfl
  rw [mirrorOf, hmode]
  rfl

/-- The events of a stimulus carry the mirror from the state before to the state after. -/
theorem hear_newEvents {u : Obc} (hheard : MirrorHeard u) (e : Stimulus) :
    (newEvents u e).foldlM Mirror.hear (mirrorOf u.obsw) = some (mirrorOf (u.step e).obsw) := by
  have hforeign (ev : Event) (h : ofRegulation ev = false) (m : Mirror) : m.hear ev = some m := by
    simp only [ofRegulation, decide_eq_false_iff_not, not_or] at h
    simp only [Mirror.hear, h.1, h.2.1, if_false]
  have hsilent (a : Thermostat.Announcement Int16)
      (h : letsThrough u.obsw.svc05 (announced a) = false) (m : Mirror) :
      m.hear (announced a) = some m := by
    obtain ⟨hmode, hheater⟩ := hheard
    rw [svc05IsEnabled_code] at hmode hheater
    cases a with
    | alarm t => rfl
    | heater on => exact absurd (hheater.symm.trans h) (by decide)
    | active on => exact absurd (hmode.symm.trans h) (by decide)
  rw [← foldlM_filter ofRegulation (fun ev _ => hforeign ev), regulation_newEvents, told,
    foldlM_filter]
  · rw [mirrorOf_eq, mirrorOf_eq, hear_map_announced, Thermostat.hear_announcements,
      ← regulator_step]
    rfl
  · intro ev hev hpasses m
    obtain ⟨a, -, rfl⟩ := List.mem_map.mp hev
    exact hsilent a hpasses m

theorem eventsOf_step (u : Obc) (e : Stimulus) :
    eventsOf (u.step e).obsw.history = eventsOf u.obsw.history ++ newEvents u e := by
  have hsame {s : Obsw} (h : s.history = u.obsw.history) : Sends u.obsw s [] :=
    ⟨[], by rw [h, List.append_nil], rfl⟩
  cases e with
  | tick =>
    have hsends := (sends_obcTick u.obsw).eventsOf
    rw [← obsw_tick] at hsends
    exact hsends
  | telecommand octets =>
    obtain ⟨rs, hemits, -⟩ := emits_obcProcessTc u.obsw octets
    rw [← obsw_telecommand] at hemits
    have hsends : Sends u.obsw (u.step (.telecommand octets)).obsw rs := hemits.sent
    exact hsends.eventsOf
  | pop buf =>
    rw [newEvents, obsw_pop]
    exact (hsame rfl).eventsOf
  | thermistor valueDc =>
    rw [newEvents, obsw_thermistor]
    exact (hsame rfl).eventsOf

/-- As long as events 2 and 5 stay enabled, the events built so far give the current mode and
heater state, and none of them repeats the value already held. -/
theorem ground_mirror_exact (s : Obsw) (stimuli : List Stimulus)
    (hheard : Run.AllSteps Obc.step (fun u _ => MirrorHeard u) (powerOn s) stimuli) :
    mirrored (eventsOf (after s stimuli).obsw.history) =
      some (mirrorOf (after s stimuli).obsw) := by
  have hstart :
      mirrored (eventsOf (powerOn s).obsw.history) = some (mirrorOf (powerOn s).obsw) := by
    have hboot : eventsOf (powerOn s).obsw.history = [⟨pusSt05Informative, 1, 0⟩] := by
      have hsends : Sends (cleared s) (powerOn s).obsw
          [eventReport .bootCompleted pusSt05Informative 0] := by
        rw [powerOn, obcInit_eq]
        exact (Emits.send _ _).sent
      rw [hsends.eventsOf, hsends.eventsBetween]
      simp only [reportedEvents, List.filterMap_cons, eventOf_eventReport, List.filterMap_nil]
      rfl
    rw [hboot, mirrorOf_eq, regulator_powerOn]
    rfl
  have hstep (u : Obc) (e : Stimulus)
      (h : mirrored (eventsOf u.obsw.history) = some (mirrorOf u.obsw)) (hu : MirrorHeard u) :
      mirrored (eventsOf (u.step e).obsw.history) = some (mirrorOf (u.step e).obsw) := by
    unfold mirrored at h ⊢
    rw [eventsOf_step, List.foldlM_append, h]
    exact hear_newEvents hu e
  exact Run.run_invariant_of_allSteps hstep hstart hheard

/-- Ground orders NOMINAL mode, and the unit switches its heater on in the cold. -/
def coldStart : List Stimulus := [.telecommand nominalTelecommand, .thermistor 20, .tick]

theorem ground_mirror_cold_start :
    mirrored (eventsOf (after default coldStart).obsw.history) =
      some { mode := 1, heater := 1 } := by
  have hmirror := ground_mirror_exact default coldStart (by decide +kernel)
  have hstate : mirrorOf (after default coldStart).obsw = { mode := 1, heater := 1 } := by
    decide +kernel
  rw [hmirror, hstate]

end ObswPus.Autonomy
