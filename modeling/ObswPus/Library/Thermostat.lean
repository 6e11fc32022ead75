import Mathlib.Tactic

/-! # A thermostat that trips

A heater is switched by two thresholds while regulation is active, and left alone
between them. At a third threshold regulation trips: it becomes inactive, the heater
goes off, and an alarm is raised unless one has been since the last cool cycle.
Every alarm and every change is announced.
-/
namespace ObswPus.Library

/-- Temperatures are of any linear order; it trips no lower than it switches off. -/
structure Thresholds (T : Type*) [LinearOrder T] where
  low : T
  high : T
  alarm : T
  high_le_alarm : high ≤ alarm

structure Thermostat where
  active : Bool
  heater : Bool
  latched : Bool
  deriving DecidableEq

namespace Thermostat
variable {T : Type*}

inductive Input (T : Type*) where
  | cycle (t : T)
  | setActive (on : Bool)
  | setHeater (on : Bool)
  | idle

inductive Announcement (T : Type*) where
  | alarm (t : T)
  | heater (on : Bool)
  | active (on : Bool)

variable [LinearOrder T] (θ : Thresholds T)

/-- A cycle at `t` raises the alarm. -/
def Raises (r : Thermostat) (t : T) : Prop :=
  r.active = true ∧ r.latched = false ∧ θ.alarm ≤ t

instance (r : Thermostat) (t : T) : Decidable (r.Raises θ t) :=
  inferInstanceAs (Decidable (_ ∧ _))

/-- Regulation proper, below the alarm threshold. -/
def regulated (heater : Bool) (t : T) : Bool :=
  if θ.high ≤ t then false else if t ≤ θ.low then true else heater

def next (r : Thermostat) : Input T → Thermostat
  | .cycle t =>
    { active := r.active && decide (t < θ.alarm)
      heater := (r.active && decide (t < θ.alarm)) && regulated θ r.heater t
      latched := decide (θ.high ≤ t) && (r.latched || decide (r.Raises θ t)) }
  | .setActive on => if on = r.active then r else { r with active := on, heater := on && r.heater }
  | .setHeater on => if r.active then { r with heater := on } else r
  | .idle => r

/-- The values in which two states differ, the heater first. -/
def changes (r r' : Thermostat) : List (Announcement T) :=
  (if r'.heater = r.heater then [] else [.heater r'.heater]) ++
    if r'.active = r.active then [] else [.active r'.active]

omit [LinearOrder T] in
@[simp] theorem changes_self (r : Thermostat) : (r.changes r : List (Announcement T)) = [] := by
  simp [changes]

def alarms (r : Thermostat) : Input T → List (Announcement T)
  | .cycle t => if r.Raises θ t then [.alarm t] else []
  | _ => []

/-- The alarm comes before the changes. -/
def announcements (r : Thermostat) (i : Input T) : List (Announcement T) :=
  r.alarms θ i ++ r.changes (r.next θ i)

/-- Regulation is active after a step if it was made so, or was so and nothing stopped it. -/
theorem next_active_iff (r : Thermostat) (i : Input T) :
    (r.next θ i).active = true ↔
      i = .setActive true ∨
        r.active = true ∧ i ≠ .setActive false ∧ ∀ t, i = .cycle t → t < θ.alarm := by
  cases i with
  | cycle t => simp [next]
  | setActive on =>
    cases on <;> cases hactive : r.active <;> simp [next, hactive]
  | setHeater on =>
    simp only [next]
    split <;> simp
  | idle => simp [next]

/-- The heater is off while regulation is inactive. -/
def Off (r : Thermostat) : Prop := r.active = false → r.heater = false

/-- What a step writes to the heater, if anything. -/
def written (r : Thermostat) : Input T → Option Bool
  | .cycle t =>
    if (r.next θ (.cycle t)).active = false then some false
    else if θ.high ≤ t then some false
    else if t ≤ θ.low then some true
    else none
  | .setActive on => if on then none else some false
  | .setHeater on => if r.active then some on else none
  | .idle => none

theorem next_heater {r : Thermostat} (hoff : r.Off) (i : Input T) :
    (r.next θ i).heater = (r.written θ i).getD r.heater := by
  cases i with
  | cycle t =>
    simp only [next, written, regulated]
    rcases Bool.eq_false_or_eq_true (r.active && decide (t < θ.alarm)) with htrue | hfalse
    · simp only [htrue, Bool.true_and, Bool.true_eq_false, if_false]
      split_ifs <;> rfl
    · simp [hfalse]
  | setActive on =>
    cases on with
    | true =>
      simp only [next]
      split <;> simp [written]
    | false =>
      simp only [next]
      split
      · rename_i hinactive
        simpa [written] using hoff hinactive.symm
      · simp [written]
  | setHeater on =>
    simp only [next, written]
    split <;> rfl
  | idle => rfl

/-- Between the thresholds active regulation leaves the heater alone. -/
theorem next_heater_between {r : Thermostat} (hactive : r.active = true) {t : T}
    (hlow : θ.low < t) (hhigh : t < θ.high) : (r.next θ (.cycle t)).heater = r.heater := by
  have halarm : t < θ.alarm := lt_of_lt_of_le hhigh θ.high_le_alarm
  simp [next, regulated, hactive, halarm, not_le.mpr hhigh, not_le.mpr hlow]

/-- The latch is set by an alarm and kept until a cycle below the upper threshold. -/
theorem next_latched_iff (r : Thermostat) (i : Input T) :
    (r.next θ i).latched = true ↔
      (∃ t, i = .cycle t ∧ r.Raises θ t) ∨
        r.latched = true ∧ ∀ t, i = .cycle t → θ.high ≤ t := by
  cases i with
  | cycle t =>
    have hhigh (h : r.Raises θ t) : θ.high ≤ t := θ.high_le_alarm.trans h.2.2
    simp only [next, Bool.and_eq_true, Bool.or_eq_true, decide_eq_true_eq, Input.cycle.injEq,
      exists_eq_left', forall_eq']
    constructor
    · rintro ⟨hhot, hlatched | hraises⟩
      · exact .inr ⟨hlatched, hhot⟩
      · exact .inl hraises
    · rintro (hraises | ⟨hlatched, hhot⟩)
      · exact ⟨hhigh hraises, .inr hraises⟩
      · exact ⟨hhot, .inl hlatched⟩
  | setActive on =>
    simp only [next]
    split <;> simp
  | setHeater on =>
    simp only [next]
    split <;> simp
  | idle => simp [next]

/-- Regulation and heater, as the announcements show them. -/
structure Panel where
  active : Bool
  heater : Bool
  deriving DecidableEq

def panel (r : Thermostat) : Panel := { active := r.active, heater := r.heater }

/-- A listener takes over each announced value, and takes no repetition. -/
def Panel.hear (p : Panel) : Announcement T → Option Panel
  | .alarm _ => some p
  | .heater on => if on = p.heater then none else some { p with heater := on }
  | .active on => if on = p.active then none else some { p with active := on }

omit [LinearOrder T] in
theorem hear_changes (r r' : Thermostat) :
    (r.changes r' : List (Announcement T)).foldlM Panel.hear r.panel = some r'.panel := by
  unfold changes
  by_cases hheater : r'.heater = r.heater <;> by_cases hactive : r'.active = r.active <;>
    simp [hheater, hactive, Panel.hear, panel]

/-- The announcements of a step carry the panel from the state before to the state after. -/
theorem hear_announcements (r : Thermostat) (i : Input T) :
    (r.announcements θ i).foldlM Panel.hear r.panel = some (r.next θ i).panel := by
  have halarms (p : Panel) : (r.alarms θ i).foldlM Panel.hear p = some p := by
    cases i with
    | cycle t =>
      simp only [alarms]
      split <;> rfl
    | setActive | setHeater | idle => rfl
  rw [announcements, List.foldlM_append, halarms]
  exact hear_changes r (r.next θ i)

end Thermostat
end ObswPus.Library
