import Mathlib.Tactic

/-! # Runs of a deterministic machine

A machine is a step function on states and events. Every safety result about
whole runs is one of the induction rules below applied to a fact about one step.
-/
namespace ObswPus.Library.Run
variable {σ ε : Type*} (step : σ → ε → σ)

/-- The state after a finite sequence of events. -/
def run (s : σ) (events : List ε) : σ := events.foldl step s

@[simp] theorem run_nil (s : σ) : run step s [] = s := rfl

@[simp] theorem run_cons (s : σ) (e : ε) (events : List ε) :
    run step s (e :: events) = run step (step s e) events := rfl

theorem run_append (s : σ) (first second : List ε) :
    run step s (first ++ second) = run step (run step s first) second := by
  simp [run]

variable {step}

/-- What holds initially and survives each step holds after every run. -/
theorem run_invariant {Inv : σ → Prop} (hstep : ∀ s e, Inv s → Inv (step s e)) {s : σ}
    (h : Inv s) (events : List ε) : Inv (run step s events) := by
  induction events generalizing s with
  | nil => exact h
  | cons e events ih => exact ih (hstep s e h)

/-- Every step of the run is taken in a state that admits it. -/
def AllSteps (step : σ → ε → σ) (Ok : σ → ε → Prop) : σ → List ε → Prop
  | _, [] => True
  | s, e :: events => Ok s e ∧ AllSteps step Ok (step s e) events

instance AllSteps.decidable {Ok : σ → ε → Prop} [∀ s e, Decidable (Ok s e)] :
    ∀ (s : σ) (events : List ε), Decidable (AllSteps step Ok s events)
  | _, [] => inferInstanceAs (Decidable True)
  | s, e :: events =>
    have : Decidable (AllSteps step Ok (step s e) events) := AllSteps.decidable _ events
    inferInstanceAs (Decidable (Ok s e ∧ AllSteps step Ok (step s e) events))

theorem allSteps_append {Ok : σ → ε → Prop} {s : σ} {first second : List ε} :
    AllSteps step Ok s (first ++ second) ↔
      AllSteps step Ok s first ∧ AllSteps step Ok (run step s first) second := by
  induction first generalizing s with
  | nil => simp [AllSteps]
  | cons e first ih => simp only [List.cons_append, AllSteps, ih, run_cons, and_assoc]

theorem AllSteps.and {Ok Ok' : σ → ε → Prop} {s : σ} {events : List ε}
    (h : AllSteps step Ok s events) (h' : AllSteps step Ok' s events) :
    AllSteps step (fun s e => Ok s e ∧ Ok' s e) s events := by
  induction events generalizing s with
  | nil => trivial
  | cons e events ih => exact ⟨⟨h.1, h'.1⟩, ih h.2 h'.2⟩

theorem allSteps_of_preserved {P : σ → Prop} {events : List ε}
    (hstep : ∀ s, ∀ e ∈ events, P s → P (step s e)) {s : σ} (h : P s) :
    AllSteps step (fun s _ => P s) s events := by
  induction events generalizing s with
  | nil => trivial
  | cons e events ih =>
    exact ⟨h, ih (fun s e he => hstep s e (List.mem_cons_of_mem _ he))
      (hstep s e List.mem_cons_self h)⟩

/-- An invariant that survives only the admitted steps holds after every admitted run. -/
theorem run_invariant_of_allSteps {Inv : σ → Prop} {Ok : σ → ε → Prop}
    (hstep : ∀ s e, Inv s → Ok s e → Inv (step s e)) {s : σ} (h : Inv s) {events : List ε}
    (hall : AllSteps step Ok s events) : Inv (run step s events) := by
  induction events generalizing s with
  | nil => exact h
  | cons e events ih => exact ih (hstep s e h hall.1) hall.2

/-- Two machines that take the same events: what relates their states and survives the steps that
the first admits relates them after every admitted run. -/
theorem run_simulation {τ : Type*} {step' : τ → ε → τ} {R : σ → τ → Prop} {Ok : σ → ε → Prop}
    (hstep : ∀ s t e, R s t → Ok s e → R (step s e) (step' t e)) {s : σ} {t : τ} (h : R s t)
    {events : List ε} (hall : AllSteps step Ok s events) :
    R (run step s events) (run step' t events) := by
  induction events generalizing s t with
  | nil => exact h
  | cons e events ih => exact ih (hstep s t e h hall.1) hall.2

end ObswPus.Library.Run
