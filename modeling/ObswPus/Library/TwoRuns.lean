import ObswPus.Library.Run

/-! # Two runs side by side

Two runs of one machine that take the same events up to a matching relation, each
with private events of its own in between. What relates the two states initially
and survives matched and private events relates them after every such pair of runs.
If related states show the same, two runs of the same events show the same.
-/
namespace ObswPus.Library.Run
variable {σ ε : Type*} {step : σ → ε → σ} {Match : ε → ε → Prop} {Private : ε → Prop}

/-- Event sequences that match in all but their private events. -/
inductive Paired (Match : ε → ε → Prop) (Private : ε → Prop) : List ε → List ε → Prop where
  | nil : Paired Match Private [] []
  | left {e : ε} {l r : List ε} (he : Private e) (h : Paired Match Private l r) :
      Paired Match Private (e :: l) r
  | right {e : ε} {l r : List ε} (he : Private e) (h : Paired Match Private l r) :
      Paired Match Private l (e :: r)
  | both {e e' : ε} {l r : List ε} (he : Match e e') (h : Paired Match Private l r) :
      Paired Match Private (e :: l) (e' :: r)

theorem run_related {R : σ → σ → Prop}
    (hleft : ∀ s s' e, Private e → R s s' → R (step s e) s')
    (hright : ∀ s s' e, Private e → R s s' → R s (step s' e))
    (hboth : ∀ s s' e e', Match e e' → R s s' → R (step s e) (step s' e'))
    {l r : List ε} (hpaired : Paired Match Private l r) {s s' : σ} (h : R s s') :
    R (run step s l) (run step s' r) := by
  induction hpaired generalizing s s' with
  | nil => exact h
  | left he _ ih => exact ih (hleft s s' _ he h)
  | right he _ ih => exact ih (hright s s' _ he h)
  | both he _ ih => exact ih (hboth s s' _ _ he h)

theorem related_ite {R : σ → σ → Prop} {p p' : Prop} [Decidable p] [Decidable p'] (hp : p ↔ p')
    {s s' t t' : σ} (hpos : p → R s s') (hneg : ¬p → R t t') :
    R (if p then s else t) (if p' then s' else t') := by
  by_cases h : p
  · rw [if_pos h, if_pos (hp.mp h)]
    exact hpos h
  · rw [if_neg h, if_neg (mt hp.mpr h)]
    exact hneg h

/-- What a run shows, step by step. -/
def observations {β : Type*} (step : σ → ε → σ) (out : σ → ε → β) : σ → List ε → List β
  | _, [] => []
  | s, e :: events => out s e :: observations step out (step s e) events

theorem observations_map {ε' β : Type*} (step : σ → ε → σ) (out : σ → ε → β) (g : ε' → ε) (s : σ)
    (events : List ε') : observations step out s (events.map g) =
      observations (fun s e => step s (g e)) (fun s e => out s (g e)) s events := by
  induction events generalizing s with
  | nil => rfl
  | cons e events ih => rw [List.map_cons, observations, observations, ih]

theorem observations_append {β : Type*} (step : σ → ε → σ) (out : σ → ε → β) (s : σ)
    (first second : List ε) : observations step out s (first ++ second) =
      observations step out s first ++ observations step out (run step s first) second := by
  induction first generalizing s with
  | nil => rfl
  | cons e first ih => rw [List.cons_append, observations, ih]; rfl

theorem flatten_observations_map {β γ : Type*} (step : σ → ε → σ) (out : σ → ε → List β)
    (f : β → γ) (s : σ) (events : List ε) :
    (observations step (fun s e => (out s e).map f) s events).flatten =
      (observations step out s events).flatten.map f := by
  induction events generalizing s with
  | nil => rfl
  | cons e events ih =>
    rw [observations, observations, List.flatten_cons, List.flatten_cons, List.map_append, ih]

theorem mem_flatten_observations {β : Type*} {step : σ → ε → σ} {out : σ → ε → List β} {s : σ}
    {events : List ε} {x : β} (h : x ∈ (observations step out s events).flatten) :
    ∃ t, ∃ e ∈ events, x ∈ out t e := by
  induction events generalizing s with
  | nil => cases h
  | cons e events ih =>
    rw [observations, List.flatten_cons] at h
    rcases List.mem_append.mp h with h | h
    · exact ⟨s, e, List.mem_cons_self, h⟩
    · obtain ⟨t, e', he', hx⟩ := ih h
      exact ⟨t, e', List.mem_cons_of_mem e he', hx⟩

section Same
variable {R : σ → σ → Prop} (hstep : ∀ s s' e, R s s' → R (step s e) (step s' e))
include hstep

theorem run_congr {s s' : σ} (h : R s s') (events : List ε) :
    R (run step s events) (run step s' events) := by
  induction events generalizing s s' with
  | nil => exact h
  | cons e events ih => exact ih (hstep s s' e h)

theorem observations_eq {β : Type*} {out : σ → ε → β}
    (hout : ∀ s s' e, R s s' → out s e = out s' e) {s s' : σ} (h : R s s') (events : List ε) :
    observations step out s events = observations step out s' events := by
  induction events generalizing s s' with
  | nil => rfl
  | cons e events ih => rw [observations, observations, hout s s' e h, ih (hstep s s' e h)]

end Same

end ObswPus.Library.Run
