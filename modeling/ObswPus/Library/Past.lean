import ObswPus.Library.Run

/-! # Looking back along a run

What the past of a run says about its present: an event that nothing has undone
since, and the most recent write to a register. A state component that each step
sets, keeps or clears is such a summary of the whole run.
-/
namespace ObswPus.Library.Run
variable {σ ε β : Type*} (step : σ → ε → σ)

theorem run_concat (s : σ) (events : List ε) (e : ε) :
    run step s (events ++ [e]) = step (run step s events) e := by
  rw [run_append, run_cons, run_nil]

/-- Some event took place with `P`, and every event after it with `Q`. -/
def Since (P Q : σ → ε → Prop) (s : σ) (events : List ε) : Prop :=
  ∃ first e rest, events = first ++ e :: rest ∧ P (run step s first) e ∧
    AllSteps step Q (run step s (first ++ [e])) rest

/-- The value of the most recent write, where `write` is what an event writes, if anything. -/
def lastWrite (write : σ → ε → Option β) : σ → List ε → Option β
  | _, [] => none
  | s, e :: events => (lastWrite write (step s e) events).or (write s e)

variable {step}

theorem allSteps_concat {Ok : σ → ε → Prop} {s : σ} {events : List ε} {e : ε} :
    AllSteps step Ok s (events ++ [e]) ↔ AllSteps step Ok s events ∧ Ok (run step s events) e := by
  simp only [allSteps_append, AllSteps, and_true]

theorem AllSteps.at {Ok : σ → ε → Prop} {s : σ} {first rest : List ε} {e : ε}
    (h : AllSteps step Ok s (first ++ e :: rest)) : Ok (run step s first) e :=
  (allSteps_append.mp h).2.1

theorem allSteps_iff {Ok : σ → ε → Prop} {s : σ} {events : List ε} :
    AllSteps step Ok s events ↔
      ∀ first e rest, events = first ++ e :: rest → Ok (run step s first) e := by
  constructor
  · rintro h first e rest rfl
    exact h.at
  · intro h
    induction events generalizing s with
    | nil => trivial
    | cons d events ih =>
      refine ⟨h [] d events rfl, ih fun first e rest hsplit => h (d :: first) e rest ?_⟩
      rw [hsplit]
      rfl

theorem allSteps_of_forall {P : ε → Prop} {events : List ε} (h : ∀ e ∈ events, P e) (s : σ) :
    AllSteps step (fun _ e => P e) s events :=
  allSteps_iff.mpr fun first e rest hsplit => h e (by simp [hsplit])

theorem AllSteps.mono {Ok Ok' : σ → ε → Prop} (himp : ∀ s e, Ok s e → Ok' s e) {s : σ}
    {events : List ε} (h : AllSteps step Ok s events) : AllSteps step Ok' s events := by
  induction events generalizing s with
  | nil => trivial
  | cons e events ih => exact ⟨himp s e h.1, ih h.2⟩

section Since
variable {P Q : σ → ε → Prop} {s : σ}

theorem not_since_nil : ¬Since step P Q s [] := by
  rintro ⟨first, e, rest, hsplit, -⟩
  simp at hsplit

theorem since_concat {events : List ε} {e : ε} :
    Since step P Q s (events ++ [e]) ↔
      P (run step s events) e ∨ Since step P Q s events ∧ Q (run step s events) e := by
  constructor
  · rintro ⟨first, d, rest, hsplit, hP, hQ⟩
    rcases List.eq_nil_or_concat rest with rfl | ⟨rest, last, rfl⟩
    · obtain ⟨rfl, hlast⟩ := List.append_inj' hsplit rfl
      cases hlast
      exact .inl hP
    · rw [List.concat_eq_append] at hsplit hQ
      rw [← List.cons_append, ← List.append_assoc] at hsplit
      obtain ⟨rfl, hlast⟩ := List.append_inj' hsplit rfl
      cases hlast
      rw [allSteps_concat, ← run_append, List.append_assoc, List.singleton_append] at hQ
      exact .inr ⟨⟨first, d, rest, rfl, hP, hQ.1⟩, hQ.2⟩
  · rintro (hP | ⟨⟨first, d, rest, rfl, hP, hQ⟩, hlast⟩)
    · exact ⟨events, e, [], rfl, hP, trivial⟩
    · refine ⟨first, d, rest ++ [e], by simp, hP, ?_⟩
      rw [allSteps_concat, ← run_append, List.append_assoc, List.singleton_append]
      exact ⟨hQ, hlast⟩

/-- A flag that is clear initially and that each event sets by `P` and keeps by `Q` tells
whether there was a `P` with nothing but `Q` since. -/
theorem flag_iff_since (F : σ → Prop) (hstart : ¬F s)
    (hstep : ∀ s e, F (step s e) ↔ P s e ∨ F s ∧ Q s e) (events : List ε) :
    F (run step s events) ↔ Since step P Q s events := by
  induction events using List.reverseRecOn with
  | nil => exact iff_of_false hstart not_since_nil
  | append_singleton events e ih => rw [run_concat, hstep, since_concat, ih]

theorem Since.mono {P' Q' : σ → ε → Prop} (hP : ∀ s e, P s e → P' s e)
    (hQ : ∀ s e, Q s e → Q' s e) {events : List ε} (h : Since step P Q s events) :
    Since step P' Q' s events := by
  obtain ⟨first, e, rest, hsplit, hfirst, hrest⟩ := h
  exact ⟨first, e, rest, hsplit, hP _ _ hfirst, hrest.mono hQ⟩

end Since

theorem lastWrite_concat {write : σ → ε → Option β} {s : σ} {events : List ε} {e : ε} :
    lastWrite step write s (events ++ [e]) =
      (write (run step s events) e).or (lastWrite step write s events) := by
  induction events generalizing s with
  | nil => simp [lastWrite]
  | cons d events ih => simp only [List.cons_append, lastWrite, ih, run_cons, Option.or_assoc]

/-- A register holds what was written last, if in every state of the run each event writes it
as said or leaves it alone. -/
theorem register_eq_lastWrite (register : σ → β) (Inv : σ → Prop) {write : σ → ε → Option β}
    {s : σ} (h : Inv s) (hinv : ∀ s e, Inv s → Inv (step s e))
    (hstep : ∀ s e, Inv s → register (step s e) = (write s e).getD (register s))
    (events : List ε) :
    register (run step s events) = (lastWrite step write s events).getD (register s) := by
  induction events using List.reverseRecOn with
  | nil => rfl
  | append_singleton events e ih =>
    rw [run_concat, hstep _ e (run_invariant hinv h events), lastWrite_concat, ih]
    cases write (run step s events) e <;> rfl

end ObswPus.Library.Run
