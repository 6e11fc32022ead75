import Mathlib.Data.List.DropRight
import ObswPus.Library.Past

/-! # Tallies that some events clear

A counter that certain events increase up to a limit and others clear holds the number of
increases since the last clearing; a register that certain events write and others clear
holds the most recent write since then. `recent` is the part of a run behind the last
clearing event, `settled` the part up to and including it.
-/
namespace ObswPus.Library.Run
variable {σ ε β : Type*} {step : σ → ε → σ}

/-- The events behind the last one that clears. -/
def recent (clears : ε → Bool) (events : List ε) : List ε := events.rtakeWhile fun e => !clears e

/-- The events up to the last one that clears. -/
def settled (clears : ε → Bool) (events : List ε) : List ε := events.rdropWhile fun e => !clears e

section Recent
variable (clears : ε → Bool) (events : List ε) (e : ε)

theorem settled_append_recent : settled clears events ++ recent clears events = events :=
  List.rdropWhile_append_rtakeWhile

theorem recent_concat :
    recent clears (events ++ [e]) = if clears e then [] else recent clears events ++ [e] := by
  rw [recent, List.rtakeWhile_concat]
  cases clears e <;> rfl

theorem settled_concat :
    settled clears (events ++ [e]) =
      if clears e then events ++ [e] else settled clears events := by
  rw [settled, List.rdropWhile_concat]
  cases clears e <;> rfl

end Recent

/-- A counter that stops at its limit counts what took place since it was cleared. -/
theorem counter_eq_count (counter : σ → ℕ) {limit : ℕ} {clears counts : ε → Bool}
    (hstep : ∀ s e, counter (step s e) =
      if clears e then 0 else if counts e then min (counter s + 1) limit else counter s)
    {s : σ} (h : counter s = 0) (events : List ε) :
    counter (run step s events) = min ((recent clears events).countP counts) limit := by
  induction events using List.reverseRecOn with
  | nil => simpa [recent] using h
  | append_singleton events e ih =>
    rw [run_concat, hstep, recent_concat, ih]
    cases hclears : clears e with
    | true => simp
    | false =>
      cases hcounts : counts e with
      | true =>
        simp only [Bool.false_eq_true, if_false, if_true, List.countP_append, List.countP_singleton,
          hcounts]
        omega
      | false => simp [List.countP_append, hcounts]

/-- A register holds what was written last since it was cleared. -/
theorem register_eq_lastWrite_recent (register : σ → β) {empty : β} {clears : ε → Bool}
    {write : σ → ε → Option β}
    (hstep : ∀ s e, register (step s e) =
      if clears e then empty else (write s e).getD (register s))
    {s : σ} (h : register s = empty) (events : List ε) :
    register (run step s events) =
      (lastWrite step write (run step s (settled clears events))
        (recent clears events)).getD empty := by
  induction events using List.reverseRecOn with
  | nil => simpa [recent, lastWrite] using h
  | append_singleton events e ih =>
    rw [run_concat, hstep, recent_concat, settled_concat]
    cases hclears : clears e with
    | true => simp [lastWrite]
    | false =>
      have hrun : run step (run step s (settled clears events)) (recent clears events) =
          run step s events := by
        rw [← run_append, settled_append_recent]
      simp only [Bool.false_eq_true, if_false]
      rw [lastWrite_concat, hrun, ih]
      cases write (run step s events) e <;> rfl

end ObswPus.Library.Run
