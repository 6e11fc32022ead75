import Mathlib.Data.List.Basic

/-! # Readers of a stream

A reader finds in the elements still to come how many make up the next unit, or that they
are not all there. It takes unit after unit until the latter. What it took and what it
leaves make up the stream; a unit that the reader finds whatever follows is taken whole.
-/
namespace ObswPus.Library
variable {α : Type*}

structure Reader (α : Type*) where
  /-- The length of the next unit. -/
  next : List α → Option ℕ
  pos : ∀ s n, next s = some n → 0 < n
  le : ∀ s n, next s = some n → n ≤ s.length

namespace Reader

/-- The units taken from a stream, in their order. -/
def units (r : Reader α) (s : List α) : List (List α) :=
  match h : r.next s with
  | none => []
  | some n =>
    have _ : s.length - n < s.length := Nat.sub_lt_of_pos_le (r.pos s n h) (r.le s n h)
    s.take n :: r.units (s.drop n)
termination_by s.length
decreasing_by rwa [List.length_drop]

/-- The unit at the head of the stream does not depend on what follows it. -/
def Delimits (r : Reader α) (p : List α) : Prop := ∀ s, r.next (p ++ s) = some p.length

variable {r : Reader α}

theorem units_of_next_eq_none {s : List α} (h : r.next s = none) : r.units s = [] := by
  rw [units]
  split
  · rfl
  · rename_i n hn
    rw [h] at hn
    cases hn

theorem units_of_next_eq_some {s : List α} {n : ℕ} (h : r.next s = some n) :
    r.units s = s.take n :: r.units (s.drop n) := by
  rw [units]
  split
  · rename_i hn
    rw [h] at hn
    cases hn
  · rename_i m hm
    rw [h] at hm
    cases hm
    rfl

theorem units_append {p s : List α} (h : r.next (p ++ s) = some p.length) :
    r.units (p ++ s) = p :: r.units s := by
  rw [units_of_next_eq_some h, List.take_left, List.drop_left]

/-- Units that delimit themselves are taken one after the other. -/
theorem units_flatten_append {ps : List (List α)} (h : ∀ p ∈ ps, r.Delimits p) (s : List α) :
    r.units (ps.flatten ++ s) = ps ++ r.units s := by
  induction ps with
  | nil => rfl
  | cons p ps ih =>
    rw [List.flatten_cons, List.append_assoc, units_append (h p (List.mem_cons_self ..) _),
      ih fun q hq => h q (List.mem_cons_of_mem p hq), List.cons_append]

/-- Nothing is lost: the units and an unfinished rest are the stream. -/
theorem exists_flatten_units_append (s : List α) :
    ∃ t, r.next t = none ∧ (r.units s).flatten ++ t = s := by
  induction s using units.induct r with
  | case1 s h =>
    refine ⟨s, h, ?_⟩
    rw [units_of_next_eq_none h, List.flatten_nil, List.nil_append]
  | case2 s n h _ ih =>
    obtain ⟨t, hnone, ht⟩ := ih
    refine ⟨t, hnone, ?_⟩
    rw [units_of_next_eq_some h, List.flatten_cons, List.append_assoc, ht, List.take_append_drop]

/-- The units are the given ones exactly if these make up the stream but for an unfinished
rest. -/
theorem units_eq_iff {ps : List (List α)} (h : ∀ p ∈ ps, r.Delimits p) (s : List α) :
    r.units s = ps ↔ ∃ t, r.next t = none ∧ ps.flatten ++ t = s := by
  constructor
  · rintro rfl
    exact exists_flatten_units_append s
  · rintro ⟨t, hnone, rfl⟩
    rw [units_flatten_append h, units_of_next_eq_none hnone, List.append_nil]

end Reader
end ObswPus.Library
