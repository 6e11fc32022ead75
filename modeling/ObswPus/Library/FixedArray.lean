import Mathlib.Tactic

/-! # Arrays of a fixed number of cells

A static array is a function on its index range. Indices are plain naturals, as
in the programs that use the arrays: a read outside the range yields the default
value and a write outside it is lost, so that no index is ever wrapped silently.
-/
namespace ObswPus.Library

abbrev FixedArray (n : ℕ) (α : Type*) := Fin n → α

namespace FixedArray
variable {n : ℕ} {α : Type*}

def fill (n : ℕ) (v : α) : FixedArray n α := fun _ => v

def get [Inhabited α] (a : FixedArray n α) (i : ℕ) : α :=
  if h : i < n then a ⟨i, h⟩ else default

def set (a : FixedArray n α) (i : ℕ) (v : α) : FixedArray n α :=
  fun j => if j.val = i then v else a j

@[simp] theorem get_fill [Inhabited α] (v : α) {i : ℕ} (hi : i < n) : (fill n v).get i = v := by
  simp [get, fill, hi]

@[simp] theorem get_set_self [Inhabited α] (a : FixedArray n α) (v : α) {i : ℕ} (hi : i < n) :
    (a.set i v).get i = v := by
  simp [get, set, hi]

theorem get_set_ne [Inhabited α] (a : FixedArray n α) (v : α) {i j : ℕ} (h : j ≠ i) :
    (a.set i v).get j = a.get j := by
  by_cases hj : j < n <;> simp [get, set, hj, h]

theorem set_get_self [Inhabited α] (a : FixedArray n α) (i : ℕ) : a.set i (a.get i) = a := by
  funext j
  unfold set
  split
  · rename_i h
    subst h
    rw [get, dif_pos j.isLt]
  · rfl

theorem set_set (a : FixedArray n α) (i : ℕ) (u v : α) : (a.set i u).set i v = a.set i v := by
  funext j
  unfold set
  split <;> rfl

/-- Every cell whose index is listed holds the new value; order and repetitions do not matter. -/
theorem foldl_set_apply (a : FixedArray n α) (is : List ℕ) (v : α) (j : Fin n) :
    is.foldl (fun a i => a.set i v) a j = if j.val ∈ is then v else a j := by
  induction is generalizing a with
  | nil => simp
  | cons i is ih =>
    rw [List.foldl_cons, ih]
    by_cases hj : j.val = i
    · simp [set, hj]
    · simp [set, hj]

/-- Store the first `len` elements of `xs` into the first cells, one by one. -/
def copyFrom [Inhabited α] (a : FixedArray n α) (xs : List α) (len : ℕ) : FixedArray n α :=
  (List.range len).foldl (fun a i => a.set i (xs.getD i default)) a

theorem get_copyFrom [Inhabited α] (a : FixedArray n α) (xs : List α) (len : ℕ) {i : ℕ}
    (hi : i < n) : (a.copyFrom xs len).get i = if i < len then xs.getD i default else a.get i := by
  induction len with
  | zero => simp [copyFrom]
  | succ len ih =>
    have hstep : a.copyFrom xs (len + 1) = (a.copyFrom xs len).set len (xs.getD len default) := by
      simp [copyFrom, List.range_succ]
    rw [hstep]
    by_cases he : i = len
    · subst he
      simp [hi]
    · have hlt : i < len + 1 ↔ i < len := by omega
      rw [get_set_ne _ _ he, ih]
      simp only [hlt]

/-- The first `len` cells as a list. -/
def first [Inhabited α] (a : FixedArray n α) (len : ℕ) : List α := (List.range len).map a.get

@[simp] theorem length_first [Inhabited α] (a : FixedArray n α) (len : ℕ) :
    (a.first len).length = len := by
  simp [first]

/-- Copying a list in and reading it out again gives the list back, whatever the array held. -/
theorem first_copyFrom [Inhabited α] (a : FixedArray n α) (xs : List α) (h : xs.length ≤ n) :
    (a.copyFrom xs xs.length).first xs.length = xs := by
  apply List.ext_getElem (by simp)
  intro i _ hi
  have hin : i < n := by omega
  simp [first, get_copyFrom a xs xs.length hin, hi]

end FixedArray
end ObswPus.Library
