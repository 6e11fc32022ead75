import Mathlib.Data.List.GetD
import ObswPus.Library.FixedArray

/-! # Programs whose accesses are checked

Every read and every write is checked against the bounds of its object, every pointer for
being null, and a loop that needs more passes than it is given is taken for endless. A
program that yields a value has done nothing of the kind.

A loop has a counter and may be left early. If its body never fails, the loop is the pure
run over the indices, `loopPasses`.
-/
namespace ObswPus.Library

/-- What stops a program. -/
inductive Fault where
  | nullPointer
  | outOfBounds (index size : ℕ)
  | endless
  deriving DecidableEq

abbrev Access (α : Type) : Type := Except Fault α

namespace Access
variable {α β σ ρ ι : Type} {n : ℕ}

@[simp] theorem ok_bind (a : α) (f : α → Access β) : (Except.ok a : Access α) >>= f = f a := rfl

@[simp] theorem error_bind (e : Fault) (f : α → Access β) :
    (Except.error e : Access α) >>= f = .error e := rfl

@[simp] theorem pure_eq_ok (a : α) : (pure a : Access α) = .ok a := rfl

theorem ite_eq {c : Prop} [Decidable c] {x y : Access α} {a b : α} (hpos : c → x = .ok a)
    (hneg : ¬c → y = .ok b) : (if c then x else y) = .ok (if c then a else b) := by
  split
  · rename_i h
    exact hpos h
  · rename_i h
    exact hneg h

def deref (p : Option α) : Access α :=
  match p with
  | none => .error .nullPointer
  | some object => .ok object

def read (object : List α) (i : ℕ) : Access α :=
  match object[i]? with
  | none => .error (.outOfBounds i object.length)
  | some v => .ok v

def write (object : List α) (i : ℕ) (v : α) : Access (List α) :=
  if i < object.length then .ok (object.set i v) else .error (.outOfBounds i object.length)

def readCell (a : FixedArray n α) (i : ℕ) : Access α :=
  if h : i < n then .ok (a ⟨i, h⟩) else .error (.outOfBounds i n)

def writeCell (a : FixedArray n α) (i : ℕ) (v : α) : Access (FixedArray n α) :=
  if i < n then .ok (a.set i v) else .error (.outOfBounds i n)

@[simp] theorem deref_some (object : α) : deref (some object) = .ok object := rfl

theorem read_eq (object : List α) {i : ℕ} (hi : i < object.length) (v : α) :
    read object i = .ok (object.getD i v) := by
  simp only [read, List.getElem?_eq_getElem hi, List.getD_eq_getElem _ v hi]

theorem write_eq (object : List α) {i : ℕ} (hi : i < object.length) (v : α) :
    write object i v = .ok (object.set i v) := if_pos hi

theorem readCell_eq [Inhabited α] (a : FixedArray n α) {i : ℕ} (hi : i < n) :
    readCell a i = .ok (a.get i) := by
  rw [readCell, dif_pos hi, FixedArray.get, dif_pos hi]

theorem writeCell_eq (a : FixedArray n α) {i : ℕ} (hi : i < n) (v : α) :
    writeCell a i v = .ok (a.set i v) := if_pos hi

/-- A pass of a loop goes on to the next, or leaves the loop. -/
inductive Pass (σ ρ : Type) where
  | next (s : σ)
  | leave (r : ρ)

/-- Where the loop stands after it, however it ended. -/
def Pass.out : Pass σ σ → σ
  | .next s => s
  | .leave s => s

/-- `for (; running i; i = succ i)`, for at most as many passes as given. -/
def forLoop (running : ι → Bool) (succ : ι → ι) (body : ι → σ → Access (Pass σ ρ)) :
    ℕ → ι → σ → Access (Pass σ ρ)
  | 0, i, s => if running i then .error .endless else .ok (.next s)
  | fuel + 1, i, s =>
    if running i then do
      match ← body i s with
      | .next s => forLoop running succ body fuel (succ i) s
      | .leave r => return .leave r
    else .ok (.next s)

/-- `for (i = 0; i < n; ++i)` over `size_t`. -/
def forSize (fuel n : ℕ) (body : ℕ → σ → Access (Pass σ ρ)) (s : σ) : Access (Pass σ ρ) :=
  forLoop (fun i => decide (i < n)) (· + 1) body fuel 0 s

/-- `for (i = 0; i < n; ++i)` over `uint8_t`, where the counter wraps. -/
def forU8 (fuel : ℕ) (n : UInt8) (body : UInt8 → σ → Access (Pass σ ρ)) (s : σ) :
    Access (Pass σ ρ) :=
  forLoop (fun i => decide (i < n)) (· + 1) body fuel 0 s

/-- The passes over given indices. -/
def loopPasses (step : ℕ → σ → Pass σ ρ) : List ℕ → σ → Pass σ ρ
  | [], s => .next s
  | i :: is, s =>
    match step i s with
    | .next s => loopPasses step is s
    | .leave r => .leave r

theorem loopPasses_next (f : ℕ → σ → σ) (is : List ℕ) (s : σ) :
    loopPasses (ρ := ρ) (fun i s => .next (f i s)) is s =
      .next (is.foldl (fun s i => f i s) s) := by
  induction is generalizing s with
  | nil => rfl
  | cons i is ih => exact ih (f i s)

theorem loopPasses_search (found : ℕ → Bool) (r : ρ) (is : List ℕ) (s : σ) :
    loopPasses (fun i s => if found i then .leave r else .next s) is s =
      if is.any found then .leave r else .next s := by
  induction is with
  | nil => rfl
  | cons i is ih =>
    rw [loopPasses, List.any_cons]
    cases found i with
    | true => rfl
    | false => exact ih

section Rules
variable {running : ι → Bool} {succ : ι → ι} {body : ι → σ → Access (Pass σ ρ)}
  {step : ℕ → σ → Pass σ ρ} {inv : σ → Prop} {fuel : ℕ} {s : σ}

/-- A counter that takes `n` values before the loop ends, and a body that does not fail. -/
theorem forLoop_eq (counter : ℕ → ι) (n : ℕ)
    (hrunning : ∀ k ≤ n, running (counter k) = decide (k < n))
    (hsucc : ∀ k < n, succ (counter k) = counter (k + 1))
    (hbody : ∀ k < n, ∀ s, inv s → body (counter k) s = .ok (step k s))
    (hinv : ∀ k < n, ∀ s s', inv s → step k s = .next s' → inv s')
    (hfuel : n ≤ fuel) (hs : inv s) :
    forLoop running succ body fuel (counter 0) s = .ok (loopPasses step (List.range n) s) := by
  have hfrom (m k : ℕ) (s : σ) (fuel : ℕ) (hk : k + m = n) (hm : m ≤ fuel) (hs : inv s) :
      forLoop running succ body fuel (counter k) s = .ok (loopPasses step (List.range' k m) s) := by
    induction m generalizing k s fuel with
    | zero =>
      have hend : running (counter k) = false := by
        rw [hrunning k (by omega)]
        exact decide_eq_false (by omega)
      cases fuel <;> rw [forLoop, hend] <;> rfl
    | succ m ih =>
      obtain ⟨more, rfl⟩ : ∃ more, fuel = more + 1 := ⟨fuel - 1, by omega⟩
      have hlt : k < n := by omega
      have hrun : running (counter k) = true := by
        rw [hrunning k hlt.le]
        exact decide_eq_true hlt
      rw [forLoop, hrun, if_pos rfl, hbody k hlt s hs, ok_bind, List.range'_succ, loopPasses]
      cases hstep : step k s with
      | leave r => rfl
      | next s' =>
        have hnext := ih (k + 1) s' more (by omega) (by omega) (hinv k hlt s s' hs hstep)
        simpa only [hsucc k hlt] using hnext
  rw [List.range_eq_range']
  exact hfrom n 0 s fuel (Nat.zero_add n) hfuel hs

theorem forSize_eq (step : ℕ → σ → Pass σ ρ) (inv : σ → Prop) {n : ℕ}
    {body : ℕ → σ → Access (Pass σ ρ)}
    (hbody : ∀ k < n, ∀ s, inv s → body k s = .ok (step k s))
    (hinv : ∀ k < n, ∀ s s', inv s → step k s = .next s' → inv s')
    (hfuel : n ≤ fuel) (hs : inv s) :
    forSize fuel n body s = .ok (loopPasses step (List.range n) s) := by
  apply forLoop_eq id n _ _ hbody hinv hfuel hs
  · intro k _
    rfl
  · intro k _
    rfl

/-- The rule for a counter of eight bits: it reaches every bound that it can be compared
with. -/
theorem forU8_eq (step : ℕ → σ → Pass σ ρ) (inv : σ → Prop) {n : UInt8}
    {body : UInt8 → σ → Access (Pass σ ρ)}
    (hbody : ∀ i < n, ∀ s, inv s → body i s = .ok (step i.toNat s))
    (hinv : ∀ k < n.toNat, ∀ s s', inv s → step k s = .next s' → inv s')
    (hfuel : n.toNat ≤ fuel) (hs : inv s) :
    forU8 fuel n body s = .ok (loopPasses step (List.range n.toNat) s) := by
  have hn := n.toNat_lt
  have hvalue (k : ℕ) (hk : k ≤ n.toNat) : (UInt8.ofNat k).toNat = k := by
    rw [UInt8.toNat_ofNat', Nat.mod_eq_of_lt (by omega)]
  apply forLoop_eq UInt8.ofNat n.toNat _ _ _ hinv hfuel hs
  · intro k hk
    rw [decide_eq_decide, UInt8.lt_iff_toNat_lt, hvalue k hk]
  · intro k _
    exact (UInt8.ofNat_add k 1).symm
  · intro k hk s hs
    have hlt : UInt8.ofNat k < n := by rwa [UInt8.lt_iff_toNat_lt, hvalue k hk.le]
    rw [hbody _ hlt s hs, hvalue k hk.le]

theorem forSize_fold (f : ℕ → σ → σ) {n : ℕ} {body : ℕ → σ → Access (Pass σ σ)}
    (hbody : ∀ k < n, ∀ s, body k s = .ok (.next (f k s))) (hfuel : n ≤ fuel) :
    forSize fuel n body s = .ok (.next ((List.range n).foldl (fun s i => f i s) s)) := by
  rw [forSize_eq (fun k s => .next (f k s)) (fun _ => True) (fun k hk s _ => hbody k hk s)
    (fun _ _ _ _ _ _ => trivial) hfuel trivial, loopPasses_next]

theorem forU8_fold (f : ℕ → σ → σ) {n : UInt8} {body : UInt8 → σ → Access (Pass σ σ)}
    (hbody : ∀ i < n, ∀ s, body i s = .ok (.next (f i.toNat s))) (hfuel : n.toNat ≤ fuel) :
    forU8 fuel n body s = .ok (.next ((List.range n.toNat).foldl (fun s i => f i s) s)) := by
  rw [forU8_eq (fun k s => .next (f k s)) (fun _ => True) (fun i hi s _ => hbody i hi s)
    (fun _ _ _ _ _ _ => trivial) hfuel trivial, loopPasses_next]

theorem forU8_search (found : ℕ → Bool) (r : ρ) {n : UInt8} {body : UInt8 → σ → Access (Pass σ ρ)}
    (hbody : ∀ i < n, ∀ s, body i s = .ok (if found i.toNat then .leave r else .next s))
    (hfuel : n.toNat ≤ fuel) :
    forU8 fuel n body s =
      .ok (if (List.range n.toNat).any found then .leave r else .next s) := by
  rw [forU8_eq (fun i s => if found i then .leave r else .next s) (fun _ => True)
    (fun i hi s _ => hbody i hi s) (fun _ _ _ _ _ _ => trivial) hfuel trivial, loopPasses_search]

end Rules

/-- The object once `xs` is stored from its start on, element by element: what does not fit
faults at the first place behind the object. -/
def stored (object xs : List α) : Access (List α) :=
  if xs.length ≤ object.length then .ok (xs ++ object.drop xs.length)
  else .error (.outOfBounds object.length object.length)

section Stored
variable {object xs : List α}

theorem stored_of_le (h : xs.length ≤ object.length) :
    stored object xs = .ok (xs ++ object.drop xs.length) := if_pos h

theorem stored_of_lt (h : object.length < xs.length) :
    stored object xs = .error (.outOfBounds object.length object.length) :=
  if_neg (Nat.not_le.mpr h)

/-- What follows a store depends on the object only if the store succeeds. -/
theorem stored_bind_congr {f g : List α → Access β}
    (h : xs.length ≤ object.length →
      f (xs ++ object.drop xs.length) = g (xs ++ object.drop xs.length)) :
    stored object xs >>= f = stored object xs >>= g := by
  by_cases hle : xs.length ≤ object.length
  · rw [stored_of_le hle, ok_bind, ok_bind, h hle]
  · rw [stored_of_lt (Nat.not_le.mp hle), error_bind, error_bind]

theorem stored_write (v : α) {k : ℕ} (hk : k = xs.length) (f : List α → Access β) :
    (stored object xs >>= fun o => write o k v >>= f) = stored object (xs ++ [v]) >>= f := by
  subst hk
  have hmore : (xs ++ [v]).length = xs.length + 1 := by simp
  rcases Nat.lt_trichotomy xs.length object.length with hlt | heq | hgt
  · have hindex : xs.length < (xs ++ object.drop xs.length).length := by
      rw [List.length_append, List.length_drop]
      omega
    rw [stored_of_le hlt.le, ok_bind, write_eq _ hindex, ok_bind, stored_of_le (by omega), ok_bind,
      List.drop_eq_getElem_cons hlt, List.set_append_right _ _ le_rfl, Nat.sub_self,
      List.set_cons_zero, hmore, List.append_assoc]
    rfl
  · have hfull : (xs ++ object.drop xs.length).length = object.length := by
      rw [List.length_append, List.length_drop]
      omega
    rw [stored_of_le heq.le, ok_bind, write, if_neg (by omega), error_bind,
      stored_of_lt (by omega), error_bind, hfull, heq]
  · rw [stored_of_lt hgt, error_bind, stored_of_lt (by omega), error_bind]

/-- A loop that writes one element in each pass stores all of them. -/
theorem stored_forSize {vs : List α} {fuel : ℕ} {body : ℕ → List α → Access (Pass (List α) ρ)}
    (hbody : ∀ (i : ℕ) (hi : i < vs.length) (o : List α),
      body i o = write o (xs.length + i) vs[i] >>= fun o => .ok (.next o))
    (hfuel : vs.length ≤ fuel) (f : Pass (List α) ρ → Access β) :
    (stored object xs >>= fun o => forSize fuel vs.length body o >>= f) =
      stored object (xs ++ vs) >>= fun o => f (.next o) := by
  have hfrom (m k fuel : ℕ) (hk : k + m = vs.length) (hm : m ≤ fuel) :
      (stored object (xs ++ vs.take k) >>= fun o =>
        forLoop (fun i => decide (i < vs.length)) (· + 1) body fuel k o >>= f) =
      stored object (xs ++ vs) >>= fun o => f (.next o) := by
    induction m generalizing k fuel with
    | zero =>
      have hend (o : List α) :
          forLoop (fun i => decide (i < vs.length)) (· + 1) body fuel k o = .ok (.next o) := by
        have hstop : decide (k < vs.length) = false := decide_eq_false (by omega)
        cases fuel <;> simp [forLoop, hstop]
      simp only [hend, ok_bind]
      rw [List.take_of_length_le (by omega)]
    | succ m ih =>
      obtain ⟨more, rfl⟩ : ∃ more, fuel = more + 1 := ⟨fuel - 1, by omega⟩
      have hlt : k < vs.length := by omega
      have hpass (o : List α) :
          forLoop (fun i => decide (i < vs.length)) (· + 1) body (more + 1) k o >>= f =
            write o (xs.length + k) vs[k] >>= fun o =>
              forLoop (fun i => decide (i < vs.length)) (· + 1) body more (k + 1) o >>= f := by
        rw [forLoop, if_pos (decide_eq_true hlt), hbody k hlt o, bind_assoc, bind_assoc]
        rfl
      have hstored := ih (k + 1) more (by omega) (by omega)
      simp only [hpass]
      rw [stored_write _ (by rw [List.length_append, List.length_take_of_le hlt.le]),
        List.append_assoc, List.take_append_getElem, hstored]
  have hall := hfrom vs.length 0 fuel (Nat.zero_add _) hfuel
  rwa [List.take_zero, List.append_nil] at hall

end Stored

end Access
end ObswPus.Library
