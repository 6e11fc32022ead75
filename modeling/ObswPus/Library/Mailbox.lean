import Mathlib.Data.List.ReduceOption

/-! # Selective reception

A receiver that waits for a message of one kind puts back what it passes over, so that it
can be asked for later. Messages arrive in their order, with silences in between; the
receiver gives up at a silence or when its patience is exhausted. It takes the first
message of the kind, whether that was put back or arrives, and leaves all others in their
order. Giving up loses none, and keeps their order unless the patience was too short for
those put back earlier.
-/
namespace ObswPus.Library

structure Mailbox (α : Type*) where
  /-- Messages that were put back, and are read first. -/
  pending : List α
  /-- Messages to come, `none` being a silence. -/
  incoming : List (Option α)

namespace Mailbox
variable {α : Type*}

/-- The next message, unless there is silence or the end. -/
def read (b : Mailbox α) : Option α × Mailbox α :=
  match b.pending, b.incoming with
  | m :: pending, incoming => (some m, ⟨pending, incoming⟩)
  | [], some m :: incoming => (some m, ⟨[], incoming⟩)
  | [], none :: incoming => (none, ⟨[], incoming⟩)
  | [], [] => (none, ⟨[], []⟩)

def putBack (b : Mailbox α) (skipped : List α) : Mailbox α :=
  { b with pending := b.pending ++ skipped }

/-- Reads up to a message of the kind `p`; what it passes over is put back in the end. -/
def seek (p : α → Bool) : ℕ → List α → Mailbox α → Option α × Mailbox α
  | 0, skipped, b => (none, b.putBack skipped)
  | patience + 1, skipped, b =>
    match b.read with
    | (none, b) => (none, b.putBack skipped)
    | (some m, b) =>
      if p m then (some m, b.putBack skipped) else seek p patience (skipped ++ [m]) b

/-- Waits for a message of the kind `p`, first among those that were put back. -/
def expect (p : α → Bool) (patience : ℕ) (b : Mailbox α) : Option α × Mailbox α :=
  match b.pending.find? p with
  | some m => (some m, { b with pending := b.pending.eraseP p })
  | none => seek p patience [] b

/-- All messages that can be read, sooner or later. -/
def messages (b : Mailbox α) : List α := b.pending ++ b.incoming.reduceOption

/-- The messages that arrive before the next silence. -/
def arriving : List (Option α) → List α
  | some m :: incoming => m :: arriving incoming
  | _ => []

/-- The messages that can be read before the next silence. -/
def available (b : Mailbox α) : List α := b.pending ++ arriving b.incoming

theorem messages_of_pending_nil {b : Mailbox α} (h : b.pending = []) (skipped : List α) :
    (b.putBack skipped).messages = skipped ++ b.messages := by
  simp only [messages, putBack, h, List.nil_append]

theorem perm_messages_putBack (b : Mailbox α) (skipped : List α) :
    (b.putBack skipped).messages.Perm (skipped ++ b.messages) := by
  rw [messages, putBack, messages, ← List.append_assoc]
  exact List.perm_append_comm.append_right _

theorem perm_cons_eraseP {p : α → Bool} {l : List α} {m : α} (h : l.find? p = some m) :
    (m :: l.eraseP p).Perm l := by
  obtain ⟨hm, before, after, rfl, hbefore⟩ := List.find?_eq_some_iff_append.mp h
  have hnone : ∀ x ∈ before, ¬p x := fun x hx => by simpa using hbefore x hx
  rw [List.eraseP_append_right _ hnone, List.eraseP_cons_of_pos hm]
  exact List.perm_middle.symm

/-- The messages once the search is given up: what was passed over lies behind the pending ones
that were not come to. -/
def givenUp (patience : ℕ) (skipped : List α) (b : Mailbox α) : List α :=
  b.pending.drop patience ++ (skipped ++ b.pending.take patience) ++ b.incoming.reduceOption

theorem perm_givenUp (patience : ℕ) (b : Mailbox α) : (givenUp patience [] b).Perm b.messages := by
  rw [givenUp, List.nil_append, messages]
  refine List.Perm.append_right _ (List.perm_append_comm.trans (.of_eq ?_))
  exact List.take_append_drop patience b.pending

theorem givenUp_of_length_le {patience : ℕ} {b : Mailbox α} (h : b.pending.length ≤ patience) :
    givenUp patience [] b = b.messages := by
  rw [givenUp, List.drop_eq_nil_of_le h, List.take_of_length_le h, List.nil_append, List.nil_append,
    messages]

section Read
variable {b b' : Mailbox α} {m : α} (patience : ℕ) (skipped : List α)

theorem read_some (h : b.read = (some m, b')) :
    b.messages = m :: b'.messages ∧ b.available = m :: b'.available ∧
      b.pending = (if b.pending = [] then [] else m :: b'.pending) ∧
      (b.pending = [] → b'.pending = []) := by
  rcases b with ⟨_ | ⟨x, pending⟩, incoming⟩
  · rcases incoming with _ | ⟨_ | x, incoming⟩
    · cases h
    · cases h
    · cases h
      exact ⟨rfl, rfl, rfl, fun _ => rfl⟩
  · cases h
    exact ⟨rfl, rfl, rfl, fun h => absurd h (List.cons_ne_nil _ _)⟩

theorem givenUp_read_some (h : b.read = (some m, b')) :
    givenUp (patience + 1) skipped b = givenUp patience (skipped ++ [m]) b' := by
  rcases b with ⟨_ | ⟨x, pending⟩, incoming⟩
  · rcases incoming with _ | ⟨_ | x, incoming⟩
    · cases h
    · cases h
    · cases h
      simp only [givenUp, List.drop_nil, List.take_nil, List.append_nil, List.nil_append,
        List.reduceOption_cons_of_some, List.append_assoc, List.singleton_append]
  · cases h
    simp only [givenUp, List.drop_succ_cons, List.take_succ_cons, List.append_assoc,
      List.singleton_append]

theorem read_none (h : b.read = (none, b')) : b'.messages = b.messages ∧ b.available = [] := by
  rcases b with ⟨_ | ⟨x, pending⟩, incoming⟩
  · rcases incoming with _ | ⟨_ | x, incoming⟩
    · cases h
      exact ⟨rfl, rfl⟩
    · cases h
      exact ⟨rfl, rfl⟩
    · cases h
  · cases h

theorem givenUp_read_none (h : b.read = (none, b')) :
    (b'.putBack skipped).messages = givenUp patience skipped b := by
  rcases b with ⟨_ | ⟨x, pending⟩, incoming⟩
  · simp only [givenUp, List.drop_nil, List.take_nil, List.append_nil, List.nil_append]
    rcases incoming with _ | ⟨_ | x, incoming⟩
    · cases h
      rfl
    · cases h
      rfl
    · cases h
  · cases h

end Read

section Seek
variable {p : α → Bool} {patience : ℕ} {skipped : List α} {b b' : Mailbox α}

/-- What is found is the first of its kind, and everything else stays in order. -/
theorem seek_some {m : α} (hpending : ∀ x ∈ b.pending, ¬p x) (hskipped : ∀ x ∈ skipped, ¬p x)
    (h : seek p patience skipped b = (some m, b')) :
    (skipped ++ b.messages).find? p = some m ∧
      b'.messages = (skipped ++ b.messages).eraseP p := by
  induction patience generalizing skipped b with
  | zero => cases h
  | succ patience ih =>
    rw [seek] at h
    rcases hread : b.read with ⟨_ | x, rest⟩
    · rw [hread] at h
      cases h
    obtain ⟨hmessages, -, hhead, hnil⟩ := read_some hread
    rw [hread] at h
    dsimp only at h
    have hnone : skipped.find? p = none := List.find?_eq_none.mpr hskipped
    by_cases hx : p x
    · rw [if_pos hx] at h
      cases h
      have hempty : b.pending = [] := by
        by_contra hne
        rw [if_neg hne] at hhead
        exact hpending _ (hhead ▸ List.mem_cons_self) hx
      rw [hmessages, List.find?_append, hnone, List.find?_cons_of_pos hx,
        List.eraseP_append_right _ hskipped, List.eraseP_cons_of_pos hx,
        messages_of_pending_nil (hnil hempty)]
      exact ⟨rfl, rfl⟩
    · rw [if_neg hx] at h
      have hpending' : ∀ y ∈ rest.pending, ¬p y := by
        intro y hy
        by_cases hempty : b.pending = []
        · rw [hnil hempty] at hy
          cases hy
        · rw [if_neg hempty] at hhead
          exact hpending y (hhead ▸ List.mem_cons_of_mem _ hy)
      have hskipped' : ∀ y ∈ skipped ++ [x], ¬p y := by
        intro y hy
        rcases List.mem_append.mp hy with hy | hy
        · exact hskipped y hy
        · rw [List.mem_singleton.mp hy]
          exact hx
      have hfound := ih hpending' hskipped' h
      rwa [List.append_assoc, List.singleton_append, ← hmessages] at hfound

theorem seek_some_perm {m : α} (h : seek p patience skipped b = (some m, b')) :
    p m ∧ (m :: b'.messages).Perm (skipped ++ b.messages) := by
  induction patience generalizing skipped b with
  | zero => cases h
  | succ patience ih =>
    rw [seek] at h
    rcases hread : b.read with ⟨_ | x, rest⟩
    · rw [hread] at h
      cases h
    obtain ⟨hmessages, -, -, -⟩ := read_some hread
    rw [hread] at h
    dsimp only at h
    by_cases hx : p x
    · rw [if_pos hx] at h
      cases h
      rw [hmessages]
      exact ⟨hx, ((perm_messages_putBack rest skipped).cons m).trans List.perm_middle.symm⟩
    · rw [if_neg hx] at h
      have hfound := ih h
      rwa [List.append_assoc, List.singleton_append, ← hmessages] at hfound

theorem seek_some_mem {m : α} (h : seek p patience skipped b = (some m, b')) :
    m ∈ b.available.take patience := by
  induction patience generalizing skipped b with
  | zero => cases h
  | succ patience ih =>
    rw [seek] at h
    rcases hread : b.read with ⟨_ | x, rest⟩
    · rw [hread] at h
      cases h
    obtain ⟨-, havailable, -, -⟩ := read_some hread
    rw [hread] at h
    dsimp only at h
    rw [havailable, List.take_succ_cons]
    by_cases hx : p x
    · rw [if_pos hx] at h
      cases h
      exact List.mem_cons_self
    · rw [if_neg hx] at h
      exact List.mem_cons_of_mem x (ih h)

/-- A search is given up if none of the messages that the patience lasted for was of the kind. -/
theorem seek_none (h : seek p patience skipped b = (none, b')) :
    b'.messages = givenUp patience skipped b ∧ ∀ x ∈ b.available.take patience, ¬p x := by
  induction patience generalizing skipped b with
  | zero =>
    cases h
    simp only [messages, putBack, givenUp, List.drop_zero, List.take_zero, List.append_nil]
    exact ⟨trivial, fun x hx => absurd hx List.not_mem_nil⟩
  | succ patience ih =>
    rw [seek] at h
    rcases hread : b.read with ⟨_ | x, rest⟩
    · have hgivenUp := givenUp_read_none (patience + 1) skipped hread
      rw [hread] at h
      cases h
      rw [(read_none hread).2, List.take_nil]
      exact ⟨hgivenUp, fun x hx => absurd hx List.not_mem_nil⟩
    · obtain ⟨-, havailable, -, -⟩ := read_some hread
      rw [hread] at h
      dsimp only at h
      by_cases hx : p x
      · rw [if_pos hx] at h
        cases h
      rw [if_neg hx] at h
      obtain ⟨hall, hnone⟩ := ih h
      rw [givenUp_read_some patience skipped hread, havailable, List.take_succ_cons]
      exact ⟨hall, List.forall_mem_cons.mpr ⟨hx, hnone⟩⟩

end Seek

section Expect
variable {p : α → Bool} {patience : ℕ} {b b' : Mailbox α}

theorem expect_some {m : α} (h : expect p patience b = (some m, b')) :
    m ∈ b.pending ++ b.available.take patience ∧
      b.messages.find? p = some m ∧ b'.messages = b.messages.eraseP p := by
  unfold expect at h
  cases hfind : b.pending.find? p with
  | some x =>
    rw [hfind] at h
    cases h
    have hmem := List.mem_of_find?_eq_some hfind
    have hx := List.find?_some hfind
    rw [messages, List.find?_append, hfind, List.eraseP_append_left hx _ hmem]
    exact ⟨List.mem_append_left _ hmem, rfl, rfl⟩
  | none =>
    rw [hfind] at h
    exact ⟨List.mem_append_right _ (seek_some_mem h),
      seek_some (List.find?_eq_none.mp hfind) (fun x hx => absurd hx List.not_mem_nil) h⟩

/-- An expectation that is not met has met with nothing of the kind, and loses nothing. -/
theorem expect_none (h : expect p patience b = (none, b')) :
    (∀ x ∈ b.pending ++ b.available.take patience, ¬p x) ∧ b'.messages.Perm b.messages ∧
      (b.pending.length ≤ patience → b'.messages = b.messages) := by
  unfold expect at h
  cases hfind : b.pending.find? p with
  | some x =>
    rw [hfind] at h
    cases h
  | none =>
    rw [hfind] at h
    obtain ⟨hall, hnone⟩ := seek_none h
    rw [hall]
    exact ⟨List.forall_mem_append.mpr ⟨List.find?_eq_none.mp hfind, hnone⟩,
      perm_givenUp patience b, givenUp_of_length_le⟩

end Expect

end Mailbox
end ObswPus.Library
