import ObswPus.Codec.Acceptance
import ObswPus.Flight.Uplink
import ObswPus.Library.Reader

/-! # Reception of telecommands

The runner as a reader of the octets that the socket yields: how these arrive, what the
buffer holds and how often the loop is interrupted does not matter.
-/
namespace ObswPus.Uplink
open Flight Codec Library

def stream : Socket → List UInt8
  | [] => []
  | .octets first more :: socket => first :: more ++ stream socket
  | .interrupted :: socket => stream socket
  | .failed :: _ => []

/-- Octets that are there are read, whatever portions they come in. -/
theorem readExact_eq (socket : Socket) (buf : List UInt8) (off n : ℕ) (hoff : off ≤ buf.length)
    (hn : n ≤ (stream socket).length) :
    (readExact socket buf off n).rc = 1 ∧
      (readExact socket buf off n).buf = storeAt buf off ((stream socket).take n) ∧
      stream (readExact socket buf off n).socket = (stream socket).drop n := by
  fun_induction readExact with
  | case1 socket buf off =>
    rw [List.take_zero, storeAt_nil]
    exact ⟨rfl, rfl, rfl⟩
  | case2 => exact absurd hn (by simp [stream])
  | case3 socket buf off missing ih => exact ih hoff hn
  | case4 => exact absurd hn (by simp [stream])
  | case5 first more socket buf off missing hdrop ih =>
    have hmore : more.length ≤ missing := List.drop_eq_nil_iff.mp hdrop
    simp only [stream, List.cons_append, List.length_cons, List.length_append] at hn
    have htake : (stream (.octets first more :: socket)).take (missing + 1) =
        first :: more ++ (stream socket).take (missing - more.length) := by
      simp only [stream, List.cons_append, List.take_succ_cons, List.take_append,
        List.take_of_length_le hmore]
    have hrest : (stream (.octets first more :: socket)).drop (missing + 1) =
        (stream socket).drop (missing - more.length) := by
      simp only [stream, List.cons_append, List.drop_succ_cons, List.drop_append, hdrop,
        List.nil_append]
    rw [htake, hrest, ← storeAt_storeAt _ _ _ _ hoff]
    exact ih (length_storeAt_ge _ hoff) (by omega)
  | case6 first more socket buf off missing next rest hdrop =>
    have hmore : missing < more.length := by
      by_contra hlong
      rw [List.drop_eq_nil_of_le (Nat.not_lt.mp hlong)] at hdrop
      cases hdrop
    have htake : (stream (.octets first more :: socket)).take (missing + 1) =
        first :: more.take missing := by
      simp only [stream, List.cons_append, List.take_succ_cons,
        List.take_append_of_le_length hmore.le]
    have hrest : (stream (.octets first more :: socket)).drop (missing + 1) =
        next :: rest ++ stream socket := by
      simp only [stream, List.cons_append, List.drop_succ_cons,
        List.drop_append_of_le_length hmore.le, hdrop]
    rw [htake, hrest]
    exact ⟨rfl, rfl, rfl⟩

theorem readExact_short (socket : Socket) (buf : List UInt8) (off n : ℕ)
    (hn : (stream socket).length < n) : (readExact socket buf off n).rc ≤ 0 := by
  fun_induction readExact with
  | case1 => exact absurd hn (Nat.not_lt_zero _)
  | case2 => exact le_rfl
  | case3 socket buf off missing ih => exact ih hn
  | case4 =>
    show (-1 : Int) ≤ 0
    decide
  | case5 first more socket buf off missing hdrop ih =>
    have hmore : more.length ≤ missing := List.drop_eq_nil_iff.mp hdrop
    simp only [stream, List.cons_append, List.length_cons, List.length_append] at hn
    exact ih (by omega)
  | case6 first more socket buf off missing next rest hdrop =>
    have hmore := congrArg List.length hdrop
    simp only [stream, List.cons_append, List.length_cons, List.length_append] at hn
    rw [List.length_drop, List.length_cons] at hmore
    omega

/-- The total length that the primary header announces. -/
def announced (b : List UInt8) : ℕ := 7 + (octetAt b 4 * 256 + octetAt b 5)

/-- The runner reads a header, and what it announces if the buffer can hold it. -/
def tcReader : Reader UInt8 where
  next s :=
    if s.length < 6 then none
    else if 256 < announced s then some 6
    else if s.length < announced s then none
    else some (announced s)
  pos s n h := by
    split_ifs at h <;> cases h
    · decide
    · exact Nat.add_pos_left (by decide) _
  le s n h := by
    split_ifs at h <;> cases h <;> omega

theorem octetAt_append {p : List UInt8} {i : ℕ} (s : List UInt8) (hi : i < p.length) :
    octetAt (p ++ s) i = octetAt p i := by
  simp only [octetAt, List.getD_eq_getElem?_getD, List.getElem?_append_left hi]

theorem announced_append {p : List UInt8} (s : List UInt8) (hp : 6 ≤ p.length) :
    announced (p ++ s) = announced p := by
  rw [announced, octetAt_append s (by omega), octetAt_append s (by omega), announced]

section Reception
variable (socket : Socket) (buf : List UInt8) (len : ℕ)

theorem total_readExact (h : 6 ≤ (stream socket).length) :
    ccsdsTotalLength (ccsdsUnpackPrimary (some (readExact socket buf 0 6).buf) 6).toOption =
      announced (stream socket) := by
  obtain ⟨-, hbuf, -⟩ := readExact_eq socket buf 0 6 (Nat.zero_le _) h
  have hlen : 6 ≤ ((stream socket).take 6).length := by rw [List.length_take_of_le h]
  rw [ccsdsUnpackPrimary_eq _ le_rfl, hbuf]
  change ccsdsTotalLength (some _) = _
  rw [totalLength_unpackedHeader]
  change announced _ = _
  rw [storeAt, List.take_zero, List.nil_append, announced_append _ hlen,
    ← announced_append ((stream socket).drop 6) hlen, List.take_append_drop]

theorem receiveTc_none (h : tcReader.next (stream socket) = none) :
    (receiveTc socket buf 256 len).rc ≤ 0 := by
  simp only [tcReader] at h
  split_ifs at h with hshort hlarge hlack
  · have hrc := readExact_short socket buf 0 6 hshort
    simp only [receiveTc, if_pos hrc]
    exact hrc
  · rw [not_lt] at hshort
    obtain ⟨hrc, -, hrest⟩ := readExact_eq socket buf 0 6 (Nat.zero_le _) hshort
    have hdata : (readExact (readExact socket buf 0 6).socket (readExact socket buf 0 6).buf 6
        (announced (stream socket) - 6)).rc ≤ 0 := by
      apply readExact_short
      rw [hrest, List.length_drop]
      omega
    have hfits : ¬(256 < announced (stream socket) ∨ announced (stream socket) ≤ 6) := by
      rw [announced] at hlarge ⊢
      omega
    have hread : ¬(readExact socket buf 0 6).rc ≤ 0 := by
      rw [hrc]
      decide
    simp only [receiveTc, total_readExact socket buf hshort, if_neg hread, if_neg hfits,
      if_pos hdata]
    exact hdata

/-- A reception that succeeds yields the next unit. -/
theorem receiveTc_some {n : ℕ} (h : tcReader.next (stream socket) = some n) :
    (receiveTc socket buf 256 len).rc = 1 ∧
      (receiveTc socket buf 256 len).buf.take (receiveTc socket buf 256 len).outLen =
        (stream socket).take n ∧
      stream (receiveTc socket buf 256 len).socket = (stream socket).drop n ∧
      (receiveTc socket buf 256 len).outLen = n := by
  have hshort : ¬(stream socket).length < 6 := fun hshort => by
    simp only [tcReader, if_pos hshort] at h
    cases h
  simp only [tcReader, if_neg hshort] at h
  rw [not_lt] at hshort
  have hsix : ((stream socket).take 6).length = 6 := List.length_take_of_le hshort
  obtain ⟨hrc, hbuf, hrest⟩ := readExact_eq socket buf 0 6 (Nat.zero_le _) hshort
  have hread : ¬(readExact socket buf 0 6).rc ≤ 0 := by
    rw [hrc]
    decide
  split_ifs at h with hlarge hlack <;> cases h
  · have htake := take_storeAt_zero buf ((stream socket).take 6)
    rw [hsix, ← hbuf] at htake
    simp only [receiveTc, total_readExact socket buf hshort, if_neg hread, if_pos (Or.inl hlarge)]
    exact ⟨trivial, htake, hrest, trivial⟩
  · have hfits : ¬(256 < announced (stream socket) ∨ announced (stream socket) ≤ 6) := by
      rw [announced] at hlarge ⊢
      omega
    have hsplit : announced (stream socket) = 6 + (announced (stream socket) - 6) := by
      omega
    have hroom : 6 ≤ (readExact socket buf 0 6).buf.length := by
      have hstored := length_storeAt_ge ((stream socket).take 6) (Nat.zero_le buf.length)
      rwa [hsix, Nat.zero_add, ← hbuf] at hstored
    have hdatalen : announced (stream socket) - 6 ≤
        (stream (readExact socket buf 0 6).socket).length := by
      rw [hrest, List.length_drop]
      omega
    obtain ⟨hdata, hdatabuf, hdatarest⟩ := readExact_eq (readExact socket buf 0 6).socket
      (readExact socket buf 0 6).buf 6 (announced (stream socket) - 6) hroom hdatalen
    have hstored := storeAt_storeAt buf ((stream socket).take 6)
      (((stream socket).drop 6).take (announced (stream socket) - 6)) 0 (Nat.zero_le _)
    have htake := take_storeAt_zero buf ((stream socket).take (announced (stream socket)))
    rw [Nat.zero_add, hsix, ← List.take_add, ← hsplit, ← hrest, ← hbuf, ← hdatabuf] at hstored
    rw [List.length_take_of_le (by omega), ← hstored] at htake
    simp only [receiveTc, total_readExact socket buf hshort, if_neg hread, if_neg hfits]
    rw [if_neg (by rw [hdata]; decide)]
    rw [hrest, List.drop_drop, ← hsplit] at hdatarest
    exact ⟨rfl, htake, hdatarest, rfl⟩

end Reception

def telecommands (stimuli : List Stimulus) : List (List UInt8) :=
  stimuli.filterMap fun
    | .telecommand octets => some octets
    | _ => none

/-- The application is given the units of the stream, as many as there are readable passes. -/
theorem telecommands_clientRequests (passes : List Readiness) (socket : Socket) (buf : List UInt8)
    (len : ℕ) :
    telecommands (clientRequests passes socket buf len) =
      (tcReader.units (stream socket)).take (passes.count .readable) := by
  fun_induction clientRequests with
  | case1 => simp [telecommands]
  | case2 passes socket buf len ih => rw [ih, List.count_cons_of_ne (by decide)]
  | case3 passes socket buf len ih =>
    have htick (stimuli : List Stimulus) :
        telecommands (.tick :: stimuli) = telecommands stimuli := rfl
    rw [htick, ih, List.count_cons_of_ne (by decide)]
  | case4 passes socket buf len tc hrc =>
    cases hnext : tcReader.next (stream socket) with
    | none => rw [Reader.units_of_next_eq_none hnext, List.take_nil]; rfl
    | some n => exact absurd hrc (by rw [(receiveTc_some socket buf len hnext).1]; decide)
  | case5 passes socket buf len tc hrc ih =>
    cases hnext : tcReader.next (stream socket) with
    | none => exact absurd (receiveTc_none socket buf len hnext) hrc
    | some n =>
      obtain ⟨-, htake, hrest, -⟩ := receiveTc_some socket buf len hnext
      have hhead (octets : List UInt8) (stimuli : List Stimulus) :
          telecommands (.telecommand octets :: stimuli) = octets :: telecommands stimuli := rfl
      rw [hhead, ih, Reader.units_of_next_eq_some hnext, List.count_cons_self, List.take_succ_cons,
        htake, hrest]

end ObswPus.Uplink
