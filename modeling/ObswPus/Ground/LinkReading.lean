import ObswPus.Ground.Link
import ObswPus.Library.Mailbox
import ObswPus.Library.Run

/-! # What the ground link reads

As long as silence falls between packets, the link is a mailbox of the packets that the
octets make up, in whatever portions they arrive: each packet is received once and in its
order, and what a call passes over stays for the calls behind it.
-/
namespace ObswPus.Ground
open Library

/-- What arrives, octet by octet, `none` being a silence. -/
def events : List Arrival → List (Option UInt8)
  | [] => []
  | .silence :: sock => none :: events sock
  | .octets first more :: sock => (first :: more).map some ++ events sock

theorem map_some_append_eq {xs ys : List UInt8} {s r : List (Option UInt8)}
    (h : xs.map some ++ s = ys.map some ++ r) (hlen : xs.length ≤ ys.length) :
    ∃ zs, ys = xs ++ zs ∧ s = zs.map some ++ r := by
  induction xs generalizing ys with
  | nil => exact ⟨ys, rfl, h⟩
  | cons x xs ih =>
    cases ys with
    | nil => exact absurd hlen (by simp)
    | cons y ys =>
      simp only [List.map_cons, List.cons_append, List.cons.injEq, Option.some.injEq] at h
      obtain ⟨zs, rfl, hs⟩ := ih h.2 (Nat.le_of_succ_le_succ hlen)
      exact ⟨zs, by rw [h.1, List.cons_append], hs⟩

/-- Octets that are there before any silence are read, whatever portions they come in. -/
theorem readExact_octets {sock : List Arrival} {octets : List UInt8} {rest : List (Option UInt8)}
    (chunks : List UInt8) (h : events sock = octets.map some ++ rest) :
    ∃ sock', readExact sock chunks octets.length = (.ok (chunks ++ octets), sock') ∧
      events sock' = rest := by
  generalize hn : octets.length = n
  fun_induction readExact sock chunks n generalizing octets with
  | case1 sock chunks =>
    rw [List.length_eq_zero_iff] at hn
    subst hn
    exact ⟨sock, by rw [List.append_nil], h⟩
  | case2 chunks missing =>
    obtain ⟨octet, more, rfl⟩ := List.exists_cons_of_length_eq_add_one hn
    cases h
  | case3 sock chunks missing =>
    obtain ⟨octet, more, rfl⟩ := List.exists_cons_of_length_eq_add_one hn
    cases h
  | case4 first more sock chunks missing hdrop ih =>
    have hmore : more.length ≤ missing := List.drop_eq_nil_iff.mp hdrop
    obtain ⟨later, rfl, hlater⟩ := map_some_append_eq h (by rw [List.length_cons]; omega)
    rw [List.length_append, List.length_cons] at hn
    obtain ⟨sock', hread, hrest⟩ := ih hlater (by omega)
    exact ⟨sock', by rw [hread, List.append_assoc], hrest⟩
  | case5 first more sock chunks missing next rest' hdrop =>
    have hmore := congrArg List.length hdrop
    rw [List.length_drop, List.length_cons] at hmore
    obtain ⟨later, hportion, hlater⟩ := map_some_append_eq h.symm (by rw [List.length_cons]; omega)
    have htake : first :: more.take missing = octets := by
      rw [← List.take_succ_cons, hportion, List.take_left' hn]
    have hleft : next :: rest' = later := by
      rw [← hdrop, ← List.drop_succ_cons, hportion, List.drop_left' hn]
    exact ⟨_, by rw [htake], by rw [events, hleft, hlater]⟩

theorem readExact_silence {sock : List Arrival} {rest : List (Option UInt8)} (chunks : List UInt8)
    (n : ℕ) (h : events sock = none :: rest) :
    ∃ e sock', readExact sock chunks (n + 1) = (.error e, sock') ∧ e.isTmTimeout = true ∧
      events sock' = rest := by
  rcases sock with _ | ⟨⟨first, more⟩ | _, sock⟩
  · cases h
  · cases h
  · cases h
    exact ⟨_, sock, rfl, rfl, rfl⟩

theorem readExact_end {sock : List Arrival} (chunks : List UInt8) (n : ℕ) (h : events sock = []) :
    readExact sock chunks (n + 1) = (.error .closed, []) := by
  rcases sock with _ | ⟨⟨first, more⟩ | _, sock⟩
  · rfl
  · cases h
  · cases h

/-- The octets of the packets, and the silences between them. -/
def frames : List (Option TmPacket) → List (Option UInt8)
  | [] => []
  | none :: packets => none :: frames packets
  | some p :: packets => p.raw.map some ++ frames packets

theorem length_of_parseTm {raw : List UInt8} {p : TmPacket} (h : parseTm raw = .ok p) :
    raw.length = 6 + (fromBytes (slice raw 4 6) + 1) := by
  unfold parseTm at h
  dsimp only at h
  have hheader : primaryHeaderLen = 6 := rfl
  split_ifs at h with hshort htype hlen hcrc hversion
  omega

/-- The link shows the ground what a mailbox shows: the packets that were put back, and those
still to come. In the end `sent` has been received. -/
structure Shows (sent : List TmPacket) (link : ObcLink) (b : Mailbox TmPacket) : Prop where
  pending : link.pending = b.pending
  sock : events link.sock = frames b.incoming
  decodes : ∀ p, some p ∈ b.incoming → parseTm p.raw = .ok p
  received : link.received ++ b.incoming.reduceOption = sent

section ReadTm
variable {sent : List TmPacket} {link : ObcLink} {b b' : Mailbox TmPacket}

theorem Shows.putBack (h : Shows sent link b) (packets : List TmPacket) :
    Shows sent (Ground.putBack link packets) (b.putBack packets) :=
  ⟨congrArg (· ++ packets) h.pending, h.sock, h.decodes, h.received⟩

theorem Shows.readTm_some (h : Shows sent link b) {p : TmPacket} (hread : b.read = (some p, b')) :
    ∃ link', readTm link = (.ok p, link') ∧ Shows sent link' b' := by
  obtain ⟨hpending, hsock, hdecodes, hreceived⟩ := h
  rcases b with ⟨_ | ⟨q, pending⟩, incoming⟩
  · rcases incoming with _ | ⟨_ | q, incoming⟩
    · cases hread
    · cases hread
    cases hread
    have hparse := hdecodes p List.mem_cons_self
    have hlen := length_of_parseTm hparse
    have hheader : (p.raw.take 6).length = 6 := List.length_take_of_le (by omega)
    have hsplit : events link.sock =
        (p.raw.take 6).map some ++ ((p.raw.drop 6).map some ++ frames incoming) := by
      rw [hsock, frames, ← List.append_assoc, ← List.map_append, List.take_append_drop]
    obtain ⟨sock, hfirst, hrest⟩ := readExact_octets [] hsplit
    obtain ⟨sock', hsecond, hlater⟩ := readExact_octets [] hrest
    have hfield : fromBytes (slice (p.raw.take 6) 4 6) + 1 = (p.raw.drop 6).length := by
      rw [slice, List.take_take, min_self, ← slice, List.length_drop]
      omega
    rw [hheader, List.nil_append] at hfirst
    rw [List.nil_append, ← hfield] at hsecond
    refine ⟨⟨sock', link.received ++ [p], []⟩, ?_, rfl, hlater,
      fun q hq => hdecodes q (List.mem_cons_of_mem _ hq), ?_⟩
    · simp only [readTm, hpending, primaryHeaderLen, hfirst, hsecond, List.take_append_drop, hparse]
    · rw [← hreceived, List.reduceOption_cons_of_some, List.append_assoc, List.singleton_append]
  · cases hread
    exact ⟨{ link with pending := pending }, by simp only [readTm, hpending], rfl, hsock, hdecodes,
      hreceived⟩

theorem Shows.readTm_none (h : Shows sent link b) (hread : b.read = (none, b')) :
    ∃ e link', readTm link = (.error e, link') ∧ e.isTmTimeout = true ∧ Shows sent link' b' := by
  obtain ⟨hpending, hsock, hdecodes, hreceived⟩ := h
  rcases b with ⟨_ | ⟨q, pending⟩, incoming⟩
  · rcases incoming with _ | ⟨_ | q, incoming⟩
    · cases hread
      have hend := readExact_end [] 5 hsock
      refine ⟨.closed, ⟨[], link.received, []⟩, ?_, rfl, rfl, rfl, hdecodes, hreceived⟩
      simp only [readTm, hpending, primaryHeaderLen, hend]
    · cases hread
      obtain ⟨e, sock', hread, htimeout, hrest⟩ := readExact_silence [] 5 hsock
      refine ⟨e, ⟨sock', link.received, []⟩, ?_, htimeout, rfl, hrest,
        fun q hq => hdecodes q (List.mem_cons_of_mem _ hq), hreceived⟩
      simp only [readTm, hpending, primaryHeaderLen, hread]
    · cases hread
  · cases hread

end ReadTm

end ObswPus.Ground
