import ObswPus.Runner.ObcSim
import ObswPus.Telemetry.Drained

/-! # Transmission

What the calls of `send` take of a packet, and what one emptying of the downlink queue puts
on the socket: the queued packets one after the other, or a beginning of them if a call
fails.
-/
namespace ObswPus.Runner
open Flight Downlink Commanding Library

/-- No call of `send` fails, and each of them takes something. -/
def Steady (sends : List Send) : Prop := ∀ x ∈ sends, x ≠ .failed ∧ x ≠ .room 0

theorem Steady.tail {x : Send} {sends : List Send} (h : Steady (x :: sends)) : Steady sends :=
  fun y hy => h y (List.mem_cons_of_mem x hy)

theorem Steady.suffix {sends sends' : List Send} (h : Steady sends) (hsuffix : sends' <:+ sends) :
    Steady sends' := fun x hx => h x (hsuffix.subset hx)

section WriteAll
variable (sends : List Send) (taken buf : List UInt8) (sent missing : ℕ)

theorem writeAll_cases :
    ((writeAll sends taken buf sent missing).rc = 1 ∧
        (writeAll sends taken buf sent missing).outlet.taken =
          taken ++ (buf.drop sent).take missing) ∨
      ((writeAll sends taken buf sent missing).rc = -1 ∧ ¬Steady sends ∧
        ∃ k < missing, (writeAll sends taken buf sent missing).outlet.taken =
          taken ++ (buf.drop sent).take k) := by
  fun_induction writeAll with
  | case1 => exact .inl ⟨rfl, by rw [List.take_zero, List.append_nil]⟩
  | case2 => exact .inl ⟨rfl, rfl⟩
  | case3 sends taken buf sent missing ih =>
    rcases ih with hall | ⟨hrc, hsteady, hpart⟩
    · exact .inl hall
    · exact .inr ⟨hrc, fun h => hsteady h.tail, hpart⟩
  | case4 sends taken buf sent missing =>
    exact .inr ⟨rfl, fun h => (h _ List.mem_cons_self).1 rfl, 0, Nat.zero_lt_succ _,
      by rw [List.take_zero, List.append_nil]⟩
  | case5 octets sends taken buf sent missing w hw =>
    have hzero : octets = 0 := by omega
    exact .inr ⟨rfl, fun h => (h _ List.mem_cons_self).2 (congrArg _ hzero), 0,
      Nat.zero_lt_succ _, by rw [List.take_zero, List.append_nil]⟩
  | case6 octets sends taken buf sent missing w hw ih =>
    have hjoin (k : ℕ) : taken ++ (buf.drop sent).take w ++ (buf.drop (sent + w)).take k =
        taken ++ (buf.drop sent).take (w + k) := by
      rw [List.append_assoc, List.take_add, List.drop_drop]
    rcases ih with ⟨hrc, hall⟩ | ⟨hrc, hsteady, k, hk, hpart⟩
    · have hsum : w + (missing + 1 - w) = missing + 1 := by omega
      exact .inl ⟨hrc, by rw [hall, hjoin, hsum]⟩
    · exact .inr ⟨hrc, fun h => hsteady h.tail, w + k, by omega, by rw [hpart, hjoin]⟩

theorem suffix_writeAll : (writeAll sends taken buf sent missing).outlet.sends <:+ sends := by
  fun_induction writeAll with
  | case1 | case2 => exact List.suffix_rfl
  | case3 _ _ _ _ _ ih => exact ih.trans (List.suffix_cons ..)
  | case4 | case5 => exact List.suffix_cons ..
  | case6 _ _ _ _ _ _ _ _ ih => exact ih.trans (List.suffix_cons ..)

end WriteAll

/-- A packet that a pop has left in the buffer is put on the socket, and nothing behind it. -/
theorem writeAll_popped (sends : List Send) (taken buf p : List UInt8) :
    ((writeAll sends taken (storeAt buf 0 p) 0 p.length).rc = 1 ∧
        (writeAll sends taken (storeAt buf 0 p) 0 p.length).outlet.taken = taken ++ p) ∨
      ((writeAll sends taken (storeAt buf 0 p) 0 p.length).rc = -1 ∧ ¬Steady sends ∧
        (writeAll sends taken (storeAt buf 0 p) 0 p.length).outlet.taken <+: taken ++ p) := by
  have htake := take_storeAt_zero buf p
  rcases writeAll_cases sends taken (storeAt buf 0 p) 0 p.length with
    ⟨hrc, hall⟩ | ⟨hrc, hsteady, k, hk, hpart⟩
  · rw [List.drop_zero, htake] at hall
    exact .inl ⟨hrc, hall⟩
  · have hfront : (storeAt buf 0 p).take k <+: p := by
      rw [← min_eq_left hk.le, ← List.take_take, htake]
      exact List.take_prefix k p
    rw [hpart, List.drop_zero]
    exact .inr ⟨hrc, hsteady, (List.prefix_append_right_inj taken).mpr hfront⟩

/-- The packet buffer of the runner. -/
abbrev packetBuffer : List UInt8 := List.replicate pusMaxPacketSize 0

/-- The unit after some packets have been taken. -/
def pops (u : Obc) (n : ℕ) : Obc := Run.run Obc.step u (List.replicate n (.pop packetBuffer))

theorem pops_succ (u : Obc) (n : ℕ) : pops u (n + 1) = pops (u.step (.pop packetBuffer)) n := rfl

theorem pops_count (u : Obc) : pops u (tmQueueCount u.obsw.queue) =
    Run.run Obc.step u (Telemetry.drainDownlink u) := rfl

theorem queue_tmQueuePop (q : TmQueue) (buf buf' : List UInt8) (cap n n' : ℕ) :
    (tmQueuePop q (some buf) cap (some n)).queue =
      (tmQueuePop q (some buf') cap (some n')).queue := by
  simp only [tmQueuePop]
  split_ifs <;> rfl

theorem obsw_popped (u : Obc) (packet : List UInt8) (len : ℕ) :
    { u.obsw with
      queue := (tmQueuePop u.obsw.queue (some packet) pusMaxPacketSize (some len)).queue } =
      (u.step (.pop packetBuffer)).obsw := by
  rw [obsw_pop, List.length_replicate, queue_tmQueuePop u.obsw.queue packet packetBuffer]

/-- The runner takes packets off the queue as long as there are any and no call fails, and puts
them on the socket in their order. -/
theorem drainDownlink_cases {u : Obc} (hq : Valid u.obsw.queue) (hfit : Fit u.obsw.queue)
    (outlet : Outlet) (packet : List UInt8) (len : ℕ) :
    (drainDownlink u.obsw outlet packet len).outlet.sends <:+ outlet.sends ∧
      (((drainDownlink u.obsw outlet packet len).rc = 0 ∧
          (drainDownlink u.obsw outlet packet len).obsw =
            (pops u (tmQueueCount u.obsw.queue)).obsw ∧
          (drainDownlink u.obsw outlet packet len).outlet.taken =
            outlet.taken ++ (contents u.obsw.queue).flatten) ∨
        ((drainDownlink u.obsw outlet packet len).rc = -1 ∧ ¬Steady outlet.sends ∧
          (∃ n, (drainDownlink u.obsw outlet packet len).obsw = (pops u n).obsw) ∧
          (drainDownlink u.obsw outlet packet len).outlet.taken <+:
            outlet.taken ++ (contents u.obsw.queue).flatten)) := by
  induction hn : u.obsw.queue.count generalizing u outlet packet len with
  | zero =>
    have hempty : contents u.obsw.queue = [] := by
      rw [← List.length_eq_zero_iff, contents_length, hn]
    rw [drainDownlink]
    simp only [tmQueueCount, hn, lt_irrefl, if_false, hempty, List.flatten_nil, List.append_nil]
    exact ⟨List.suffix_rfl, .inl ⟨trivial, rfl, trivial⟩⟩
  | succ n ih =>
    obtain ⟨p, rest, hcontents, hlen⟩ := exists_contents_cons hn
    have hp : ¬pusMaxPacketSize < p.length :=
      Nat.not_lt.mpr (hfit p (hcontents ▸ List.mem_cons_self))
    obtain ⟨q', hq', hrest, -, hpop⟩ :=
      tmQueuePop_cons hq hcontents packet pusMaxPacketSize len
    rw [if_neg hp] at hrest hpop
    have hstep := obsw_popped u packet len
    rw [hpop] at hstep
    have hpos : 0 < tmQueueCount u.obsw.queue := by
      rw [tmQueueCount, hn]
      exact Nat.succ_pos n
    have hsuffix := suffix_writeAll outlet.sends outlet.taken (storeAt packet 0 p) 0 p.length
    have hleft : contents (u.step (.pop packetBuffer)).obsw.queue = rest := by
      rw [← hstep]
      exact hrest
    have hcount : (u.step (.pop packetBuffer)).obsw.queue.count = n := by
      rw [← contents_length, hleft, hlen]
    rw [drainDownlink]
    simp only [hpos, if_true, hpop, ne_eq, not_true_eq_false, dite_false, Option.getD_some, hstep]
    rw [hcontents, List.flatten_cons, ← List.append_assoc]
    rcases writeAll_popped outlet.sends outlet.taken packet p with
      ⟨hrc, hall⟩ | ⟨hrc, hsteady, hpart⟩
    · have hwritten : ¬(1 : Int) < 0 := by decide
      rw [hrc, if_neg hwritten, ← hall]
      have hrun := ih (valid_step hq _) (fit_step hq hfit _)
        (writeAll outlet.sends outlet.taken (storeAt packet 0 p) 0 p.length).outlet
        (storeAt packet 0 p) p.length hcount
      rw [hleft] at hrun
      obtain ⟨hsends, hzero | ⟨hminus, hsteady, ⟨m, hobsw⟩, hfront⟩⟩ := hrun
      · have hpops : tmQueueCount u.obsw.queue = tmQueueCount
            (u.step (.pop packetBuffer)).obsw.queue + 1 := by
          rw [tmQueueCount, tmQueueCount, hn, hcount]
        rw [hpops, pops_succ]
        exact ⟨hsends.trans hsuffix, .inl hzero⟩
      · exact ⟨hsends.trans hsuffix, .inr ⟨hminus, fun h => hsteady (h.suffix hsuffix),
          ⟨m + 1, hobsw⟩, hfront⟩⟩
    · have hfailed : (-1 : Int) < 0 := by decide
      rw [hrc, if_pos hfailed]
      exact ⟨hsuffix, .inr ⟨rfl, hsteady, ⟨1, rfl⟩, hpart.trans (List.prefix_append ..)⟩⟩

end ObswPus.Runner
