import ObswPus.Isolation.Restart
import ObswPus.Runner.Sessions

/-! # One connection after the other

The software is initialised anew for every client, and no octet that a client is sent
depends on the clients before it.
-/
namespace ObswPus.Runner
open Flight Downlink Commanding Uplink Isolation Library

/-- Twins put the same octets on the socket, and twins are left. -/
structure SameDrained (d d' : DrainDownlink) : Prop where
  rc : d.rc = d'.rc
  outlet : d.outlet = d'.outlet
  twin : Twin d.obsw d'.obsw

theorem writeAll_congr (sends : List Send) (taken : List UInt8) {buf buf' : List UInt8}
    (sent missing : ℕ) (h : (buf.drop sent).take missing = (buf'.drop sent).take missing) :
    writeAll sends taken buf sent missing = writeAll sends taken buf' sent missing := by
  fun_induction writeAll sends taken buf sent missing with
  | case1 => rw [writeAll]
  | case2 => rw [writeAll, h]
  | case3 sends taken buf sent missing ih => rw [writeAll, ih h]
  | case4 => rw [writeAll]
  | case5 octets sends taken buf sent missing w hw => rw [writeAll, if_pos hw]
  | case6 octets sends taken buf sent missing w hw ih =>
    have hle : w ≤ missing + 1 := min_le_right ..
    have hfront := congrArg (List.take w) h
    have hbehind := congrArg (List.drop w) h
    rw [List.take_take, List.take_take, min_eq_left hle] at hfront
    rw [List.drop_take, List.drop_take, List.drop_drop, List.drop_drop] at hbehind
    rw [writeAll, if_neg hw, ih hbehind, hfront]

/-- Twins put the same octets on the socket, whatever lies in the local variables. -/
theorem sameDrained_drainDownlink {s s' : Obsw} (h : Twin s s') (outlet : Outlet)
    (packet packet' : List UInt8) (len len' : ℕ) :
    SameDrained (drainDownlink s outlet packet len) (drainDownlink s' outlet packet' len') := by
  induction hn : s.queue.count generalizing s s' outlet packet packet' len len' with
  | zero =>
    have hempty : ¬0 < tmQueueCount s.queue := by
      rw [tmQueueCount, hn]
      exact lt_irrefl 0
    have hempty' : ¬0 < tmQueueCount s'.queue := by rwa [tmQueueCount, h.same.count]
    rw [drainDownlink, drainDownlink, if_neg hempty, if_neg hempty']
    exact ⟨rfl, rfl, h⟩
  | succ n ih =>
    have hpos : 0 < tmQueueCount s.queue := by
      rw [tmQueueCount, hn]
      exact Nat.succ_pos n
    have hpos' : 0 < tmQueueCount s'.queue := by rwa [tmQueueCount, h.same.count]
    obtain ⟨p, rest, hcontents, hlen⟩ := exists_contents_cons hn
    obtain ⟨q, hq, hleft, hcount, hpop⟩ :=
      tmQueuePop_cons h.same.valid hcontents packet pusMaxPacketSize len
    obtain ⟨q', hq', hleft', hcount', hpop'⟩ := tmQueuePop_cons h.same.valid'
      (h.same.contents.trans hcontents) packet' pusMaxPacketSize len'
    have htwin : Twin (withQueue s q) (withQueue s' q') :=
      h.requeue ⟨hq, hq', hleft'.trans hleft.symm, by rw [hcount', h.same.overflows, hcount]⟩
    rw [drainDownlink, drainDownlink, if_pos hpos, if_pos hpos']
    by_cases hlarge : pusMaxPacketSize < p.length
    · rw [if_pos hlarge] at hpop hpop'
      simp only [hpop, hpop', ne_eq, reduceCtorEq, not_false_eq_true, dite_true]
      exact ⟨rfl, rfl, htwin⟩
    rw [if_neg hlarge] at hleft hpop hpop'
    simp only [hpop, hpop', ne_eq, not_true_eq_false, dite_false, Option.getD_some]
    have hsame : writeAll outlet.sends outlet.taken (storeAt packet' 0 p) 0 p.length =
        writeAll outlet.sends outlet.taken (storeAt packet 0 p) 0 p.length :=
      writeAll_congr _ _ _ _ (by
        rw [List.drop_zero, List.drop_zero, take_storeAt_zero, take_storeAt_zero])
    rw [hsame]
    split
    · exact ⟨rfl, rfl, htwin⟩
    · refine ih htwin _ _ _ _ _ ?_
      show q.count = n
      rw [← contents_length, hleft, hlen]

theorem readExact_congr (socket : Socket) (buf buf' : List UInt8) (off off' n : ℕ) :
    (readExact socket buf off n).rc = (readExact socket buf' off' n).rc ∧
      (readExact socket buf off n).socket = (readExact socket buf' off' n).socket := by
  fun_induction readExact socket buf off n generalizing buf' off' with
  | case1 | case2 | case4 =>
    rw [readExact]
    exact ⟨rfl, rfl⟩
  | case3 socket buf off missing ih =>
    rw [readExact]
    exact ih buf' off'
  | case5 first more socket buf off missing hdrop ih =>
    rw [readExact]
    simp only [hdrop]
    exact ih _ _
  | case6 first more socket buf off missing next rest hdrop =>
    rw [readExact]
    simp only [hdrop]
    exact ⟨trivial, trivial⟩

section Reception
variable (socket : Socket) (buf buf' : List UInt8) (len len' : ℕ)

theorem receiveTc_congr :
    (receiveTc socket buf pusMaxPacketSize len).rc =
        (receiveTc socket buf' pusMaxPacketSize len').rc ∧
      (receiveTc socket buf pusMaxPacketSize len).socket =
        (receiveTc socket buf' pusMaxPacketSize len').socket := by
  obtain ⟨hread, hrest⟩ := readExact_congr socket buf buf' 0 0 ccsdsPrimaryHeaderLen
  by_cases hshort : (stream socket).length < 6
  · have hfailed := readExact_short socket buf' 0 ccsdsPrimaryHeaderLen hshort
    simp only [receiveTc, if_pos hfailed, hread, hrest, and_self]
  · have htotal := total_readExact socket buf (Nat.not_lt.mp hshort)
    have htotal' := total_readExact socket buf' (Nat.not_lt.mp hshort)
    obtain ⟨hdata, hdatarest⟩ := readExact_congr
      (readExact socket buf' 0 ccsdsPrimaryHeaderLen).socket
      (readExact socket buf 0 ccsdsPrimaryHeaderLen).buf
      (readExact socket buf' 0 ccsdsPrimaryHeaderLen).buf ccsdsPrimaryHeaderLen
      ccsdsPrimaryHeaderLen (announced (stream socket) - ccsdsPrimaryHeaderLen)
    simp only [receiveTc, htotal, htotal', hread, hrest, hdata, hdatarest]
    split_ifs <;> exact ⟨rfl, rfl⟩

/-- The telecommand that a reception yields does not depend on what the buffer held. -/
theorem received_congr (h : ¬(receiveTc socket buf pusMaxPacketSize len).rc ≤ 0) :
    (receiveTc socket buf pusMaxPacketSize len).buf.take
        (receiveTc socket buf pusMaxPacketSize len).outLen =
      (receiveTc socket buf' pusMaxPacketSize len').buf.take
        (receiveTc socket buf' pusMaxPacketSize len').outLen := by
  cases hnext : tcReader.next (stream socket) with
  | none => exact absurd (receiveTc_none socket buf len hnext) h
  | some n =>
    obtain ⟨-, hoctets, -⟩ := receiveTc_some socket buf len hnext
    obtain ⟨-, hoctets', -⟩ := receiveTc_some socket buf' len' hnext
    exact hoctets.trans hoctets'.symm

theorem twin_received {s s' : Obsw} (h : Twin s s')
    (hrc : ¬(receiveTc socket buf pusMaxPacketSize len).rc ≤ 0) :
    Twin (obcProcessTc s (some (receiveTc socket buf pusMaxPacketSize len).buf)
        (receiveTc socket buf pusMaxPacketSize len).outLen).2
      (obcProcessTc s' (some (receiveTc socket buf' pusMaxPacketSize len').buf)
        (receiveTc socket buf' pusMaxPacketSize len').outLen).2 := by
  have hrc' : ¬(receiveTc socket buf' pusMaxPacketSize len').rc ≤ 0 := by
    rwa [← (receiveTc_congr socket buf buf' len len').1]
  rw [obcProcessTc_take s (receiveTc_outLen_le hrc),
    obcProcessTc_take s' (receiveTc_outLen_le hrc'), received_congr socket buf buf' len len' hrc]
  exact (alike_obcProcessTc h _).twin

end Reception

structure SameServed (d d' : Served) : Prop where
  outlet : d.outlet = d'.outlet
  twin : Twin d.obsw d'.obsw

theorem sameServed_drained {d d' : DrainDownlink} (h : SameDrained d d') {next next' : Served}
    (hnext : SameServed next next') :
    SameServed (if d.rc < 0 then ⟨d.obsw, d.outlet⟩ else next)
      (if d'.rc < 0 then ⟨d'.obsw, d'.outlet⟩ else next') := by
  rw [h.rc]
  split
  · exact ⟨h.outlet, h.twin⟩
  · exact hnext

theorem sameServed_serveLoop (packet packet' : List UInt8) (outLen outLen' : ℕ)
    (passes : List Readiness) {s s' : Obsw} (h : Twin s s') (socket : Socket) (outlet : Outlet)
    (buf buf' : List UInt8) (len len' : ℕ) :
    SameServed (serveLoop packet outLen passes s socket outlet buf len)
      (serveLoop packet' outLen' passes s' socket outlet buf' len') := by
  induction passes generalizing s s' socket outlet buf buf' len len' with
  | nil => exact ⟨rfl, h⟩
  | cons pass passes ih =>
    cases pass with
    | interrupted => exact ih h socket outlet buf buf' len len'
    | timeout =>
      have hdrained :=
        sameDrained_drainDownlink (twin_obcTick h) outlet packet packet' outLen outLen'
      refine sameServed_drained hdrained ?_
      rw [← hdrained.outlet]
      exact ih hdrained.twin _ _ _ _ _ _
    | readable =>
      rw [serveLoop, serveLoop]
      obtain ⟨hsame, hsocket⟩ := receiveTc_congr socket buf buf' len len'
      by_cases hrc : (receiveTc socket buf pusMaxPacketSize len).rc ≤ 0
      · have hrc' := hsame.symm.trans_le hrc
        rw [if_pos hrc, if_pos hrc']
        exact ⟨rfl, h⟩
      · have hrc' : ¬(receiveTc socket buf' pusMaxPacketSize len').rc ≤ 0 := by rwa [← hsame]
        rw [if_neg hrc, if_neg hrc']
        have hdrained := sameDrained_drainDownlink
          (twin_received socket buf buf' len len' h hrc) outlet packet packet' outLen outLen'
        refine sameServed_drained hdrained ?_
        rw [← hdrained.outlet, ← hsocket]
        exact ih hdrained.twin _ _ _ _ _ _

/-- What the local variables of `serve_client` and of `drain_downlink` hold before they are
assigned: whatever earlier connections have left on the stack. -/
structure Leftovers where
  buf : List UInt8
  len : ℕ
  packet : List UInt8
  outLen : ℕ

/-- The same connection over other leftovers. -/
def Client.over (client : Client) (left : Leftovers) : Client :=
  { client with buf := left.buf, len := left.len, packet := left.packet, outLen := left.outLen }

/-- A client is served alike whatever the statics and the stack held before it connected. -/
theorem sameServed_serveClient (s s' : Obsw) (client : Client) (left : Leftovers) :
    SameServed (serveClient s client) (serveClient s' (client.over left)) := by
  have hdrained := sameDrained_drainDownlink (twin_obcInit s s') ⟨[], client.sends⟩
    client.packet left.packet client.outLen left.outLen
  simp only [serveClient, Client.over]
  refine sameServed_drained hdrained ?_
  rw [← hdrained.outlet]
  exact sameServed_serveLoop _ _ _ _ _ hdrained.twin _ _ _ _ _ _

/-- The clients that `accept` yields before it fails. -/
def clients : List Accept → List Client
  | [] => []
  | .interrupted :: accepts => clients accepts
  | .failed :: _ => []
  | .client client :: accepts => client :: clients accepts

/-- Each client is sent what it would be sent as the first, over any other stack: nothing of an
earlier connection, however it ended, reaches a later one. -/
theorem connections_are_isolated (accepts : List Accept) (s fresh : Obsw) (left : Leftovers) :
    acceptLoop accepts s =
      (clients accepts).map fun client =>
        (serveClient fresh (client.over left)).outlet.taken := by
  fun_induction acceptLoop with
  | case1 | case3 => rfl
  | case2 accepts s ih => exact ih
  | case4 client accepts s ih =>
    rw [ih, clients, List.map_cons, (sameServed_serveClient s fresh client left).outlet]

end ObswPus.Runner
