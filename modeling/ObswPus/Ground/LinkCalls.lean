import ObswPus.Ground.LinkReading
import ObswPus.Library.TwoRuns

/-! # The calls of the ground link

Waiting for a packet, asserting its absence and collecting what is there, on a link that
shows a mailbox; and what holds over every sequence of such calls.
-/
namespace ObswPus.Ground
open Library

section Waiting
variable {sent : List TmPacket} {link : ObcLink} {b : Mailbox TmPacket}

theorem popFirst_eq (predicate : TmPacket → Bool) (packets : List TmPacket) :
    popFirst predicate packets =
      (packets.find? predicate).map fun p => (p, packets.eraseP predicate) := by
  induction packets with
  | nil => rfl
  | cons packet packets ih =>
    by_cases h : predicate packet
    · rw [popFirst, if_pos h, List.find?_cons_of_pos h, List.eraseP_cons_of_pos h, Option.map_some]
    · rw [popFirst, if_neg h, ih, List.find?_cons_of_neg h, List.eraseP_cons_of_neg h,
        Option.map_map]
      rfl

/-- The loop seeks in the mailbox, and reports what it has passed over in vain. -/
theorem Shows.expectLoop (h : Shows sent link b) (predicate : TmPacket → Bool)
    (description : String) (looks : ℕ) (skipped : List TmPacket) :
    ∃ link', Shows sent link' (b.seek predicate looks skipped).2 ∧
      (∀ m, (b.seek predicate looks skipped).1 = some m →
        Ground.expectLoop predicate description looks skipped link = (.ok m, link')) ∧
      ((b.seek predicate looks skipped).1 = none →
        Ground.expectLoop predicate description looks skipped link =
          (.error (.missing description (sawKinds (skipped ++ b.available.take looks))),
            link')) := by
  induction looks generalizing skipped link b with
  | zero =>
    exact ⟨_, h.putBack skipped, fun m hm => (Option.some_ne_none m hm.symm).elim,
      fun _ => by rw [List.take_zero, List.append_nil]; rfl⟩
  | succ looks ih =>
    rcases hread : b.read with ⟨_ | packet, rest⟩
    · obtain ⟨e, link', hcode, htimeout, hshows⟩ := h.readTm_none hread
      have havailable := (Mailbox.read_none hread).2
      simp only [Mailbox.seek, hread, Ground.expectLoop, hcode, htimeout, if_true, havailable,
        List.take_nil, List.append_nil]
      exact ⟨_, hshows.putBack skipped, fun m hm => (Option.some_ne_none m hm.symm).elim,
        fun _ => rfl⟩
    · obtain ⟨link', hcode, hshows⟩ := h.readTm_some hread
      obtain ⟨-, havailable, -, -⟩ := Mailbox.read_some hread
      by_cases hp : predicate packet
      · simp only [Mailbox.seek, hread, Ground.expectLoop, hcode, hp, if_true]
        refine ⟨_, hshows.putBack skipped, fun m hm => ?_,
          fun hm => (Option.some_ne_none packet hm).elim⟩
        cases hm
        rfl
      · simp only [Mailbox.seek, hread, Ground.expectLoop, hcode, hp, if_false, Bool.false_eq_true]
        have hskipped := List.append_cons skipped packet (rest.available.take looks)
        rw [havailable, List.take_succ_cons, hskipped]
        exact ih hshows _

theorem Shows.expectWhere (h : Shows sent link b) (predicate : TmPacket → Bool)
    (description : String) (looks : ℕ) :
    ∃ link', Shows sent link' (b.expect predicate looks).2 ∧
      (∀ m, (b.expect predicate looks).1 = some m →
        Ground.expectWhere predicate description looks link = (.ok m, link')) ∧
      ((b.expect predicate looks).1 = none →
        Ground.expectWhere predicate description looks link =
          (.error (.missing description (sawKinds (b.available.take looks))), link')) := by
  have hpop := popFirst_eq predicate link.pending
  rw [h.pending] at hpop
  unfold Mailbox.expect Ground.expectWhere
  rw [h.pending]
  cases hfind : b.pending.find? predicate with
  | some m =>
    rw [hfind, Option.map_some] at hpop
    rw [hpop]
    refine ⟨{ link with pending := b.pending.eraseP predicate },
      ⟨rfl, h.sock, h.decodes, h.received⟩, fun x hx => ?_, fun hx => (nomatch hx)⟩
    cases hx
    rfl
  | none =>
    rw [hfind, Option.map_none] at hpop
    rw [hpop]
    exact h.expectLoop predicate description looks []

def ofKind (service subtype : ℕ) (p : TmPacket) : Bool :=
  decide ((p.service, p.subtype) = (service, subtype))

theorem Shows.expectNoneLoop (h : Shows sent link b) (service subtype looks : ℕ)
    (seen : List TmPacket) :
    ∃ link', Shows sent link' (b.seek (ofKind service subtype) looks seen).2 ∧
      Ground.expectNoneLoop service subtype looks seen link =
        (match (b.seek (ofKind service subtype) looks seen).1 with
          | some m => .error (.unexpected service subtype m)
          | none => .ok (), link') := by
  induction looks generalizing seen link b with
  | zero => exact ⟨_, h.putBack seen, rfl⟩
  | succ looks ih =>
    rcases hread : b.read with ⟨_ | packet, rest⟩
    · obtain ⟨e, link', hcode, htimeout, hshows⟩ := h.readTm_none hread
      simp only [Mailbox.seek, hread, Ground.expectNoneLoop, hcode, htimeout, if_true]
      exact ⟨_, hshows.putBack seen, rfl⟩
    · obtain ⟨link', hcode, hshows⟩ := h.readTm_some hread
      by_cases hkind : (packet.service, packet.subtype) = (service, subtype)
      · simp only [Mailbox.seek, hread, Ground.expectNoneLoop, hcode, ofKind, hkind, if_true,
          decide_true]
        exact ⟨_, hshows.putBack seen, rfl⟩
      · simp only [Mailbox.seek, hread, Ground.expectNoneLoop, hcode, ofKind, hkind, if_false,
          decide_false, Bool.false_eq_true]
        exact ih hshows _

theorem Shows.drainLoop (h : Shows sent link b) (looks : ℕ) (collected : List TmPacket) :
    ∃ link' b' taken, Shows sent link' b' ∧ b.messages = taken ++ b'.messages ∧
      Ground.drainLoop looks collected link = (.ok (collected ++ taken), link') := by
  induction looks generalizing collected link b with
  | zero => exact ⟨link, b, [], h, rfl, by rw [Ground.drainLoop, List.append_nil]⟩
  | succ looks ih =>
    rcases hread : b.read with ⟨_ | packet, rest⟩
    · obtain ⟨e, link', hcode, htimeout, hshows⟩ := h.readTm_none hread
      have hmessages := (Mailbox.read_none hread).1
      refine ⟨link', rest, [], hshows, hmessages.symm, ?_⟩
      simp only [Ground.drainLoop, hcode, htimeout, if_true, List.append_nil]
    · obtain ⟨link', hcode, hshows⟩ := h.readTm_some hread
      obtain ⟨hmessages, -, -, -⟩ := Mailbox.read_some hread
      obtain ⟨link'', b', taken, hshows', htaken, hloop⟩ := ih hshows (collected ++ [packet])
      refine ⟨link'', b', packet :: taken, hshows', by rw [hmessages, htaken]; rfl, ?_⟩
      simp only [Ground.drainLoop, hcode, hloop, List.append_assoc, List.singleton_append]

theorem Shows.drain (h : Shows sent link b) (looks : ℕ) :
    ∃ link' b' taken, Shows sent link' b' ∧ b.messages = taken ++ b'.messages ∧
      Ground.drain looks link = (.ok taken, link') := by
  have hempty : Shows sent { link with pending := [] } ⟨[], b.incoming⟩ :=
    ⟨rfl, h.sock, h.decodes, h.received⟩
  obtain ⟨link', b', taken, hshows, htaken, hloop⟩ := hempty.drainLoop looks link.pending
  refine ⟨link', b', link.pending ++ taken, hshows, ?_, hloop⟩
  rw [List.append_assoc, ← htaken, h.pending]
  rfl

theorem Shows.flush (h : Shows sent link b) : ∃ b', Shows sent (Ground.flush link).2 b' := by
  fun_induction Ground.flush link generalizing b with
  | case1 link e link' hcode =>
    rcases hread : b.read with ⟨_ | packet, rest⟩
    · obtain ⟨e', link'', hcode', -, hshows⟩ := h.readTm_none hread
      rw [hcode] at hcode'
      cases hcode'
      exact ⟨rest, hshows⟩
    · obtain ⟨link'', hcode', -⟩ := h.readTm_some hread
      rw [hcode] at hcode'
      cases hcode'
  | case2 link packet link' hcode hless ih =>
    rcases hread : b.read with ⟨_ | packet', rest⟩
    · obtain ⟨e', link'', hcode', -, -⟩ := h.readTm_none hread
      rw [hcode] at hcode'
      cases hcode'
    · obtain ⟨link'', hcode', hshows⟩ := h.readTm_some hread
      rw [hcode] at hcode'
      cases hcode'
      exact ih hshows

end Waiting

/-- What an expectation does to the messages of the mailbox that the link shows. -/
theorem Shows.expects {sent : List TmPacket} {link : ObcLink} {b : Mailbox TmPacket}
    (h : Shows sent link b) (predicate : TmPacket → Bool) (description : String) (looks : ℕ) :
    ∃ link' b', Shows sent link' b' ∧
      ((∃ m, Ground.expectWhere predicate description looks link = (.ok m, link') ∧
          m ∈ b.pending ++ b.available.take looks ∧
          b.messages.find? predicate = some m ∧ b'.messages = b.messages.eraseP predicate) ∨
        (Ground.expectWhere predicate description looks link =
            (.error (.missing description (sawKinds (b.available.take looks))), link') ∧
          (∀ x ∈ b.pending ++ b.available.take looks, ¬predicate x) ∧
          b'.messages.Perm b.messages ∧
          (b.pending.length ≤ looks → b'.messages = b.messages))) := by
  obtain ⟨link', hshows, hsome, hnone⟩ := h.expectWhere predicate description looks
  refine ⟨link', _, hshows, ?_⟩
  rcases hexpect : b.expect predicate looks with ⟨_ | m, b'⟩
  · exact .inr ⟨hnone (by rw [hexpect]), Mailbox.expect_none hexpect⟩
  · exact .inl ⟨m, hsome m (by rw [hexpect]), Mailbox.expect_some hexpect⟩

inductive LinkCall where
  | readTm
  | expectWhere (predicate : TmPacket → Bool) (description : String) (looks : ℕ)
  | expectNone (service subtype looks : ℕ)
  | flush
  | drain (looks : ℕ)

/-- The packets that a call takes off the link for its caller, and the link behind it. The packet
that was not expected is in the text of the exception. -/
def LinkCall.perform (link : ObcLink) : LinkCall → List TmPacket × ObcLink
  | .readTm => ((Ground.readTm link).1.toOption.toList, (Ground.readTm link).2)
  | .expectWhere predicate description looks =>
    ((Ground.expectWhere predicate description looks link).1.toOption.toList,
      (Ground.expectWhere predicate description looks link).2)
  | .expectNone service subtype looks =>
    (match (Ground.expectNone service subtype looks link).1 with
      | .error (.unexpected _ _ packet) => [packet]
      | _ => [], (Ground.expectNone service subtype looks link).2)
  | .flush => ([], (Ground.flush link).2)
  | .drain looks =>
    ((Ground.drain looks link).1.toOption.getD [], (Ground.drain looks link).2)

def afterCalls (link : ObcLink) (calls : List LinkCall) : ObcLink :=
  Run.run (fun link call => (call.perform link).2) link calls

def handed (link : ObcLink) (calls : List LinkCall) : List TmPacket :=
  (Run.observations (fun link call => (LinkCall.perform link call).2)
    (fun link call => (LinkCall.perform link call).1) link calls).flatten

/-- A call leaves a mailbox, and takes what it takes out of the messages; `flush` discards. -/
theorem Shows.perform {sent : List TmPacket} {link : ObcLink} {b : Mailbox TmPacket}
    (h : Shows sent link b) (call : LinkCall) :
    ∃ b', Shows sent (call.perform link).2 b' ∧
      (call ≠ .flush → ((call.perform link).1 ++ b'.messages).Perm b.messages) := by
  cases call with
  | readTm =>
    rcases hread : b.read with ⟨_ | packet, b'⟩
    · obtain ⟨e, link', hcode, -, hshows⟩ := h.readTm_none hread
      have hmessages := (Mailbox.read_none hread).1
      simp only [LinkCall.perform, hcode]
      exact ⟨b', hshows, fun _ => .of_eq hmessages⟩
    · obtain ⟨link', hcode, hshows⟩ := h.readTm_some hread
      obtain ⟨hmessages, -, -, -⟩ := Mailbox.read_some hread
      simp only [LinkCall.perform, hcode]
      exact ⟨b', hshows, fun _ => .of_eq hmessages.symm⟩
  | expectWhere predicate description looks =>
    obtain ⟨link', b', hshows, ⟨m, hcode, -, hfind, hrest⟩ | ⟨hcode, -, hperm, -⟩⟩ :=
      h.expects predicate description looks
    · simp only [LinkCall.perform, hcode]
      exact ⟨b', hshows, fun _ => hrest ▸ Mailbox.perm_cons_eraseP hfind⟩
    · simp only [LinkCall.perform, hcode]
      exact ⟨b', hshows, fun _ => hperm⟩
  | expectNone service subtype looks =>
    obtain ⟨link', hshows, hcode⟩ := h.expectNoneLoop service subtype looks []
    rcases hseek : b.seek (ofKind service subtype) looks [] with ⟨_ | m, b'⟩
    · rw [hseek] at hshows hcode
      simp only [LinkCall.perform, expectNone, hcode]
      refine ⟨b', hshows, fun _ => ?_⟩
      rw [List.nil_append, (Mailbox.seek_none hseek).1]
      exact Mailbox.perm_givenUp looks b
    · rw [hseek] at hshows hcode
      simp only [LinkCall.perform, expectNone, hcode]
      exact ⟨b', hshows, fun _ => (Mailbox.seek_some_perm hseek).2⟩
  | flush =>
    obtain ⟨b', hshows⟩ := h.flush
    exact ⟨b', hshows, fun hne => absurd rfl hne⟩
  | drain looks =>
    obtain ⟨link', b', taken, hshows, htaken, hcode⟩ := h.drain looks
    simp only [LinkCall.perform, hcode]
    exact ⟨b', hshows, fun _ => .of_eq htaken.symm⟩

theorem Shows.calls {sent : List TmPacket} {link : ObcLink} {b : Mailbox TmPacket}
    (h : Shows sent link b) (calls : List LinkCall) :
    ∃ b', Shows sent (afterCalls link calls) b' ∧
      (LinkCall.flush ∉ calls → (handed link calls ++ b'.messages).Perm b.messages) := by
  induction calls generalizing link b with
  | nil => exact ⟨b, h, fun _ => List.Perm.refl _⟩
  | cons call calls ih =>
    obtain ⟨b', hshows, hcall⟩ := h.perform call
    obtain ⟨b'', hshows', hcalls⟩ := ih hshows
    refine ⟨b'', hshows', fun hflush => ?_⟩
    rw [List.mem_cons, not_or] at hflush
    have hfirst := hcall (Ne.symm hflush.1)
    have hlater := (hcalls hflush.2).append_left (call.perform link).1
    rw [← List.append_assoc] at hlater
    exact hlater.trans hfirst

/-- A link that has just been connected. -/
def connected (sock : List Arrival) : ObcLink := ⟨sock, [], []⟩

/-- Whatever calls are made, and in whatever portions the octets of the packets arrive: each packet
is received once, decoded, in the order in which it was sent; and without `flush`, each packet
received has been handed to one caller or is pending for the calls to come. -/
theorem link_conserves {packets : List (Option TmPacket)}
    (hdecodes : ∀ p, some p ∈ packets → parseTm p.raw = .ok p) {sock : List Arrival}
    (hsock : events sock = frames packets) (calls : List LinkCall) :
    (∃ rest, events (afterCalls (connected sock) calls).sock = frames rest ∧
      (afterCalls (connected sock) calls).received ++ rest.reduceOption =
        packets.reduceOption) ∧
    (LinkCall.flush ∉ calls →
      (handed (connected sock) calls ++ (afterCalls (connected sock) calls).pending).Perm
        (afterCalls (connected sock) calls).received) := by
  have hstart : Shows packets.reduceOption (connected sock) ⟨[], packets⟩ :=
    ⟨rfl, hsock, hdecodes, rfl⟩
  obtain ⟨b, hshows, hperm⟩ := hstart.calls calls
  refine ⟨⟨b.incoming, hshows.sock, hshows.received⟩, fun hflush => ?_⟩
  have hall := hperm hflush
  have hmessages : (⟨[], packets⟩ : Mailbox TmPacket).messages = packets.reduceOption := rfl
  rw [hmessages, ← hshows.received, Mailbox.messages, ← List.append_assoc,
    List.perm_append_right_iff] at hall
  rwa [hshows.pending]

/-- The report of a connection test. -/
def aliveTm : TmPacket :=
  { apid := 12
    seqCount := 0
    service := 17
    subtype := 2
    msgCounter := 0
    destinationId := 1
    timeCoarse := 0
    timeFine := 0
    data := []
    raw := [8, 12, 192, 0, 0, 14, 32, 17, 2, 0, 0, 0, 1, 0, 0, 0, 0, 0, 0, 75, 8] }

/-- The report arrives in two portions, after a silence. -/
def aliveSock : List Arrival :=
  [.silence, .octets 8 [12, 192, 0, 0, 14, 32, 17], .octets 2 [0, 0, 0, 1, 0, 0, 0, 0, 0, 0, 75, 8]]

theorem decodes_aliveTm : ∀ p, some p ∈ [none, some aliveTm] → parseTm p.raw = .ok p := by
  intro p hp
  rcases List.mem_pair.mp hp with hp | hp
  · cases hp
  · rw [Option.some.inj hp]
    decide +kernel

theorem link_conserves_alive :
    (handed (connected aliveSock) [.readTm, .readTm] ++
        (afterCalls (connected aliveSock) [.readTm, .readTm]).pending).Perm
      (afterCalls (connected aliveSock) [.readTm, .readTm]).received :=
  (link_conserves decodes_aliveTm (by decide +kernel) [.readTm, .readTm]).2 (by simp)

/-- The packets that a caller can still get from the link: those passed over, and those of `sent`
that have not been received. -/
def ObcLink.left (link : ObcLink) (sent : List TmPacket) : List TmPacket :=
  link.pending ++ sent.drop link.received.length

theorem Shows.left {sent : List TmPacket} {link : ObcLink} {b : Mailbox TmPacket}
    (h : Shows sent link b) : link.left sent = b.messages := by
  rw [ObcLink.left, ← h.received, List.drop_left, h.pending]
  rfl

/-- The calls that await a packet. -/
inductive Expectation where
  | matching (predicate : TmPacket → Bool) (description : String)
  | tm (service subtype : ℕ)
  | event (eventId : ℕ) (subtype : Option ℕ)
  | hk (sid : UInt8)

namespace Expectation

def await : Expectation → ℕ → ObcLink → Except LinkError TmPacket × ObcLink
  | matching predicate description => expectWhere predicate description
  | tm service subtype => expectTm service subtype
  | event eventId subtype => expectEvent eventId subtype
  | hk sid => expectHk sid

def accepts : Expectation → TmPacket → Bool
  | matching predicate _, p => predicate p
  | tm service subtype, p => p.service == service && p.subtype == subtype
  | event eventId subtype, p =>
    p.service == 5 && p.subtype ≤ 4 && subtype.all (p.subtype == ·) && p.eventId == eventId
  | hk sid, p => p.service == 3 && p.subtype == 25 && p.data.head? == some sid

/-- What the exception says has been missed. -/
def description : Expectation → String
  | matching _ description => description
  | tm service subtype => s!"({service},{subtype})"
  | event eventId _ => s!"event {eventId}"
  | hk sid => s!"housekeeping SID {sid}"

/-- Each of the calls is `expect_where` with a predicate of its own. -/
theorem await_eq (e : Expectation) : e.await = expectWhere e.accepts e.description := by
  cases e with
  | matching predicate description => rfl
  | tm service subtype =>
    refine congrArg (expectWhere · _) (funext fun p => Bool.eq_iff_iff.mpr ?_)
    simp only [decide_eq_true_eq, Prod.mk.injEq, accepts, Bool.and_eq_true, beq_iff_eq]
  | event eventId subtype =>
    refine congrArg (expectWhere · _) (funext fun p => Bool.eq_iff_iff.mpr ?_)
    cases subtype with
    | none => simp [accepts]
    | some n => simp [accepts, and_assoc]
  | hk sid =>
    refine congrArg (expectWhere · _) (funext fun p => Bool.eq_iff_iff.mpr ?_)
    simp only [decide_eq_true_eq, Prod.mk.injEq, accepts, Bool.and_eq_true, beq_iff_eq]
    cases p.data with
    | nil => simp
    | cons octet octets => simp

end Expectation

/-- After any calls, and in whatever portions the octets arrive: an expectation that is met takes
the first of the packets left that meets it, and leaves all others in their order. One that is not
met has met with no such packet, neither among those pending nor among those that arrive before the
next silence, as far as its looks at the clock last; it names what it has seen of these, loses no
packet, and keeps their order unless the deadline came before it had looked at all those pending. -/
theorem expectation_selects {packets : List (Option TmPacket)}
    (hdecodes : ∀ p, some p ∈ packets → parseTm p.raw = .ok p) {sock : List Arrival}
    (hsock : events sock = frames packets) (calls : List LinkCall) (e : Expectation)
    (looks : ℕ) :
    ∃ link' rest, let link := afterCalls (connected sock) calls
      let left := link.left packets.reduceOption
      let left' := link'.left packets.reduceOption
      let seen := (link.pending ++ Mailbox.arriving rest).take looks
      events link.sock = frames rest ∧
      link.received ++ rest.reduceOption = packets.reduceOption ∧
      ((∃ m, e.await looks link = (.ok m, link') ∧ m ∈ link.pending ++ seen ∧
          left.find? e.accepts = some m ∧ left' = left.eraseP e.accepts) ∨
        (e.await looks link = (.error (.missing e.description (sawKinds seen)), link') ∧
          (∀ p ∈ link.pending ++ seen, ¬e.accepts p) ∧
          left'.Perm left ∧ (link.pending.length ≤ looks → left' = left))) := by
  have hstart : Shows packets.reduceOption (connected sock) ⟨[], packets⟩ :=
    ⟨rfl, hsock, hdecodes, rfl⟩
  obtain ⟨b, hshows, -⟩ := hstart.calls calls
  obtain ⟨link', b', hshows', hcases⟩ := hshows.expects e.accepts e.description looks
  refine ⟨link', b.incoming, ?_⟩
  simp only [hshows.left, hshows'.left, hshows.pending, Expectation.await_eq]
  exact ⟨hshows.sock, hshows.received, hcases⟩

/-- The report of the connection test is found, and not lost by who awaits housekeeping. -/
theorem expectation_selects_alive :
    (expectTm 17 2 1 (afterCalls (connected aliveSock) [.readTm])).1 = .ok aliveTm ∧
      (expectHk 1 2 (afterCalls (connected aliveSock) [.readTm])).2.left [aliveTm] =
        [aliveTm] := by
  have hsock : events aliveSock = frames [none, some aliveTm] := by decide +kernel
  have hleft : (afterCalls (connected aliveSock) [.readTm]).left
      [none, some aliveTm].reduceOption = [aliveTm] := by decide +kernel
  have hpending : (afterCalls (connected aliveSock) [.readTm]).pending = [] := by decide +kernel
  constructor
  · obtain ⟨link', rest, -, -, ⟨m, hcode, -, hfind, -⟩ | ⟨hcode, -⟩⟩ :=
      expectation_selects decodes_aliveTm hsock [.readTm] (.tm 17 2) 1
    all_goals rw [Expectation.await] at hcode
    · rw [hleft] at hfind
      rw [hcode, ← Option.some.inj hfind]
    · have hmet : (expectTm 17 2 1 (afterCalls (connected aliveSock) [.readTm])).1.toOption =
          some aliveTm := by decide +kernel
      rw [hcode] at hmet
      cases hmet
  · obtain ⟨link', rest, -, -, ⟨m, -, -, hfind, -⟩ | ⟨hcode, -, -, hkept⟩⟩ :=
      expectation_selects decodes_aliveTm hsock [.readTm] (.hk 1) 2
    · rw [hleft] at hfind
      cases hfind
    · rw [Expectation.await] at hcode
      rw [hcode, ← hleft]
      exact hkept (hpending ▸ Nat.zero_le 2)

end ObswPus.Ground
