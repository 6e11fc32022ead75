import ObswPus.System.ClosedLoop

/-! # Which command a verdict is about

A verdict names its telecommand by the first four octets, and of these the sequence count is
left to ground. As long as no other command of a session shares it, ground can tell what became
of a command by the packets that name it.
-/
namespace ObswPus.System
open Flight Downlink Commanding Telemetry Ground Uplink Runner Library Codec

/-- The request identifier that ground reads off a telecommand of its own. -/
def Telecommand.requestId (t : Telecommand) : ℕ := fromBytes (t.octets.take 4)

/-- Whether a verdict names this telecommand. -/
def names (t : Telecommand) (content : Content) : Bool :=
  fromBytes (slice content.2.2 0 4) == t.requestId

section Identifiers
variable (t : Telecommand)

theorem Telecommand.length_octets : 13 ≤ t.octets.length := by
  obtain ⟨a, hoctets, -⟩ := t.eq_builtPacket
  rw [hoctets, length_builtPacket]
  omega

theorem Telecommand.seqCount_eq :
    t.seqCount = (pusGetU16 ((t.octets.take 4).drop 2) &&& 0x3FFF).toNat := by
  have hcount := t.understood.seqCount
  have hlen := t.length_octets
  have htake : (t.octets.take 4).drop 2 = (t.octets.drop 2).take 2 := by
    rw [List.drop_take]
  have hsame : pusGetU16 ((t.octets.drop 2).take 2) = pusGetU16 (t.octets.drop 2) := by
    rw [← pusPutU16_pusGetU16 _ (by rw [List.length_drop]; omega)]
    exact pusGetU16_pusPutU16 _ []
  rw [htake, hsame, ← hcount]
  rfl

theorem seqCount_of_requestId {t t' : Telecommand} (h : t.requestId = t'.requestId) :
    t.seqCount = t'.seqCount := by
  have hvalue (t : Telecommand) : t.octets.take 4 = pusPutU32 (pusGetU32 t.octets) :=
    (pusPutU32_pusGetU32 _ (by have := t.length_octets; omega)).symm
  have hword : pusGetU32 t.octets = pusGetU32 t'.octets := by
    rw [Telecommand.requestId, Telecommand.requestId, hvalue t, hvalue t', fromBytes_pusPutU32,
      fromBytes_pusPutU32, UInt32.toNat_inj] at h
    exact h
  rw [t.seqCount_eq, t'.seqCount_eq, hvalue t, hvalue t', hword]

/-- A verdict names the command it is about, and no command with another sequence count. -/
theorem names_verdict (c : Control) {t t' : Telecommand} {content : Content}
    (h : content ∈ commandVerdicts c (some t')) :
    names t content = true ↔ t.requestId = t'.requestId := by
  have hlen : (t'.octets.take 4).length = 4 := by
    have := t'.length_octets
    rw [List.length_take]
    omega
  have hdata : ∃ rest, content.2.2 = t'.octets.take 4 ++ rest := by
    rcases List.mem_append.mp h with h | h
    · split at h
      · rw [List.mem_singleton.mp h]
        exact ⟨[], (List.append_nil _).symm⟩
      · cases h
    · split at h
      · rw [List.mem_singleton.mp h]
        unfold completionContent
        split
        · exact ⟨[], (List.append_nil _).symm⟩
        · exact ⟨_, rfl⟩
      · cases h
  obtain ⟨rest, hrest⟩ := hdata
  have hslice : slice content.2.2 0 4 = t'.octets.take 4 := by
    rw [hrest, slice, List.drop_zero, List.take_left' hlen]
  rw [names, hslice, beq_iff_eq]
  exact eq_comm

end Identifiers

/-- The verdicts on the commands of a part of a schedule that starts in the controlled state `c`. -/
def toldFrom (c : Control) (occasions : List (Option Telecommand)) : List Content :=
  (Run.observations commandStep commandVerdicts c occasions).flatten

theorem filter_toldFrom_others (c : Control) {t : Telecommand}
    {occasions : List (Option Telecommand)}
    (h : ∀ t', some t' ∈ occasions → t'.seqCount ≠ t.seqCount) :
    (toldFrom c occasions).filter (names t) = [] := by
  induction occasions generalizing c with
  | nil => rfl
  | cons occasion occasions ih =>
    have hrest := ih (commandStep c occasion) fun t' ht' => h t' (List.mem_cons_of_mem _ ht')
    have hfirst : (commandVerdicts c occasion).filter (names t) = [] := by
      rcases occasion with _ | t'
      · rfl
      rw [List.filter_eq_nil_iff]
      intro content hcontent hnames
      have hid := (names_verdict c hcontent).mp hnames
      exact h t' List.mem_cons_self (seqCount_of_requestId hid).symm
    unfold toldFrom at hrest ⊢
    rw [Run.observations, List.flatten_cons, List.filter_append, hfirst, hrest]
    rfl

/-- The verdicts that name a command are those on it. -/
theorem filter_commandsTold {t : Telecommand} {first rest : List (Option Telecommand)}
    (h : ∀ t', some t' ∈ first ++ rest → t'.seqCount ≠ t.seqCount) :
    (commandsTold (first ++ some t :: rest)).filter (names t) =
      commandVerdicts (Run.run commandStep IdealUnit.initial.control first) (some t) := by
  have hown (c : Control) :
      (commandVerdicts c (some t)).filter (names t) = commandVerdicts c (some t) :=
    List.filter_eq_self.mpr fun content hcontent => (names_verdict c hcontent).mpr rfl
  have hbefore : (toldFrom IdealUnit.initial.control first).filter (names t) = [] :=
    filter_toldFrom_others _ fun t' ht' => h t' (List.mem_append_left _ ht')
  have hbehind (c : Control) : (toldFrom c rest).filter (names t) = [] :=
    filter_toldFrom_others c fun t' ht' => h t' (List.mem_append_right _ ht')
  unfold toldFrom at hbefore hbehind
  rw [commandsTold, Run.observations_append, List.flatten_append, List.filter_append, hbefore,
    Run.observations, List.flatten_cons, List.filter_append, hown, hbehind, List.nil_append,
    List.append_nil]

/-- The service 1 packets that name a command. -/
def packetsAbout (t : Telecommand) (packets : List TmPacket) : List TmPacket :=
  (verificationPackets packets).filter fun p => p.requestId == t.requestId

theorem said_packetsAbout {t : Telecommand} {packets : List TmPacket} {contents : List Content}
    (h : (verificationPackets packets).map said = contents.map groundContent) :
    (packetsAbout t packets).map said = (contents.filter (names t)).map groundContent := by
  have hid : (fun p : TmPacket => p.requestId == t.requestId) =
      (fun x : ℕ × ℕ × List UInt8 => fromBytes (slice x.2.2 0 4) == t.requestId) ∘ said := rfl
  have hnames : names t =
      (fun x : ℕ × ℕ × List UInt8 => fromBytes (slice x.2.2 0 4) == t.requestId) ∘
        groundContent := rfl
  rw [packetsAbout, hid, hnames, ← List.filter_map, ← List.filter_map, h]

/-- A command whose sequence count no other command of the session has: whatever the calls on the
ground link, the service 1 packets received that name it say what became of it when its turn came,
and nothing else; once everything has been read, they say all of it. -/
theorem verdicts_attributed (s : Obsw) {client : Client} {sent : List Telecommand}
    (huplink : Uplinks client sent) {first rest : List (Option Telecommand)} {t : Telecommand}
    (hturn : schedule client.passes sent = first ++ some t :: rest)
    (hown : ∀ t', some t' ∈ first ++ rest → t'.seqCount ≠ t.seqCount) {sock : List Arrival}
    (hsock : Arrives (groundPackets (Runner.serveClient s client).obsw.history) sock)
    (calls : List LinkCall) :
    (packetsAbout t (afterCalls (connected sock) calls).received).map said <+:
        (commandVerdicts (Run.run commandStep IdealUnit.initial.control first) (some t)).map
          groundContent ∧
      (events (afterCalls (connected sock) calls).sock = [] →
        (packetsAbout t (afterCalls (connected sock) calls).received).map said =
          (commandVerdicts (Run.run commandStep IdealUnit.initial.control first) (some t)).map
            groundContent) := by
  obtain ⟨hfront, hend⟩ := huplink.received s hsock calls
  have habout := said_packetsAbout (t := t) (huplink.told s)
  rw [hturn, filter_commandsTold hown] at habout
  rw [← habout]
  exact ⟨((hfront.filter _).filter _).map said, fun hread => by rw [hend hread]⟩

theorem verdicts_attributed_nominal :
    (packetsAbout orderNominal (afterCalls (connected orderedSock) [.drain 4]).received).map said =
      [(1, 1, [24, 12, 192, 0]), (1, 7, [24, 12, 192, 0])] := by
  have hturn : schedule orderingClient.passes [orderNominal] = [none] ++ some orderNominal :: [] :=
    rfl
  have htold := (verdicts_attributed default uplinks_orderingClient hturn
    (fun t' ht' => by simp at ht') (arrives_singly _) [.drain 4]).2
  exact (htold (by decide +kernel)).trans (by decide +kernel)

end ObswPus.System
