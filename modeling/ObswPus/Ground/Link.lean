import ObswPus.Ground.Packets

/-! # The ground link

The link of the test ground segment (`tests/integration/gsw/client.py`): telemetry is read
packet by packet off a socket, and what arrives while a specific packet is awaited is put
back. Where the code compares a clock with a deadline, the model is told how many looks at
the clock come before it.
-/
namespace ObswPus.Ground

/-- What a call of `recv` meets: octets, at least one of them, or the deadline. -/
inductive Arrival where
  | octets (first : UInt8) (more : List UInt8)
  | silence
  deriving DecidableEq

/-- The exceptions of the link, with what their texts quote. -/
inductive LinkError where
  | timedOut (octets count : ℕ)
  | closed
  | missing (description : String) (saw : List (ℕ × ℕ))
  | undecodable (e : TmError)
  | unexpected (service subtype : ℕ) (packet : TmPacket)
  deriving DecidableEq

/-- The exceptions of the class `TmTimeout`. -/
def LinkError.isTmTimeout : LinkError → Bool
  | .timedOut _ _ => true
  | .closed => true
  | .missing _ _ => true
  | .undecodable _ => false
  | .unexpected _ _ _ => false

/-- The calls of `recv` on `sock` are going to meet these arrivals; at their end the on-board
software has closed the connection. -/
structure ObcLink where
  sock : List Arrival
  received : List TmPacket
  pending : List TmPacket

/-- `_read_exact`: reads `missing` octets behind those in `chunks`. -/
def readExact : List Arrival → List UInt8 → ℕ → Except LinkError (List UInt8) × List Arrival
  | sock, chunks, 0 => (.ok chunks, sock)
  | [], _, _ + 1 => (.error .closed, [])
  | .silence :: sock, chunks, missing + 1 =>
    (.error (.timedOut chunks.length (chunks.length + (missing + 1))), sock)
  | .octets first more :: sock, chunks, missing + 1 =>
    -- one call yields what has arrived, and no more than is missing
    match more.drop missing with
    | [] => readExact sock (chunks ++ first :: more) (missing - more.length)
    | next :: rest => (.ok (chunks ++ first :: more.take missing), .octets next rest :: sock)

def readTm (link : ObcLink) : Except LinkError TmPacket × ObcLink :=
  match link.pending with
  | packet :: pending => (.ok packet, { link with pending := pending })
  | [] =>
    match readExact link.sock [] primaryHeaderLen with
    | (.error e, sock) => (.error e, { link with sock := sock })
    | (.ok header, sock) =>
      let lengthField := fromBytes (slice header 4 6)
      match readExact sock [] (lengthField + 1) with
      | (.error e, sock) => (.error e, { link with sock := sock })
      | (.ok body, sock) =>
        match parseTm (header ++ body) with
        | .error e => (.error (.undecodable e), { link with sock := sock })
        | .ok packet =>
          (.ok packet, { link with sock := sock, received := link.received ++ [packet] })

/-- The first packet that satisfies the predicate, and the others. -/
def popFirst (predicate : TmPacket → Bool) : List TmPacket → Option (TmPacket × List TmPacket)
  | [] => none
  | packet :: packets =>
    if predicate packet then some (packet, packets)
    else (popFirst predicate packets).map fun found => (found.1, packet :: found.2)

/-- `self._pending.extend(packets)`. -/
def putBack (link : ObcLink) (packets : List TmPacket) : ObcLink :=
  { link with pending := link.pending ++ packets }

def sawKinds (packets : List TmPacket) : List (ℕ × ℕ) := packets.map fun p => (p.service, p.subtype)

/-- The loop of `expect_where`, `looks` looks at the clock before the deadline. -/
def expectLoop (predicate : TmPacket → Bool) (description : String) :
    ℕ → List TmPacket → ObcLink → Except LinkError TmPacket × ObcLink
  | 0, skipped, link => (.error (.missing description (sawKinds skipped)), putBack link skipped)
  | looks + 1, skipped, link =>
    match readTm link with
    | (.error e, link) =>
      if e.isTmTimeout then
        (.error (.missing description (sawKinds skipped)), putBack link skipped)
      else (.error e, link)
    | (.ok packet, link) =>
      if predicate packet then (.ok packet, putBack link skipped)
      else expectLoop predicate description looks (skipped ++ [packet]) link

def expectWhere (predicate : TmPacket → Bool) (description : String) (looks : ℕ)
    (link : ObcLink) : Except LinkError TmPacket × ObcLink :=
  match popFirst predicate link.pending with
  | some (packet, pending) => (.ok packet, { link with pending := pending })
  | none => expectLoop predicate description looks [] link

/-- `expect`. -/
def expectTm (service subtype : ℕ) : ℕ → ObcLink → Except LinkError TmPacket × ObcLink :=
  expectWhere (fun p => (p.service, p.subtype) = (service, subtype)) s!"({service},{subtype})"

def expectEvent (eventId : ℕ) (subtype : Option ℕ) :
    ℕ → ObcLink → Except LinkError TmPacket × ObcLink :=
  expectWhere
    (fun p =>
      if p.service ≠ 5 ∨ 4 < p.subtype then false
      else if subtype.isSome ∧ some p.subtype ≠ subtype then false
      else p.eventId = eventId)
    s!"event {eventId}"

def expectHk (sid : UInt8) : ℕ → ObcLink → Except LinkError TmPacket × ObcLink :=
  expectWhere (fun p => (p.service, p.subtype) = (3, 25) ∧ p.data.take 1 = [sid])
    s!"housekeeping SID {sid}"

/-- The loop of `expect_none`. What it has seen is put back however it ends. -/
def expectNoneLoop (service subtype : ℕ) :
    ℕ → List TmPacket → ObcLink → Except LinkError Unit × ObcLink
  | 0, seen, link => (.ok (), putBack link seen)
  | looks + 1, seen, link =>
    match readTm link with
    | (.error e, link) => (if e.isTmTimeout then .ok () else .error e, putBack link seen)
    | (.ok packet, link) =>
      if (packet.service, packet.subtype) = (service, subtype) then
        (.error (.unexpected service subtype packet), putBack link seen)
      else expectNoneLoop service subtype looks (seen ++ [packet]) link

def expectNone (service subtype : ℕ) (looks : ℕ) (link : ObcLink) :
    Except LinkError Unit × ObcLink := expectNoneLoop service subtype looks [] link

/-- The loop of `drain`. -/
def drainLoop : ℕ → List TmPacket → ObcLink → Except LinkError (List TmPacket) × ObcLink
  | 0, collected, link => (.ok collected, link)
  | looks + 1, collected, link =>
    match readTm link with
    | (.error e, link) => (if e.isTmTimeout then .ok collected else .error e, link)
    | (.ok packet, link) => drainLoop looks (collected ++ [packet]) link

def drain (looks : ℕ) (link : ObcLink) : Except LinkError (List TmPacket) × ObcLink :=
  drainLoop looks link.pending { link with pending := [] }

/-- The octets still to be received. -/
def octetsLeft : List Arrival → ℕ
  | [] => 0
  | .silence :: sock => octetsLeft sock
  | .octets _ more :: sock => more.length + 1 + octetsLeft sock

theorem octetsLeft_readExact {sock sock' : List Arrival} {chunks octets : List UInt8} {n : ℕ}
    (h : readExact sock chunks n = (.ok octets, sock')) :
    octetsLeft sock' + n = octetsLeft sock := by
  fun_induction readExact with
  | case1 => cases h; rfl
  | case2 | case3 => cases h
  | case4 first more sock chunks missing hdrop ih =>
    have hmore : more.length ≤ missing := List.drop_eq_nil_iff.mp hdrop
    have hrest := ih h
    rw [octetsLeft]
    omega
  | case5 first more sock chunks missing next rest hdrop =>
    have hmore := congrArg List.length hdrop
    rw [List.length_drop, List.length_cons] at hmore
    cases h
    rw [octetsLeft, octetsLeft]
    omega

theorem octetsLeft_readTm {link link' : ObcLink} {packet : TmPacket}
    (h : readTm link = (.ok packet, link')) :
    link'.pending.length + octetsLeft link'.sock < link.pending.length + octetsLeft link.sock := by
  unfold readTm at h
  split at h
  · rename_i pending hpending
    cases h
    dsimp only
    rw [hpending, List.length_cons]
    omega
  · split at h
    · cases h
    rename_i header sock hheader
    dsimp only at h
    split at h
    · cases h
    rename_i body sock' hbody
    split at h
    · cases h
    cases h
    have hhead := octetsLeft_readExact hheader
    have hrest := octetsLeft_readExact hbody
    dsimp only
    omega

/-- Reads until nothing arrives any more. -/
def flush (link : ObcLink) : Except LinkError Unit × ObcLink :=
  match h : readTm link with
  | (.error e, link') => (if e.isTmTimeout then .ok () else .error e, link')
  | (.ok _, link') =>
    have _ := octetsLeft_readTm h
    flush link'
termination_by link.pending.length + octetsLeft link.sock

end ObswPus.Ground
