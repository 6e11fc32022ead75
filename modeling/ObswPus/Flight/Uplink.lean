import ObswPus.Flight.ObcApp

/-! # The uplink of the host runner

The receiving side of `obc_sim.c`: octets are read from a socket until a telecommand is
complete, and handed to the application. The buffer is the runner's own and keeps what was
read before.
-/
namespace ObswPus.Flight

/-- What a call of `recv` meets: octets, at least one of them, a signal, or an error. -/
inductive Recv where
  | octets (first : UInt8) (more : List UInt8)
  | interrupted
  | failed
  deriving DecidableEq

/-- What the calls of `recv` are going to meet. At its end the peer has closed. -/
abbrev Socket : Type := List Recv

structure ReadExact where
  rc : Int
  buf : List UInt8
  socket : Socket

/-- Reads `missing` octets into `buf`, from the index `off` on. -/
def readExact : Socket → List UInt8 → ℕ → ℕ → ReadExact
  | socket, buf, _, 0 => ⟨1, buf, socket⟩
  | [], buf, _, _ + 1 => ⟨0, buf, []⟩
  | .interrupted :: socket, buf, off, missing + 1 => readExact socket buf off (missing + 1)
  | .failed :: socket, buf, _, _ + 1 => ⟨-1, buf, socket⟩
  | .octets first more :: socket, buf, off, missing + 1 =>
    -- one call yields what has arrived, and no more than is missing
    match more.drop missing with
    | [] =>
      readExact socket (storeAt buf off (first :: more)) (off + (first :: more).length)
        (missing - more.length)
    | next :: rest =>
      ⟨1, storeAt buf off (first :: more.take missing), .octets next rest :: socket⟩

structure ReceiveTc where
  rc : Int
  buf : List UInt8
  socket : Socket
  outLen : ℕ

def receiveTc (socket : Socket) (buf : List UInt8) (cap outLen : ℕ) : ReceiveTc :=
  let header := readExact socket buf 0 ccsdsPrimaryHeaderLen
  if header.rc ≤ 0 then ⟨header.rc, header.buf, header.socket, outLen⟩
  else
    let hdr := (ccsdsUnpackPrimary (some header.buf) ccsdsPrimaryHeaderLen).toOption
    let total := ccsdsTotalLength hdr
    if cap < total ∨ total ≤ ccsdsPrimaryHeaderLen then
      ⟨1, header.buf, header.socket, ccsdsPrimaryHeaderLen⟩
    else
      let data := readExact header.socket header.buf ccsdsPrimaryHeaderLen
        (total - ccsdsPrimaryHeaderLen)
      if data.rc ≤ 0 then ⟨data.rc, data.buf, data.socket, outLen⟩
      else ⟨1, data.buf, data.socket, total⟩

/-- What `select` reports: octets or the end of the connection, nothing for a minor cycle, or
a signal. -/
inductive Readiness where
  | readable
  | timeout
  | interrupted
  deriving DecidableEq

/-- What the passes of the loop in `serve_client` request of the application; the queue is
drained in between. The loop is left when a reception fails. -/
def clientRequests : List Readiness → Socket → List UInt8 → ℕ → List Stimulus
  | [], _, _, _ => []
  | .interrupted :: passes, socket, buf, len => clientRequests passes socket buf len
  | .timeout :: passes, socket, buf, len => .tick :: clientRequests passes socket buf len
  | .readable :: passes, socket, buf, len =>
    let tc := receiveTc socket buf pusMaxPacketSize len
    if tc.rc ≤ 0 then []
    else .telecommand (tc.buf.take tc.outLen) :: clientRequests passes tc.socket tc.buf tc.outLen

end ObswPus.Flight
