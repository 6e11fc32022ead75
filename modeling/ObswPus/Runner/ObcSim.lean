import ObswPus.Flight.Uplink

/-! # The host runner

The sending side of `obc_sim.c`, the loop that serves one client, and the loop that
serves one client after the other. The statics of the flight software are all that a
client leaves to the next.
-/
namespace ObswPus.Runner
open Flight

/-- What a call of `send` meets: room for some octets, possibly none, a signal, or an error. -/
inductive Send where
  | room (octets : ℕ)
  | interrupted
  | failed
  deriving DecidableEq

/-- The sending side of a socket: the octets it has taken, and what the calls of `send` are going
to meet. At the end of these there is room for whatever follows. -/
structure Outlet where
  taken : List UInt8
  sends : List Send
  deriving DecidableEq

structure WriteAll where
  rc : Int
  outlet : Outlet

/-- Puts `missing` octets of `buf` on the socket, from the index `sent` on. -/
def writeAll : List Send → List UInt8 → List UInt8 → ℕ → ℕ → WriteAll
  | sends, taken, _, _, 0 => ⟨1, taken, sends⟩
  | [], taken, buf, sent, missing + 1 => ⟨1, taken ++ (buf.drop sent).take (missing + 1), []⟩
  | .interrupted :: sends, taken, buf, sent, missing + 1 =>
    writeAll sends taken buf sent (missing + 1)
  | .failed :: sends, taken, _, _, _ + 1 => ⟨-1, taken, sends⟩
  | .room octets :: sends, taken, buf, sent, missing + 1 =>
    let w := min octets (missing + 1)
    if w = 0 then ⟨-1, taken, sends⟩
    else writeAll sends (taken ++ (buf.drop sent).take w) buf (sent + w) (missing + 1 - w)

structure DrainDownlink where
  rc : Int
  obsw : Obsw
  outlet : Outlet

/-- `packet` and `len` are the local variables of the function, whatever they hold at first. -/
def drainDownlink (s : Obsw) (outlet : Outlet) (packet : List UInt8) (len : ℕ) : DrainDownlink :=
  if 0 < tmQueueCount s.queue then
    let popped := tmQueuePop s.queue (some packet) pusMaxPacketSize (some len)
    let s' := { s with queue := popped.queue }
    if hpop : popped.status ≠ .ok then ⟨0, s', outlet⟩
    else
      let packet := popped.buf.getD packet
      let len := popped.outLen.getD len
      let written := writeAll outlet.sends outlet.taken packet 0 len
      if written.rc < 0 then ⟨-1, s', written.outlet⟩
      else
        have _ : s'.queue.count < s.queue.count := by
          simp only [s', popped, tmQueuePop] at hpop ⊢
          split_ifs at hpop ⊢ <;> simp_all
          omega
        drainDownlink s' written.outlet packet len
  else ⟨0, s, outlet⟩
termination_by s.queue.count

/-- What `serve_client` leaves: the statics, and the octets put on the socket. -/
structure Served where
  obsw : Obsw
  outlet : Outlet

/-- The loop of `serve_client`. At the end of the passes `select` fails. -/
def serveLoop (packet : List UInt8) (outLen : ℕ) :
    List Readiness → Obsw → Socket → Outlet → List UInt8 → ℕ → Served
  | [], s, _, outlet, _, _ => ⟨s, outlet⟩
  | .interrupted :: passes, s, socket, outlet, buf, len =>
    serveLoop packet outLen passes s socket outlet buf len
  | .timeout :: passes, s, socket, outlet, buf, len =>
    let drained := drainDownlink (obcTick s) outlet packet outLen
    if drained.rc < 0 then ⟨drained.obsw, drained.outlet⟩
    else serveLoop packet outLen passes drained.obsw socket drained.outlet buf len
  | .readable :: passes, s, socket, outlet, buf, len =>
    let tc := receiveTc socket buf pusMaxPacketSize len
    if tc.rc ≤ 0 then ⟨s, outlet⟩
    else
      let drained :=
        drainDownlink (obcProcessTc s (some tc.buf) tc.outLen).2 outlet packet outLen
      if drained.rc < 0 then ⟨drained.obsw, drained.outlet⟩
      else
        serveLoop packet outLen passes drained.obsw tc.socket drained.outlet tc.buf tc.outLen

/-- A connection: what `select`, `recv` and `send` are going to meet, and what the local
variables of `serve_client` and of `drain_downlink` hold before they are assigned. -/
structure Client where
  passes : List Readiness
  socket : Socket
  sends : List Send
  buf : List UInt8
  len : ℕ
  packet : List UInt8
  outLen : ℕ

def serveClient (s : Obsw) (client : Client) : Served :=
  let drained := drainDownlink (obcInit s) ⟨[], client.sends⟩ client.packet client.outLen
  if drained.rc < 0 then ⟨drained.obsw, drained.outlet⟩
  else
    serveLoop client.packet client.outLen client.passes drained.obsw client.socket drained.outlet
      client.buf client.len

/-- What a call of `accept` yields. -/
inductive Accept where
  | client (client : Client)
  | interrupted
  | failed

/-- The loop of `main`: the octets that each client is sent. -/
def acceptLoop : List Accept → Obsw → List (List UInt8)
  | [], _ => []
  | .interrupted :: accepts, s => acceptLoop accepts s
  | .failed :: _, _ => []
  | .client client :: accepts, s =>
    (serveClient s client).outlet.taken :: acceptLoop accepts (serveClient s client).obsw

end ObswPus.Runner
