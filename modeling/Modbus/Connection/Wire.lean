import Modbus.Connection.Link

/-!
# Wires

A wire joins a master to a station.  Octets take time on it, every octet of
every exchange its own.  A station that is reached over a wire reads its end
and answers as it does on any line; what comes back is read by the master at
the other end.
-/

namespace Modbus

/-- What lies between a master and a station. -/
structure Wire where
  framing : Framing
  /-- The timing of a serial line, if it is one. -/
  timing : Option Timing
  lineUse : LineUse
  /-- The resolution of timers at both ends. -/
  resolution : Nat
  /-- How long the master waits for an answer. -/
  answerTimeout : Nat
  /-- How long the station waits for the rest of a request. -/
  requestTimeout : Nat
  /-- How long the octets of a request take, by exchange and by place. -/
  outward : Nat → Nat → Nat
  /-- How long the octets of an answer take. -/
  homeward : Nat → Nat → Nat

namespace Wire

/-- A station behind a wire. -/
structure State where
  station : Station
  /-- The ends of the master and of the station, while the wire is open. -/
  ends : Option (Transport × Transport)
  /-- How many exchanges there were. -/
  exchanges : Nat

/-- When octets that leave at a time arrive. -/
def arrivals (departure : Nat) (delay : Nat → Nat) (octets : List UInt8) : List (Nat × UInt8) :=
  octets.mapIdx fun place octet => (departure + delay place, octet)

/-- An end of the wire on which nothing happened yet. -/
def opened (wire : Wire) (peer : String) (timeout : Nat) : Transport :=
  .opened ⟨0, wire.resolution, [], none⟩ wire.framing peer wire.timing timeout

/-- Opens the wire if it is not open. -/
def connect (wire : Wire) (state : State) : Except Error Unit × State :=
  match state.ends with
  | some _ => (.ok (), state)
  | none =>
    let near := wire.opened "station" wire.answerTimeout
    let far := wire.opened "master" wire.requestTimeout
    (.ok (), { state with station := state.station.accept, ends := some (near, far) })

/-- Octets are on their way to an end. -/
def bring (transport : Transport) (arriving : List (Nat × UInt8)) : Transport :=
  { transport with line := { transport.line with arriving := transport.line.arriving ++ arriving } }

/-- What the station sent since it had sent `before`, as it arrives at the master. -/
def returning (wire : Wire) (exchange : Nat) (before : List Transmission)
    (after : List Transmission) : List (Nat × UInt8) :=
  (after.drop before.length).flatMap fun transmission =>
    arrivals transmission.time (wire.homeward exchange) transmission.octets

/-- Reads the answer behind what the line may return of the request. -/
def await (sent : List UInt8) : Exchange (Message Response) := do
  Transport.confirm sent
  Transport.readResponse

def exchange (wire : Wire) (request : Message Request) (state : State) :
    Except Error (Message Response) × State :=
  match state.ends with
  | none => (.error .notConnected, state)
  | some (near, far) =>
    match Transport.transmit request.requestFrame near with
    | (.error halt, near) => (.error (halt.error near), { state with ends := some (near, far) })
    | (.ok sent, near) =>
      let reached :=
        bring far (arrivals near.line.now (wire.outward state.exchanges) sent)
      let (served, station) := Slave.serve wire.lineUse reached state.station
      let near := bring near (wire.returning state.exchanges far.sent served.sent)
      let near := if served.closed then near.hangUp else near
      let (outcome, near) := await sent near
      (outcome.mapError (Halt.error near),
        ⟨station, some (near, served), state.exchanges + 1⟩)

def connection (wire : Wire) : Connection State where
  connected state := state.ends.isSome
  headless _ := wire.framing.isHeadless
  connect := wire.connect
  exchange := wire.exchange
  close state := { state with ends := none }

/-- How long a station may keep an answer back: until the silence before it is over. -/
def turnaround (wire : Wire) : Nat :=
  match wire.timing with
  | none => 0
  | some timing => timing.messageGap + max wire.resolution 1

/-- Every octet comes before anyone gives up waiting for it: those of a request soon
enough after the first one, those of an answer soon enough after the request was sent. -/
structure InTime (wire : Wire) : Prop where
  request : ∀ exchange place, place < Limits.networkFrame →
    wire.outward exchange place < wire.outward exchange 0 + wire.requestTimeout
  answer : ∀ exchange sent place, sent < Limits.networkFrame → place < Limits.networkFrame →
    wire.outward exchange sent + wire.turnaround + wire.homeward exchange place <
      wire.answerTimeout
  silent : wire.timing.any Timing.echo = false

end Wire

end Modbus
