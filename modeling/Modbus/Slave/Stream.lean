import Modbus.Station
import Modbus.Transport

/-!
# Serving a line

A slave reads requests from a line and answers them one after another.  On a
connection of its own it gives up when something goes wrong, except for a
damaged frame that has no header, since the next frame can then still be
found.  A serial line is only given up when the port is dead.
-/

namespace Modbus

/-- Whether a slave has the line to itself. -/
inductive LineUse where
  /-- A connection that a master opened and may open again. -/
  | connection
  /-- A serial line with other devices on it. -/
  | shared
  deriving DecidableEq, Repr, Inhabited

namespace LineUse

/-- Whether a slave answers for units that it does not have. -/
def own : LineUse → Bool
  | connection => true
  | shared => false

def survives (lineUse : LineUse) (headless : Bool) : Error → Bool
  | .protocol _ => lineUse = .shared || headless
  | .timeout _ => lineUse = .shared
  | _ => false

end LineUse

namespace Slave

/-- Serves up to `rounds` frames. -/
def serveWithin (lineUse : LineUse) : Nat → Transport → Station → Transport × Station
  | 0, transport, station => (transport, station)
  | rounds + 1, transport, station =>
    match (Transport.read .request).run transport with
    | (.ok frame, transport) =>
      match station.handle lineUse.own frame with
      | (none, station) => serveWithin lineUse rounds transport station
      | (some reply, station) =>
        match (Transport.write reply).run transport with
        | (.ok _, transport) => serveWithin lineUse rounds transport station
        | (.error _, transport) => (transport.close, station)
    | (.error (.failed error), transport) =>
      if lineUse.survives transport.framing.isHeadless error then
        serveWithin lineUse rounds transport station
      else
        (transport.close, station)
    | (.error .waiting, transport) => (transport, station)

/-- Serves a line until nothing more will come or it is given up.  Every frame takes at
least one octet, so there are no more frames than octets. -/
def serve (lineUse : LineUse) (transport : Transport) (station : Station) : Transport × Station :=
  serveWithin lineUse (transport.line.arriving.length + 1) transport station

/-- What a slave sends back to a master that sends octets and then closes its side. -/
def converse (framing : Framing) (timeout : Nat) (octets : List UInt8) (station : Station) :
    List UInt8 × Station :=
  let transport := Transport.opened (.atOnce octets true) framing "master" none timeout
  let (transport, station) := serve .connection transport station.accept
  (transport.sent.flatMap Transmission.octets, station)

end Slave

end Modbus
