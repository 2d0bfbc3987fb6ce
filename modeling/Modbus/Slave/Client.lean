import Modbus.Slave.Basic
import Modbus.Slave.Relay
import Modbus.Slave.Stream

/-!
# Clients of a slave

What a client gets back that reaches a slave over the network of its host.
-/

namespace Modbus

/-- How frames are laid out on the connections of a slave. -/
def SlaveSettings.framing (settings : SlaveSettings) : Framing :=
  if settings.rtuOverTcp then .headless true else .mbap

namespace Slave

/-- Whether a client finds a slave that listens on a kind of medium. -/
def answers (slave : Slave) (kind : TransportKind) (host : Host) : Bool :=
  slave.settings.transport = kind && slave.isListening && host.reachable

/-- What comes back on a connection of its own to a client that sends octets and then
closes its side; nothing at all if there is no connection. -/
def visit (slave : Slave) (host : Host) (octets : List UInt8) : Option (List UInt8) × Slave :=
  if slave.answers .tcp host then
    let (reply, station) :=
      converse slave.settings.framing (slave.settings.timeout * millisecond) octets slave.station
    (some reply, { slave with station := station })
  else
    (none, slave)

/-- What comes back for a datagram, if the slave answers it; nothing at all if it does not
get to the slave. -/
def tell (slave : Slave) (host : Host) (datagram : List UInt8) :
    Option (Option (List UInt8)) × Slave :=
  if slave.answers .udp host then
    let (reply, station) := answerDatagram datagram slave.station
    (some reply, { slave with station := station })
  else
    (none, slave)

end Slave

end Modbus
