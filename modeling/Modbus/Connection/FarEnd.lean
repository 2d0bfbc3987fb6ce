import Modbus.Slave.Client

/-!
# Far ends

What a master talks to: something that takes the octets of a request and
reacts.  One kind is a slave.  Another follows a script and keeps a record of
what it received.
-/

namespace Modbus

/-- What a far end does when a request has arrived. -/
structure Reaction where
  /-- The octets that it sends. -/
  octets : List UInt8
  /-- Whether it closes the connection behind them. -/
  closes : Bool
  deriving DecidableEq, Repr, Inhabited

namespace Reaction

def silence : Reaction := ⟨[], false⟩

end Reaction

/-- The operations of a far end with state `τ`. -/
structure FarEnd (τ : Type) where
  /-- A connection is made. -/
  accept : τ → τ
  /-- The octets of a request arrive. -/
  receive : List UInt8 → τ → Reaction × τ

namespace FarEnd

/-- A slave behind a stream.  How long the rest of a frame may take is given in
nanoseconds. -/
def stream (framing : Framing) (timeout : Nat) : FarEnd Station where
  accept := Station.accept
  receive octets station :=
    let transport := Transport.opened (.atOnce octets false) framing "master" none timeout
    let (transport, station) := Slave.serve .connection transport station
    (⟨transport.sent.flatMap Transmission.octets, transport.closed⟩, station)

/-- A slave that answers datagrams. -/
def datagrams : FarEnd Station where
  accept station := station
  receive octets station :=
    let (reply, station) := Slave.answerDatagram octets station
    (⟨reply.getD [], false⟩, station)

def ofSlave (settings : SlaveSettings) : FarEnd Station :=
  match settings.transport with
  | .udp => datagrams
  | _ => stream settings.framing (settings.timeout * millisecond)

end FarEnd

namespace Scripted

/-- Something that a scripted far end received. -/
inductive Receipt where
  | connection
  | request (octets : List UInt8)
  deriving DecidableEq, Repr, Inhabited

/-- What a scripted far end does about one request. -/
structure Act where
  reaction : Reaction
  /-- Whether the line returns the request first. -/
  echoes : Bool
  deriving DecidableEq, Repr, Inhabited

/-- A far end that follows a script. -/
structure Peer where
  acts : List Act
  /-- What it received, in order. -/
  receipts : List Receipt
  deriving DecidableEq, Repr, Inhabited

namespace Peer

def record (peer : Peer) (receipt : Receipt) : Peer :=
  { peer with receipts := peer.receipts ++ [receipt] }

/-- Takes the next act of the script; behind its end there is silence. -/
def receive (octets : List UInt8) (peer : Peer) : Reaction × Peer :=
  let peer := peer.record (.request octets)
  match peer.acts with
  | [] => (.silence, peer)
  | act :: rest =>
    let reaction :=
      if act.echoes then { act.reaction with octets := octets ++ act.reaction.octets }
      else act.reaction
    (reaction, { peer with acts := rest })

end Peer

def farEnd : FarEnd Peer where
  accept peer := peer.record .connection
  receive := Peer.receive

end Scripted

end Modbus
