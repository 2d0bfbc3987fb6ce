import Modbus.Framing
import Modbus.Station

/-!
# Serving datagrams

Three tasks work side by side: one takes datagrams in, one answers the requests
in them, and one sends the answers out.  Between them stand queues of bounded
length.  Who sent a request is remembered under its transaction identifier, and
the answer goes to whoever is remembered when it is sent.
-/

namespace Modbus

/-- The tasks of a slave for datagrams, which come from addresses of type `α`. -/
structure Relay (α : Type) where
  station : Station
  /-- The sender of each request that has not been answered yet. -/
  senders : Directory α
  /-- Requests that wait for an answer. -/
  requests : List Frame
  /-- Answers that wait to be sent. -/
  replies : List Frame
  /-- What was sent, and to whom. -/
  sent : List (α × List UInt8)

namespace Relay

variable {α : Type}

/-- How many frames each queue holds. -/
def capacity : Nat := 128

/-- The tasks before the first datagram. -/
def idle (station : Station) : Relay α := ⟨station, .empty, [], [], []⟩

/-- Takes a datagram in.  What does not fit the buffer is cut off; what is no frame then is
dropped, and so is a request for which the queue has no room. -/
def receive (relay : Relay α) (sender : α) (datagram : List UInt8) : Relay α :=
  match Mbap.decode (datagram.take Limits.networkFrame) with
  | .error _ => relay
  | .ok frame =>
    let transaction := frame.header.transactionId.toNat
    if relay.requests.length < capacity then
      { relay with
        senders := relay.senders.insert transaction sender
        requests := relay.requests ++ [frame] }
    else
      { relay with senders := relay.senders.erase transaction }

/-- Answers the first request, if there is room for the answer. -/
def process (relay : Relay α) : Relay α :=
  match relay.requests with
  | [] => relay
  | frame :: rest =>
    if capacity ≤ relay.replies.length then relay
    else
      match relay.station.handle true frame with
      | (some reply, station) =>
        { relay with station := station, requests := rest, replies := relay.replies ++ [reply] }
      | (none, station) =>
        { relay with
          station := station
          requests := rest
          senders := relay.senders.erase frame.header.transactionId.toNat }

/-- Sends the first answer to whoever is remembered for it. -/
def send (relay : Relay α) : Relay α :=
  match relay.replies with
  | [] => relay
  | frame :: rest =>
    let transaction := frame.header.transactionId.toNat
    match relay.senders.get? transaction with
    | none => { relay with replies := rest }
    | some sender =>
      { relay with
        replies := rest
        senders := relay.senders.erase transaction
        sent := relay.sent ++ [(sender, Mbap.encode frame)] }

/-- Takes a datagram in and brings it to its end before the next one comes. -/
def exchange (relay : Relay α) (sender : α) (datagram : List UInt8) : Relay α :=
  (relay.receive sender datagram).process.send

end Relay

namespace Slave

def answerDatagram (datagram : List UInt8) (station : Station) :
    Option (List UInt8) × Station :=
  let relay := (Relay.idle station : Relay Unit).exchange () datagram
  (relay.sent.head?.map Prod.snd, relay.station)

end Slave

end Modbus
