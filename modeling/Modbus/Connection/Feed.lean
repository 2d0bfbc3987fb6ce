import Modbus.Connection.Link
import Modbus.Transaction

/-!
# Feeds

A feed is everything that a peer ever sends over streams with network headers: the
octets of each connection that is made to it, each octet at its time, whether they
answer a request or not.  A peer that looks at the requests sends nothing in a run
that some feed does not send in it too.
-/

namespace Modbus

/-- What a peer sends, and what else happens to a master that is connected to it. -/
structure Feed where
  /-- What comes of opening a connection, by number: the line from the peer, or an error. -/
  lines : Nat → Except Error Line
  /-- What the peer is called in messages. -/
  peer : String
  /-- How long an answer may take, by exchange. -/
  timeouts : Nat → Nat
  /-- How long the master rests before an exchange. -/
  pauses : Nat → Nat
  /-- What keeps the request of an exchange from being sent, if something does. -/
  faults : Nat → Option MediumFault

namespace Feed

/-- A master at the near end of a feed. -/
structure State where
  /-- What is open, if something is. -/
  transport : Option Transport
  /-- All octets that the open connection ever brings. -/
  brought : List UInt8
  /-- How many connections were asked for. -/
  dials : Nat
  exchanges : Nat
  /-- For every answer that was waited for, the octets that had been taken from the connection
  before. -/
  starts : List (List UInt8)

/-- A master that asked for nothing yet. -/
def State.idle : State := ⟨none, [], 0, 0, []⟩

/-- The octets that have been taken from the open connection. -/
def State.taken (state : State) (transport : Transport) : List UInt8 :=
  state.brought.take (state.brought.length - transport.line.arriving.length)

/-- Opens a connection if none is open. -/
def connect (feed : Feed) (state : State) : Except Error Unit × State :=
  match state.transport with
  | some _ => (.ok (), state)
  | none =>
    let dialled := { state with dials := state.dials + 1 }
    match feed.lines state.dials with
    | .error error => (.error error, dialled)
    | .ok line =>
      (.ok (),
        { dialled with
          transport := some (.opened line .mbap feed.peer none (feed.timeouts state.exchanges))
          brought := line.arriving.map Prod.snd })

/-- The transport for the next exchange, once the master has rested. -/
def prepared (feed : Feed) (state : State) (transport : Transport) : Transport :=
  { transport with timeout := feed.timeouts state.exchanges }.sleep (feed.pauses state.exchanges)

/-- Sends a request and reads one answer. -/
def exchange (feed : Feed) (request : Message Request) (state : State) :
    Except Error (Message Response) × State :=
  match state.transport with
  | none => (.error .notConnected, state)
  | some transport =>
    let transport := feed.prepared state transport
    let keep (transport : Transport) : State :=
      { state with transport := some transport, exchanges := state.exchanges + 1 }
    match feed.faults state.exchanges with
    | some fault => (.error (.io fault), keep transport)
    | none =>
      match (Transport.write request.requestFrame).run transport with
      | (.error halt, transport) => (.error (halt.error transport), keep transport)
      | (.ok _, transport) =>
        let (outcome, after) := Transport.readResponse.run transport
        (outcome.mapError (Halt.error after),
          { keep after with starts := state.starts ++ [state.taken transport] })

def close (state : State) : State := { state with transport := none }

def connection (feed : Feed) : Connection State where
  connected state := state.transport.isSome
  headless _ := false
  connect := feed.connect
  exchange := feed.exchange
  close := close

/-- One call of a master.  The counter may have been moved by others in the meantime. -/
structure Call where
  policy : Policy
  request : Message Request
  counter : Counter

/-- The state after calls one after another. -/
def after (feed : Feed) (calls : List Call) : State :=
  calls.foldl (fun state call =>
    (Transaction.execute call.policy feed.connection call.request call.counter state).2.2) .idle

end Feed

end Modbus
