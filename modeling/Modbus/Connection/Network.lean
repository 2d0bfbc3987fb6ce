import Modbus.Connection

/-!
# Networks that delay and repeat answers

A connection without a stream: every request and every answer travels on its own.
The peer answers what it gets, but when its answers arrive is up to the network,
which may deliver each of them late, never or more than once.  What has arrived
waits in order until it is read, and an exchange takes the answer that waits
longest, whatever request it belongs to.
-/

namespace Modbus

/-- An answer that has arrived, and the number of the request it was given to.  Requests
are numbered as they are sent. -/
structure Delivery where
  number : Nat
  response : Message Response
  deriving DecidableEq, Repr, Inhabited

/-- A peer and the network in front of it. -/
structure Network where
  /-- What the peer answers to the request of a number. -/
  answers : Nat → Message Request → List (Message Response)
  answered : ∀ number request, answers number request ≠ []
  /-- Every answer carries the identifier of its request. -/
  identified : ∀ number request, ∀ response ∈ answers number request,
    response.header.transactionId = request.header.transactionId
  /-- What arrives while the request of a number waits for its answer: for each arrival the
  number of a request and a place among the answers to it. -/
  deliveries : Nat → List (Nat × Nat)
  /-- What keeps an exchange from reading, if something does. -/
  faults : Nat → Option MediumFault
  /-- Whether answers that are on their way when the connection is closed can still arrive. -/
  lasting : Bool

namespace Network

/-- One end of the network. -/
structure State where
  connected : Bool
  /-- The requests that were sent, in order. -/
  sent : List (Message Request)
  /-- How many of them were sent before the connection was last closed. -/
  since : Nat
  /-- What has arrived and was not read, in order. -/
  waiting : List Delivery
  /-- What was read, in order. -/
  read : List Delivery
  deriving DecidableEq, Repr, Inhabited

/-- Nothing was sent yet. -/
def State.fresh : State := ⟨false, [], 0, [], []⟩

/-- What arrives while the request of a number waits, if the given requests were sent. -/
def arrivals (network : Network) (sent : List (Message Request)) (since number : Nat) :
    List Delivery :=
  (network.deliveries number).filterMap fun arrival =>
    if network.lasting ∨ since ≤ arrival.1 then
      (sent[arrival.1]?).bind fun request =>
        (network.answers arrival.1 request)[arrival.2]?.map (Delivery.mk arrival.1)
    else
      none

def overdue : Error := .timeout (.reported "no answer")

/-- Sends a request and reads what has waited longest. -/
def exchange (network : Network) (request : Message Request) (state : State) :
    Except Error (Message Response) × State :=
  let number := state.sent.length
  let sent := state.sent ++ [request]
  let waiting := state.waiting ++ network.arrivals sent state.since number
  let state := { state with sent := sent, waiting := waiting }
  match network.faults number with
  | some fault => (.error (.io fault), state)
  | none =>
    match waiting with
    | [] => (.error overdue, state)
    | delivery :: rest =>
      (.ok delivery.response,
        { state with waiting := rest, read := state.read ++ [delivery] })

/-- Closing discards what waits. -/
def close (state : State) : State :=
  { state with connected := false, since := state.sent.length, waiting := [] }

def connection (network : Network) : Connection State where
  connected := State.connected
  headless _ := false
  connect state := (.ok (), { state with connected := true })
  exchange := network.exchange
  close := close

end Network

end Modbus
