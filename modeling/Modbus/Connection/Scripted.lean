import Modbus.Connection

/-!
# Scripted connections

A connection that answers by a script and keeps a record of what was asked of
it.  When the script has come to its end, opening works and every exchange
fails.
-/

namespace Modbus.Scripted

/-- What the script has for one exchange. -/
inductive Reply where
  | fails (error : Error)
  /-- The octets of an answer; its header is that of the request, changed as given. -/
  | answers (pdu : List UInt8) (transactionId : Option UInt16) (unitId : Option UInt8)
  deriving DecidableEq, Repr, Inhabited

/-- Something that was asked of the connection. -/
inductive Event where
  | connect
  | close
  | exchange (request : Message Request)
  deriving DecidableEq, Repr, Inhabited

/-- A script and how far it has come. -/
structure State where
  connected : Bool
  headless : Bool
  /-- For each time the connection is opened, the error with which that fails, if it does. -/
  connects : List (Option Error)
  replies : List Reply
  /-- What was asked of the connection, in order. -/
  events : List Event
  deriving DecidableEq, Repr, Inhabited

namespace State

def record (state : State) (event : Event) : State :=
  { state with events := state.events ++ [event] }

/-- Opens the connection, unless the script says that it fails. -/
def connect (state : State) : Except Error Unit × State :=
  let state := state.record .connect
  let after := { state with connects := state.connects.drop 1 }
  match state.connects with
  | some error :: _ => (.error error, after)
  | none :: _ | [] => (.ok (), { after with connected := true })

def close (state : State) : State :=
  { state.record .close with connected := false }

def answer (request : Message Request) : Reply → Except Error (Message Response)
  | .fails error => .error error
  | .answers pdu transactionId unitId =>
    let header := { request.header with
      transactionId := transactionId.getD request.header.transactionId
      unitId := unitId.getD request.header.unitId }
    Message.responseOf ⟨header, pdu⟩

def scriptEnded : Error := .config (.reported "script ended")

def exchange (request : Message Request) (state : State) :
    Except Error (Message Response) × State :=
  let state := state.record (.exchange request)
  match state.replies with
  | reply :: rest => (answer request reply, { state with replies := rest })
  | [] => (.error scriptEnded, state)

end State

def connection : Connection State where
  connected := State.connected
  headless := State.headless
  connect := State.connect
  exchange := State.exchange
  close := State.close

end Modbus.Scripted
