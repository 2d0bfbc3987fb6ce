import Modbus.Connection
import Modbus.Connection.FarEnd
import Modbus.Host
import Modbus.Settings.Master

/-!
# Links

A link is a connection that a master has for itself: over a network, to one
far end.  It is open while it has a transport.  What the far end sends arrives
at once, so an exchange ends with an answer, or with the silence behind what
there was of one.
-/

namespace Modbus

/-- Ends work on a transport with an error.  What would take for ever is overdue. -/
def Halt.error (transport : Transport) : Halt → Error
  | failed error => error
  | waiting => .timeout (.frame transport.peer transport.timeout)

namespace Transport

/-- The peer stops sending. -/
def hangUp (transport : Transport) : Transport :=
  { transport with line := { transport.line with endsAt := some transport.line.now } }

/-- The reaction of a far end arrives. -/
def arrive (transport : Transport) (reaction : Reaction) : Transport :=
  let transport := transport.deliver reaction.octets
  if reaction.closes then transport.hangUp else transport

/-- Sends a request to a far end and reads its answer. -/
def converse {τ : Type} (farEnd : FarEnd τ) (request : Message Request) (transport : Transport)
    (far : τ) : Except Error (Message Response) × Transport × τ :=
  match (transmit request.requestFrame).run transport with
  | (.error halt, transport) => (.error (halt.error transport), transport, far)
  | (.ok sent, transport) =>
    let (reaction, far) := farEnd.receive sent far
    match (do confirm sent; readResponse : Exchange (Message Response)).run
        (transport.arrive reaction) with
    | (.ok response, transport) => (.ok response, transport, far)
    | (.error halt, transport) => (.error (halt.error transport), transport, far)

end Transport

/-- A connection over a network. -/
structure Link (τ : Type) where
  host : Host
  medium : Medium
  /-- How long an answer may take, in nanoseconds. -/
  timeout : Nat
  far : τ
  /-- What is open, if the link is. -/
  transport : Option Transport

namespace Link

variable {τ : Type}

def closed (host : Host) (medium : Medium) (timeout : Nat) (far : τ) : Link τ :=
  ⟨host, medium, timeout, far, none⟩

def toSlave (slave : Slave) (host : Host) (timeout : Nat) : Link Station :=
  let port := slave.localPort.getD slave.settings.port
  let medium :=
    match slave.settings.transport with
    | .udp => Medium.udp "127.0.0.1" port
    | _ => .tcp "127.0.0.1" port slave.settings.rtuOverTcp
  closed host medium timeout slave.station

/-- Whether a link is open. -/
def connected (link : Link τ) : Bool := link.transport.isSome

/-- A transport over the medium of a link, on which nothing has arrived. -/
def fresh (link : Link τ) : Transport :=
  let framing := if link.medium.headless then Framing.headless true else .mbap
  .opened (.atOnce [] false) framing link.medium.address none link.timeout

/-- Opens a link that is not open. -/
def connect (farEnd : FarEnd τ) (link : Link τ) : Except Error Unit × Link τ :=
  if link.connected then (.ok (), link)
  else
    match link.host.reach (link.medium.machine?.getD "localhost") with
    | .error error => (.error error, link)
    | .ok _ => (.ok (), { link with far := farEnd.accept link.far, transport := some link.fresh })

def close (link : Link τ) : Link τ := { link with transport := none }

/-- The answer in a datagram, of which no more is taken than fits a frame. -/
def ofDatagram (link : Link τ) : List UInt8 → Except Error (Message Response)
  | [] => .error (.timeout (.datagram link.medium.address link.timeout))
  | octets =>
    match Mbap.decode (octets.take Limits.networkFrame) with
    | .ok frame => Message.responseOf frame
    | .error fault => .error (.protocol fault)

def exchangeDatagrams (farEnd : FarEnd τ) (request : Message Request) (link : Link τ) :
    Except Error (Message Response) × Link τ :=
  let (reaction, far) := farEnd.receive (Mbap.encode request.requestFrame) link.far
  (link.ofDatagram reaction.octets, { link with far := far })

def exchange (farEnd : FarEnd τ) (request : Message Request) (link : Link τ) :
    Except Error (Message Response) × Link τ :=
  match link.transport, link.medium with
  | none, _ => (.error .notConnected, link)
  | some _, .udp _ _ => link.exchangeDatagrams farEnd request
  | some transport, _ =>
    let (outcome, transport, far) := transport.converse farEnd request link.far
    (outcome, { link with far := far, transport := some transport })

def connection (farEnd : FarEnd τ) : Connection (Link τ) where
  connected := connected
  headless link := link.medium.headless
  connect := connect farEnd
  exchange := exchange farEnd
  close := close

end Link

end Modbus
