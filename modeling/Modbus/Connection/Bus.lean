import Modbus.Connection.Link
import Modbus.PortRegistry

/-!
# Buses

A bus is a serial line with several masters on this side.  They share the open
port: the first one that connects opens it, and the last one that closes its
connection closes it.  A port that failed is not shared any further.
-/

namespace Modbus

/-- A serial line and the masters that use it. -/
structure Bus (τ : Type) where
  host : Host
  settings : SerialSettings
  /-- How long an answer may take, in nanoseconds. -/
  timeout : Nat
  ports : PortRegistry Transport
  /-- The key of the port that each connected master holds. -/
  holders : Directory Nat
  far : τ

namespace Bus

variable {τ : Type}

/-- A line that nobody has opened. -/
def idle (host : Host) (settings : SerialSettings) (timeout : Nat) (far : τ) : Bus τ :=
  ⟨host, settings, timeout, .empty, .empty, far⟩

def connected (master : Nat) (bus : Bus τ) : Bool :=
  (bus.holders.get? master).isSome

def openPort (bus : Bus τ) : Except Error Transport :=
  (bus.host.openDevice bus.settings).map fun _ =>
    .opened (.atOnce [] false) (.headless true) bus.settings.portName (some bus.settings.timing)
      bus.timeout

def connect (master : Nat) (bus : Bus τ) : Except Error Unit × Bus τ :=
  if bus.connected master then (.ok (), bus)
  else
    match bus.ports.getOrOpen bus.settings.portName fun _ => bus.openPort with
    | (.ok (key, _), ports) =>
      (.ok (), { bus with ports := ports, holders := bus.holders.insert master key })
    | (.error error, ports) => (.error error, { bus with ports := ports })

def close (master : Nat) (bus : Bus τ) : Bus τ :=
  match bus.holders.get? master with
  | none => bus
  | some key =>
    { bus with ports := bus.ports.release key, holders := bus.holders.erase master }

/-- Whether an error says that the port does not work any more. -/
def isFatal : Error → Bool
  | .io _ | .endOfStream _ => true
  | _ => false

/-- The ports after an exchange on one of them. -/
def settle (bus : Bus τ) (key : Nat) (outcome : Except Error (Message Response))
    (transport : Transport) : PortRegistry Transport :=
  let ports := bus.ports.setValue key transport
  match outcome with
  | .error error =>
    if isFatal error then (ports.evict bus.settings.portName key).2 else ports
  | .ok _ => ports

def exchange (farEnd : FarEnd τ) (master : Nat) (request : Message Request) (bus : Bus τ) :
    Except Error (Message Response) × Bus τ :=
  match bus.holders.get? master with
  | none => (.error .notConnected, bus)
  | some key =>
    match bus.ports.value? key with
    | none => (.error .notConnected, bus)
    | some transport =>
      let (outcome, transport, far) := transport.converse farEnd request bus.far
      (outcome, { bus with ports := bus.settle key outcome transport, far := far })

def connection (farEnd : FarEnd τ) (master : Nat) : Connection (Bus τ) where
  connected := connected master
  headless _ := true
  connect := connect master
  exchange := exchange farEnd master
  close := close master

end Bus

end Modbus
