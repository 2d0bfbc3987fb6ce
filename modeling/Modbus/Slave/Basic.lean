import Modbus.Host
import Modbus.Station
import Modbus.Text.Quoted

/-!
# Slaves

A slave serves images on one medium.  It is started by binding its port, or
opening its device, and can be stopped and started again; its images and its
counters stay.
-/

namespace Modbus

/-- What a slave is doing. -/
inductive ListenerState where
  | stopped
  | starting
  | listening
  | stopping
  deriving DecidableEq, Repr, Inhabited

namespace ListenerState

def name : ListenerState → String
  | stopped => "stopped"
  | starting => "starting"
  | listening => "listening"
  | stopping => "stopping"

def identifier : ListenerState → String
  | stopped => "Stopped"
  | starting => "Starting"
  | listening => "Listening"
  | stopping => "Stopping"

end ListenerState

/-- The task that serves a medium. -/
inductive Listener where
  | serving
  /-- It has come to its end by itself. -/
  | finished
  deriving DecidableEq, Repr, Inhabited

/-- Why a slave is not started. -/
inductive StartFault where
  | failed (error : Error)
  /-- The port was bound when it turned out that there cannot be places for so many connections.
  This is no error that is reported: the call breaks off. -/
  | breakdown (port : UInt16)
  deriving DecidableEq, Repr

/-- A slave with its images and counters. -/
structure Slave where
  settings : SlaveSettings
  station : Station
  state : ListenerState
  /-- The network port it is bound to. -/
  localPort : Option UInt16
  /-- Its task, while it is started. -/
  listener : Option Listener

namespace Slave

/-- A stopped slave without images, if the settings are valid. -/
def new (settings : SlaveSettings) : Except Error Slave := do
  settings.validate
  pure ⟨settings, .serving .empty, .stopped, none, none⟩

instance : Inhabited Slave := ⟨⟨.default, .serving .empty, .stopped, none, none⟩⟩

def units (slave : Slave) : List Nat := slave.station.units.numbers

/-- The text of a slave, such as a log shows it. -/
def toText (slave : Slave) : String :=
  "ModbusSlave \x7b transport: "
    ++ slave.settings.transport.identifier ++ ", port: "
    ++ Text.Quoted.encode slave.settings.portKey ++ ", state: " ++ slave.state.identifier
    ++ ", units: [" ++ ", ".intercalate (slave.units.map toString) ++ "] \x7d"

/-- Whether a slave is started. -/
def isListening (slave : Slave) : Bool := slave.state = .listening

/-- Changes what a slave serves. -/
def withUnits (slave : Slave) (units : Units) : Slave :=
  { slave with station := { slave.station with units := units } }

/-- Gets hold of what a slave needs: its port or its device, and then places for its
connections. -/
def acquire (slave : Slave) (host : Host) : Except StartFault (Option UInt16 × Host) :=
  match slave.settings.transport, slave.settings.serial with
  | .serial, none => .error (.failed (.config .noSerialSection))
  | .serial, some serial => ((host.openDevice serial).map fun _ => (none, host)).mapError .failed
  | kind, _ =>
    match host.bind kind slave.settings.bindAddress slave.settings.port with
    | .error error => .error (.failed error)
    | .ok (port, host) =>
      if slave.settings.poolFits then .ok (some port, host) else .error (.breakdown port)

/-- A slave that could not be started.  Where the call breaks off, what it has changed by then
stays, but the port is given back. -/
def unstarted (slave : Slave) : StartFault → Slave
  | .failed _ => { slave with state := .stopped }
  | .breakdown port => { slave with state := .starting, localPort := some port }

def start (slave : Slave) (host : Host) : Except StartFault Unit × Slave × Host :=
  match slave.listener with
  | some _ => (.ok (), slave, host)
  | none =>
    match slave.acquire host with
    | .error fault => (.error fault, slave.unstarted fault, host)
    | .ok (port, host) =>
      (.ok (),
        { slave with state := .listening, localPort := port, listener := some .serving }, host)

def stop (slave : Slave) (host : Host) : Slave × Host :=
  match slave.listener with
  | none => (slave, host)
  | some _ =>
    ({ slave with state := .stopped, localPort := none, listener := none },
      match slave.localPort with
      | some port => host.release slave.settings.transport port
      | none => host)

/-- The task of a slave comes to its end by itself: its serial port has failed. -/
def fail (slave : Slave) : Slave :=
  { slave with listener := slave.listener.map fun _ => .finished }

end Slave

end Modbus
