import Modbus.Settings.Serial

/-!
# Settings of a slave
-/

namespace Modbus

/-- The kind of medium that a slave listens on. -/
inductive TransportKind where
  | tcp
  | udp
  | serial
  deriving DecidableEq, Repr, Inhabited

namespace TransportKind

/-- The kinds by name. -/
def choices : List (String × TransportKind) :=
  [("tcp", tcp), ("udp", udp), ("serial", serial)]

def name : TransportKind → String
  | tcp => "tcp"
  | udp => "udp"
  | serial => "serial"

def identifier : TransportKind → String
  | tcp => "Tcp"
  | udp => "Udp"
  | serial => "Serial"

end TransportKind

/-- Settings of a slave. -/
structure SlaveSettings where
  transport : TransportKind
  port : UInt16
  bindAddress : String
  /-- How many connections are served at once. -/
  poolSize : Nat
  /-- Whether frames on a network stream have a checksum in place of the header. -/
  rtuOverTcp : Bool
  /-- How long the rest of a frame may take, in milliseconds. -/
  timeout : Nat
  /-- How long open connections may still take when the slave stops, in milliseconds. -/
  drainTimeout : Nat
  serial : Option SerialSettings
  deriving DecidableEq, Repr

namespace SlaveSettings

/-- A slave at the usual port of every address. -/
def default : SlaveSettings where
  transport := .tcp
  port := 502
  bindAddress := "0.0.0.0"
  poolSize := 5
  rtuOverTcp := false
  timeout := 3000
  drainTimeout := 5000
  serial := none

instance : Inhabited SlaveSettings := ⟨default⟩

def tcp (port : UInt16) : SlaveSettings := { default with port := port }

def udp (port : UInt16) : SlaveSettings := { default with transport := .udp, port := port }

def onLine (serial : SerialSettings) : SlaveSettings :=
  { default with transport := .serial, serial := some serial }

def fields (strict : Bool) : List (Document.Field SlaveSettings) :=
  [Document.field "transport"
     (Document.asChoice strict "enum TransportKind" TransportKind.choices)
     fun settings transport => { settings with transport := transport },
   Document.field "port" (Document.asNatural "u16" 65535) fun settings port =>
     { settings with port := UInt16.ofNat port },
   Document.field "bind_address" Document.asText fun settings bindAddress =>
     { settings with bindAddress := bindAddress },
   Document.field "pool_size" (Document.asNatural "usize" Bound.most64) fun settings poolSize =>
     { settings with poolSize := poolSize },
   Document.field "rtu_over_tcp" Document.asBool fun settings rtuOverTcp =>
     { settings with rtuOverTcp := rtuOverTcp },
   Document.field "timeout_ms" (Document.asNatural "u64" Bound.most64) fun settings timeout =>
     { settings with timeout := timeout },
   Document.field "drain_timeout_ms" (Document.asNatural "u64" Bound.most64)
     fun settings drainTimeout => { settings with drainTimeout := drainTimeout },
   Document.field "serial" (Document.asOptional (SerialSettings.read strict))
     fun settings serial => { settings with serial := serial }]

/-- Reads settings from a document; what is not given has its default. -/
def read (strict : Bool) : Document.Reader SlaveSettings :=
  Document.asStructure strict "struct SlaveConfig" (fields strict) default

def toDocument (settings : SlaveSettings) : Document :=
  .ofFields
    [("transport", .text settings.transport.name),
     ("port", .integer settings.port.toNat),
     ("bind_address", .text settings.bindAddress),
     ("pool_size", .integer settings.poolSize),
     ("rtu_over_tcp", .bool settings.rtuOverTcp),
     ("timeout_ms", .integer settings.timeout),
     ("drain_timeout_ms", .integer settings.drainTimeout),
     ("serial",
       match settings.serial with
       | some serial => serial.toDocument
       | none => .null)]

def bindTarget (settings : SlaveSettings) : String :=
  settings.bindAddress ++ ":" ++ toString settings.port.toNat

/-- What tells slaves of one kind apart: the name of a serial port, or else the number of
the port. -/
def portKey (settings : SlaveSettings) : String :=
  match settings.transport, settings.serial with
  | .serial, some serial => serial.portName
  | _, _ => toString settings.port.toNat

/-- Most connections for which there can be places at once. -/
def mostConnections : Nat := Bound.most64 / 8

/-- Whether there can be places for as many connections as are to be served at once.  Only a
stream has connections. -/
def poolFits (settings : SlaveSettings) : Bool :=
  settings.transport != .tcp || decide (settings.poolSize ≤ mostConnections)

/-- Refuses settings with which no slave can be made. -/
def validate (settings : SlaveSettings) : Except Error Unit :=
  if settings.poolSize = 0 then .error (.config .emptyPool)
  else
    match settings.transport, settings.serial with
    | .serial, some serial => serial.validate
    | .serial, none => .error (.config .noSerialSection)
    | _, _ => .ok ()

end SlaveSettings

end Modbus
