import Modbus.Console.Value
import Modbus.Master
import Modbus.Slave.Registry

/-!
# Commands

A command of a master sends one request and writes the answer as text.  A
command that serves registers a slave with an image that is all zeros.
-/

namespace Modbus.Console

/-- A command that sends one request. -/
inductive Command where
  | readHolding (reference count : UInt16)
  | readInput (reference count : UInt16)
  | readCoils (reference count : UInt16)
  | writeRegister (reference value : UInt16)
  | writeRegisters (reference : UInt16) (values : List UInt16)
  | writeCoil (reference : UInt16) (state : Bool)
  | readWrite (readReference readCount writeReference : UInt16) (values : List UInt16)
  deriving DecidableEq, Repr, Inhabited

namespace Command

def request : Command → Request
  | readHolding reference count => .readHoldingRegisters reference count
  | readInput reference count => .readInputRegisters reference count
  | readCoils reference count => .readCoils reference count
  | writeRegister reference value => .writeSingleRegister reference value
  | writeRegisters reference values => .writeMultipleRegisters reference values
  | writeCoil reference state => .writeSingleCoil reference state
  | readWrite readReference readCount writeReference values =>
    .readWriteMultipleRegisters readReference readCount writeReference values

/-- What a command wrote, which its answer does not repeat. -/
def written : Command → List UInt16
  | writeRegister _ value => [value]
  | writeRegisters _ values => values
  | _ => []

def render (command : Command) : Answer → String
  | .registers values => registersText values
  | .bits values => coilsText values
  | .coil value => coilsText [value]
  | .records _ | .done | .response _ => registersText command.written

/-- Sends the request of a command to a unit; the result is the text of the answer. -/
def run {σ : Type} (command : Command) (unit : UInt8) (master : Master σ) :
    Except Error String × Master σ :=
  let (outcome, master) := master.call unit command.request
  (outcome.map command.render, master)

end Command

/-- What to serve, and where. -/
structure ServeArguments where
  /-- How many registers the image has. -/
  registers : Nat
  /-- How many coils the image has. -/
  coils : Nat
  /-- The port, if it is not that of the settings. -/
  port : Option UInt16
  udp : Bool
  deriving DecidableEq, Repr, Inhabited

namespace ServeArguments

/-- Ten registers at the port of the settings. -/
def default : ServeArguments := ⟨10, 0, none, false⟩

def addClearedCoil (image : Image) : Image :=
  let (cell, image) := image.newBit false
  image.add .coil cell

def image (arguments : ServeArguments) (unit : UInt8) : Image :=
  arguments.coils.repeat addClearedCoil (.cleared unit arguments.registers)

def adjust (arguments : ServeArguments) (settings : SlaveSettings) : SlaveSettings :=
  { settings with
    port := arguments.port.getD settings.port
    transport := if arguments.udp then .udp else settings.transport }

end ServeArguments

/-- Starts a slave, or takes the one that is registered, and gives it an image. -/
def startServing (registry : SlaveRegistry) (settings : SlaveSettings) (unit : UInt8)
    (arguments : ServeArguments) (host : Host) : Except StartFault Nat × SlaveRegistry × Host :=
  match registry.getOrStart (arguments.adjust settings) host with
  | (.error fault, registry, host) => (.error fault, registry, host)
  | (.ok number, registry, host) =>
    let slave := registry.slave number
    let served := slave.withUnits (slave.station.units.add (arguments.image unit))
    (.ok number, registry.setSlave number served, host)

/-- Serves until it is time to stop, which is at once; the result is what was counted. -/
def serve (registry : SlaveRegistry) (settings : SlaveSettings) (unit : UInt8)
    (arguments : ServeArguments) (host : Host) : Except StartFault Stats × SlaveRegistry × Host :=
  match startServing registry settings unit arguments host with
  | (.error fault, registry, host) => (.error fault, registry, host)
  | (.ok number, registry, host) =>
    let (closed, host) := registry.closeAll host
    (.ok (registry.slave number).station.stats, closed, host)

end Modbus.Console
