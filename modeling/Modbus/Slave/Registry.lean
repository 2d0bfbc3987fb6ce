import Modbus.Slave.Basic

/-!
# Slave registries

A registry keeps one slave for each medium and port.  A slave that asked for
any free port is registered under the port that it got.
-/

namespace Modbus

/-- What a slave is registered under: its kind of medium, and its port or device. -/
abbrev SlaveKey := TransportKind × String

/-- Slaves by number, and the keys of those that are registered. -/
structure SlaveRegistry where
  /-- All slaves that were ever handed out. -/
  slaves : List Slave
  entries : List (SlaveKey × Nat)

namespace SlaveRegistry

def empty : SlaveRegistry := ⟨[], []⟩

instance : Inhabited SlaveRegistry := ⟨empty⟩

def slave (registry : SlaveRegistry) (number : Nat) : Slave :=
  registry.slaves.getD number default

def get? (registry : SlaveRegistry) (kind : TransportKind) (port : String) : Option Nat :=
  registry.entries.lookup (kind, port)

def setSlave (registry : SlaveRegistry) (number : Nat) (slave : Slave) : SlaveRegistry :=
  { registry with slaves := registry.slaves.set number slave }

/-- What a slave that was started is registered under. -/
def keyOf (slave : Slave) : SlaveKey :=
  match slave.settings.transport, slave.localPort with
  | .serial, _ => (.serial, slave.settings.portKey)
  | kind, some port => (kind, toString port.toNat)
  | kind, none => (kind, slave.settings.portKey)

/-- Registers a slave under a key, in place of another one. -/
def register (registry : SlaveRegistry) (key : SlaveKey) (slave : Slave) : Nat × SlaveRegistry :=
  let number := registry.slaves.length
  (number,
    { slaves := registry.slaves ++ [slave]
      entries := (key, number) :: registry.entries.filter fun entry => entry.1 != key })

/-- The slave that is registered for the settings, or a new one that is started. -/
def getOrStart (registry : SlaveRegistry) (settings : SlaveSettings) (host : Host) :
    Except StartFault Nat × SlaveRegistry × Host :=
  match registry.get? settings.transport settings.portKey with
  | some number => (.ok number, registry, host)
  | none =>
    match Slave.new settings with
    | .error error => (.error (.failed error), registry, host)
    | .ok slave =>
      match slave.start host with
      | (.error fault, _, host) => (.error fault, registry, host)
      | (.ok _, slave, host) =>
        let (number, registry) := registry.register (keyOf slave) slave
        (.ok number, registry, host)

def stopSlave (registry : SlaveRegistry) (number : Nat) (host : Host) : SlaveRegistry × Host :=
  let (slave, host) := (registry.slave number).stop host
  (registry.setSlave number slave, host)

/-- Stops and forgets the slave under a key; says whether there was one. -/
def close (registry : SlaveRegistry) (kind : TransportKind) (port : String) (host : Host) :
    Bool × SlaveRegistry × Host :=
  match registry.get? kind port with
  | none => (false, registry, host)
  | some number =>
    let entries := registry.entries.filter fun entry => entry.1 != (kind, port)
    (true, { registry with entries := entries }.stopSlave number host)

def closeAll (registry : SlaveRegistry) (host : Host) : SlaveRegistry × Host :=
  registry.entries.foldl (fun (registry, host) entry => registry.stopSlave entry.2 host)
    ({ registry with entries := [] }, host)

def size (registry : SlaveRegistry) : Nat := registry.entries.length

end SlaveRegistry

end Modbus
