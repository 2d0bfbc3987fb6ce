import Modbus.Error

/-!
# Port registries

A serial port can be open only once, so those who use it share it.  The
registry knows the port that was opened last under each name.  An entry does not
hold its port: a port closes when its last holder lets go of it, and its entry
stays until somebody asks for a port again.  A port that failed is evicted: its
holders keep it, but whoever comes next opens the device again.
-/

namespace Modbus

/-- An open port and how many hold it. -/
structure OpenPort (α : Type) where
  key : Nat
  holders : Nat
  value : α
  deriving DecidableEq, Repr

/-- The open ports, and the port that is registered under each name. -/
structure PortRegistry (α : Type) where
  /-- Names with the keys of their ports, which may have closed. -/
  registered : List (String × Nat)
  ports : List (OpenPort α)
  /-- The key of the next port. -/
  fresh : Nat
  deriving DecidableEq, Repr

namespace PortRegistry

variable {α : Type}

def empty : PortRegistry α := ⟨[], [], 0⟩

instance : Inhabited (PortRegistry α) := ⟨empty⟩

def port? (registry : PortRegistry α) (key : Nat) : Option (OpenPort α) :=
  registry.ports.find? fun port => port.key == key

def isOpen (registry : PortRegistry α) (key : Nat) : Bool := (registry.port? key).isSome

def registered? (registry : PortRegistry α) (name : String) : Option Nat :=
  registry.registered.lookup name

/-- The port under a name, if it is open. -/
def live? (registry : PortRegistry α) (name : String) : Option Nat :=
  (registry.registered? name).filter registry.isOpen

def change (registry : PortRegistry α) (key : Nat) (f : OpenPort α → OpenPort α) :
    PortRegistry α :=
  { registry with
    ports := registry.ports.map fun port => if port.key == key then f port else port }

def hold (registry : PortRegistry α) (key : Nat) : PortRegistry α :=
  registry.change key fun port => { port with holders := port.holders + 1 }

/-- Forgets the ports that have closed. -/
def prune (registry : PortRegistry α) : PortRegistry α :=
  { registry with
    registered := registry.registered.filter fun entry => registry.isOpen entry.2 }

/-- Puts a port that was just opened under a name, in place of another one. -/
def register (registry : PortRegistry α) (name : String) (value : α) : PortRegistry α where
  registered :=
    (name, registry.fresh) :: registry.registered.filter fun entry => entry.1 != name
  ports := ⟨registry.fresh, 1, value⟩ :: registry.ports
  fresh := registry.fresh + 1

/-- The port under a name, which is opened if there is none; the result says whether it was. -/
def getOrOpen (registry : PortRegistry α) (name : String) (opener : Unit → Except Error α) :
    Except Error (Nat × Bool) × PortRegistry α :=
  let registry := registry.prune
  match registry.live? name with
  | some key => (.ok (key, false), registry.hold key)
  | none =>
    match opener () with
    | .error error => (.error error, registry)
    | .ok value => (.ok (registry.fresh, true), registry.register name value)

/-- Closes a port that nobody holds. -/
def close (registry : PortRegistry α) (key : Nat) : PortRegistry α :=
  { registry with ports := registry.ports.filter fun port => port.key != key }

/-- One less holds a port; the last one closes it. -/
def release (registry : PortRegistry α) (key : Nat) : PortRegistry α :=
  match registry.port? key with
  | none => registry
  | some port =>
    if port.holders ≤ 1 then registry.close key
    else registry.change key fun port => { port with holders := port.holders - 1 }

/-- Forgets a port if it is the one registered under the name; says whether it was. -/
def evict (registry : PortRegistry α) (name : String) (key : Nat) : Bool × PortRegistry α :=
  if registry.registered? name = some key then
    (true, { registry with
      registered := registry.registered.filter fun entry => entry.1 != name })
  else
    (false, registry)

/-- How many names have an open port. -/
def openCount (registry : PortRegistry α) : Nat :=
  (registry.registered.filter fun entry => registry.isOpen entry.2).length

def value? (registry : PortRegistry α) (key : Nat) : Option α :=
  (registry.port? key).map OpenPort.value

def setValue (registry : PortRegistry α) (key : Nat) (value : α) : PortRegistry α :=
  registry.change key fun port => { port with value := value }

end PortRegistry

end Modbus
