import Modbus.Address
import Modbus.Settings.Slave

/-!
# Hosts

What the machine allows that a program runs on: which addresses it has and which
ports are in use, what there is in its file system that is no settings file, and
whether packets find a way at all.
-/

namespace Modbus

/-- What stands at a path of the file system. -/
inductive Node where
  | folder
  /-- A serial device. -/
  | line
  /-- A file, or a device that is no serial one. -/
  | file
  /-- A device behind which there is nothing. -/
  | detached
  deriving DecidableEq, Repr, Inhabited

/-- The ports and devices of a machine. -/
structure Host where
  /-- Whether a connection can be made. -/
  reachable : Bool
  /-- The network ports in use. -/
  taken : List (TransportKind × UInt16)
  /-- What there is in the file system, each with the names that lead to it. -/
  nodes : List (List String × Node)
  deriving DecidableEq, Repr, Inhabited

namespace Host

/-- What the file system of every machine has. -/
def commonNodes : List (List String × Node) :=
  let folders := ["bin", "dev", "etc", "home", "lib", "mnt", "opt", "proc", "root", "run", "sbin",
    "sys", "tmp", "usr", "var"]
  let devices := ["full", "null", "random", "stderr", "stdin", "stdout", "urandom", "zero"]
  folders.map (fun name => ([name], Node.folder))
    ++ ["fd", "pts", "shm"].map (fun name => (["dev", name], Node.folder))
    ++ devices.map (fun name => (["dev", name], Node.file))
    ++ ["group", "hosts", "passwd"].map (fun name => (["etc", name], Node.file))
    ++ [(["dev", "tty"], Node.detached)]

/-- A machine whose ports can be bound, but from which nothing can be reached. -/
def isolated : Host := ⟨false, [], commonNodes⟩

/-- A machine that reaches itself. -/
def loopback : Host := ⟨true, [], commonNodes⟩

/-! ## Ports -/

/-- Where the ports begin that are given out to those who do not ask for one. -/
def firstFree : Nat := 32768

def freePort (host : Host) (kind : TransportKind) : Nat → Nat → UInt16
  | 0, candidate => UInt16.ofNat candidate
  | fuel + 1, candidate =>
    if host.taken.contains (kind, UInt16.ofNat candidate) then
      freePort host kind fuel (candidate + 1)
    else
      UInt16.ofNat candidate

/-- Names of the machine itself, by which it is known to itself only. -/
def ownNames : List String := ["localhost", "::", "::1", "[::]", "[::1]"]

/-- Whether an address is one of the machine itself. -/
def isOwn (address : String) : Bool :=
  ownNames.contains address || (Address.ofText? address).any Address.isOwn

/-- Whether it is known which machine is meant; nobody can be asked about a name. -/
def isKnown (address : String) : Bool :=
  ownNames.contains address || address.toList.contains ':' || (Address.ofText? address).isSome

/-- What is said if it is not known which machine is meant. -/
def unresolved (target : String) : Error :=
  .config (.unresolved target
    "failed to lookup address information: Temporary failure in name resolution")

/-- Binds a port at an address; the port with number zero stands for any free one. -/
def bind (host : Host) (kind : TransportKind) (address : String) (port : UInt16) :
    Except Error (UInt16 × Host) :=
  let target := address ++ ":" ++ toString port.toNat
  let port := if port = 0 then host.freePort kind host.taken.length firstFree else port
  if !isKnown address then
    .error (unresolved target)
  else if !isOwn address then
    .error (.io .addressNotAvailable)
  else if host.taken.contains (kind, port) then
    .error (.io .addressInUse)
  else
    .ok (port, { host with taken := (kind, port) :: host.taken })

/-- Gives a port back. -/
def release (host : Host) (kind : TransportKind) (port : UInt16) : Host :=
  { host with taken := host.taken.filter fun entry => entry != (kind, port) }

/-- Makes a connection to an address. -/
def reach (host : Host) (address : String) : Except Error Unit :=
  if !isKnown address then .error (unresolved address)
  else if host.reachable then .ok ()
  else .error (.io .unreachable)

/-! ## Files -/

/-- Why nothing is found at a path. -/
inductive Lost where
  | missing
  /-- The path leads through something that is no folder. -/
  | noFolder
  deriving DecidableEq, Repr, Inhabited

/-- What the names lead to from a folder on. -/
def walk (host : Host) (above : List String) : List String → Except Lost Node
  | [] => .ok .folder
  | name :: rest =>
    if name = "." || name.isEmpty then walk host above rest
    else if name = ".." then walk host above.dropLast rest
    else
      match host.nodes.lookup (above ++ [name]) with
      | none => .error .missing
      | some .folder => walk host (above ++ [name]) rest
      | some node => if rest.isEmpty then .ok node else .error .noFolder

/-- What stands at a path; one that does not begin at the root begins at an empty folder. -/
def look (host : Host) (path : String) : Except Lost Node :=
  match path.splitOn "/" with
  | "" :: names => host.walk [] names
  | names => ({ host with nodes := [] } : Host).walk [] names

/-- Why what stands at a path cannot be opened as a serial device; no reason if it can. -/
def refusal? (host : Host) (path : String) : Option String :=
  match host.look path with
  | .ok .line => none
  | .ok .folder => some "Is a directory"
  | .ok .file => some "Not a typewriter"
  | .ok .detached => some "No such device or address"
  | .error .missing => some "No such file or directory"
  | .error .noFolder => some "Not a directory"

def openDevice (host : Host) (settings : SerialSettings) : Except Error Unit := do
  settings.validate
  match host.refusal? settings.portName with
  | none => pure ()
  | some reason => throw (.config (.unopened settings.portName reason))

end Host

end Modbus
