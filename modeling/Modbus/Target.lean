import Modbus.Error
import Modbus.Text.Natural
import Modbus.Text.Split

/-!
# Connection targets

A target says over which medium a master reaches its slave: a serial device, or
a host and a port.  A host that contains colons stands between brackets, unless
no port follows it.
-/

namespace Modbus

/-- The other end of a connection. -/
inductive Target where
  | device (name : String)
  | tcp (host : String) (port : UInt16)
  | udp (host : String) (port : UInt16)
  deriving DecidableEq, Repr, Inhabited

namespace Target

open Text

/-- The port of a target that names none. -/
def defaultPort : UInt16 := 502

def port (text : List Char) : Except SettingFault UInt16 :=
  match Natural.parse? 10 65535 text with
  | some number => .ok (UInt16.ofNat number)
  | none => .error (.invalidPort (String.ofList text))

def hostPort (host : String) (port : UInt16) : String :=
  if host.toList.contains ':' then "[" ++ host ++ "]:" ++ toString port.toNat
  else host ++ ":" ++ toString port.toNat

/-- Reads what stands behind the closing bracket of a host. -/
def bracketedPort (address : List Char) : List Char → Except SettingFault UInt16
  | [] => .ok defaultPort
  | ':' :: digits => port digits
  | _ => .error (.malformedHost (String.ofList address))

def readHost (address : List Char) : Except SettingFault (String × UInt16) :=
  match address with
  | '[' :: bracketed =>
    match Split.first? ']' bracketed with
    | none => .error (.openBracket (String.ofList address))
    | some (host, rest) => (bracketedPort address rest).map fun port => (String.ofList host, port)
  | address =>
    match Split.last? ':' address with
    | none => .ok (String.ofList address, defaultPort)
    | some (host, digits) =>
      if host.contains ':' then .ok (String.ofList address, defaultPort)
      else (port digits).map fun port => (String.ofList host, port)

def parse (address : String) : Except SettingFault Target :=
  match Split.first? ':' address.toList with
  | none => .error (.malformedTarget address)
  | some (_, []) => .error (.namelessTarget address)
  | some (scheme, rest) =>
    match String.ofList scheme with
    | "device" => .ok (.device (String.ofList rest))
    | "tcp" => (readHost rest).map fun (host, port) => .tcp host port
    | "udp" => (readHost rest).map fun (host, port) => .udp host port
    | scheme => .error (.unknownScheme scheme address)

def toText : Target → String
  | device name => "device:" ++ name
  | tcp host port => "tcp:" ++ hostPort host port
  | udp host port => "udp:" ++ hostPort host port

end Target

end Modbus
