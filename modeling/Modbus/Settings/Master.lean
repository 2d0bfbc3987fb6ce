import Modbus.Settings.Serial
import Modbus.Target
import Modbus.Transaction

/-!
# Settings of a master
-/

namespace Modbus

/-- Settings of a master. -/
structure MasterSettings where
  target : String
  /-- How long a frame may take, in milliseconds. -/
  timeout : Nat
  /-- Most attempts of a transaction. -/
  retries : Nat
  /-- How long to wait before another attempt, in milliseconds. -/
  retryDelay : Nat
  checkValidity : Bool
  reconnecting : Bool
  /-- Whether frames on a network stream have a checksum in place of the header. -/
  rtuOverTcp : Bool
  unitId : UInt8
  serial : SerialSettings
  deriving DecidableEq, Repr

namespace MasterSettings

/-- A master of the usual port of this host. -/
def default : MasterSettings where
  target := "tcp:127.0.0.1:502"
  timeout := 3000
  retries := 5
  retryDelay := 500
  checkValidity := true
  reconnecting := false
  rtuOverTcp := false
  unitId := 1
  serial := .default

instance : Inhabited MasterSettings := ⟨default⟩

def fields (strict : Bool) : List (Document.Field MasterSettings) :=
  [Document.field "target" Document.asText fun settings target =>
     { settings with target := target },
   Document.field "timeout_ms" (Document.asNatural "u64" Bound.most64) fun settings timeout =>
     { settings with timeout := timeout },
   Document.field "retries" (Document.asNatural "u32" Bound.most32) fun settings retries =>
     { settings with retries := retries },
   Document.field "retry_delay_ms" (Document.asNatural "u64" Bound.most64)
     fun settings retryDelay => { settings with retryDelay := retryDelay },
   Document.field "check_validity" Document.asBool fun settings checkValidity =>
     { settings with checkValidity := checkValidity },
   Document.field "reconnecting" Document.asBool fun settings reconnecting =>
     { settings with reconnecting := reconnecting },
   Document.field "rtu_over_tcp" Document.asBool fun settings rtuOverTcp =>
     { settings with rtuOverTcp := rtuOverTcp },
   Document.field "unit_id" (Document.asNatural "u8" 255) fun settings unitId =>
     { settings with unitId := UInt8.ofNat unitId },
   Document.field "serial" (SerialSettings.read strict) fun settings serial =>
     { settings with serial := serial }]

/-- Reads settings from a document; what is not given has its default. -/
def read (strict : Bool) : Document.Reader MasterSettings :=
  Document.asStructure strict "struct MasterConfig" (fields strict) default

def toDocument (settings : MasterSettings) : Document :=
  .ofFields
    [("target", .text settings.target),
     ("timeout_ms", .integer settings.timeout),
     ("retries", .integer settings.retries),
     ("retry_delay_ms", .integer settings.retryDelay),
     ("check_validity", .bool settings.checkValidity),
     ("reconnecting", .bool settings.reconnecting),
     ("rtu_over_tcp", .bool settings.rtuOverTcp),
     ("unit_id", .integer settings.unitId.toNat),
     ("serial", settings.serial.toDocument)]

/-- Refuses settings with which no transaction can succeed. -/
def validate (settings : MasterSettings) : Except Error Unit :=
  if settings.retries = 0 then .error (.config .noRetries)
  else if settings.timeout = 0 then .error (.config .noTimeout)
  else .ok ()

/-- How transactions are carried out. -/
def policy (settings : MasterSettings) : Policy where
  attempts := settings.retries
  retryDelay := settings.retryDelay * millisecond
  checkValidity := settings.checkValidity
  reconnecting := settings.reconnecting

end MasterSettings

/-- The medium that a master uses. -/
inductive Medium where
  | tcp (host : String) (port : UInt16) (headless : Bool)
  | udp (host : String) (port : UInt16)
  | serial (settings : SerialSettings)
  deriving DecidableEq, Repr

namespace Medium

/-- Whether frames on the medium come without a transaction identifier. -/
def headless : Medium → Bool
  | tcp _ _ headless => headless
  | udp _ _ => false
  | serial _ => true

def toText : Medium → String
  | tcp host port _ => (Target.tcp host port).toText
  | udp host port => (Target.udp host port).toText
  | serial settings => (Target.device settings.portName).toText

/-- The machine at the far end of a medium; at a serial line there is none. -/
def machine? : Medium → Option String
  | tcp host _ _ | udp host _ => some host
  | serial _ => none

/-- What the far end of a medium is called. -/
def address : Medium → String
  | tcp host port _ | udp host port => Target.hostPort host port
  | serial settings => settings.portName

end Medium

def MasterSettings.medium (settings : MasterSettings) : Except Error Medium := do
  settings.validate
  match Target.parse settings.target with
  | .error fault => throw (.config fault)
  | .ok (.tcp host port) => pure (.tcp host port settings.rtuOverTcp)
  | .ok (.udp host port) => pure (.udp host port)
  | .ok (.device name) =>
    let serial := { settings.serial with portName := name }
    serial.validate
    pure (.serial serial)

end Modbus
