import Modbus.Bound
import Modbus.Document
import Modbus.Error
import Modbus.Line
import Modbus.Text.Blank
import Modbus.Text.Split

/-!
# Settings of a serial line

Every setting has a default, so a document may give only some of them.
-/

namespace Modbus

/-- The parity bit of a character. -/
inductive Parity where
  | none
  | even
  | odd
  deriving DecidableEq, Repr, Inhabited

/-- The parities by name. -/
def Parity.choices : List (String × Parity) :=
  [("none", .none), ("even", .even), ("odd", .odd)]

/-- How many bits end a character. -/
inductive StopBits where
  | one
  | two
  deriving DecidableEq, Repr, Inhabited

/-- The numbers of stop bits by name. -/
def StopBits.choices : List (String × StopBits) :=
  [("one", .one), ("two", .two)]

def nameOf {α : Type} [DecidableEq α] (choices : List (String × α)) (value : α) : String :=
  match choices.find? fun choice => choice.2 = value with
  | some (name, _) => name
  | none => ""

/-- A millisecond in nanoseconds. -/
def millisecond : Nat := 1000000

/-- Settings of a serial line. -/
structure SerialSettings where
  portName : String
  baudRate : Nat
  dataBits : Nat
  parity : Parity
  stopBits : StopBits
  /-- Whether the adapter returns everything that is sent. -/
  echo : Bool
  /-- The silence before every message, in milliseconds; otherwise it follows from the
  baud rate. -/
  transmitDelay : Option Nat
  deriving DecidableEq, Repr

namespace SerialSettings

/-- 9600 baud, eight data bits, no parity and one stop bit, at no port yet. -/
def default : SerialSettings where
  portName := ""
  baudRate := 9600
  dataBits := 8
  parity := .none
  stopBits := .one
  echo := false
  transmitDelay := none

instance : Inhabited SerialSettings := ⟨default⟩

def atPort (portName : String) (baudRate : Nat) : SerialSettings :=
  { default with portName := portName, baudRate := baudRate }

def fields (strict : Bool) : List (Document.Field SerialSettings) :=
  [Document.field "port_name" Document.asText fun settings portName =>
     { settings with portName := portName },
   Document.field "baud_rate" (Document.asNatural "u32" Bound.most32) fun settings baudRate =>
     { settings with baudRate := baudRate },
   Document.field "data_bits" (Document.asNatural "u8" 255) fun settings dataBits =>
     { settings with dataBits := dataBits },
   Document.field "parity" (Document.asChoice strict "enum Parity" Parity.choices)
     fun settings parity => { settings with parity := parity },
   Document.field "stop_bits" (Document.asChoice strict "enum StopBits" StopBits.choices)
     fun settings stopBits => { settings with stopBits := stopBits },
   Document.field "echo" Document.asBool fun settings echo => { settings with echo := echo },
   Document.field "transmit_delay_ms"
     (Document.asOptional (Document.asNatural "u64" Bound.most64)) fun settings transmitDelay =>
     { settings with transmitDelay := transmitDelay }]

/-- Reads settings from a document; what is not given has its default. -/
def read (strict : Bool) : Document.Reader SerialSettings :=
  Document.asStructure strict "struct SerialParameters" (fields strict) default

/-- A number that may be missing, as a document. -/
def optionalNumber : Option Nat → Document
  | some value => .integer value
  | none => .null

def toDocument (settings : SerialSettings) : Document :=
  .ofFields
    [("port_name", .text settings.portName),
     ("baud_rate", .integer settings.baudRate),
     ("data_bits", .integer settings.dataBits),
     ("parity", .text (nameOf Parity.choices settings.parity)),
     ("stop_bits", .text (nameOf StopBits.choices settings.stopBits)),
     ("echo", .bool settings.echo),
     ("transmit_delay_ms", optionalNumber settings.transmitDelay)]

/-- Refuses settings with which no port can be opened. -/
def validate (settings : SerialSettings) : Except Error Unit :=
  if (Text.Split.trim Text.isBlank settings.portName.toList).isEmpty then
    .error (.config .noPortName)
  else if settings.baudRate = 0 then
    .error (.config .noBaudRate)
  else if settings.dataBits < 5 ∨ 8 < settings.dataBits then
    .error (.config (.dataBits settings.dataBits))
  else
    .ok ()

/-- The timing of the line. -/
def timing (settings : SerialSettings) : Timing :=
  .ofBaud settings.baudRate (settings.transmitDelay.map (· * millisecond)) settings.echo

end SerialSettings

end Modbus
