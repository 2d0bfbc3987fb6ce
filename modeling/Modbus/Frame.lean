import Modbus.Request.Codec
import Modbus.Response.Codec

/-!
# Frames and messages

A frame is what travels: a header and the octets of a request or an answer.  A
message is a frame whose octets have been understood.
-/

namespace Modbus

/-- What identifies a frame.  Frames without a network header carry only the
unit; the other fields are then zero. -/
structure Header where
  transactionId : UInt16 := 0
  protocolId : UInt16 := 0
  unitId : UInt8 := 0
  deriving DecidableEq, Repr, Inhabited

/-- A header and the octets behind it, function code first. -/
structure Frame where
  header : Header
  pdu : List UInt8
  deriving DecidableEq, Repr, Inhabited

def Frame.functionCode (frame : Frame) : UInt8 :=
  frame.pdu.headD 0

/-- The length field of a network frame: the unit and the octets behind it.  It
wraps at the width of the field. -/
def Frame.lengthField (frame : Frame) : UInt16 :=
  UInt16.ofNat (frame.pdu.length + 1)

/-- A header and a request or an answer. -/
structure Message (α : Type) where
  header : Header
  body : α
  deriving DecidableEq, Repr, Inhabited

namespace Message

def requestFrame (message : Message Request) : Frame :=
  ⟨message.header, message.body.encode⟩

/-- The frame of an answer. -/
def responseFrame (message : Message Response) : Frame :=
  ⟨message.header, message.body.encode⟩

def requestOf (frame : Frame) : Except Error (Message Request) := do
  let request ← Request.decode frame.pdu
  pure ⟨frame.header, request⟩

def responseOf (frame : Frame) : Except Error (Message Response) := do
  let response ← Response.decode frame.pdu
  pure ⟨frame.header, response⟩

end Message

end Modbus
