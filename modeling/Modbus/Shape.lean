import Modbus.Function

/-!
# Payload shapes

A serial frame does not carry its length.  How much follows a function code is
either fixed, or announced by a count at a known place.
-/

namespace Modbus

/-- How much follows a function code. -/
inductive Shape where
  /-- Exactly `length` octets. -/
  | fixed (length : Nat)
  /-- `offset` octets, a count of `width` octets, and as many octets as it says. -/
  | counted (offset width : Nat)
  deriving DecidableEq, Repr, Inhabited

def Function.requestShape : Function → Shape
  | readCoils | readDiscreteInputs | readHoldingRegisters | readInputRegisters
  | writeSingleCoil | writeSingleRegister => .fixed 4
  | writeMultipleCoils | writeMultipleRegisters => .counted 4 1
  | readFileRecord | writeFileRecord => .counted 0 1
  | maskWriteRegister => .fixed 6
  | readWriteMultipleRegisters => .counted 8 1
  | readFifoQueue => .fixed 2

/-- The shape of an answer that is no exception. -/
def Function.responseShape : Function → Shape
  | readCoils | readDiscreteInputs | readHoldingRegisters | readInputRegisters
  | readFileRecord | writeFileRecord | readWriteMultipleRegisters => .counted 0 1
  | writeSingleCoil | writeSingleRegister | writeMultipleCoils | writeMultipleRegisters => .fixed 4
  | maskWriteRegister => .fixed 6
  | readFifoQueue => .counted 0 2

namespace Shape

/-- The shape of a request, if its function code is an implemented one. -/
def request? (functionCode : UInt8) : Option Shape :=
  (Function.ofCode? functionCode).map Function.requestShape

def response? (functionCode : UInt8) : Option Shape :=
  if isExceptionCode functionCode then
    some (fixed 1)
  else
    (Function.ofCode? functionCode).map Function.responseShape

/-- The number written by octets, high octet first. -/
def count (octets : List UInt8) : Nat :=
  octets.foldl (fun total octet => total * 256 + octet.toNat) 0

/-- How many octets the shape demands of a payload that begins with the given ones. -/
def length (shape : Shape) (payload : List UInt8) : Nat :=
  match shape with
  | fixed length => length
  | counted offset width => offset + width + count ((payload.drop offset).take width)

end Shape

end Modbus
