import Modbus.Error
import Modbus.Limits

/-!
# Requests

What a master asks of a unit.  A request is valid when its quantities are ones
that both it and its answer can carry.
-/

namespace Modbus

/-- Registers of a record of a file, from the first one on. -/
structure RecordSpan where
  file : UInt16
  record : UInt16
  length : UInt16
  deriving DecidableEq, Repr, Inhabited

/-- Values for the first registers of a record of a file. -/
structure RecordData where
  file : UInt16
  record : UInt16
  values : List UInt16
  deriving DecidableEq, Repr, Inhabited

/-- A request, without the unit it is meant for. -/
inductive Request where
  | readCoils (reference count : UInt16)
  | readDiscreteInputs (reference count : UInt16)
  | readHoldingRegisters (reference count : UInt16)
  | readInputRegisters (reference count : UInt16)
  | writeSingleCoil (reference : UInt16) (value : Bool)
  | writeSingleRegister (reference value : UInt16)
  | writeMultipleCoils (reference : UInt16) (values : List Bool)
  | writeMultipleRegisters (reference : UInt16) (values : List UInt16)
  | readFileRecord (records : List RecordSpan)
  | writeFileRecord (records : List RecordData)
  | maskWriteRegister (reference andMask orMask : UInt16)
  | readWriteMultipleRegisters (readReference readCount writeReference : UInt16)
      (values : List UInt16)
  | readFifoQueue (reference : UInt16)
  /-- A request with a function code that is not implemented. -/
  | unsupported (code : UInt8) (data : List UInt8)
  deriving DecidableEq, Repr, Inhabited

namespace Request

/-- The implemented function that a request asks for. -/
def function? : Request → Option Function
  | readCoils .. => some .readCoils
  | readDiscreteInputs .. => some .readDiscreteInputs
  | readHoldingRegisters .. => some .readHoldingRegisters
  | readInputRegisters .. => some .readInputRegisters
  | writeSingleCoil .. => some .writeSingleCoil
  | writeSingleRegister .. => some .writeSingleRegister
  | writeMultipleCoils .. => some .writeMultipleCoils
  | writeMultipleRegisters .. => some .writeMultipleRegisters
  | readFileRecord .. => some .readFileRecord
  | writeFileRecord .. => some .writeFileRecord
  | maskWriteRegister .. => some .maskWriteRegister
  | readWriteMultipleRegisters .. => some .readWriteMultipleRegisters
  | readFifoQueue .. => some .readFifoQueue
  | unsupported .. => none

def functionCode : Request → UInt8
  | unsupported code _ => code
  | readCoils .. => Function.readCoils.code
  | readDiscreteInputs .. => Function.readDiscreteInputs.code
  | readHoldingRegisters .. => Function.readHoldingRegisters.code
  | readInputRegisters .. => Function.readInputRegisters.code
  | writeSingleCoil .. => Function.writeSingleCoil.code
  | writeSingleRegister .. => Function.writeSingleRegister.code
  | writeMultipleCoils .. => Function.writeMultipleCoils.code
  | writeMultipleRegisters .. => Function.writeMultipleRegisters.code
  | readFileRecord .. => Function.readFileRecord.code
  | writeFileRecord .. => Function.writeFileRecord.code
  | maskWriteRegister .. => Function.maskWriteRegister.code
  | readWriteMultipleRegisters .. => Function.readWriteMultipleRegisters.code
  | readFifoQueue .. => Function.readFifoQueue.code

end Request

def Quantity.check (quantity : Quantity) (count most : Nat) : Except Error Unit :=
  if count = 0 ∨ most < count then
    .error (.invalidArgument (.quantity quantity count most))
  else
    .ok ()

/-- Octets of a request for spans of records: seven for each, behind the
function code and the byte count. -/
def RecordSpan.requestSize (records : List RecordSpan) : Nat :=
  2 + records.length * 7

def RecordSpan.responseSize (records : List RecordSpan) : Nat :=
  records.foldr (fun record size => 2 + 2 * record.length.toNat + size) 2

/-- Octets that records take in a message, behind the byte count. -/
def RecordData.dataSize (records : List RecordData) : Nat :=
  records.foldr (fun record size => 7 + 2 * record.values.length + size) 0

/-- Refuses a request whose quantities exceed the limits of the protocol. -/
def Request.validate : Request → Except Error Unit
  | readCoils _ count | readDiscreteInputs _ count =>
    Quantity.bitRead.check count.toNat Limits.readBits
  | readHoldingRegisters _ count | readInputRegisters _ count =>
    Quantity.registerRead.check count.toNat Limits.readRegisters
  | writeMultipleCoils _ values => Quantity.coilWrite.check values.length Limits.writeCoils
  | writeMultipleRegisters _ values =>
    Quantity.registerWrite.check values.length Limits.writeRegisters
  | readWriteMultipleRegisters _ readCount _ values => do
    Quantity.registerRead.check readCount.toNat Limits.readRegisters
    Quantity.registerWrite.check values.length Limits.exchangeRegisters
  | readFileRecord records =>
    if records.isEmpty ∨ Limits.pdu < RecordSpan.requestSize records
        ∨ Limits.pdu < RecordSpan.responseSize records then
      .error (.invalidArgument (.fileReadSize records.length))
    else
      .ok ()
  | writeFileRecord records =>
    if records.isEmpty ∨ Limits.pdu < 2 + RecordData.dataSize records then
      .error (.invalidArgument (.fileWriteSize (2 + RecordData.dataSize records)))
    else
      .ok ()
  | writeSingleCoil .. | writeSingleRegister .. | maskWriteRegister .. | readFifoQueue ..
  | unsupported .. => .ok ()

end Modbus
