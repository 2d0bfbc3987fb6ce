import Modbus.Request

/-!
# Responses

What a unit answers: the values asked for, an echo of what was written, or an
exception.
-/

namespace Modbus

/-- An answer, without the unit it comes from. -/
inductive Response where
  /-- The bits as transmitted, those that only fill the last octet included. -/
  | readCoils (values : List Bool)
  | readDiscreteInputs (values : List Bool)
  | readHoldingRegisters (values : List UInt16)
  | readInputRegisters (values : List UInt16)
  | writeSingleCoil (reference : UInt16) (value : Bool)
  | writeSingleRegister (reference value : UInt16)
  | writeMultipleCoils (reference count : UInt16)
  | writeMultipleRegisters (reference count : UInt16)
  | readFileRecord (records : List (List UInt16))
  | writeFileRecord (records : List RecordData)
  | maskWriteRegister (reference andMask orMask : UInt16)
  | readWriteMultipleRegisters (values : List UInt16)
  | readFifoQueue (values : List UInt16)
  | exception (code : UInt8) (reason : ExceptionCode)
  deriving DecidableEq, Repr, Inhabited

namespace Response

/-- The function code of an answer; that of an exception has its top bit set. -/
def functionCode : Response → UInt8
  | readCoils .. => Function.readCoils.code
  | readDiscreteInputs .. => Function.readDiscreteInputs.code
  | readHoldingRegisters .. => Function.readHoldingRegisters.code
  | readInputRegisters .. => Function.readInputRegisters.code
  | writeSingleCoil .. => Function.writeSingleCoil.code
  | writeSingleRegister .. => Function.writeSingleRegister.code
  | writeMultipleCoils .. => Function.writeMultipleCoils.code
  | writeMultipleRegisters .. => Function.writeMultipleRegisters.code
  | readFileRecord .. => Function.readFileRecord.code
  | writeFileRecord .. => Function.writeFileRecord.code
  | maskWriteRegister .. => Function.maskWriteRegister.code
  | readWriteMultipleRegisters .. => Function.readWriteMultipleRegisters.code
  | readFifoQueue .. => Function.readFifoQueue.code
  | exception code _ => exceptionCode code

def refusal (functionCode : UInt8) (reason : ExceptionCode) : Response :=
  exception (plainCode functionCode) reason

/-- Whether an answer is an exception. -/
def isException : Response → Bool
  | exception .. => true
  | _ => false

end Response

end Modbus
