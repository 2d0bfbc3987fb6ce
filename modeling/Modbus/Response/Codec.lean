import Modbus.Request.Codec
import Modbus.Response

/-!
# Responses as octets

As with requests the function code comes first.  Bits come back with the ones
that fill the last octet, because an answer does not say how many were asked for.
-/

namespace Modbus

namespace FileAnswer

/-- The registers of one span, behind their length and the reference type. -/
def encode (values : List UInt16) : List UInt8 :=
  byteCount (1 + 2 * values.length) :: fileReferenceType :: Words.toOctets values

/-- Octets that spans take in an answer, behind the byte count. -/
def dataSize (records : List (List UInt16)) : Nat :=
  records.foldr (fun values size => 2 + 2 * values.length + size) 0

/-- Reads the registers of one span. -/
def parse : Parse (List UInt16) := do
  let length ← Payload.octet
  if length.toNat % 2 = 0 then
    throw (.protocol (.fileResponseLength length.toNat))
  checkReferenceType (← Payload.octet)
  Payload.words ((length.toNat - 1) / 2)

end FileAnswer

namespace Response

/-- The fields of an answer, behind the function code. -/
def data : Response → List UInt8
  | readCoils values | readDiscreteInputs values =>
    byteCount (Bits.pack values).length :: Bits.pack values
  | readHoldingRegisters values | readInputRegisters values | readWriteMultipleRegisters values =>
    byteCount (values.length * 2) :: Words.toOctets values
  | writeSingleCoil reference value => Words.toOctets [reference, coilWord value]
  | writeSingleRegister reference value => Words.toOctets [reference, value]
  | writeMultipleCoils reference count | writeMultipleRegisters reference count =>
    Words.toOctets [reference, count]
  | readFileRecord records =>
    byteCount (FileAnswer.dataSize records) :: records.flatMap FileAnswer.encode
  | writeFileRecord records => RecordData.encodeAll records
  | maskWriteRegister reference andMask orMask => Words.toOctets [reference, andMask, orMask]
  | readFifoQueue values =>
    Words.toOctets (quantityWord (2 + 2 * values.length) :: quantityWord values.length :: values)
  | exception _ reason => [reason.toOctet]

/-- An answer as octets. -/
def encode (response : Response) : List UInt8 :=
  response.functionCode :: response.data

def parseBits : Parse (List Bool) := do
  let bytes ← Payload.octet
  let packed ← Payload.octets bytes.toNat
  pure (Bits.unpack packed (bytes.toNat * 8))

/-- Reads an even byte count and the registers it announces. -/
def parseRegisters : Parse (List UInt16) := do
  let bytes ← Payload.octet
  if bytes.toNat % 2 ≠ 0 then
    throw (.protocol (.oddByteCount bytes.toNat))
  Payload.words (bytes.toNat / 2)

def parse : Function → Parse Response
  | .readCoils => do
    let values ← parseBits
    pure (readCoils values)
  | .readDiscreteInputs => do
    let values ← parseBits
    pure (readDiscreteInputs values)
  | .readHoldingRegisters => do
    let values ← parseRegisters
    pure (readHoldingRegisters values)
  | .readInputRegisters => do
    let values ← parseRegisters
    pure (readInputRegisters values)
  | .readWriteMultipleRegisters => do
    let values ← parseRegisters
    pure (readWriteMultipleRegisters values)
  | .writeSingleCoil => do
    let reference ← Payload.word
    let value ← coilOfWord (← Payload.word)
    pure (writeSingleCoil reference value)
  | .writeSingleRegister => do
    let reference ← Payload.word
    let value ← Payload.word
    pure (writeSingleRegister reference value)
  | .writeMultipleCoils => do
    let reference ← Payload.word
    let count ← Payload.word
    pure (writeMultipleCoils reference count)
  | .writeMultipleRegisters => do
    let reference ← Payload.word
    let count ← Payload.word
    pure (writeMultipleRegisters reference count)
  | .readFileRecord => do
    let bytes ← Payload.octet
    let body ← Payload.octets bytes.toNat
    let records ← Payload.within body (Payload.untilEnd FileAnswer.parse)
    pure (readFileRecord records)
  | .writeFileRecord => do
    let records ← RecordData.parseAll
    pure (writeFileRecord records)
  | .maskWriteRegister => do
    let reference ← Payload.word
    let andMask ← Payload.word
    let orMask ← Payload.word
    pure (maskWriteRegister reference andMask orMask)
  | .readFifoQueue => do
    let bytes ← Payload.word
    let count ← Payload.word
    if Limits.fifo < count.toNat ∨ bytes.toNat ≠ 2 + 2 * count.toNat then
      throw (.protocol (.fifoCounts bytes.toNat count.toNat))
    let values ← Payload.words count.toNat
    pure (readFifoQueue values)

def parseException (code : UInt8) : Parse Response := do
  let reason ← Payload.octet
  pure (refusal code (ExceptionCode.ofOctet reason))

/-- The answer that octets stand for. -/
def decode (pdu : List UInt8) : Except Error Response :=
  match pdu with
  | [] => .error (.protocol .emptyResponse)
  | code :: payload =>
    if isExceptionCode code then
      Payload.run (parseException code) code payload
    else
      match Function.ofCode? code with
      | none => .error (.protocol (.unknownResponse code))
      | some function => Payload.run (parse function) code payload

end Response

end Modbus
