import Modbus.Payload
import Modbus.Request

/-!
# Requests as octets

The function code comes first, then the fields of the function.  Counts are
written into fields of fixed width and wrap there; reading checks them against
the data that follows, so a request with counts that do not fit is refused.
-/

namespace Modbus

/-- The reference type that stands in front of every span of a file record. -/
def fileReferenceType : UInt8 := 6

/-- A coil is written as one of two words. -/
def coilWord (value : Bool) : UInt16 :=
  if value then 0xFF00 else 0x0000

/-- The coil state that a word stands for; no other word is allowed. -/
def coilOfWord (word : UInt16) : Except Error Bool :=
  if word = 0xFF00 then .ok true
  else if word = 0x0000 then .ok false
  else .error (.invalidArgument (.coilValue word))

def checkReferenceType (type : UInt8) : Except Error Unit :=
  if type = fileReferenceType then .ok () else .error (.invalidArgument (.referenceType type))

/-- Refuses a byte count that does not fit the quantity. -/
def checkByteCount (declared expected : Nat) : Except Error Unit :=
  if declared = expected then .ok () else .error (.invalidArgument (.byteCount declared expected))

/-- A byte count as it is written: in one octet. -/
def byteCount (count : Nat) : UInt8 := UInt8.ofNat count

def quantityWord (count : Nat) : UInt16 := UInt16.ofNat count

namespace RecordSpan

def encode (span : RecordSpan) : List UInt8 :=
  fileReferenceType :: Words.toOctets [span.file, span.record, span.length]

def parse : Parse RecordSpan := do
  checkReferenceType (← Payload.octet)
  let file ← Payload.word
  let record ← Payload.word
  let length ← Payload.word
  pure ⟨file, record, length⟩

end RecordSpan

namespace RecordData

/-- One record with its values. -/
def encode (data : RecordData) : List UInt8 :=
  fileReferenceType
    :: Words.toOctets (data.file :: data.record :: quantityWord data.values.length :: data.values)

def encodeAll (records : List RecordData) : List UInt8 :=
  byteCount (dataSize records) :: records.flatMap encode

def parse : Parse RecordData := do
  checkReferenceType (← Payload.octet)
  let file ← Payload.word
  let record ← Payload.word
  let length ← Payload.word
  let values ← Payload.words length.toNat
  pure ⟨file, record, values⟩

def parseAll : Parse (List RecordData) := do
  let count ← Payload.octet
  let body ← Payload.octets count.toNat
  Payload.within body (Payload.untilEnd parse)

end RecordData

namespace Request

/-- The fields of a request, behind the function code. -/
def data : Request → List UInt8
  | readCoils reference count
  | readDiscreteInputs reference count
  | readHoldingRegisters reference count
  | readInputRegisters reference count => Words.toOctets [reference, count]
  | writeSingleCoil reference value => Words.toOctets [reference, coilWord value]
  | writeSingleRegister reference value => Words.toOctets [reference, value]
  | writeMultipleCoils reference values =>
    Words.toOctets [reference, quantityWord values.length]
      ++ byteCount (Bits.pack values).length :: Bits.pack values
  | writeMultipleRegisters reference values =>
    Words.toOctets [reference, quantityWord values.length]
      ++ byteCount (values.length * 2) :: Words.toOctets values
  | readFileRecord records => byteCount (records.length * 7) :: records.flatMap RecordSpan.encode
  | writeFileRecord records => RecordData.encodeAll records
  | maskWriteRegister reference andMask orMask => Words.toOctets [reference, andMask, orMask]
  | readWriteMultipleRegisters readReference readCount writeReference values =>
    Words.toOctets [readReference, readCount, writeReference, quantityWord values.length]
      ++ byteCount (values.length * 2) :: Words.toOctets values
  | readFifoQueue reference => Words.toOctets [reference]
  | unsupported _ data => data

/-- A request as octets. -/
def encode (request : Request) : List UInt8 :=
  request.functionCode :: request.data

def parse : Function → Parse Request
  | .readCoils => do
    let reference ← Payload.word
    let count ← Payload.word
    pure (readCoils reference count)
  | .readDiscreteInputs => do
    let reference ← Payload.word
    let count ← Payload.word
    pure (readDiscreteInputs reference count)
  | .readHoldingRegisters => do
    let reference ← Payload.word
    let count ← Payload.word
    pure (readHoldingRegisters reference count)
  | .readInputRegisters => do
    let reference ← Payload.word
    let count ← Payload.word
    pure (readInputRegisters reference count)
  | .writeSingleCoil => do
    let reference ← Payload.word
    let value ← coilOfWord (← Payload.word)
    pure (writeSingleCoil reference value)
  | .writeSingleRegister => do
    let reference ← Payload.word
    let value ← Payload.word
    pure (writeSingleRegister reference value)
  | .writeMultipleCoils => do
    let reference ← Payload.word
    let count ← Payload.word
    let bytes ← Payload.octet
    Quantity.coilWrite.check count.toNat Limits.writeCoils
    checkByteCount bytes.toNat ((count.toNat + 7) / 8)
    let packed ← Payload.octets bytes.toNat
    pure (writeMultipleCoils reference (Bits.unpack packed count.toNat))
  | .writeMultipleRegisters => do
    let reference ← Payload.word
    let count ← Payload.word
    let bytes ← Payload.octet
    Quantity.registerWrite.check count.toNat Limits.writeRegisters
    checkByteCount bytes.toNat (count.toNat * 2)
    let values ← Payload.words count.toNat
    pure (writeMultipleRegisters reference values)
  | .readFileRecord => do
    let bytes ← Payload.octet
    if bytes.toNat = 0 ∨ bytes.toNat % 7 ≠ 0 then
      throw (.invalidArgument (.fileReadByteCount bytes.toNat))
    let records ← Payload.times RecordSpan.parse (bytes.toNat / 7)
    pure (readFileRecord records)
  | .writeFileRecord => do
    let records ← RecordData.parseAll
    pure (writeFileRecord records)
  | .maskWriteRegister => do
    let reference ← Payload.word
    let andMask ← Payload.word
    let orMask ← Payload.word
    pure (maskWriteRegister reference andMask orMask)
  | .readWriteMultipleRegisters => do
    let readReference ← Payload.word
    let readCount ← Payload.word
    let writeReference ← Payload.word
    let count ← Payload.word
    let bytes ← Payload.octet
    Quantity.registerWrite.check count.toNat Limits.exchangeRegisters
    checkByteCount bytes.toNat (count.toNat * 2)
    let values ← Payload.words count.toNat
    pure (readWriteMultipleRegisters readReference readCount writeReference values)
  | .readFifoQueue => do
    let reference ← Payload.word
    pure (readFifoQueue reference)

/-- The request that octets stand for.  A function code that is not implemented
is no error: a slave has to answer it. -/
def decode (pdu : List UInt8) : Except Error Request :=
  match pdu with
  | [] => .error (.protocol .emptyRequest)
  | code :: payload =>
    match Function.ofCode? code with
    | none => .ok (unsupported code payload)
    | some function => do
      let request ← Payload.run (parse function) code payload
      request.validate
      pure request

end Request

end Modbus
