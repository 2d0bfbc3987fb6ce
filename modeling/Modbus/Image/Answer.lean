import Modbus.Image.Basic
import Modbus.Response

/-!
# Answering requests

A request reads or writes the image of its unit.  All cells that it names are
looked up before the first one is written, so a request that is refused leaves
the image as it was.
-/

namespace Modbus

/-- Work on an image that may be refused. -/
abbrev Access := ExceptT Error (StateM Image)

namespace Access

/-- Looks something up in the image. -/
def resolve {α : Type} (find : Image → Except AddressFault α) : Access α := do
  match find (← get) with
  | .ok found => pure found
  | .error fault => throw (.illegalAddress fault)

def cells (kind : TableKind) (reference : UInt16) (count : Nat) : Access (List Nat) :=
  resolve fun image => (image.table kind).range reference.toNat count

def cell (kind : TableKind) (reference : UInt16) : Access Nat :=
  resolve fun image => (image.table kind).get reference.toNat

def bits (cells : List Nat) : Access (List Bool) := do
  pure (cells.map (← get).bit)

def values (cells : List Nat) : Access (List UInt16) := do
  pure (cells.map (← get).value)

end Access

namespace Image

def setBits (image : Image) (cells : List Nat) (values : List Bool) : Image :=
  (cells.zip values).foldl (fun image (cell, value) => image.setBit cell value) image

/-- The file of a record, which has to have room for the values. -/
def target (image : Image) (data : RecordData) : Except AddressFault (RecordFile Nat) := do
  let file ← image.cellFile data.file
  let cells ← file.record data.record
  if cells.length < data.values.length then
    .error (.fileRecordSize data.file data.record cells.length data.values.length)
  else
    .ok file

end Image

namespace Request

def apply : Request → Access Response
  | readCoils reference count => do
    let cells ← Access.cells .coil reference count.toNat
    pure (.readCoils (← Access.bits cells))
  | readDiscreteInputs reference count => do
    let cells ← Access.cells .discreteInput reference count.toNat
    pure (.readDiscreteInputs (← Access.bits cells))
  | readHoldingRegisters reference count => do
    let cells ← Access.cells .holdingRegister reference count.toNat
    pure (.readHoldingRegisters (← Access.values cells))
  | readInputRegisters reference count => do
    let cells ← Access.cells .inputRegister reference count.toNat
    pure (.readInputRegisters (← Access.values cells))
  | writeSingleCoil reference value => do
    let cell ← Access.cell .coil reference
    modify fun image => image.setBit cell value
    pure (.writeSingleCoil reference value)
  | writeSingleRegister reference value => do
    let cell ← Access.cell .holdingRegister reference
    modify fun image => image.write cell value
    pure (.writeSingleRegister reference value)
  | writeMultipleCoils reference values => do
    let cells ← Access.cells .coil reference values.length
    modify fun image => image.setBits cells values
    pure (.writeMultipleCoils reference (UInt16.ofNat values.length))
  | writeMultipleRegisters reference values => do
    let cells ← Access.cells .holdingRegister reference values.length
    modify fun image => image.writeAll cells values
    pure (.writeMultipleRegisters reference (UInt16.ofNat values.length))
  | readFileRecord records => do
    let read ← records.mapM fun span => Access.resolve fun image => do
      let file ← image.file span.file
      file.read span.record span.length.toNat
    pure (.readFileRecord read)
  | writeFileRecord records => do
    let targets ← records.mapM fun data => Access.resolve fun image => image.target data
    (targets.zip records).forM fun (file, data) => do
      let written ← Access.resolve fun image => image.writeFile file data
      set written
    pure (.writeFileRecord records)
  | maskWriteRegister reference andMask orMask => do
    let cell ← Access.cell .holdingRegister reference
    modify fun image =>
      image.update cell fun value => (value &&& andMask) ||| (orMask &&& ~~~andMask)
    pure (.maskWriteRegister reference andMask orMask)
  | readWriteMultipleRegisters readReference readCount writeReference values => do
    let targets ← Access.cells .holdingRegister writeReference values.length
    let cells ← Access.cells .holdingRegister readReference readCount.toNat
    modify fun image => image.writeAll targets values
    pure (.readWriteMultipleRegisters (← Access.values cells))
  | readFifoQueue reference => do
    let fifo ← Access.resolve fun image => image.fifo reference
    pure (.readFifoQueue fifo.values)
  | unsupported code _ => throw (.ofException code .illegalFunction)

end Request

namespace Image

/-- What a request does to an image: its outcome and the image afterwards. -/
def apply (image : Image) (request : Request) : Except Error Response × Image :=
  request.apply image

/-- Answers a request; a refusal becomes an exception response. -/
def respond (image : Image) (request : Request) : Response × Image :=
  match image.apply request with
  | (.ok response, after) => (response, after)
  | (.error error, after) =>
    (.refusal request.functionCode (error.exception?.getD .slaveDeviceFailure), after)

end Image

end Modbus
