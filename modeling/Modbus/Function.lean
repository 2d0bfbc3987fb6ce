/-!
# Functions of the protocol

The thirteen functions a slave implements, each with its code on the wire.
A function code with its top bit set marks an exception response.
-/

namespace Modbus

/-- What a request asks for. -/
inductive Function where
  | readCoils
  | readDiscreteInputs
  | readHoldingRegisters
  | readInputRegisters
  | writeSingleCoil
  | writeSingleRegister
  | writeMultipleCoils
  | writeMultipleRegisters
  | readFileRecord
  | writeFileRecord
  | maskWriteRegister
  | readWriteMultipleRegisters
  | readFifoQueue
  deriving DecidableEq, Repr, Inhabited

namespace Function

/-- Every function, by ascending code. -/
def all : List Function :=
  [readCoils, readDiscreteInputs, readHoldingRegisters, readInputRegisters, writeSingleCoil,
   writeSingleRegister, writeMultipleCoils, writeMultipleRegisters, readFileRecord,
   writeFileRecord, maskWriteRegister, readWriteMultipleRegisters, readFifoQueue]

def code : Function → UInt8
  | readCoils => 0x01
  | readDiscreteInputs => 0x02
  | readHoldingRegisters => 0x03
  | readInputRegisters => 0x04
  | writeSingleCoil => 0x05
  | writeSingleRegister => 0x06
  | writeMultipleCoils => 0x0F
  | writeMultipleRegisters => 0x10
  | readFileRecord => 0x14
  | writeFileRecord => 0x15
  | maskWriteRegister => 0x16
  | readWriteMultipleRegisters => 0x17
  | readFifoQueue => 0x18

/-- The function with the given code, if it is an implemented one. -/
def ofCode? (code : UInt8) : Option Function :=
  all.find? fun function => function.code == code

def name : Function → String
  | readCoils => "Read Coils"
  | readDiscreteInputs => "Read Discrete Inputs"
  | readHoldingRegisters => "Read Holding Registers"
  | readInputRegisters => "Read Input Registers"
  | writeSingleCoil => "Write Single Coil"
  | writeSingleRegister => "Write Single Register"
  | writeMultipleCoils => "Write Multiple Coils"
  | writeMultipleRegisters => "Write Multiple Registers"
  | readFileRecord => "Read File Record"
  | writeFileRecord => "Write File Record"
  | maskWriteRegister => "Mask Write Register"
  | readWriteMultipleRegisters => "Read/Write Multiple Registers"
  | readFifoQueue => "Read FIFO Queue"

/-- What a master calls the operation. -/
def operation : Function → String
  | readCoils => "read coils"
  | readDiscreteInputs => "read discrete inputs"
  | readHoldingRegisters => "read holding registers"
  | readInputRegisters => "read input registers"
  | writeSingleCoil => "write coil"
  | writeSingleRegister => "write register"
  | writeMultipleCoils => "write coils"
  | writeMultipleRegisters => "write registers"
  | readFileRecord => "read file record"
  | writeFileRecord => "write file record"
  | maskWriteRegister => "mask write register"
  | readWriteMultipleRegisters => "read/write registers"
  | readFifoQueue => "read FIFO queue"

theorem ofCode?_code (function : Function) : ofCode? function.code = some function := by
  cases function <;> rfl

theorem code_of_ofCode? {code : UInt8} {function : Function}
    (hcode : ofCode? code = some function) :
    function.code = code := by
  simpa using List.find?_some hcode

end Function

/-- The bit of a function code that marks an exception response. -/
def exceptionBit : UInt8 := 0x80

/-- A function code without its exception bit. -/
def plainCode (code : UInt8) : UInt8 := code &&& 0x7F

def exceptionCode (code : UInt8) : UInt8 := code ||| exceptionBit

def isExceptionCode (code : UInt8) : Bool := code &&& exceptionBit != 0

/-- The name of the function behind a code; the exception bit does not matter. -/
def functionName (code : UInt8) : String :=
  match Function.ofCode? (plainCode code) with
  | some function => function.name
  | none => "Unknown Function"

end Modbus
