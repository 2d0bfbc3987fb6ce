import Modbus.Transaction

/-!
# Masters

A master sends valid requests only and gives back what it asked for: so many
bits, so many registers, or the success of a write.  Other data in an answer is
an error.
-/

namespace Modbus

/-- What a master gives back for a request. -/
inductive Answer where
  | bits (values : List Bool)
  | registers (values : List UInt16)
  | coil (value : Bool)
  | records (values : List (List UInt16))
  /-- A write succeeded. -/
  | done
  /-- The answer to a request of a function that is not implemented. -/
  | response (response : Response)
  deriving DecidableEq, Repr, Inhabited

namespace Answer

/-- Registers, which have to be as many as were requested. -/
def exactRegisters (values : List UInt16) (count : Nat) : Except Error Answer :=
  if values.length = count then
    .ok (.registers values)
  else
    .error (.protocol (.registerCount values.length count))

/-- Bits, which have to be as many as were requested, but may fill up the last octet. -/
def exactBits (values : List Bool) (count : Nat) : Except Error Answer :=
  if values.length < count ∨ (count + 7) / 8 * 8 < values.length then
    .error (.protocol (.bitCount values.length count))
  else
    .ok (.bits (values.take count))

/-- The error for an answer that does not fit the request. -/
def unexpected (function : Function) (response : Response) : Except Error Answer :=
  .error (.protocol (.unexpectedResponse function response.functionCode))

end Answer

def Request.interpret (request : Request) (response : Response) : Except Error Answer :=
  match request, response with
  | readCoils _ count, .readCoils values => Answer.exactBits values count.toNat
  | readDiscreteInputs _ count, .readDiscreteInputs values => Answer.exactBits values count.toNat
  | readHoldingRegisters _ count, .readHoldingRegisters values =>
    Answer.exactRegisters values count.toNat
  | readInputRegisters _ count, .readInputRegisters values =>
    Answer.exactRegisters values count.toNat
  | writeSingleCoil _ _, .writeSingleCoil _ value => .ok (.coil value)
  | writeSingleRegister _ _, .writeSingleRegister _ _ => .ok .done
  | writeMultipleCoils _ _, .writeMultipleCoils _ _ => .ok .done
  | writeMultipleRegisters _ _, .writeMultipleRegisters _ _ => .ok .done
  | readFileRecord records, .readFileRecord values =>
    if values.length = records.length then .ok (.records values)
    else Answer.unexpected .readFileRecord response
  | writeFileRecord _, .writeFileRecord _ => .ok .done
  | maskWriteRegister _ _ _, .maskWriteRegister _ _ _ => .ok .done
  | readWriteMultipleRegisters _ readCount _ _, .readWriteMultipleRegisters values =>
    Answer.exactRegisters values readCount.toNat
  | readFifoQueue _, .readFifoQueue values => .ok (.registers values)
  | request, response =>
    match request.function? with
    | some function => Answer.unexpected function response
    | none => .ok (.response response)

/-- A master: a connection in some state, and the counter it shares with other masters. -/
structure Master (σ : Type) where
  policy : Policy
  connection : Connection σ
  state : σ
  counter : Counter

namespace Master

variable {σ : Type}

/-- Opens the connection. -/
def connect (master : Master σ) : Except Error Unit × Master σ :=
  let (outcome, state) := master.connection.connect master.state
  (outcome, { master with state := state })

def disconnect (master : Master σ) : Master σ :=
  { master with state := master.connection.close master.state }

/-- Whether the connection is open. -/
def isConnected (master : Master σ) : Bool :=
  master.connection.connected master.state

def execute (master : Master σ) (request : Message Request) :
    Except Error (Message Response) × Master σ :=
  match request.body.validate with
  | .error error => (.error error, master)
  | .ok _ =>
    let (outcome, counter, state) :=
      Transaction.execute master.policy master.connection request master.counter master.state
    (outcome, { master with counter := counter, state := state })

/-- Sends a request to a unit and says what the answer means. -/
def call (master : Master σ) (unit : UInt8) (request : Request) :
    Except Error Answer × Master σ :=
  let (outcome, master) := master.execute ⟨⟨0, 0, unit⟩, request⟩
  match outcome with
  | .ok message => (request.interpret message.body, master)
  | .error error => (.error error, master)

end Master

end Modbus
