import Modbus.Connection
import Modbus.Limits

/-!
# Transactions

A transaction brings one request to its answer.  An attempt opens the
connection if it is not open and exchanges the request.  An error that may pass
leads to another attempt, and an answer with another identifier does too.  All
attempts carry the same identifier, and a valid answer moves the counter on, so
that answers to what was asked before it can be told from the right one.
-/

namespace Modbus

/-- The identifier that the next request will carry. -/
structure Counter where
  next : UInt16
  deriving DecidableEq, Repr, Inhabited

namespace Counter

/-- The largest identifier. -/
def largest : UInt16 := UInt16.ofNat Limits.transactionId

/-- The counter that starts at a value, or at the largest identifier if that is less. -/
def startingAt (value : UInt16) : Counter := ⟨min value largest⟩

/-- Moves on to the next identifier; the largest one is followed by zero. -/
def advance (counter : Counter) : Counter :=
  if largest ≤ counter.next then ⟨0⟩ else ⟨counter.next + 1⟩

end Counter

/-- How a master carries out transactions. -/
structure Policy where
  /-- Most attempts, at least one. -/
  attempts : Nat
  /-- How long to wait before another attempt, in nanoseconds. -/
  retryDelay : Nat
  /-- Whether an answer has to carry the identifier of its request. -/
  checkValidity : Bool
  /-- Whether the connection is closed after every transaction. -/
  reconnecting : Bool
  deriving DecidableEq, Repr, Inhabited

/-- Five attempts, half a second apart, with checked answers on a connection that stays open. -/
def Policy.default : Policy where
  attempts := 5
  retryDelay := 500000000
  checkValidity := true
  reconnecting := false

/-- What came of one attempt. -/
inductive Verdict where
  | accepted (response : Message Response)
  | final (error : Error)
  /-- Another attempt may help. -/
  | again (error : Error)
  deriving DecidableEq, Repr, Inhabited

namespace Transaction

variable {σ : Type}

/-- A request with an identifier. -/
def stamp (request : Message Request) (transactionId : UInt16) : Message Request :=
  { request with header := { request.header with transactionId := transactionId } }

/-- Opens the connection if it is not open and exchanges the request. -/
def attempt (connection : Connection σ) (request : Message Request) (state : σ) :
    Except Error (Message Response) × σ :=
  if connection.connected state then
    connection.exchange request state
  else
    match connection.connect state with
    | (.ok _, state) => connection.exchange request state
    | (.error error, state) => (.error error, state)

/-- Whether an answer is accepted as the one to the request. -/
def isValid (policy : Policy) (headless : Bool) (request : Message Request)
    (response : Message Response) : Bool :=
  headless || !policy.checkValidity
    || request.header.transactionId == response.header.transactionId

/-- Judges what came of an attempt. -/
def judge (policy : Policy) (headless : Bool) (request : Message Request) :
    Except Error (Message Response) → Verdict
  | .ok response =>
    match response.body with
    | .exception code reason => .final (.ofException code reason)
    | _ =>
      if isValid policy headless request response then
        .accepted response
      else
        .again <| .protocol <|
          .transactionId response.header.transactionId request.header.transactionId
  | .error error => if error.isRetryable then .again error else .final error

def advanced (policy : Policy) (counter : Counter) : Counter :=
  if policy.checkValidity then counter.advance else counter

def recover (connection : Connection σ) (error : Error) (state : σ) : σ :=
  if error.needsReconnect then connection.close state else state

/-- Attempts until one is decisive: the next one, which comes after `made` others, and
up to `spare` more. -/
def attempts (policy : Policy) (connection : Connection σ) (request : Message Request)
    (spare made : Nat) (state : σ) : Except Error (Message Response) × σ :=
  let (outcome, state) := attempt connection request state
  match judge policy (connection.headless state) request outcome with
  | .accepted response => (.ok response, state)
  | .final error => (.error error, state)
  | .again error =>
    let state := recover connection error state
    match spare with
    | 0 => (.error (.retriesExhausted (made + 1) error), state)
    | spare + 1 => attempts policy connection request spare (made + 1) state

def execute (policy : Policy) (connection : Connection σ) (request : Message Request)
    (counter : Counter) (state : σ) : Except Error (Message Response) × Counter × σ :=
  let stamped := stamp request counter.next
  let (outcome, state) := attempts policy connection stamped (policy.attempts - 1) 0 state
  let counter := match outcome with
    | .ok _ => advanced policy counter
    | .error _ => counter
  (outcome, counter, if policy.reconnecting then connection.close state else state)

end Transaction

end Modbus
