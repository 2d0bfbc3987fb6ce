import Modbus.Error
import Modbus.Limits

/-!
# Files and queues

A file is a row of records, and a record a row of registers; how many there
are of either is fixed when the file is made.  A queue keeps the most recent
values that were put into it.
-/

namespace Modbus

/-- Records of registers, under the number of the file.  The registers stand there
by their values, or by the cells of an image that hold the values. -/
structure RecordFile (α : Type := UInt16) where
  number : UInt16
  records : List (List α)
  deriving DecidableEq, Repr, Inhabited

namespace RecordFile

variable {α β : Type}

def cleared (number : UInt16) (count size : Nat) : RecordFile :=
  ⟨number, List.replicate count (List.replicate size 0)⟩

def map (change : α → β) (file : RecordFile α) : RecordFile β :=
  ⟨file.number, file.records.map (List.map change)⟩

/-- The registers of a record. -/
def record (file : RecordFile α) (number : UInt16) : Except AddressFault (List α) :=
  match file.records[number.toNat]? with
  | some registers => .ok registers
  | none => .error (.noRecord file.number number file.records.length)

def register (registers : List α) (number : UInt16) (index : Nat) : Except AddressFault α :=
  match registers[index]? with
  | some register => .ok register
  | none => .error (.noRegister number index registers.length)

/-- The first `count` registers of a record. -/
def read (file : RecordFile α) (number : UInt16) (count : Nat) :
    Except AddressFault (List α) := do
  let registers ← file.record number
  if registers.length < count then
    .error (.noRegister number registers.length registers.length)
  else
    .ok (registers.take count)

/-- The registers of a record that `count` values go to. -/
def room (file : RecordFile α) (number : UInt16) (count : Nat) :
    Except AddressFault (List α) := do
  let registers ← file.record number
  if registers.length < count then
    .error (.recordSize number registers.length count)
  else
    .ok (registers.take count)

/-- Values in front, and behind them what a record held there. -/
def overwrite (values registers : List α) : List α :=
  values ++ registers.drop values.length

/-- Writes the first registers of a record, which has to be long enough. -/
def write (file : RecordFile) (number : UInt16) (values : List UInt16) :
    Except AddressFault RecordFile := do
  let _ ← file.room number values.length
  .ok { file with records := file.records.modify number.toNat (overwrite values) }

end RecordFile

/-- The most recent values, the oldest first, and no more than a queue may hold. -/
structure Fifo where
  values : List UInt16
  bounded : values.length ≤ Limits.fifo
  deriving DecidableEq, Repr

namespace Fifo

/-- The queue without values. -/
def empty : Fifo := ⟨[], Nat.zero_le _⟩

instance : Inhabited Fifo := ⟨empty⟩

/-- What a queue keeps when another value comes: a full queue loses its oldest one. -/
def kept (values : List UInt16) : List UInt16 :=
  if values.length = Limits.fifo then values.drop 1 else values

theorem length_kept {values : List UInt16} (hvalues : values.length ≤ Limits.fifo) :
    (kept values).length < Limits.fifo := by
  have hroom : 0 < Limits.fifo := by decide
  unfold kept
  split
  · rw [List.length_drop]
    omega
  · omega

/-- Puts a value behind the others. -/
def push (fifo : Fifo) (value : UInt16) : Fifo :=
  ⟨kept fifo.values ++ [value], by
    rw [List.length_append]
    exact length_kept fifo.bounded⟩

/-- Puts values into a queue, one after another. -/
def pushAll (fifo : Fifo) (values : List UInt16) : Fifo :=
  values.foldl push fifo

end Fifo

end Modbus
