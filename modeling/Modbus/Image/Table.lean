import Modbus.Bound
import Modbus.Error

/-!
# Tables

A table holds cells at offsets.  Cells that are added one after another stand
densely from offset zero; a cell that is put beyond the end leaves a gap, and
every access that touches a gap is refused.  A table never ends in a gap.
-/

namespace Modbus

/-- Cells at offsets, with gaps between them. -/
structure Table (α : Type) where
  kind : TableKind
  places : Array (Option α)
  deriving DecidableEq, Repr

namespace Table

variable {α : Type}

/-- The table without cells. -/
def empty (kind : TableKind) : Table α := ⟨kind, #[]⟩

/-- One more than the largest offset with a cell. -/
def size (table : Table α) : Nat := table.places.size

/-- The cell at an offset, if there is one. -/
def get? (table : Table α) (offset : Nat) : Option α :=
  table.places[offset]?.join

/-- Puts a cell behind the last one. -/
def add (table : Table α) (cell : α) : Table α :=
  { table with places := table.places.push (some cell) }

def set (table : Table α) (offset : Nat) (cell : α) : Table α :=
  if offset < table.size then
    { table with places := table.places.setIfInBounds offset (some cell) }
  else
    let gap := Array.replicate (offset - table.size) none
    { table with places := (table.places ++ gap).push (some cell) }

/-- Takes the cell at an offset away, and the gap at the end that this may leave. -/
def remove (table : Table α) (offset : Nat) : Table α :=
  { table with
    places := (table.places.setIfInBounds offset none).popWhile Option.isNone }

/-- The cell at an offset. -/
def get (table : Table α) (offset : Nat) : Except AddressFault α :=
  match table.get? offset with
  | some cell => .ok cell
  | none => .error (.vacant table.kind offset)

def lastOffset : Nat := Bound.most64

/-- Where a range ends: behind its last offset, and never beyond the last offset of all. -/
def rangeEnd (offset count : Nat) : Nat :=
  min (offset + count) lastOffset

/-- The cells at `count` offsets from `offset` on, all of which have to be there. -/
def range (table : Table α) (offset count : Nat) : Except AddressFault (List α) :=
  if table.size < rangeEnd offset count then
    .error (.outside table.kind offset (rangeEnd offset count) table.size)
  else
    (List.range' offset count).mapM table.get

end Table

end Modbus
