import Modbus.Directory
import Modbus.Image.Record
import Modbus.Image.Table
import Modbus.Octets
import Modbus.Request

/-!
# The process image of a unit

An image is the memory that a unit shows to its masters: two tables of bits,
two tables of registers, files and queues.  The tables and the files name cells,
and the cells stand beside them, so one cell can be placed at several offsets
and in several tables.

A register may be watched.  Whoever watches it is told after every write and
may look at registers and act on them in turn: write them, and have them watched
or not watched any more.  A write of an observer is told to everyone it
concerns before the next observer of the first write learns anything.
-/

namespace Modbus

/-! ## Acting on registers -/

/-- Something that is done to a register or to those who watch it.  Registers are named by
their cells and observers by their numbers. -/
inductive Act where
  | write (cell : Nat) (value : UInt16)
  | writeShort (cell : Nat) (value : Int16)
  | writeOctets (cell : Nat) (octets : List UInt8)
  | update (cell : Nat) (change : UInt16 → UInt16)
  | watch (cell number : Nat)
  | unwatch (cell number : Nat)
  | count (cell : Nat)
  | drop (number : Nat)

/-- What comes of an act. -/
inductive Reply where
  | done
  | refused (fault : ArgumentFault)
  | previous (value : UInt16)
  | watchers (count : Nat)
  deriving DecidableEq, Repr, Inhabited

/-- What can be looked up in an image: the cell at an offset of a table, and the value of a
register. -/
structure View where
  cell? : TableKind → Nat → Option Nat
  value : Nat → UInt16

/-- What somebody does who looks at registers and acts on them, one thing after another. -/
inductive Program where
  | done
  | look (next : View → Program)
  | act (act : Act) (next : Reply → Program)

/-- Writes holding registers by their offsets; where there is none, nothing is written. -/
def Program.writes : List (Nat × UInt16) → Program
  | [] => .done
  | (offset, value) :: rest =>
    .look fun view =>
      match view.cell? .holdingRegister offset with
      | some cell => .act (.write cell value) fun _ => writes rest
      | none => writes rest

/-- Someone who can watch registers. -/
structure Watcher where
  /-- What it does when it is told of a write: the cell and the value that it sees there are
  given. -/
  react : Nat → UInt16 → Program
  /-- Whether its owner still keeps it. -/
  owned : Bool

/-- An observer that watches registers and, for a value that it sees, writes holding registers. -/
structure Observer where
  react : UInt16 → List (Nat × UInt16)

def Observer.watcher (observer : Observer) : Watcher where
  react _ seen := .writes (observer.react seen)
  owned := true

/-- An observer was told of a write, and this is the value it saw. -/
structure Notice where
  observer : Nat
  value : UInt16
  deriving DecidableEq, Repr, Inhabited

/-- A register, and by number the observers that watch it, in the order in
which they were registered. -/
structure Register where
  value : UInt16
  watchers : List Nat
  deriving DecidableEq, Repr, Inhabited

/-- The text of a register, such as a log shows it. -/
def Register.toText (register : Register) : String :=
  s!"Register \x7b value: {register.value.toNat}, observers: {register.watchers.length} \x7d"

structure Image where
  unit : UInt8
  coils : Table Nat
  discreteInputs : Table Nat
  inputRegisters : Table Nat
  holdingRegisters : Table Nat
  /-- The files, of which a register is the cell that it is. -/
  fileCells : Directory (RecordFile Nat)
  fifos : Directory Fifo
  /-- The bits that the bit tables name. -/
  bits : Array Bool
  /-- The registers that the register tables and the files name. -/
  registers : Array Register
  /-- How deep writes of observers may nest. -/
  nesting : Nat
  /-- The observers by number. -/
  observers : Array Watcher
  /-- The observers that notifications under way have still to tell, the next one first.  They
  do not go before. -/
  held : List Nat
  /-- What observers were told, the oldest first. -/
  notices : Array Notice
  /-- Whether writes of observers ever nested deeper than they may. -/
  overrun : Bool

namespace Image

def empty (unit : UInt8) : Image where
  unit := unit
  coils := .empty .coil
  discreteInputs := .empty .discreteInput
  inputRegisters := .empty .inputRegister
  holdingRegisters := .empty .holdingRegister
  fileCells := .empty
  fifos := .empty
  bits := #[]
  registers := #[]
  nesting := 1000
  observers := #[]
  held := []
  notices := #[]
  overrun := false

instance : Inhabited Image := ⟨empty 0⟩

def table (image : Image) : TableKind → Table Nat
  | .coil => image.coils
  | .discreteInput => image.discreteInputs
  | .inputRegister => image.inputRegisters
  | .holdingRegister => image.holdingRegisters

def changeTable (image : Image) (kind : TableKind) (change : Table Nat → Table Nat) : Image :=
  match kind with
  | .coil => { image with coils := change image.coils }
  | .discreteInput => { image with discreteInputs := change image.discreteInputs }
  | .inputRegister => { image with inputRegisters := change image.inputRegisters }
  | .holdingRegister => { image with holdingRegisters := change image.holdingRegisters }

/-! ## Cells -/

def newBit (image : Image) (value : Bool) : Nat × Image :=
  (image.bits.size, { image with bits := image.bits.push value })

/-- A new register that nobody watches, and the cell that it is. -/
def newRegister (image : Image) (value : UInt16) : Nat × Image :=
  (image.registers.size, { image with registers := image.registers.push ⟨value, []⟩ })

/-- New registers that nobody watches, one for each value, and the cells that they are. -/
def newRegisters (image : Image) (values : List UInt16) : List Nat × Image :=
  (List.range' image.registers.size values.length,
    { image with registers := image.registers ++ values.map (Register.mk · []) })

/-- The same for a row of records. -/
def newRecords (image : Image) : List (List UInt16) → List (List Nat) × Image
  | [] => ([], image)
  | values :: rest =>
    let (cells, image) := image.newRegisters values
    let (others, image) := image.newRecords rest
    (cells :: others, image)

def bit (image : Image) (cell : Nat) : Bool := image.bits.getD cell false

def register (image : Image) (cell : Nat) : Register := image.registers.getD cell ⟨0, []⟩

def value (image : Image) (cell : Nat) : UInt16 := (image.register cell).value

def setBit (image : Image) (cell : Nat) (value : Bool) : Image :=
  { image with bits := image.bits.setIfInBounds cell value }

def setRegister (image : Image) (cell : Nat) (register : Register) : Image :=
  { image with registers := image.registers.setIfInBounds cell register }

def add (image : Image) (kind : TableKind) (cell : Nat) : Image :=
  image.changeTable kind (·.add cell)

def place (image : Image) (kind : TableKind) (offset cell : Nat) : Image :=
  image.changeTable kind (·.set offset cell)

def remove (image : Image) (kind : TableKind) (offset : Nat) : Image :=
  image.changeTable kind (·.remove offset)

/-- `count` holding registers with value zero behind those that are there. -/
def addCleared (image : Image) (count : Nat) : Image :=
  count.repeat (fun image =>
    let (cell, image) := image.newRegister 0
    image.add .holdingRegister cell) image

/-- The image of a unit with `count` holding registers of value zero. -/
def cleared (unit : UInt8) (count : Nat) : Image :=
  (empty unit).addCleared count

/-! ## Observers -/

def newWatcher (image : Image) (watcher : Watcher) : Nat × Image :=
  (image.observers.size, { image with observers := image.observers.push watcher })

def newObserver (image : Image) (observer : Observer) : Nat × Image :=
  image.newWatcher observer.watcher

/-- An observer that has not gone: its owner keeps it, or it is still to be told of something. -/
def observer? (image : Image) (number : Nat) : Option Watcher :=
  image.observers[number]?.filter fun watcher => watcher.owned || image.held.contains number

/-- An observer loses its owner: after what is under way it is not told anything any more. -/
def dropObserver (image : Image) (number : Nat) : Image :=
  { image with
    observers := image.observers.modify number fun watcher => { watcher with owned := false } }

def watch (image : Image) (cell number : Nat) : Image :=
  let register := image.register cell
  image.setRegister cell { register with watchers := register.watchers ++ [number] }

/-- An observer does not watch a register any more. -/
def unwatch (image : Image) (cell number : Nat) : Image :=
  let register := image.register cell
  image.setRegister cell { register with watchers := register.watchers.filter (· != number) }

/-- The watchers of a register that have not gone. -/
def liveWatchers (image : Image) (cell : Nat) : List Nat :=
  (image.register cell).watchers.filter fun number => (image.observer? number).isSome

def forgetGone (image : Image) (cell : Nat) : Image :=
  image.setRegister cell { image.register cell with watchers := image.liveWatchers cell }

/-- How many observers watch a register; those that have gone are forgotten. -/
def watcherCount (image : Image) (cell : Nat) : Nat × Image :=
  ((image.liveWatchers cell).length, image.forgetGone cell)

/-- Gives a register a value and tells nobody. -/
def store (image : Image) (cell : Nat) (value : UInt16) : Image :=
  image.setRegister cell { image.register cell with value := value }

/-! ## Acts and notifications -/

def view (image : Image) : View where
  cell? kind offset := (image.table kind).get? offset
  value := image.value

/-- Carries out an act; `write` carries out the write that it may be. -/
def actWith (write : Image → Nat → UInt16 → Image) (image : Image) : Act → Reply × Image
  | .write cell value => (.done, write image cell value)
  | .writeShort cell value => (.done, write image cell value.toUInt16)
  | .writeOctets cell octets =>
    match octets with
    | high :: low :: _ => (.done, write image cell (Word.ofOctets high low))
    | _ => (.refused (.registerOctets octets.length), image)
  | .update cell change =>
    (.previous (image.value cell), write image cell (change (image.value cell)))
  | .watch cell number => (.done, image.watch cell number)
  | .unwatch cell number => (.done, image.unwatch cell number)
  | .count cell =>
    let (count, image) := image.watcherCount cell
    (.watchers count, image)
  | .drop number => (.done, image.dropObserver number)

/-- Carries out a program; `write` carries out its writes. -/
def runWith (write : Image → Nat → UInt16 → Image) : Program → Image → Image
  | .done, image => image
  | .look next, image => runWith write (next image.view) image
  | .act act next, image =>
    let (reply, image) := actWith write image act
    runWith write (next reply) image

/-- Observers that are to be told do not go before they have been. -/
def hold (image : Image) (numbers : List Nat) : Image :=
  { image with held := numbers ++ image.held }

/-- The next one has been told. -/
def release (image : Image) : Image :=
  { image with held := image.held.tail }

/-- Tells one observer of a write to a register; `write` carries out what it writes. -/
def tell (write : Image → Nat → UInt16 → Image) (cell : Nat) (image : Image) (number : Nat) :
    Image :=
  match image.observer? number with
  | none => image
  | some watcher =>
    let seen := image.value cell
    let told := { image with notices := image.notices.push ⟨number, seen⟩ }
    runWith write (watcher.react cell seen) told

/-- Gives a register a value and tells those who watch it, in the order in which they
were registered.  Writes of observers may nest `depth` deep; below that, nobody is told. -/
def writeWithin (depth : Nat) (image : Image) (cell : Nat) (value : UInt16) : Image :=
  let stored := (image.store cell value).forgetGone cell
  match depth with
  | 0 => { stored with overrun := stored.overrun || !(stored.liveWatchers cell).isEmpty }
  | depth + 1 =>
    let numbers := stored.liveWatchers cell
    numbers.foldl (fun image number => (tell (writeWithin depth) cell image number).release)
      (stored.hold numbers)

def write (image : Image) (cell : Nat) (value : UInt16) : Image :=
  writeWithin image.nesting image cell value

def writeAll (image : Image) (cells : List Nat) (values : List UInt16) : Image :=
  (cells.zip values).foldl (fun image (cell, value) => image.write cell value) image

/-- Changes the value of a register in one step and tells those who watch it once. -/
def update (image : Image) (cell : Nat) (change : UInt16 → UInt16) : Image :=
  image.write cell (change (image.value cell))

/-- Gives a register the value of the first two octets. -/
def writeOctets (image : Image) (cell : Nat) : List UInt8 → Except ArgumentFault Image
  | high :: low :: _ => .ok (image.write cell (Word.ofOctets high low))
  | octets => .error (.registerOctets octets.length)

/-- Carries out a program. -/
def run (program : Program) (image : Image) : Image :=
  runWith (writeWithin image.nesting) program image

/-! ## Files and queues -/

/-- Puts a file of new registers that have the given values under its number. -/
def addFile (image : Image) (file : RecordFile) : Image :=
  let (records, image) := image.newRecords file.records
  { image with fileCells := image.fileCells.insert file.number.toNat ⟨file.number, records⟩ }

def removeFile (image : Image) (number : UInt16) : Image :=
  { image with fileCells := image.fileCells.erase number.toNat }

/-- The files by number, with the values of their registers. -/
def files (image : Image) : Directory RecordFile :=
  image.fileCells.map (RecordFile.map image.value)

def cellFile (image : Image) (number : UInt16) : Except AddressFault (RecordFile Nat) :=
  match image.fileCells.get? number.toNat with
  | some file => .ok file
  | none => .error (.noFile number)

/-- A file with the values of its registers. -/
def file (image : Image) (number : UInt16) : Except AddressFault RecordFile := do
  let file ← image.cellFile number
  pure (file.map image.value)

/-- Writes the first registers of a record of a file, which has to be long enough. -/
def writeFile (image : Image) (file : RecordFile Nat) (data : RecordData) :
    Except AddressFault Image := do
  let cells ← file.room data.record data.values.length
  pure (image.writeAll cells data.values)

def writeRecord (image : Image) (data : RecordData) : Except AddressFault Image := do
  let file ← image.cellFile data.file
  image.writeFile file data

/-- Puts a queue at an address, in place of one that is there. -/
def setFifo (image : Image) (address : UInt16) (fifo : Fifo) : Image :=
  { image with fifos := image.fifos.insert address.toNat fifo }

def removeFifo (image : Image) (address : UInt16) : Image :=
  { image with fifos := image.fifos.erase address.toNat }

def fifo (image : Image) (address : UInt16) : Except AddressFault Fifo :=
  match image.fifos.get? address.toNat with
  | some fifo => .ok fifo
  | none => .error (.noFifo address)

/-! ## What an image holds -/

/-- Places cleared or set bits at their offsets; a gap leaves what is there. -/
def placeBits (image : Image) (kind : TableKind) (row : List (Option Bool)) : Image :=
  row.zipIdx.foldl (fun image (value, offset) =>
    match value with
    | none => image
    | some value =>
      let (cell, image) := image.newBit value
      image.place kind offset cell) image

/-- Places registers with the given values at their offsets; a gap leaves what is there. -/
def placeValues (image : Image) (kind : TableKind) (row : List (Option UInt16)) : Image :=
  row.zipIdx.foldl (fun image (value, offset) =>
    match value with
    | none => image
    | some value =>
      let (cell, image) := image.newRegister value
      image.place kind offset cell) image

/-- The bits of a table by offset; a gap has none. -/
def bitRow (image : Image) (kind : TableKind) : List (Option Bool) :=
  (image.table kind).places.toList.map (Option.map image.bit)

/-- The values of a table by offset; a gap has none. -/
def valueRow (image : Image) (kind : TableKind) : List (Option UInt16) :=
  (image.table kind).places.toList.map (Option.map image.value)

end Image

end Modbus
