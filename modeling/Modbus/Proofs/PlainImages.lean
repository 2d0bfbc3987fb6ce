import Mathlib.Tactic
import Modbus.Proofs.ReplySize

/-!
# Images and what they show

An image names cells, and what it shows at a place is what the cell there holds.  If
every cell is placed once and nobody watches it, the cells themselves do not matter:
what is written at some places is shown at these places, and everything else stays.
-/

namespace Modbus

/-- What an image shows: bits and registers by table and offset, records by file and number, the
values of queues by address. -/
@[ext]
structure Contents where
  coils : Nat → Option Bool
  discreteInputs : Nat → Option Bool
  inputRegisters : Nat → Option UInt16
  holdingRegisters : Nat → Option UInt16
  records : Nat → Nat → Option (List UInt16)
  fifos : Nat → Option (List UInt16)

/-- Where a cell of an image may stand. -/
inductive CellPlace where
  | offset (kind : TableKind) (offset : Nat)
  | record (file number index : Nat)
  deriving DecidableEq, Repr

/-- Whether a place is one for bits; all others are for registers. -/
def CellPlace.isBit : CellPlace → Bool
  | offset .coil _ | offset .discreteInput _ => true
  | _ => false

namespace Image

/-- The cells of a record of a file. -/
def rowAt? (image : Image) (file number : Nat) : Option (List Nat) :=
  (image.fileCells.get? file).bind fun found => found.records[number]?

/-- The cell at a place. -/
def cellAt? (image : Image) : CellPlace → Option Nat
  | .offset kind offset => (image.table kind).get? offset
  | .record file number index => (image.rowAt? file number).bind fun cells => cells[index]?

/-- What an image would show if its cells held the given bits and values. -/
def shows (image : Image) (bit : Nat → Bool) (value : Nat → UInt16) : Contents where
  coils offset := (image.cellAt? (.offset .coil offset)).map bit
  discreteInputs offset := (image.cellAt? (.offset .discreteInput offset)).map bit
  inputRegisters offset := (image.cellAt? (.offset .inputRegister offset)).map value
  holdingRegisters offset := (image.cellAt? (.offset .holdingRegister offset)).map value
  records file number := (image.rowAt? file number).map (List.map value)
  fifos address := (image.fifos.get? address).map Fifo.values

def contents (image : Image) : Contents :=
  image.shows image.bit image.value

/-- Every place names a cell that there is, no two places name the same one, and nobody watches
a register. -/
structure Plain (image : Image) : Prop where
  bitThere : ∀ {place : CellPlace} {cell : Nat}, image.cellAt? place = some cell →
    place.isBit = true → cell < image.bits.size
  registerThere : ∀ {place : CellPlace} {cell : Nat}, image.cellAt? place = some cell →
    place.isBit = false → cell < image.registers.size
  alone : ∀ {place other : CellPlace} {cell : Nat}, image.cellAt? place = some cell →
    image.cellAt? other = some cell → place.isBit = other.isBit → place = other
  unwatched : ∀ {place : CellPlace} {cell : Nat}, image.cellAt? place = some cell →
    place.isBit = false → image.liveWatchers cell = []

end Image

/-! ## Images as they are built -/

namespace Table

variable {α : Type}

/-- A cell that is put at an offset is there, and all others stay where they were. -/
theorem get?_set (table : Table α) (offset other : Nat) (cell : α) :
    (table.set offset cell).get? other =
      if other = offset then some cell else table.get? other := by
  unfold set get?
  split
  next hinside =>
    rw [Array.getElem?_setIfInBounds]
    grind [size]
  next houtside =>
    grind [size]

theorem add_eq_set (table : Table α) (cell : α) : table.add cell = table.set table.size cell := by
  rw [set, if_neg (Nat.lt_irrefl _), Nat.sub_self]
  rfl

end Table

namespace Image

theorem plain_empty (unit : UInt8) : (empty unit).Plain := by
  have hnone (place : CellPlace) : (empty unit).cellAt? place = none := by
    cases place with
    | offset kind offset => cases kind <;> rfl
    | record file number index => rfl
  constructor <;> intros <;> simp_all

variable {image : Image}

/-- An image gains registers that nobody watches. -/
def Gains (image after : Image) (values : List UInt16) : Prop :=
  after.registers.toList = image.registers.toList ++ values.map (Register.mk · []) ∧
    after.observers = image.observers ∧ after.held = image.held

theorem Gains.size {after : Image} {values : List UInt16} (hgains : image.Gains after values) :
    after.registers.size = image.registers.size + values.length := by
  have hlength := congrArg List.length hgains.1
  simpa using hlength

theorem Gains.liveWatchers {after : Image} {values : List UInt16}
    (hgains : image.Gains after values) (cell : Nat) :
    after.liveWatchers cell =
      if cell < image.registers.size then image.liveWatchers cell else [] := by
  obtain ⟨hregisters, hobservers, hheld⟩ := hgains
  have hregister : after.register cell =
      (image.registers.toList ++ values.map (Register.mk · []))[cell]?.getD ⟨0, []⟩ := by
    rw [Image.register, Array.getD_eq_getD_getElem?, ← Array.getElem?_toList, hregisters]
  have hkept (hold : cell < image.registers.size) :
      after.register cell = image.register cell := by
    rw [hregister, List.getElem?_append_left hold, Array.getElem?_toList, Image.register,
      Array.getD_eq_getD_getElem?]
  have hnew (hold : ¬cell < image.registers.size) : (after.register cell).watchers = [] := by
    rw [hregister, List.getElem?_append_right (Nat.le_of_not_lt hold), List.getElem?_map]
    cases values[cell - image.registers.toList.length]? <;> rfl
  unfold Image.liveWatchers observer?
  split
  next hold => rw [hkept hold, hobservers, hheld]
  next hold => rw [hnew hold, List.filter_nil]

/-- An image stays plain if all that it gains are places for new cells, each for one of its
own. -/
theorem Plain.grow {after : Image} (hplain : image.Plain) (values : List UInt16)
    (fresh : CellPlace → Nat → Prop)
    (hcells : ∀ {place cell}, after.cellAt? place = some cell →
      image.cellAt? place = some cell ∨ fresh place cell)
    (hbits : image.bits.size ≤ after.bits.size) (hgains : image.Gains after values)
    (hbit : ∀ {place cell}, fresh place cell → place.isBit = true →
      image.bits.size ≤ cell ∧ cell < after.bits.size)
    (hregister : ∀ {place cell}, fresh place cell → place.isBit = false →
      image.registers.size ≤ cell ∧ cell < after.registers.size)
    (hdiffer : ∀ {place other cell}, fresh place cell → fresh other cell → place = other) :
    after.Plain where
  bitThere {place cell} hcell hkind := by
    rcases hcells hcell with hold | hnew
    · exact (hplain.bitThere hold hkind).trans_le hbits
    · exact (hbit hnew hkind).2
  registerThere {place cell} hcell hkind := by
    rcases hcells hcell with hold | hnew
    · have hthere := hplain.registerThere hold hkind
      rw [hgains.size]
      omega
    · exact (hregister hnew hkind).2
  alone {place other cell} hcell hother hkind := by
    -- A new cell lies behind all those that were there.
    have hapart {place other : CellPlace} (hold : image.cellAt? place = some cell)
        (hnew : fresh other cell) (hkind : place.isBit = other.isBit) : False := by
      cases hbitKind : other.isBit with
      | true =>
          have hthere := hplain.bitThere hold (hkind.trans hbitKind)
          have hbehind := (hbit hnew hbitKind).1
          omega
      | false =>
          have hthere := hplain.registerThere hold (hkind.trans hbitKind)
          have hbehind := (hregister hnew hbitKind).1
          omega
    rcases hcells hcell with hold | hnew <;> rcases hcells hother with hold' | hnew'
    · exact hplain.alone hold hold' hkind
    · exact (hapart hold hnew' hkind).elim
    · exact (hapart hold' hnew hkind.symm).elim
    · exact hdiffer hnew hnew'
  unwatched {place cell} hcell hkind := by
    rw [hgains.liveWatchers]
    rcases hcells hcell with hold | hnew
    · rw [if_pos (hplain.registerThere hold hkind), hplain.unwatched hold hkind]
    · rw [if_neg (hregister hnew hkind).1.not_gt]

theorem cellAt?_place {kind : TableKind} {offset cell : Nat} (place : CellPlace) :
    (image.place kind offset cell).cellAt? place =
      if place = .offset kind offset then some cell else image.cellAt? place := by
  cases place with
  | offset other position =>
      have htable : (image.place kind offset cell).table other =
          if other = kind then (image.table kind).set offset cell else image.table other := by
        cases kind <;> cases other <;> rfl
      simp only [cellAt?, htable, CellPlace.offset.injEq]
      by_cases hkind : other = kind
      · simp [hkind, Table.get?_set]
      · simp [hkind]
  | record file number index => cases kind <;> rfl

/-- A cell that an image has gained may be put at any offset of a table of its kind. -/
theorem Plain.placeNew {grown : Image} (hplain : image.Plain) {values : List UInt16}
    {kind : TableKind} {offset cell : Nat}
    (hcells : ∀ place, grown.cellAt? place = image.cellAt? place)
    (hbits : image.bits.size ≤ grown.bits.size) (hgains : image.Gains grown values)
    (hbit : (CellPlace.offset kind offset).isBit = true →
      image.bits.size ≤ cell ∧ cell < grown.bits.size)
    (hregister : (CellPlace.offset kind offset).isBit = false →
      image.registers.size ≤ cell ∧ cell < grown.registers.size) :
    (grown.place kind offset cell).Plain := by
  have hplaced : (grown.place kind offset cell).bits = grown.bits ∧
      (grown.place kind offset cell).registers = grown.registers ∧
      (grown.place kind offset cell).observers = grown.observers ∧
      (grown.place kind offset cell).held = grown.held := by
    cases kind <;> exact ⟨rfl, rfl, rfl, rfl⟩
  obtain ⟨hsameBits, hsameRegisters, hsameObservers, hsameHeld⟩ := hplaced
  refine hplain.grow values (fun place fresh => place = .offset kind offset ∧ fresh = cell)
    (fun {place fresh} hfound => ?_) ?_ ?_ ?_ ?_ ?_
  · rw [cellAt?_place, hcells] at hfound
    split at hfound
    next hsame => exact .inr ⟨hsame, (Option.some.inj hfound).symm⟩
    next => exact .inl hfound
  · rwa [hsameBits]
  · rwa [Gains, hsameRegisters, hsameObservers, hsameHeld]
  · rintro _ _ ⟨rfl, rfl⟩ hkind
    rw [hsameBits]
    exact hbit hkind
  · rintro _ _ ⟨rfl, rfl⟩ hkind
    rw [hsameRegisters]
    exact hregister hkind
  · rintro _ _ _ ⟨rfl, -⟩ ⟨rfl, -⟩
    rfl

theorem Plain.placeBit (hplain : image.Plain) {kind : TableKind}
    (hkind : (CellPlace.offset kind 0).isBit = true) (offset : Nat) (value : Bool) :
    ((image.newBit value).2.place kind offset (image.newBit value).1).Plain := by
  have hsize : (image.newBit value).2.bits.size = image.bits.size + 1 := Array.size_push ..
  have hgains : image.Gains (image.newBit value).2 [] := ⟨(List.append_nil _).symm, rfl, rfl⟩
  refine hplain.placeNew (fun place => ?_) (by omega) hgains (fun _ => ⟨le_rfl, ?_⟩)
    fun hregister => ?_
  · cases place with
    | offset other position => cases other <;> rfl
    | record file number index => rfl
  · rw [hsize]
    exact Nat.lt_succ_self _
  · cases kind <;> contradiction

theorem Plain.placeRegister (hplain : image.Plain) {kind : TableKind}
    (hkind : (CellPlace.offset kind 0).isBit = false) (offset : Nat) (value : UInt16) :
    ((image.newRegister value).2.place kind offset (image.newRegister value).1).Plain := by
  have hsize : (image.newRegister value).2.registers.size = image.registers.size + 1 :=
    Array.size_push ..
  have hgains : image.Gains (image.newRegister value).2 [value] := ⟨Array.toList_push, rfl, rfl⟩
  refine hplain.placeNew (fun place => ?_) le_rfl hgains (fun hbit => ?_)
    fun _ => ⟨le_rfl, ?_⟩
  · cases place with
    | offset other position => cases other <;> rfl
    | record file number index => rfl
  · cases kind <;> contradiction
  · rw [hsize]
    exact Nat.lt_succ_self _

theorem Plain.placeBits (hplain : image.Plain) {kind : TableKind}
    (hkind : (CellPlace.offset kind 0).isBit = true) (row : List (Option Bool)) :
    (image.placeBits kind row).Plain := by
  refine List.foldlRecOn (motive := Plain) _ _ hplain fun image hplain entry _ => ?_
  obtain ⟨_ | value, offset⟩ := entry
  · exact hplain
  · exact hplain.placeBit hkind offset value

theorem Plain.placeValues (hplain : image.Plain) {kind : TableKind}
    (hkind : (CellPlace.offset kind 0).isBit = false) (row : List (Option UInt16)) :
    (image.placeValues kind row).Plain := by
  refine List.foldlRecOn (motive := Plain) _ _ hplain fun image hplain entry _ => ?_
  obtain ⟨_ | value, offset⟩ := entry
  · exact hplain
  · exact hplain.placeRegister hkind offset value

theorem plain_cleared (unit : UInt8) (count : Nat) : (cleared unit count).Plain := by
  have hadd (image : Image) (cell : Nat) : image.add .holdingRegister cell =
      image.place .holdingRegister image.holdingRegisters.size cell := by
    simp only [add, place, changeTable, Table.add_eq_set]
  unfold cleared addCleared
  induction count with
  | zero => exact plain_empty unit
  | succ count ih =>
      rw [Nat.repeat]
      dsimp only
      rw [hadd]
      exact ih.placeRegister rfl _ 0

theorem Gains.trans {between after : Image} {first second : List UInt16}
    (hfirst : image.Gains between first) (hsecond : between.Gains after second) :
    image.Gains after (first ++ second) := by
  refine ⟨?_, hsecond.2.1.trans hfirst.2.1, hsecond.2.2.trans hfirst.2.2⟩
  rw [hsecond.1, hfirst.1, List.map_append, List.append_assoc]

theorem gains_newRegisters (image : Image) (values : List UInt16) :
    image.Gains (image.newRegisters values).2 values :=
  ⟨Array.toList_appendList, rfl, rfl⟩

/-- The registers of new records are new ones, in the order of their values. -/
theorem newRecords_spec (image : Image) (records : List (List UInt16)) :
    (image.newRecords records).1.flatten =
        List.range' image.registers.size records.flatten.length ∧
      image.Gains (image.newRecords records).2 records.flatten ∧
      (image.newRecords records).2 =
        { image with registers := (image.newRecords records).2.registers } := by
  induction records generalizing image with
  | nil => exact ⟨rfl, ⟨by simp [newRecords], rfl, rfl⟩, rfl⟩
  | cons values records ih =>
      have hfirst := image.gains_newRegisters values
      obtain ⟨hcells, hgains, hrest⟩ := ih (image.newRegisters values).2
      refine ⟨?_, hfirst.trans hgains, hrest⟩
      show List.range' image.registers.size values.length ++
        ((image.newRegisters values).2.newRecords records).1.flatten = _
      rw [hcells, hfirst.size, List.range'_append_1, List.flatten_cons, List.length_append]

theorem addFile_eq (image : Image) (file : RecordFile) :
    image.addFile file =
      { image with
        registers := (image.newRecords file.records).2.registers
        fileCells := image.fileCells.insert file.number.toNat
          ⟨file.number, (image.newRecords file.records).1⟩ } := by
  obtain ⟨-, -, hafter⟩ := image.newRecords_spec file.records
  unfold addFile
  dsimp only
  rw [hafter]

/-- In rows of different cells a cell stands once. -/
theorem index_unique {rows : List (List Nat)} (hnodup : rows.flatten.Nodup)
    {number number' index index' cell : Nat} {row row' : List Nat}
    (hrow : rows[number]? = some row) (hrow' : rows[number']? = some row')
    (hcell : row[index]? = some cell) (hcell' : row'[index']? = some cell) :
    number = number' ∧ index = index' := by
  obtain ⟨hrows, hdisjoint⟩ := List.nodup_flatten.mp hnodup
  obtain ⟨hnumber, rfl⟩ := List.getElem?_eq_some_iff.mp hrow
  obtain ⟨hnumber', rfl⟩ := List.getElem?_eq_some_iff.mp hrow'
  have hapart := List.pairwise_iff_getElem.mp hdisjoint
  have hsame : number = number' := by
    rcases Nat.lt_trichotomy number number' with hless | hequal | hgreater
    · exact (hapart _ _ hnumber hnumber' hless (List.mem_of_getElem? hcell)
        (List.mem_of_getElem? hcell')).elim
    · exact hequal
    · exact (hapart _ _ hnumber' hnumber hgreater (List.mem_of_getElem? hcell')
        (List.mem_of_getElem? hcell)).elim
  subst hsame
  have hindex : index < rows[number].length := (List.getElem?_eq_some_iff.mp hcell).1
  exact ⟨rfl, (List.getElem?_inj hindex (hrows _ (List.getElem_mem hnumber))).mp
    (hcell.trans hcell'.symm)⟩

/-- A file of new registers may be added, also in place of another one. -/
theorem Plain.addFile (hplain : image.Plain) (file : RecordFile) : (image.addFile file).Plain := by
  obtain ⟨hcells, hgains, -⟩ := image.newRecords_spec file.records
  rw [addFile_eq]
  generalize (image.newRecords file.records).1 = rows at *
  generalize hregisters : (image.newRecords file.records).2.registers = registers at *
  have hnodup : rows.flatten.Nodup := hcells ▸ List.nodup_range' ..
  refine hplain.grow file.records.flatten
    (fun place cell => ∃ number index row, place = .record file.number.toNat number index ∧
      rows[number]? = some row ∧ row[index]? = some cell)
    (fun {place cell} hcell => ?_) le_rfl ?_ ?_ ?_ ?_
  · cases place with
    | offset kind offset =>
        cases kind <;> exact .inl hcell
    | record other number index =>
        simp only [cellAt?, rowAt?, Directory.get?_insert] at hcell
        split at hcell
        next hsame =>
          obtain ⟨row, hfound, hcell⟩ := Option.bind_eq_some_iff.mp hcell
          exact .inr ⟨number, index, row, by rw [hsame], hfound, hcell⟩
        next => exact .inl hcell
  · exact ⟨hregisters ▸ hgains.1, rfl, rfl⟩
  · rintro _ _ ⟨number, index, row, rfl, -, -⟩ hbit
    contradiction
  · rintro _ cell ⟨number, index, row, -, hfound, hcell⟩ -
    have hflat := List.mem_flatten_of_mem (List.mem_of_getElem? hfound) (List.mem_of_getElem? hcell)
    rw [hcells, List.mem_range'_1] at hflat
    exact ⟨hflat.1, hflat.2.trans_eq (hregisters ▸ hgains.size.symm)⟩
  · rintro _ _ cell ⟨number, index, row, rfl, hfound, hcell⟩
      ⟨number', index', row', rfl, hfound', hcell'⟩
    obtain ⟨rfl, rfl⟩ := index_unique hnodup hfound hfound' hcell hcell'
    rfl

theorem Plain.setFifo (hplain : image.Plain) (address : UInt16) (fifo : Fifo) :
    (image.setFifo address fifo).Plain := by
  have hcells (place : CellPlace) :
      (image.setFifo address fifo).cellAt? place = image.cellAt? place := by
    cases place with
    | offset kind offset => cases kind <;> rfl
    | record file number index => rfl
  refine hplain.grow [] (fun _ _ => False)
    (fun {place cell} hcell => .inl ((hcells place).symm.trans hcell)) le_rfl ?_
    ?_ ?_ ?_
  · simp [Gains, Image.setFifo]
  all_goals simp

end Image

end Modbus
