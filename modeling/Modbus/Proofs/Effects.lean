import Mathlib.Tactic
import Modbus.Proofs.PlainImages

/-!
# What requests do to plain images

A request that goes through has its effect on what an image shows, and no other.  First
cells are filled that nobody watches; then places are written, by ranges of a table and by
records of a file; then every kind of request is traced back to these writes.
-/

namespace Modbus

/-! ## Filling cells -/

/-- What is put into different cells, one after another, is found there afterwards, and all
other cells hold what they held. -/
theorem foldl_put {σ α : Type} {put : σ → Nat → α → σ} {held : σ → Nat → α} (there : σ → Nat → Prop)
    (hheld : ∀ {state cell} value other, there state cell →
      held (put state cell value) other = if other = cell then value else held state other)
    (hthere : ∀ {state cell other} value, there state cell → there state other →
      there (put state cell value) other)
    {cells : List Nat} {values : List α} {state : σ} (hnodup : cells.Nodup)
    (hlength : cells.length = values.length) (hall : ∀ cell ∈ cells, there state cell) :
    let after := (cells.zip values).foldl (fun state (cell, value) => put state cell value) state
    cells.map (held after) = values ∧ ∀ other ∉ cells, held after other = held state other := by
  induction cells generalizing values state with
  | nil =>
      obtain rfl := List.length_eq_zero_iff.mp hlength.symm
      exact ⟨rfl, fun other _ => rfl⟩
  | cons cell cells ih =>
      obtain ⟨value, values, rfl⟩ := List.exists_cons_of_length_eq_add_one hlength.symm
      obtain ⟨hfirst, hrest⟩ := List.forall_mem_cons.mp hall
      obtain ⟨hfresh, hnodup⟩ := List.nodup_cons.mp hnodup
      obtain ⟨hvalues, hothers⟩ := @ih values (put state cell value) hnodup
        (Nat.succ.inj hlength) fun other hother => hthere value hfirst (hrest other hother)
      refine ⟨List.cons_eq_cons.mpr ⟨?_, hvalues⟩, fun other hother => ?_⟩
      · exact (hothers cell hfresh).trans ((hheld value cell hfirst).trans (if_pos rfl))
      · obtain ⟨hdiffers, habsent⟩ := not_or.mp (mt List.mem_cons.mpr hother)
        exact (hothers other habsent).trans ((hheld value other hfirst).trans (if_neg hdiffers))

/-- Two states of an image have the same cells, in the same places and equally watched; what the
cells hold may differ. -/
structure Image.SameCells (image after : Image) : Prop extends image.SameLayout after where
  bits : after.bits.size = image.bits.size
  registers : after.registers.size = image.registers.size
  watchers : ∀ cell, after.liveWatchers cell = image.liveWatchers cell
  observers : after.observers = image.observers
  notices : after.notices = image.notices

namespace Image

theorem SameCells.refl (image : Image) : image.SameCells image :=
  ⟨.refl image, rfl, rfl, fun _ => rfl, rfl, rfl⟩

theorem SameCells.trans {image between after : Image} (hfirst : image.SameCells between)
    (hsecond : between.SameCells after) : image.SameCells after where
  toSameLayout := hfirst.toSameLayout.trans hsecond.toSameLayout
  bits := hsecond.bits.trans hfirst.bits
  registers := hsecond.registers.trans hfirst.registers
  watchers cell := (hsecond.watchers cell).trans (hfirst.watchers cell)
  observers := hsecond.observers.trans hfirst.observers
  notices := hsecond.notices.trans hfirst.notices

theorem SameLayout.rowAt? {image after : Image} (hsame : image.SameLayout after)
    (file number : Nat) : after.rowAt? file number = image.rowAt? file number := by
  rw [Image.rowAt?, hsame.files, Image.rowAt?]

theorem SameLayout.cellAt? {image after : Image} (hsame : image.SameLayout after)
    (place : CellPlace) : after.cellAt? place = image.cellAt? place := by
  cases place with
  | offset kind offset => rw [Image.cellAt?, hsame.tables, Image.cellAt?]
  | record file number index => rw [Image.cellAt?, hsame.rowAt?, Image.cellAt?]

theorem SameLayout.contents_eq {image after : Image} (hsame : image.SameLayout after) :
    after.contents = image.shows after.bit after.value := by
  unfold contents shows
  simp only [hsame.cellAt?, hsame.rowAt?, hsame.fifos]

theorem SameCells.plain {image after : Image} (hsame : image.SameCells after)
    (hplain : image.Plain) : after.Plain where
  bitThere {place cell} hcell hbit := by
    rw [hsame.cellAt?] at hcell
    rw [hsame.bits]
    exact hplain.bitThere hcell hbit
  registerThere {place cell} hcell hbit := by
    rw [hsame.cellAt?] at hcell
    rw [hsame.registers]
    exact hplain.registerThere hcell hbit
  alone {place other cell} hcell hother hbit := by
    rw [hsame.cellAt?] at hcell hother
    exact hplain.alone hcell hother hbit
  unwatched {place cell} hcell hbit := by
    rw [hsame.cellAt?] at hcell
    rw [hsame.watchers]
    exact hplain.unwatched hcell hbit

/-! ## Writing cells that nobody watches -/

section Unwatched

variable {image : Image} {cell : Nat}

theorem register_setRegister (hcell : cell < image.registers.size) (register : Register)
    (other : Nat) :
    (image.setRegister cell register).register other =
      if other = cell then register else image.register other := by
  unfold Image.register setRegister
  rw [Array.getD_eq_getD_getElem?, Array.getElem?_setIfInBounds, Array.getD_eq_getD_getElem?]
  split
  next hsame => rw [if_pos hsame.symm, Option.getD_some]
  next hdiffers => rw [if_neg (Ne.symm hdiffers)]

/-- A register that can be written without anybody being told. -/
def Quiet (image : Image) (cell : Nat) : Prop :=
  cell < image.registers.size ∧ image.liveWatchers cell = []

/-- A write to a register that nobody watches gives it a value, and that is all. -/
theorem write_unwatched (hquiet : image.Quiet cell) (value : UInt16) :
    image.write cell value = image.setRegister cell ⟨value, []⟩ := by
  obtain ⟨hcell, hwatchers⟩ := hquiet
  have hstored : (image.store cell value).liveWatchers cell = [] := by
    unfold liveWatchers store
    rw [register_setRegister hcell, if_pos rfl]
    exact hwatchers
  have hforgotten : (image.store cell value).forgetGone cell =
      image.setRegister cell ⟨value, []⟩ := by
    rw [forgetGone, hstored, store, register_setRegister hcell, if_pos rfl]
    simp only [setRegister, Array.setIfInBounds_setIfInBounds]
  have hnobody : (image.setRegister cell ⟨value, []⟩).liveWatchers cell = [] := by
    rw [liveWatchers, register_setRegister hcell, if_pos rfl]
    rfl
  -- However deep writes may nest, there is nobody to tell of the first one.
  rw [write]
  cases image.nesting with
  | zero =>
      rw [writeWithin, hforgotten]
      simp only [hnobody, List.isEmpty_nil, Bool.not_true, Bool.or_false]
  | succ depth =>
      rw [writeWithin, hforgotten]
      simp only [hnobody, List.foldl_nil]
      rfl

theorem value_write (hquiet : image.Quiet cell) (value : UInt16) (other : Nat) :
    (image.write cell value).value other = if other = cell then value else image.value other := by
  rw [Image.value, write_unwatched hquiet, register_setRegister hquiet.1]
  split <;> rfl

theorem sameCells_write (hquiet : image.Quiet cell) (value : UInt16) :
    image.SameCells (image.write cell value) where
  toSameLayout := sameLayout_write image cell value
  bits := by rw [write_unwatched hquiet]; rfl
  registers := by
    rw [write_unwatched hquiet]
    exact Array.size_setIfInBounds
  watchers other := by
    rw [write_unwatched hquiet, liveWatchers, register_setRegister hquiet.1]
    split
    next hsame =>
      rw [hsame, hquiet.2]
      rfl
    next => rfl
  observers := by rw [write_unwatched hquiet]; rfl
  notices := by rw [write_unwatched hquiet]; rfl

theorem bit_write (hquiet : image.Quiet cell) (value : UInt16) :
    (image.write cell value).bit = image.bit := by
  rw [write_unwatched hquiet]
  rfl

theorem SameCells.quiet {after : Image} (hsame : image.SameCells after)
    (hquiet : image.Quiet cell) : after.Quiet cell :=
  ⟨hsame.registers ▸ hquiet.1, (hsame.watchers cell).trans hquiet.2⟩

end Unwatched

theorem sameCells_writeAll {image : Image} {cells : List Nat}
    (hquiet : ∀ cell ∈ cells, image.Quiet cell) (values : List UInt16) :
    image.SameCells (image.writeAll cells values) ∧
      (image.writeAll cells values).bit = image.bit := by
  induction cells generalizing image values with
  | nil => exact ⟨.refl image, rfl⟩
  | cons cell cells ih =>
      cases values with
      | nil => exact ⟨.refl image, rfl⟩
      | cons value values =>
          obtain ⟨hfirst, hrest⟩ := List.forall_mem_cons.mp hquiet
          have hstep := sameCells_write hfirst value
          obtain ⟨hsame, hbit⟩ := ih (fun other hother => hstep.quiet (hrest other hother)) values
          exact ⟨hstep.trans hsame, hbit.trans (bit_write hfirst value)⟩

/-- Values that are written to different registers are there afterwards, and no other register
has changed. -/
theorem value_writeAll {image : Image} {cells : List Nat} {values : List UInt16}
    (hquiet : ∀ cell ∈ cells, image.Quiet cell) (hnodup : cells.Nodup)
    (hlength : cells.length = values.length) :
    cells.map (image.writeAll cells values).value = values ∧
      ∀ other ∉ cells, (image.writeAll cells values).value other = image.value other :=
  foldl_put Quiet (fun value other hcell => value_write hcell value other)
    (fun value hcell hother => (sameCells_write hcell value).quiet hother) hnodup hlength hquiet

theorem bit_setBit {image : Image} {cell : Nat} (value : Bool) (other : Nat)
    (hcell : cell < image.bits.size) :
    (image.setBit cell value).bit other = if other = cell then value else image.bit other := by
  unfold bit setBit
  rw [Array.getD_eq_getD_getElem?, Array.getElem?_setIfInBounds, Array.getD_eq_getD_getElem?]
  split
  next hsame => rw [if_pos hsame.symm, Option.getD_some]
  next hdiffers => rw [if_neg (Ne.symm hdiffers)]

theorem sameCells_setBit (image : Image) (cell : Nat) (value : Bool) :
    image.SameCells (image.setBit cell value) where
  toSameLayout := sameLayout_setBit image cell value
  bits := Array.size_setIfInBounds
  registers := rfl
  watchers _ := rfl
  observers := rfl
  notices := rfl

theorem sameCells_setBits (image : Image) (cells : List Nat) (values : List Bool) :
    image.SameCells (image.setBits cells values) ∧
      (image.setBits cells values).value = image.value := by
  induction cells generalizing image values with
  | nil => exact ⟨.refl image, rfl⟩
  | cons cell cells ih =>
      cases values with
      | nil => exact ⟨.refl image, rfl⟩
      | cons value values =>
          obtain ⟨hsame, hvalue⟩ := ih (image.setBit cell value) values
          exact ⟨(sameCells_setBit image cell value).trans hsame, hvalue⟩

theorem bit_setBits {image : Image} {cells : List Nat} {values : List Bool}
    (hcells : ∀ cell ∈ cells, cell < image.bits.size) (hnodup : cells.Nodup)
    (hlength : cells.length = values.length) :
    cells.map (image.setBits cells values).bit = values ∧
      ∀ other ∉ cells, (image.setBits cells values).bit other = image.bit other :=
  foldl_put (fun image cell => cell < image.bits.size)
    (fun value other hcell => bit_setBit value other hcell)
    (fun {state cell other} value _ hother => by
      rw [(sameCells_setBit state cell value).bits]
      exact hother) hnodup hlength hcells

/-! ## Places and their cells -/

/-- Cells that stand at the given places. -/
def Stand (image : Image) (places : List CellPlace) (cells : List Nat) : Prop :=
  List.Forall₂ (fun place cell => image.cellAt? place = some cell) places cells

section Plain

variable {image : Image} {places : List CellPlace} {cells : List Nat} {isBit : Bool}

theorem Stand.exists_place (hstand : image.Stand places cells) {cell : Nat}
    (hcell : cell ∈ cells) : ∃ place ∈ places, image.cellAt? place = some cell := by
  induction hstand with
  | nil => contradiction
  | @cons place first places cells hfirst _ ih =>
      rcases List.mem_cons.mp hcell with rfl | hrest
      · exact ⟨place, List.mem_cons_self, hfirst⟩
      · obtain ⟨other, hother, hfound⟩ := ih hrest
        exact ⟨other, List.mem_cons_of_mem _ hother, hfound⟩

/-- A cell that stands elsewhere is none of those at the given places. -/
theorem Plain.not_mem_cells (hplain : image.Plain) (hstand : image.Stand places cells)
    (hkind : ∀ place ∈ places, place.isBit = isBit) {place : CellPlace} {cell : Nat}
    (hcell : image.cellAt? place = some cell) (hbit : place.isBit = isBit)
    (hplace : place ∉ places) : cell ∉ cells := by
  intro hmem
  obtain ⟨other, hother, hfound⟩ := hstand.exists_place hmem
  have hsame : other = place :=
    hplain.alone hfound hcell ((hkind other hother).trans hbit.symm)
  exact hplace (hsame ▸ hother)

theorem Plain.nodup_cells (hplain : image.Plain) (hstand : image.Stand places cells)
    (hkind : ∀ place ∈ places, place.isBit = isBit) (hnodup : places.Nodup) : cells.Nodup := by
  induction hstand with
  | nil => exact List.nodup_nil
  | @cons place cell places cells hfirst hrest ih =>
      obtain ⟨hfresh, hnodup⟩ := List.nodup_cons.mp hnodup
      obtain ⟨hbit, hkind⟩ := List.forall_mem_cons.mp hkind
      exact List.nodup_cons.mpr
        ⟨hplain.not_mem_cells hrest hkind hfirst hbit hfresh, ih hkind hnodup⟩

theorem Plain.quiet (hplain : image.Plain) (hstand : image.Stand places cells)
    (hkind : ∀ place ∈ places, place.isBit = false) : ∀ cell ∈ cells, image.Quiet cell := by
  intro cell hcell
  obtain ⟨place, hplace, hfound⟩ := hstand.exists_place hcell
  have hregister := hkind place hplace
  exact ⟨hplain.registerThere hfound hregister, hplain.unwatched hfound hregister⟩

theorem Plain.bits_there (hplain : image.Plain) (hstand : image.Stand places cells)
    (hkind : ∀ place ∈ places, place.isBit = true) : ∀ cell ∈ cells, cell < image.bits.size := by
  intro cell hcell
  obtain ⟨place, hplace, hfound⟩ := hstand.exists_place hcell
  exact hplain.bitThere hfound (hkind place hplace)

/-- Registers are written at different places: the values are there afterwards, and at every
other place stands what stood there. -/
theorem Plain.value_writeAll (hplain : image.Plain) (hstand : image.Stand places cells)
    (hkind : ∀ place ∈ places, place.isBit = false) (hnodup : places.Nodup)
    {values : List UInt16} (hlength : cells.length = values.length) :
    cells.map (image.writeAll cells values).value = values ∧
      ∀ place {cell}, place ∉ places → place.isBit = false → image.cellAt? place = some cell →
        (image.writeAll cells values).value cell = image.value cell := by
  obtain ⟨hvalues, hothers⟩ := Image.value_writeAll (hplain.quiet hstand hkind)
    (hplain.nodup_cells hstand hkind hnodup) hlength
  exact ⟨hvalues, fun place cell hplace hbit hcell =>
    hothers _ (hplain.not_mem_cells hstand hkind hcell hbit hplace)⟩

/-- The same for bits. -/
theorem Plain.bit_setBits (hplain : image.Plain) (hstand : image.Stand places cells)
    (hkind : ∀ place ∈ places, place.isBit = true) (hnodup : places.Nodup)
    {values : List Bool} (hlength : cells.length = values.length) :
    cells.map (image.setBits cells values).bit = values ∧
      ∀ place {cell}, place ∉ places → place.isBit = true → image.cellAt? place = some cell →
        (image.setBits cells values).bit cell = image.bit cell := by
  obtain ⟨hvalues, hothers⟩ := Image.bit_setBits (hplain.bits_there hstand hkind)
    (hplain.nodup_cells hstand hkind hnodup) hlength
  exact ⟨hvalues, fun place cell hplace hbit hcell =>
    hothers _ (hplain.not_mem_cells hstand hkind hcell hbit hplace)⟩

theorem cellAt?_record {file number index : Nat} {row : List Nat}
    (hrow : image.rowAt? file number = some row) :
    image.cellAt? (.record file number index) = row[index]? := by
  rw [cellAt?, hrow, Option.bind_some]

theorem exists_cellAt?_of_mem {file number cell : Nat} {row : List Nat}
    (hrow : image.rowAt? file number = some row) (hcell : cell ∈ row) :
    ∃ index, image.cellAt? (.record file number index) = some cell := by
  obtain ⟨index, hindex⟩ := List.getElem?_of_mem hcell
  exact ⟨index, (cellAt?_record hrow).trans hindex⟩

end Plain

/-! ## Ranges of a table -/

/-- The places at `count` offsets of a table. -/
def rangePlaces (kind : TableKind) (first count : Nat) : List CellPlace :=
  (List.range' first count).map (CellPlace.offset kind)

theorem mem_rangePlaces {kind other : TableKind} {first count offset : Nat} :
    .offset other offset ∈ rangePlaces kind first count ↔
      other = kind ∧ first ≤ offset ∧ offset < first + count := by
  simp only [rangePlaces, List.mem_map, List.mem_range'_1, CellPlace.offset.injEq]
  constructor
  · rintro ⟨_, hrange, rfl, rfl⟩
    exact ⟨rfl, hrange⟩
  · rintro ⟨rfl, hrange⟩
    exact ⟨offset, hrange, rfl, rfl⟩

theorem nodup_rangePlaces (kind : TableKind) (first count : Nat) :
    (rangePlaces kind first count).Nodup :=
  (List.nodup_range' ..).map fun _ _ hsame => (CellPlace.offset.inj hsame).2

theorem record_not_mem_rangePlaces {kind : TableKind} {first count file number index : Nat} :
    .record file number index ∉ rangePlaces kind first count := by
  simp [rangePlaces]

theorem isBit_of_mem_rangePlaces {kind : TableKind} {first count : Nat} {place : CellPlace}
    (hplace : place ∈ rangePlaces kind first count) :
    place.isBit = (CellPlace.offset kind 0).isBit := by
  obtain ⟨offset, -, rfl⟩ := List.mem_map.mp hplace
  cases kind <;> rfl

theorem stand_of_cells? {image : Image} {kind : TableKind} {reference : UInt16} {count : Nat}
    {cells : List Nat} (hcells : image.cells? kind reference count = some cells) :
    image.Stand (rangePlaces kind reference.toNat count) cells :=
  List.forall₂_map_left_iff.mpr ((mapM_eq_some_iff _ _ _).mp hcells)

theorem map_get?_of_cells? {image : Image} {kind : TableKind} {reference : UInt16} {count : Nat}
    {cells : List Nat} (hcells : image.cells? kind reference count = some cells) :
    (List.range' reference.toNat count).map (image.table kind).get? = cells.map some := by
  have hall := (mapM_eq_some_iff _ _ _).mp hcells
  rw [← List.forall₂_eq_eq_eq]
  exact List.forall₂_map_left_iff.mpr (List.forall₂_map_right_iff.mpr hall)

end Image

/-- Values take the place of what stood in a table, from an offset on. -/
def written {α : Type} (table : Nat → Option α) (first : Nat) (values : List α) (offset : Nat) :
    Option α :=
  if first ≤ offset ∧ offset < first + values.length then values[offset - first]?
  else table offset

/-- A table shows what was written, where it was written, if the cells there hold it and all
others hold what they held. -/
theorem written_eq {α : Type} {find : Nat → Option Nat} {cells : List Nat} {first : Nat}
    {held held' : Nat → α} {values : List α}
    (hcells : (List.range' first values.length).map find = cells.map some)
    (hvalues : cells.map held' = values)
    (hothers : ∀ {offset cell}, ¬(first ≤ offset ∧ offset < first + values.length) →
      find offset = some cell → held' cell = held cell) :
    (fun offset => (find offset).map held') =
      written (fun offset => (find offset).map held) first values := by
  funext offset
  unfold written
  split
  next hrange =>
    obtain ⟨index, rfl⟩ := Nat.exists_eq_add_of_le hrange.1
    have hindex : index < values.length := by omega
    have hfind : find (first + index) = cells[index]? := by
      have hat := congrArg (·[index]?) hcells
      simp only [List.getElem?_map, List.getElem?_range' hindex, Option.map_some] at hat
      rw [Nat.one_mul] at hat
      cases hcell : cells[index]? with
      | none => simp [hcell] at hat
      | some cell => simpa [hcell] using hat
    rw [hfind, Nat.add_sub_cancel_left, ← hvalues, List.getElem?_map]
  next hrange => exact Option.map_congr fun cell hcell => hothers hrange (Option.mem_def.mp hcell)

/-- The same for the registers of a record, the first of which were written. -/
theorem overwrite_eq {row : List Nat} {held held' : Nat → UInt16} {values : List UInt16}
    (hvalues : (row.take values.length).map held' = values)
    (hothers : ∀ {index cell}, values.length ≤ index → row[index]? = some cell →
      held' cell = held cell) :
    row.map held' = RecordFile.overwrite values (row.map held) := by
  have hrest : (row.drop values.length).map held' = (row.drop values.length).map held := by
    refine List.map_congr_left fun cell hcell => ?_
    obtain ⟨index, hindex⟩ := List.getElem?_of_mem hcell
    rw [List.getElem?_drop] at hindex
    exact hothers (Nat.le_add_right _ index) hindex
  calc row.map held'
      = (row.take values.length).map held' ++ (row.drop values.length).map held' := by
        rw [← List.map_append, List.take_append_drop]
    _ = values ++ (row.drop values.length).map held := by rw [hvalues, hrest]
    _ = RecordFile.overwrite values (row.map held) := by rw [RecordFile.overwrite, List.map_drop]

namespace Contents

def writeCoils (contents : Contents) (reference : UInt16) (values : List Bool) : Contents :=
  { contents with coils := written contents.coils reference.toNat values }

def writeRegisters (contents : Contents) (reference : UInt16) (values : List UInt16) : Contents :=
  { contents with
    holdingRegisters := written contents.holdingRegisters reference.toNat values }

/-- The first registers of a record change. -/
def writeRecord (contents : Contents) (data : RecordData) : Contents :=
  { contents with
    records := fun file number =>
      if file = data.file.toNat ∧ number = data.record.toNat then
        (contents.records file number).map (RecordFile.overwrite data.values)
      else contents.records file number }

end Contents

/-! ## What an image shows after a write -/

namespace Image

variable {image : Image}

theorem Plain.contents_writeAll (hplain : image.Plain) {reference : UInt16}
    (values : List UInt16) {cells : List Nat}
    (hcells : image.cells? .holdingRegister reference values.length = some cells) :
    (image.writeAll cells values).contents = image.contents.writeRegisters reference values ∧
      image.SameCells (image.writeAll cells values) := by
  have hstand := stand_of_cells? hcells
  have hkind : ∀ place ∈ rangePlaces .holdingRegister reference.toNat values.length,
      place.isBit = false := fun _ => isBit_of_mem_rangePlaces
  obtain ⟨hsame, hbit⟩ := sameCells_writeAll (hplain.quiet hstand hkind) values
  obtain ⟨hvalues, hothers⟩ := hplain.value_writeAll hstand hkind (nodup_rangePlaces ..)
    (length_cells? hcells)
  refine ⟨?_, hsame⟩
  rw [hsame.contents_eq, hbit]
  ext1
  · rfl
  · rfl
  · funext offset
    refine Option.map_congr fun cell hcell => hothers _ (fun hmem => ?_) rfl hcell
    exact absurd (mem_rangePlaces.mp hmem).1 (by decide)
  · exact written_eq (map_get?_of_cells? hcells) hvalues fun hrange hcell =>
      hothers (.offset .holdingRegister _) (fun hmem => hrange (mem_rangePlaces.mp hmem).2) rfl
        hcell
  · funext file number
    refine Option.map_congr fun row hrow => List.map_congr_left fun cell hcell => ?_
    obtain ⟨index, hindex⟩ := exists_cellAt?_of_mem hrow hcell
    exact hothers _ record_not_mem_rangePlaces rfl hindex
  · rfl

theorem Plain.contents_setBits (hplain : image.Plain) {reference : UInt16}
    (values : List Bool) {cells : List Nat}
    (hcells : image.cells? .coil reference values.length = some cells) :
    (image.setBits cells values).contents = image.contents.writeCoils reference values ∧
      image.SameCells (image.setBits cells values) := by
  have hstand := stand_of_cells? hcells
  have hkind : ∀ place ∈ rangePlaces .coil reference.toNat values.length,
      place.isBit = true := fun _ => isBit_of_mem_rangePlaces
  obtain ⟨hsame, hvalue⟩ := sameCells_setBits image cells values
  obtain ⟨hvalues, hothers⟩ := hplain.bit_setBits hstand hkind (nodup_rangePlaces ..)
    (length_cells? hcells)
  refine ⟨?_, hsame⟩
  rw [hsame.contents_eq, hvalue]
  ext1
  · exact written_eq (map_get?_of_cells? hcells) hvalues fun hrange hcell =>
      hothers (.offset .coil _) (fun hmem => hrange (mem_rangePlaces.mp hmem).2) rfl hcell
  · funext offset
    refine Option.map_congr fun cell hcell => hothers _ (fun hmem => ?_) rfl hcell
    exact absurd (mem_rangePlaces.mp hmem).1 (by decide)
  · rfl
  · rfl
  · rfl
  · rfl

/-- The places of the first registers of a record. -/
def recordPlaces (file number count : Nat) : List CellPlace :=
  (List.range count).map (CellPlace.record file number)

theorem mem_recordPlaces {file number count other record index : Nat} :
    .record other record index ∈ recordPlaces file number count ↔
      other = file ∧ record = number ∧ index < count := by
  simp only [recordPlaces, List.mem_map, List.mem_range, CellPlace.record.injEq]
  constructor
  · rintro ⟨_, hindex, rfl, rfl, rfl⟩
    exact ⟨rfl, rfl, hindex⟩
  · rintro ⟨rfl, rfl, hindex⟩
    exact ⟨index, hindex, rfl, rfl, rfl⟩

theorem nodup_recordPlaces (file number count : Nat) :
    (recordPlaces file number count).Nodup :=
  List.nodup_range.map fun _ _ hsame => (CellPlace.record.inj hsame).2.2

theorem offset_not_mem_recordPlaces {kind : TableKind} {offset file number count : Nat} :
    .offset kind offset ∉ recordPlaces file number count := by
  simp [recordPlaces]

theorem isBit_of_mem_recordPlaces {file number count : Nat} {place : CellPlace}
    (hplace : place ∈ recordPlaces file number count) : place.isBit = false := by
  obtain ⟨index, -, rfl⟩ := List.mem_map.mp hplace
  rfl

theorem recordCells?_eq_some_iff {file record : UInt16} {count : Nat} {cells : List Nat} :
    image.recordCells? file record count = some cells ↔
      ∃ row, image.rowAt? file.toNat record.toNat = some row ∧ count ≤ row.length ∧
        cells = row.take count := by
  have hrow : image.recordCells? file record count =
      (image.rowAt? file.toNat record.toNat).bind fun row =>
        if count ≤ row.length then some (row.take count) else none := by
    rw [recordCells?, rowAt?, Option.bind_assoc]
    rfl
  rw [hrow, Option.bind_eq_some_iff]
  refine exists_congr fun row => and_congr_right fun _ => ?_
  split
  next hlong => simp [hlong, eq_comm]
  next hshort => simp [hshort]

theorem stand_take {file number count : Nat} {row : List Nat}
    (hrow : image.rowAt? file number = some row) (hcount : count ≤ row.length) :
    image.Stand (recordPlaces file number count) (row.take count) := by
  refine List.forall₂_iff_get.mpr ⟨?_, fun index hindex hrange => ?_⟩
  · simp [recordPlaces, hcount]
  · have hlong : index < row.length := by
      rw [List.length_take] at hrange
      omega
    simp [recordPlaces, cellAt?, hrow, hlong]

theorem Plain.contents_writeTarget (hplain : image.Plain) {data : RecordData} {cells : List Nat}
    (htarget : image.target? data = some cells) :
    (image.writeAll cells data.values).contents = image.contents.writeRecord data ∧
      image.SameCells (image.writeAll cells data.values) := by
  obtain ⟨row, hrow, hlong, rfl⟩ := recordCells?_eq_some_iff.mp htarget
  have hstand := stand_take hrow hlong
  obtain ⟨hsame, hbit⟩ :=
    sameCells_writeAll (hplain.quiet hstand fun _ => isBit_of_mem_recordPlaces) data.values
  obtain ⟨hvalues, hothers⟩ := hplain.value_writeAll hstand
    (fun _ => isBit_of_mem_recordPlaces) (nodup_recordPlaces ..) (List.length_take_of_le hlong)
  refine ⟨?_, hsame⟩
  rw [hsame.contents_eq, hbit]
  ext1
  · rfl
  · rfl
  · funext offset
    exact Option.map_congr fun cell hcell => hothers _ offset_not_mem_recordPlaces rfl hcell
  · funext offset
    exact Option.map_congr fun cell hcell => hothers _ offset_not_mem_recordPlaces rfl hcell
  · funext file number
    show _ = if file = data.file.toNat ∧ number = data.record.toNat then _ else _
    split
    next hsame =>
      obtain ⟨rfl, rfl⟩ := hsame
      simp only [contents, shows, hrow, Option.map_some]
      refine congrArg some (overwrite_eq hvalues fun {index cell} hbehind hcell => ?_)
      refine hothers (.record _ _ index) (fun hmem => ?_) rfl ((cellAt?_record hrow).trans hcell)
      have hinside := (mem_recordPlaces.mp hmem).2.2
      omega
    next hdiffers =>
      refine Option.map_congr fun other hother => List.map_congr_left fun cell hcell => ?_
      obtain ⟨index, hindex⟩ := exists_cellAt?_of_mem hother hcell
      refine hothers _ (fun hmem => ?_) rfl hindex
      obtain ⟨hfile, hnumber, -⟩ := mem_recordPlaces.mp hmem
      exact hdiffers ⟨hfile, hnumber⟩
  · rfl

theorem SameLayout.target? {after : Image} (hsame : image.SameLayout after) (data : RecordData) :
    after.target? data = image.target? data := by
  rw [Image.target?, recordCells?, hsame.files, Image.target?, recordCells?]

/-- Records are written one after another, each over what the ones before have left. -/
theorem Plain.contents_writeRecords (hplain : image.Plain) {records : List RecordData}
    {targets : List (List Nat)}
    (htargets : List.Forall₂ (fun data cells => image.target? data = some cells) records
      targets) :
    (image.writeRecords targets records).contents =
        records.foldl Contents.writeRecord image.contents ∧
      image.SameCells (image.writeRecords targets records) := by
  induction records generalizing image targets with
  | nil =>
      obtain rfl := List.forall₂_nil_left_iff.mp htargets
      exact ⟨rfl, .refl image⟩
  | cons data records ih =>
      obtain ⟨cells, targets, htarget, hrest, rfl⟩ := List.forall₂_cons_left_iff.mp htargets
      obtain ⟨hcontents, hsame⟩ := hplain.contents_writeTarget htarget
      obtain ⟨hlast, hsameLast⟩ := ih (hsame.plain hplain)
        (hrest.imp fun data cells hcells => (hsame.target? data).trans hcells)
      exact ⟨hlast.trans (by rw [hcontents, List.foldl_cons]), hsame.trans hsameLast⟩

end Image

/-! ## Requests that go through -/

namespace Access

variable {α β γ : Type}

/-- Whatever work on an image yields in the end is among what there is to yield. -/
def Grants (work : Access α) (image : Image) (outcome? : Option (α × Image)) : Prop :=
  ∀ result after, work image = (.ok result, after) → outcome? = some (result, after)

theorem Yields.grants {work : Access α} {image : Image} {outcome? : Option (α × Image)}
    (hyields : Yields work image outcome?) : Grants work image outcome? := by
  intro result after hwork
  cases outcome? with
  | none =>
      obtain ⟨fault, hfault⟩ := hyields
      have hfailed := (Prod.mk.inj (hfault.symm.trans hwork)).1
      contradiction
  | some outcome =>
      obtain ⟨hresult, hafter⟩ := Prod.mk.inj (Eq.trans (Eq.symm hyields) hwork)
      rw [← Except.ok.inj hresult, ← hafter]

theorem grants_done {work : Access α} {image after : Image} {result : α}
    (hwork : work image = (.ok result, after)) : Grants work image (some (result, after)) :=
  have hyields : Yields work image (some (result, after)) := hwork
  hyields.grants

theorem Grants.bind_map {find? : Option α} {work : Access α} {next : α → Access β}
    {image : Image} {rest : α → Option (γ × Image)} {reply : γ → β}
    (hwork : Grants work image (find?.map fun found => (found, image)))
    (hnext : ∀ found, find? = some found →
      Grants (next found) image ((rest found).map fun outcome => (reply outcome.1, outcome.2))) :
    Grants (work >>= next) image
      ((find? >>= rest).map fun outcome => (reply outcome.1, outcome.2)) := by
  intro result after hbind
  obtain ⟨found, between, hfirst, hlast⟩ := stateful_bind_eq_ok_iff.mp hbind
  obtain ⟨_, hfind, hsame⟩ := Option.map_eq_some_iff.mp (hwork _ _ hfirst)
  obtain ⟨rfl, rfl⟩ := Prod.mk.inj hsame
  rw [hfind]
  exact hnext _ hfind _ _ hlast

/-- Also a range without offsets is granted only as it is. -/
theorem grants_cells (kind : TableKind) (reference : UInt16) (count : Nat) (image : Image) :
    Grants (cells kind reference count) image
      ((image.cells? kind reference count).map fun found => (found, image)) := by
  have hyields := yields_resolve
    (fun image => (image.table kind).range reference.toNat count) image
  intro result after hcells
  have hgranted := hyields.grants _ _ hcells
  obtain ⟨found, hfound, hsame⟩ := Option.map_eq_some_iff.mp hgranted
  have hrange := toOption_eq_some_iff.mp hfound
  rw [Table.range] at hrange
  split at hrange
  next => contradiction
  next =>
    have hall := toOption_eq_some_iff.mpr hrange
    rw [toOption_mapM] at hall
    simp only [Table.toOption_get] at hall
    rw [Image.cells?, hall, Option.map_some, hsame]

end Access

namespace Request

/-- A request that goes through, whatever its quantities are, does what direct access does. -/
theorem apply_grants (request : Request) (image : Image) :
    Access.Grants request.apply image
      ((image.perform request).map fun outcome => (request.reply outcome.1, outcome.2)) := by
  cases request with
  | readCoils reference count =>
      exact (Access.grants_cells .coil reference _ image).bind_map fun cells _ =>
        Access.grants_done rfl
  | readDiscreteInputs reference count =>
      exact (Access.grants_cells .discreteInput reference _ image).bind_map fun cells _ =>
        Access.grants_done rfl
  | readHoldingRegisters reference count =>
      exact (Access.grants_cells .holdingRegister reference _ image).bind_map fun cells _ =>
        Access.grants_done rfl
  | readInputRegisters reference count =>
      exact (Access.grants_cells .inputRegister reference _ image).bind_map fun cells _ =>
        Access.grants_done rfl
  | writeMultipleCoils reference values =>
      exact (Access.grants_cells .coil reference _ image).bind_map fun cells _ =>
        Access.grants_done rfl
  | writeMultipleRegisters reference values =>
      exact (Access.grants_cells .holdingRegister reference _ image).bind_map fun cells _ =>
        Access.grants_done rfl
  | readWriteMultipleRegisters readReference readCount writeReference values =>
      refine (Access.grants_cells .holdingRegister writeReference _ image).bind_map
        fun targets _ => ?_
      exact (Access.grants_cells .holdingRegister readReference _ image).bind_map
        fun cells _ => Access.grants_done rfl
  | unsupported code data =>
      intro response after happly
      have hrefused := (Prod.mk.inj happly).1
      contradiction
  | _ => exact (apply_yields_of_counted (by exact trivial) rfl image).grants

end Request

/-! ## What a request does -/

/-- A queue holds the most recent values that it held or that were put into it, the oldest
first. -/
theorem Fifo.values_pushAll (fifo : Fifo) (values : List UInt16) :
    (fifo.pushAll values).values =
      (fifo.values ++ values).drop ((fifo.values ++ values).length - Limits.fifo) := by
  induction values generalizing fifo with
  | nil =>
      have hbounded := fifo.bounded
      rw [List.append_nil, Nat.sub_eq_zero_of_le hbounded]
      rfl
  | cons value values ih =>
      have hbounded := fifo.bounded
      have hpush : (fifo.push value).values = kept fifo.values ++ [value] := rfl
      rw [show fifo.pushAll (value :: values) = (fifo.push value).pushAll values from rfl, ih,
        hpush, kept]
      split
      next hfull =>
        have hdrop : fifo.values.drop 1 ++ [value] ++ values =
            (fifo.values ++ value :: values).drop 1 := by
          rw [List.drop_append_of_le_length (by rw [hfull]; decide), List.append_assoc,
            List.singleton_append]
        rw [hdrop, List.drop_drop, List.length_drop]
        congr 1
        simp only [List.length_append, List.length_cons, hfull]
        omega
      next => rw [List.append_assoc, List.singleton_append]

/-- From an offset on a table shows these values, in this order. -/
def Lists {α : Type} (table : Nat → Option α) (first count : Nat) (values : List α) : Prop :=
  (List.range' first count).map table = values.map some

namespace Contents

/-- The first registers of a record, as many as asked for. -/
def Spans (contents : Contents) (span : RecordSpan) (values : List UInt16) : Prop :=
  ∃ registers, contents.records span.file.toNat span.record.toNat = some registers ∧
    span.length.toNat ≤ registers.length ∧ values = registers.take span.length.toNat

/-- A record that is long enough for values. -/
def Room (contents : Contents) (data : RecordData) : Prop :=
  ∃ registers, contents.records data.file.toNat data.record.toNat = some registers ∧
    data.values.length ≤ registers.length

end Contents

/-- What a request that goes through answers and leaves behind.  Reading changes nothing.
Writing changes what is shown at the places that the request names, and nothing else; the answer
repeats the request, with the number of values in a field of sixteen bits. -/
def Request.Effect (image after : Image) (response : Response) : Request → Prop
  | .readCoils reference count =>
    after = image ∧ ∃ values, response = .readCoils values ∧
      Lists image.contents.coils reference.toNat count.toNat values
  | .readDiscreteInputs reference count =>
    after = image ∧ ∃ values, response = .readDiscreteInputs values ∧
      Lists image.contents.discreteInputs reference.toNat count.toNat values
  | .readHoldingRegisters reference count =>
    after = image ∧ ∃ values, response = .readHoldingRegisters values ∧
      Lists image.contents.holdingRegisters reference.toNat count.toNat values
  | .readInputRegisters reference count =>
    after = image ∧ ∃ values, response = .readInputRegisters values ∧
      Lists image.contents.inputRegisters reference.toNat count.toNat values
  | .readFileRecord records =>
    after = image ∧ ∃ values, response = .readFileRecord values ∧
      List.Forall₂ image.contents.Spans records values
  | .readFifoQueue reference =>
    after = image ∧ ∃ values, response = .readFifoQueue values ∧
      image.contents.fifos reference.toNat = some values
  | .writeSingleCoil reference value =>
    response = .writeSingleCoil reference value ∧
      after.contents = image.contents.writeCoils reference [value]
  | .writeSingleRegister reference value =>
    response = .writeSingleRegister reference value ∧
      after.contents = image.contents.writeRegisters reference [value]
  | .writeMultipleCoils reference values =>
    response = .writeMultipleCoils reference (UInt16.ofNat values.length) ∧
      after.contents = image.contents.writeCoils reference values
  | .writeMultipleRegisters reference values =>
    response = .writeMultipleRegisters reference (UInt16.ofNat values.length) ∧
      after.contents = image.contents.writeRegisters reference values
  | .maskWriteRegister reference andMask orMask =>
    response = .maskWriteRegister reference andMask orMask ∧
      ∃ old, image.contents.holdingRegisters reference.toNat = some old ∧
        after.contents = image.contents.writeRegisters reference
          [(old &&& andMask) ||| (orMask &&& ~~~andMask)]
  | .writeFileRecord records =>
    response = .writeFileRecord records ∧ (∀ data ∈ records, image.contents.Room data) ∧
      after.contents = records.foldl Contents.writeRecord image.contents
  | .readWriteMultipleRegisters readReference readCount writeReference values =>
    after.contents = image.contents.writeRegisters writeReference values ∧
      ∃ read, response = .readWriteMultipleRegisters read ∧
        Lists after.contents.holdingRegisters readReference.toNat readCount.toNat read
  | .unsupported .. => False

namespace Image

variable {image after : Image}

/-- What is read from a range is what the table shows there. -/
theorem lists_of_cells? {α : Type} {kind : TableKind} {reference : UInt16} {count : Nat}
    {cells : List Nat} (held : Nat → α)
    (hcells : image.cells? kind reference count = some cells) :
    Lists (fun offset => ((image.table kind).get? offset).map held) reference.toNat count
      (cells.map held) := by
  have hmap := congrArg (List.map (Option.map held)) (map_get?_of_cells? hcells)
  rw [List.map_map, List.map_map] at hmap
  rw [Lists, List.map_map]
  exact hmap

theorem cells?_one (kind : TableKind) {reference : UInt16} {cell : Nat}
    (hcell : (image.table kind).get? reference.toNat = some cell) :
    image.cells? kind reference 1 = some [cell] := by
  rw [cells?, mapM_eq_some_iff]
  exact .cons hcell .nil

theorem spans_of_span? {span : RecordSpan} {values : List UInt16}
    (hspan : image.span? span = some values) : image.contents.Spans span values := by
  obtain ⟨cells, hcells, rfl⟩ := Option.map_eq_some_iff.mp hspan
  obtain ⟨row, hrow, hlong, rfl⟩ := recordCells?_eq_some_iff.mp hcells
  refine ⟨row.map image.value, ?_, ?_, List.map_take⟩
  · simp only [contents, shows, hrow, Option.map_some]
  · rwa [List.length_map]

theorem room_of_target? {data : RecordData} {cells : List Nat}
    (htarget : image.target? data = some cells) : image.contents.Room data := by
  obtain ⟨row, hrow, hlong, -⟩ := recordCells?_eq_some_iff.mp htarget
  refine ⟨row.map image.value, ?_, ?_⟩
  · simp only [contents, shows, hrow, Option.map_some]
  · rwa [List.length_map]

theorem Plain.effect_of_perform (hplain : image.Plain) {request : Request} {answer : Answer}
    (hperform : image.perform request = some (answer, after)) :
    request.Effect image after (request.reply answer) ∧ image.SameCells after := by
  cases request <;>
    simp only [perform, Option.bind_eq_bind, Option.bind_eq_some_iff, Option.pure_def,
      Option.some.injEq, Prod.mk.injEq, reduceCtorEq] at hperform
  case readCoils reference count =>
    obtain ⟨cells, hcells, rfl, rfl⟩ := hperform
    exact ⟨⟨rfl, _, rfl, lists_of_cells? _ hcells⟩, .refl image⟩
  case readDiscreteInputs reference count =>
    obtain ⟨cells, hcells, rfl, rfl⟩ := hperform
    exact ⟨⟨rfl, _, rfl, lists_of_cells? _ hcells⟩, .refl image⟩
  case readHoldingRegisters reference count =>
    obtain ⟨cells, hcells, rfl, rfl⟩ := hperform
    exact ⟨⟨rfl, _, rfl, lists_of_cells? _ hcells⟩, .refl image⟩
  case readInputRegisters reference count =>
    obtain ⟨cells, hcells, rfl, rfl⟩ := hperform
    exact ⟨⟨rfl, _, rfl, lists_of_cells? _ hcells⟩, .refl image⟩
  case writeSingleCoil reference value =>
    obtain ⟨cell, hcell, rfl, rfl⟩ := hperform
    obtain ⟨hcontents, hsame⟩ :=
      hplain.contents_setBits [value] (cells?_one .coil hcell)
    exact ⟨⟨rfl, hcontents⟩, hsame⟩
  case writeSingleRegister reference value =>
    obtain ⟨cell, hcell, rfl, rfl⟩ := hperform
    obtain ⟨hcontents, hsame⟩ :=
      hplain.contents_writeAll [value] (cells?_one .holdingRegister hcell)
    exact ⟨⟨rfl, hcontents⟩, hsame⟩
  case writeMultipleCoils reference values =>
    obtain ⟨cells, hcells, rfl, rfl⟩ := hperform
    obtain ⟨hcontents, hsame⟩ := hplain.contents_setBits values hcells
    exact ⟨⟨rfl, hcontents⟩, hsame⟩
  case writeMultipleRegisters reference values =>
    obtain ⟨cells, hcells, rfl, rfl⟩ := hperform
    obtain ⟨hcontents, hsame⟩ := hplain.contents_writeAll values hcells
    exact ⟨⟨rfl, hcontents⟩, hsame⟩
  case readFileRecord records =>
    obtain ⟨values, hvalues, rfl, rfl⟩ := hperform
    have hall := (mapM_eq_some_iff _ _ _).mp hvalues
    exact ⟨⟨rfl, _, rfl, hall.imp fun _ _ => spans_of_span?⟩, .refl image⟩
  case writeFileRecord records =>
    obtain ⟨targets, htargets, rfl, rfl⟩ := hperform
    have hall := (mapM_eq_some_iff _ _ _).mp htargets
    obtain ⟨hcontents, hsame⟩ := hplain.contents_writeRecords hall
    obtain ⟨hroom, -⟩ := (List.forall₂_and_left _ _).mp
      (hall.imp fun _ _ htarget => ⟨room_of_target? htarget, htarget⟩)
    exact ⟨⟨rfl, hroom, hcontents⟩, hsame⟩
  case maskWriteRegister reference andMask orMask =>
    obtain ⟨cell, hcell, rfl, rfl⟩ := hperform
    obtain ⟨hcontents, hsame⟩ :=
      hplain.contents_writeAll [_] (cells?_one .holdingRegister hcell)
    have hold : image.contents.holdingRegisters reference.toNat = some (image.value cell) :=
      congrArg (Option.map image.value) hcell
    exact ⟨⟨rfl, _, hold, hcontents⟩, hsame⟩
  case readWriteMultipleRegisters readReference readCount writeReference values =>
    obtain ⟨targets, htargets, cells, hcells, rfl, rfl⟩ := hperform
    obtain ⟨hcontents, hsame⟩ := hplain.contents_writeAll values htargets
    -- The cells that were found before the write are those that are read after it.
    have hcells : (image.writeAll targets values).cells? .holdingRegister readReference
        readCount.toNat = some cells := by
      rw [← hcells, cells?, cells?, hsame.tables]
    exact ⟨⟨hcontents, _, rfl, lists_of_cells? _ hcells⟩, hsame⟩
  case readFifoQueue reference =>
    obtain ⟨fifo, hfifo, rfl, rfl⟩ := hperform
    exact ⟨⟨rfl, _, rfl, congrArg (Option.map Fifo.values) hfifo⟩, .refl image⟩

/-- A request that goes through on a plain image has its effect and no other: the image has
the cells that it had, in the places and with the queues that it had, and nobody was told of
anything. -/
theorem Plain.effect (hplain : image.Plain) {request : Request} {response : Response}
    (happly : image.apply request = (.ok response, after)) :
    request.Effect image after response ∧ image.SameCells after ∧ after.Plain := by
  have hgranted := request.apply_grants image _ _ happly
  obtain ⟨⟨answer, between⟩, hperform, houtcome⟩ := Option.map_eq_some_iff.mp hgranted
  obtain ⟨rfl, rfl⟩ := Prod.mk.inj houtcome
  obtain ⟨heffect, hsame⟩ := hplain.effect_of_perform hperform
  exact ⟨heffect, hsame, hsame.plain hplain⟩

/-- Two registers are written, and the three read afterwards are among them, beside a file that
stays as it is. -/
theorem Plain.effect_overlap :
    let image := ((empty 1).placeValues .holdingRegister [some 1, some 2, some 3]).addFile
      ⟨4, [[7, 8], [9]]⟩
    let request := Request.readWriteMultipleRegisters 0 3 1 [20, 30]
    ∃ after, image.Plain ∧
      image.apply request = (.ok (.readWriteMultipleRegisters [1, 20, 30]), after) ∧
      after.contents = image.contents.writeRegisters 1 [20, 30] ∧
      (List.range 3).map after.contents.holdingRegisters = [some 1, some 20, some 30] ∧
      after.contents.records 4 0 = some [7, 8] := by
  intro image request
  have hplain : image.Plain := ((plain_empty 1).placeValues rfl _).addFile _
  have hresponse : (image.apply request).1 = .ok (.readWriteMultipleRegisters [1, 20, 30]) := by
    decide +kernel
  generalize houtcome : image.apply request = outcome at hresponse
  obtain ⟨outcome, after⟩ := outcome
  obtain rfl : outcome = .ok (.readWriteMultipleRegisters [1, 20, 30]) := hresponse
  obtain ⟨⟨hcontents, -⟩, -, -⟩ := hplain.effect houtcome
  refine ⟨after, hplain, rfl, hcontents, ?_, ?_⟩
  · rw [hcontents]
    decide +kernel
  · rw [hcontents]
    decide +kernel

theorem Plain.respond (hplain : image.Plain) {request : Request} (hvalid : request.Valid) :
    (image.respond request).2.Plain := by
  cases hfunction : request.function? with
  | none =>
      cases request with
      | unsupported code data => exact hplain
      | _ => contradiction
  | some function =>
      rw [respond_eq hvalid (by rw [hfunction]; rfl)]
      cases hperform : image.perform request with
      | none => exact hplain
      | some outcome => exact (hplain.effect_of_perform hperform).2.plain hplain

/-- Whatever requests an image has answered, it is as plain as before, so that the next one has
its effect. -/
theorem Plain.respondAll (hplain : image.Plain) {requests : List Request}
    (hvalid : ∀ request ∈ requests, request.Valid) :
    (requests.foldl (fun image request => (image.respond request).2) image).Plain :=
  List.foldlRecOn (motive := Plain) requests _ hplain fun _ hplain request hrequest =>
    hplain.respond (hvalid request hrequest)

end Image

end Modbus
