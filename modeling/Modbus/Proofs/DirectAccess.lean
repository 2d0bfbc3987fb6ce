import Mathlib.Tactic
import Modbus.Image.Answer
import Modbus.Master
import Modbus.Proofs.RequestCodec

/-!
# Requests as direct access to an image

What a request does to an image is said a second time here, without messages,
errors and passes over the records: the cells are there or they are not, and if
they are, they are read and written.  Answering a request does exactly this.
-/

namespace Modbus

/-! ## Looking things up -/

theorem toOption_bind {ε α β : Type} (first : Except ε α) (next : α → Except ε β) :
    (first >>= next).toOption = first.toOption >>= fun value => (next value).toOption := by
  cases first <;> rfl

theorem toOption_eq_some_iff {ε α : Type} {outcome : Except ε α} {value : α} :
    outcome.toOption = some value ↔ outcome = .ok value := by
  cases outcome <;> simp [Except.toOption]

theorem except_bind_eq_ok_iff {ε α β : Type} {first : Except ε α} {next : α → Except ε β}
    {result : β} :
    (first >>= next) = .ok result ↔ ∃ value, first = .ok value ∧ next value = .ok result := by
  cases first with
  | error error => simp [bind, Except.bind]
  | ok value => simp [bind, Except.bind]

theorem toOption_mapM {ε α β : Type} (look : α → Except ε β) (places : List α) :
    (places.mapM look).toOption = places.mapM fun place => (look place).toOption := by
  induction places with
  | nil => rfl
  | cons place places ih =>
      rw [List.mapM_cons, List.mapM_cons, toOption_bind]
      congr 1
      funext found
      rw [toOption_bind, ih]
      rfl

theorem mapM_eq_some_iff {α β : Type} (find : α → Option β) (places : List α) (found : List β) :
    places.mapM find = some found ↔
      List.Forall₂ (fun place value => find place = some value) places found := by
  induction places generalizing found with
  | nil =>
      cases found <;> simp
  | cons place places ih =>
      rw [List.mapM_cons]
      cases hfirst : find place with
      | none =>
          constructor
          · intro hnone
            contradiction
          · intro hall
            cases hall with
            | cons hfound _ => simp [hfirst] at hfound
      | some value =>
          constructor
          · intro hsome
            cases hrest : places.mapM find with
            | none => simp [hrest] at hsome
            | some others =>
                obtain rfl : value :: others = found := by simpa [hrest] using hsome
                exact .cons hfirst ((ih others).mp hrest)
          · intro hall
            cases hall with
            | cons hfound hothers =>
                rw [hfirst] at hfound
                rw [(ih _).mpr hothers, ← Option.some.inj hfound]
                rfl

theorem mapM_map_eq {α β γ : Type} (find : α → Option β) (use : α → β → γ) (places : List α) :
    (places.mapM fun place => (find place).map (use place)) =
      (places.mapM find).map (List.zipWith use places) := by
  induction places with
  | nil => rfl
  | cons place places ih =>
      rw [List.mapM_cons, List.mapM_cons, ih]
      cases find place with
      | none => rfl
      | some value => cases places.mapM find <;> rfl

namespace Table

variable {α : Type}

theorem toOption_get (table : Table α) (offset : Nat) :
    (table.get offset).toOption = table.get? offset := by
  unfold get
  cases table.get? offset <;> rfl

theorem get?_eq_none_of_size_le {table : Table α} {offset : Nat} (hsize : table.size ≤ offset) :
    table.get? offset = none := by
  have hplace : table.places[offset]? = none := Array.getElem?_eq_none hsize
  rw [get?, hplace]
  rfl

theorem mapM_get?_eq_none {table : Table α} {offset : Nat} {offsets : List Nat}
    (hmem : offset ∈ offsets) (hnone : table.get? offset = none) :
    offsets.mapM table.get? = none := by
  induction offsets with
  | nil => simp at hmem
  | cons first offsets ih =>
      rw [List.mapM_cons]
      rcases List.mem_cons.mp hmem with rfl | hrest
      · rw [hnone]
        rfl
      · rw [ih hrest]
        cases table.get? first <;> rfl

/-- A range that is not empty is found if and only if every offset of it has a
cell; the comparison with the size only chooses the message. -/
theorem toOption_range (table : Table α) (offset : Nat) {count : Nat} (hcount : 1 ≤ count) :
    (table.range offset count).toOption = (List.range' offset count).mapM table.get? := by
  unfold range
  split
  next houtside =>
    have hend : rangeEnd offset count ≤ offset + count := Nat.min_le_left _ _
    have hlast : offset + (count - 1) ∈ List.range' offset count :=
      List.mem_range'_1.mpr (by omega)
    exact (mapM_get?_eq_none hlast (get?_eq_none_of_size_le (by omega))).symm
  next =>
    rw [toOption_mapM]
    simp only [toOption_get]

end Table

/-! ## Direct access -/

namespace Image

/-- The cells at `count` offsets of a table, if all of them are there. -/
def cells? (image : Image) (kind : TableKind) (reference : UInt16) (count : Nat) :
    Option (List Nat) :=
  (List.range' reference.toNat count).mapM (image.table kind).get?

/-- The cells of the first registers of a record, if there are so many. -/
def recordCells? (image : Image) (file record : UInt16) (count : Nat) : Option (List Nat) := do
  let found ← image.fileCells.get? file.toNat
  let cells ← found.records[record.toNat]?
  if count ≤ cells.length then
    some (cells.take count)
  else
    none

/-- What the first registers of a record hold, if there are so many. -/
def span? (image : Image) (span : RecordSpan) : Option (List UInt16) :=
  (image.recordCells? span.file span.record span.length.toNat).map (List.map image.value)

/-- The cells that values go to. -/
def target? (image : Image) (data : RecordData) : Option (List Nat) :=
  image.recordCells? data.file data.record data.values.length

/-- Writes records one after another. -/
def writeRecords (image : Image) (targets : List (List Nat)) (records : List RecordData) : Image :=
  (targets.zip records).foldl (fun image (cells, data) => image.writeAll cells data.values) image

/-- What a request says and does if everything that it names is there. -/
def perform (image : Image) : Request → Option (Answer × Image)
  | .readCoils reference count => do
    let cells ← image.cells? .coil reference count.toNat
    pure (.bits (cells.map image.bit), image)
  | .readDiscreteInputs reference count => do
    let cells ← image.cells? .discreteInput reference count.toNat
    pure (.bits (cells.map image.bit), image)
  | .readHoldingRegisters reference count => do
    let cells ← image.cells? .holdingRegister reference count.toNat
    pure (.registers (cells.map image.value), image)
  | .readInputRegisters reference count => do
    let cells ← image.cells? .inputRegister reference count.toNat
    pure (.registers (cells.map image.value), image)
  | .writeSingleCoil reference value => do
    let cell ← image.coils.get? reference.toNat
    pure (.coil value, image.setBit cell value)
  | .writeSingleRegister reference value => do
    let cell ← image.holdingRegisters.get? reference.toNat
    pure (.done, image.write cell value)
  | .writeMultipleCoils reference values => do
    let cells ← image.cells? .coil reference values.length
    pure (.done, image.setBits cells values)
  | .writeMultipleRegisters reference values => do
    let cells ← image.cells? .holdingRegister reference values.length
    pure (.done, image.writeAll cells values)
  | .readFileRecord records => do
    let read ← records.mapM image.span?
    pure (.records read, image)
  | .writeFileRecord records => do
    let targets ← records.mapM image.target?
    pure (.done, image.writeRecords targets records)
  | .maskWriteRegister reference andMask orMask => do
    let cell ← image.holdingRegisters.get? reference.toNat
    pure (.done,
      image.write cell ((image.value cell &&& andMask) ||| (orMask &&& ~~~andMask)))
  | .readWriteMultipleRegisters readReference readCount writeReference values => do
    let targets ← image.cells? .holdingRegister writeReference values.length
    let cells ← image.cells? .holdingRegister readReference readCount.toNat
    let after := image.writeAll targets values
    pure (.registers (cells.map after.value), after)
  | .readFifoQueue reference => do
    let fifo ← image.fifos.get? reference.toNat
    pure (.registers fifo.values, image)
  | .unsupported .. => none

end Image

/-- The answer that carries what a request found or did. -/
def Request.reply : Request → Answer → Response
  | readCoils .., .bits values => .readCoils values
  | readDiscreteInputs .., .bits values => .readDiscreteInputs values
  | readHoldingRegisters .., .registers values => .readHoldingRegisters values
  | readInputRegisters .., .registers values => .readInputRegisters values
  | writeSingleCoil reference value, _ => .writeSingleCoil reference value
  | writeSingleRegister reference value, _ => .writeSingleRegister reference value
  | writeMultipleCoils reference values, _ =>
    .writeMultipleCoils reference (UInt16.ofNat values.length)
  | writeMultipleRegisters reference values, _ =>
    .writeMultipleRegisters reference (UInt16.ofNat values.length)
  | readFileRecord _, .records values => .readFileRecord values
  | writeFileRecord records, _ => .writeFileRecord records
  | maskWriteRegister reference andMask orMask, _ => .maskWriteRegister reference andMask orMask
  | readWriteMultipleRegisters .., .registers values => .readWriteMultipleRegisters values
  | readFifoQueue _, .registers values => .readFifoQueue values
  | request, _ => .refusal request.functionCode .illegalFunction

/-! ## Work that may be refused -/

namespace Access

variable {α β : Type}

/-- Work on an image yields a result and the image afterwards, or it is refused
because of an address and leaves the image as it was. -/
def Yields (work : Access α) (image : Image) : Option (α × Image) → Prop
  | some (result, after) => work image = (.ok result, after)
  | none => ∃ fault, work image = (.error (.illegalAddress fault), image)

theorem yields_resolve (find : Image → Except AddressFault α) (image : Image) :
    Yields (resolve find) image ((find image).toOption.map fun found => (found, image)) := by
  cases hfind : find image with
  | ok found =>
      show resolve find image = (.ok found, image)
      unfold resolve
      rw [stateful_get_bind, hfind]
      rfl
  | error fault =>
      refine ⟨fault, ?_⟩
      unfold resolve
      rw [stateful_get_bind, hfind]
      rfl

/-- First something is looked up, then work goes on with what was found. -/
theorem Yields.bind {find? : Option α} {work : Access α} {next : α → Access β} {image : Image}
    {rest : α → Option (β × Image)}
    (hwork : Yields work image (find?.map fun found => (found, image)))
    (hnext : ∀ found, find? = some found → Yields (next found) image (rest found)) :
    Yields (work >>= next) image (find?.bind rest) := by
  cases find? with
  | none =>
      obtain ⟨fault, hfault⟩ := hwork
      exact ⟨fault, stateful_bind_error hfault⟩
  | some found =>
      have hfound : work image = (.ok found, image) := hwork
      have hlast := hnext found rfl
      show Yields (work >>= next) image (rest found)
      cases hrest : rest found with
      | none =>
          rw [hrest] at hlast
          obtain ⟨fault, hfault⟩ := hlast
          exact ⟨fault, (stateful_bind_ok hfound).trans hfault⟩
      | some outcome =>
          rw [hrest] at hlast
          exact (stateful_bind_ok hfound).trans hlast

/-- The same when what there is to say is put into an answer at the end. -/
theorem Yields.bind_map {γ : Type} {find? : Option α} {work : Access α} {next : α → Access β}
    {image : Image} {rest : α → Option (γ × Image)} {reply : γ → β}
    (hwork : Yields work image (find?.map fun found => (found, image)))
    (hnext : ∀ found, find? = some found →
      Yields (next found) image ((rest found).map fun outcome => (reply outcome.1, outcome.2))) :
    Yields (work >>= next) image
      ((find? >>= rest).map fun outcome => (reply outcome.1, outcome.2)) := by
  rw [Option.bind_eq_bind, Option.map_bind]
  exact hwork.bind hnext

theorem yields_cells (kind : TableKind) (reference : UInt16) {count : Nat} (hcount : 1 ≤ count)
    (image : Image) :
    Yields (cells kind reference count) image
      ((image.cells? kind reference count).map fun found => (found, image)) := by
  have hyields := yields_resolve
    (fun image => (image.table kind).range reference.toNat count) image
  rwa [Table.toOption_range _ _ hcount] at hyields

theorem yields_cell (kind : TableKind) (reference : UInt16) (image : Image) :
    Yields (cell kind reference) image
      (((image.table kind).get? reference.toNat).map fun found => (found, image)) := by
  have hyields := yields_resolve (fun image => (image.table kind).get reference.toNat) image
  rwa [Table.toOption_get] at hyields

theorem yields_mapM (find : β → Image → Except AddressFault α) (places : List β)
    (image : Image) :
    Yields (places.mapM fun place => resolve (find place)) image
      ((places.mapM fun place => (find place image).toOption).map
        fun found => (found, image)) := by
  induction places with
  | nil => exact rfl
  | cons place places ih =>
      simp only [List.mapM_cons, Option.bind_eq_bind, Option.map_bind]
      refine (yields_resolve (find place) image).bind fun value _ => ?_
      simp only [Function.comp_apply, Option.map_bind]
      exact ih.bind fun values _ => rfl

end Access

namespace Image

theorem toOption_cellFile (image : Image) (number : UInt16) :
    (image.cellFile number).toOption = image.fileCells.get? number.toNat := by
  unfold cellFile
  cases image.fileCells.get? number.toNat <;> rfl

theorem toOption_fifo (image : Image) (address : UInt16) :
    (image.fifo address).toOption = image.fifos.get? address.toNat := by
  unfold fifo
  cases image.fifos.get? address.toNat <;> rfl

theorem toOption_record {α : Type} (file : RecordFile α) (number : UInt16) :
    (file.record number).toOption = file.records[number.toNat]? := by
  unfold RecordFile.record
  cases file.records[number.toNat]? <;> rfl

/-- Reading the values of a file is reading the values of its cells. -/
theorem toOption_readSpan (image : Image) (span : RecordSpan) :
    (image.file span.file >>= fun file => file.read span.record span.length.toNat).toOption =
      image.span? span := by
  rw [toOption_bind, Image.file, toOption_bind, toOption_cellFile, span?, recordCells?]
  cases hfile : image.fileCells.get? span.file.toNat with
  | none => rfl
  | some file =>
      show ((file.map image.value).read span.record span.length.toNat).toOption = _
      rw [RecordFile.read, toOption_bind, toOption_record, RecordFile.map, List.getElem?_map]
      cases hrecord : file.records[span.record.toNat]? with
      | none => simp [hrecord]
      | some cells =>
          simp only [hrecord, Option.map_some, Option.bind_eq_bind, Option.bind_some,
            List.length_map]
          split
          next hshort =>
            rw [if_neg (by omega)]
            rfl
          next hlong =>
            rw [if_pos (by omega), ← List.map_take]
            rfl

end Image

/-- The cells of a file that values go to. -/
def RecordFile.cellsFor (data : RecordData) (file : RecordFile Nat) : List Nat :=
  (file.records[data.record.toNat]?.getD []).take data.values.length

namespace Image

variable {image : Image} {data : RecordData} {file : RecordFile Nat}

theorem toOption_target (image : Image) (data : RecordData) :
    (image.target data).toOption.map (RecordFile.cellsFor data) = image.target? data := by
  rw [target, toOption_bind, toOption_cellFile, target?, recordCells?]
  cases hfile : image.fileCells.get? data.file.toNat with
  | none => rfl
  | some file =>
      simp only [Option.bind_eq_bind, Option.bind_some, toOption_bind, toOption_record]
      cases hrecord : file.records[data.record.toNat]? with
      | none => rfl
      | some cells =>
          simp only [Option.bind_some]
          split
          next hshort =>
            rw [if_neg (by omega)]
            rfl
          next hlong =>
            rw [if_pos (by omega)]
            show some (RecordFile.cellsFor data file) = _
            rw [RecordFile.cellsFor, hrecord]
            rfl

/-- A file that was checked for values has room for them, whatever the image is by then. -/
theorem room_of_target (htarget : image.target data = .ok file) :
    file.room data.record data.values.length = .ok (file.cellsFor data) := by
  obtain ⟨found, -, hfound⟩ := except_bind_eq_ok_iff.mp htarget
  obtain ⟨cells, hcells, hlong⟩ := except_bind_eq_ok_iff.mp hfound
  split at hlong
  next => contradiction
  next hroom =>
    obtain rfl : found = file := Except.ok.inj hlong
    have hrecord : found.records[data.record.toNat]? = some cells := by
      rw [← toOption_record, hcells]
      rfl
    rw [RecordFile.room, hcells, RecordFile.cellsFor, hrecord]
    exact if_neg hroom

end Image

/-- Once all records have been checked, writing them goes through. -/
theorem Access.writes_eq {found image : Image} {records : List RecordData}
    {files : List (RecordFile Nat)}
    (htargets : List.Forall₂ (fun data file => found.target data = .ok file) records files) :
    ((files.zip records).forM fun (file, data) => do
      let written ← resolve fun image => image.writeFile file data
      set written : Access Unit) image =
        (.ok (), image.writeRecords (List.zipWith RecordFile.cellsFor records files) records) := by
  induction htargets generalizing image with
  | nil => rfl
  | @cons data file records files htarget _ ih =>
      have hwrite := yields_resolve (fun image => image.writeFile file data) image
      rw [Image.writeFile, Image.room_of_target htarget] at hwrite
      have hstep : (do
          let written ← resolve fun image => image.writeFile file data
          set written : Access Unit) image =
            (.ok (), image.writeAll (file.cellsFor data) data.values) :=
        stateful_bind_ok hwrite
      exact (stateful_bind_ok hstep).trans ih

namespace Request

/-- No range of a table that a request names is empty. -/
def Counted : Request → Prop
  | readCoils _ count | readDiscreteInputs _ count | readHoldingRegisters _ count
  | readInputRegisters _ count => 1 ≤ count.toNat
  | writeMultipleCoils _ values => 1 ≤ values.length
  | writeMultipleRegisters _ values => 1 ≤ values.length
  | readWriteMultipleRegisters _ readCount _ values => 1 ≤ readCount.toNat ∧ 1 ≤ values.length
  | _ => True

theorem Valid.counted {request : Request} (hvalid : request.Valid) : request.Counted := by
  cases request with
  | readWriteMultipleRegisters => exact ⟨hvalid.1.1, hvalid.2.1⟩
  | readFileRecord => trivial
  | writeFileRecord => trivial
  | _ => first | exact hvalid.1 | trivial

/-- A request for an implemented function does what direct access does, and answers with
what it found; it is refused if something is not there. -/
theorem apply_yields_of_counted {request : Request} (hcounted : request.Counted)
    (hfunction : request.function?.isSome) (image : Image) :
    Access.Yields request.apply image
      ((image.perform request).map fun outcome => (request.reply outcome.1, outcome.2)) := by
  cases request with
  | readCoils reference count =>
      exact (Access.yields_cells .coil reference hcounted image).bind_map fun cells _ =>
        rfl
  | readDiscreteInputs reference count =>
      exact (Access.yields_cells .discreteInput reference hcounted image).bind_map fun cells _ =>
        rfl
  | readHoldingRegisters reference count =>
      exact (Access.yields_cells .holdingRegister reference hcounted image).bind_map fun cells _ =>
        rfl
  | readInputRegisters reference count =>
      exact (Access.yields_cells .inputRegister reference hcounted image).bind_map fun cells _ =>
        rfl
  | writeSingleCoil reference value =>
      exact (Access.yields_cell .coil reference image).bind_map fun cell _ => rfl
  | writeSingleRegister reference value =>
      exact (Access.yields_cell .holdingRegister reference image).bind_map fun cell _ => rfl
  | writeMultipleCoils reference values =>
      exact (Access.yields_cells .coil reference hcounted image).bind_map fun cells _ =>
        rfl
  | writeMultipleRegisters reference values =>
      exact (Access.yields_cells .holdingRegister reference hcounted image).bind_map fun cells _ =>
        rfl
  | readFileRecord records =>
      have hread := Access.yields_mapM (fun (span : RecordSpan) image => do
        let file ← image.file span.file
        file.read span.record span.length.toNat) records image
      simp only [Image.toOption_readSpan] at hread
      exact hread.bind_map fun values _ => rfl
  | writeFileRecord records =>
      have htargets := Access.yields_mapM (fun data image => image.target data) records image
      have hcells : records.mapM image.target? =
          (records.mapM fun data => (image.target data).toOption).map
            (List.zipWith RecordFile.cellsFor records) := by
        rw [← mapM_map_eq]
        simp only [Image.toOption_target]
      simp only [Image.perform, hcells, Option.bind_eq_bind, Option.bind_map]
      refine htargets.bind_map fun files hfiles => ?_
      have hall := ((mapM_eq_some_iff _ _ _).mp hfiles).imp
        fun data file => toOption_eq_some_iff.mp
      exact stateful_bind_ok (Access.writes_eq hall)
  | maskWriteRegister reference andMask orMask =>
      exact (Access.yields_cell .holdingRegister reference image).bind_map fun cell _ => rfl
  | readWriteMultipleRegisters readReference readCount writeReference values =>
      obtain ⟨hread, hwrite⟩ := hcounted
      refine (Access.yields_cells .holdingRegister writeReference hwrite image).bind_map
        fun targets _ => ?_
      exact (Access.yields_cells .holdingRegister readReference hread image).bind_map
        fun cells _ => rfl
  | readFifoQueue reference =>
      have hfifo := Access.yields_resolve (fun image => image.fifo reference) image
      rw [Image.toOption_fifo] at hfifo
      exact hfifo.bind_map fun fifo _ => rfl
  | unsupported code data => simp [function?] at hfunction

/-- In particular a valid request does. -/
theorem apply_yields {request : Request} (hvalid : request.Valid)
    (hfunction : request.function?.isSome) (image : Image) :
    Access.Yields request.apply image
      ((image.perform request).map fun outcome => (request.reply outcome.1, outcome.2)) :=
  apply_yields_of_counted hvalid.counted hfunction image

end Request

/-- A unit answers a valid request for an implemented function with what direct
access finds, or with the exception for an illegal address. -/
theorem Image.respond_eq {request : Request} (hvalid : request.Valid)
    (hfunction : request.function?.isSome) (image : Image) :
    image.respond request =
      match image.perform request with
      | some (answer, after) => (request.reply answer, after)
      | none => (.refusal request.functionCode .illegalDataAddress, image) := by
  have hyields := request.apply_yields hvalid hfunction image
  cases hperform : image.perform request with
  | none =>
      rw [hperform] at hyields
      obtain ⟨fault, hfault⟩ := hyields
      rw [respond, Image.apply, hfault]
      rfl
  | some outcome =>
      obtain ⟨answer, after⟩ := outcome
      rw [hperform] at hyields
      have hanswer : request.apply image = (.ok (request.reply answer), after) := hyields
      rw [respond, Image.apply, hanswer]

/-! ## What access leaves alone -/

/-- A relation between an image and what becomes of it that holds across every step of which
writes and the calls of observers are made. -/
structure Image.Kept (related : Image → Image → Prop) : Prop where
  refl : ∀ image, related image image
  trans : ∀ {image between after}, related image between → related between after →
    related image after
  setRegister : ∀ image cell register, related image (image.setRegister cell register)
  dropObserver : ∀ image number, related image (image.dropObserver number)
  told : ∀ image notice, related image { image with notices := image.notices.push notice }
  hold : ∀ image numbers, related image (image.hold numbers)
  release : ∀ image, related image image.release
  overrun : ∀ image watched, related image { image with overrun := image.overrun || watched }

namespace Image.Kept

variable {related : Image → Image → Prop} (hkept : Kept related)
include hkept

theorem foldl {α : Type} {step : Image → α → Image}
    (hstep : ∀ image value, related image (step image value)) (values : List α)
    (image : Image) : related image (values.foldl step image) := by
  induction values generalizing image with
  | nil => exact hkept.refl image
  | cons value values ih => exact hkept.trans (hstep image value) (ih (step image value))

section

variable {write : Image → Nat → UInt16 → Image}
  (hwrite : ∀ image cell value, related image (write image cell value))
include hwrite

theorem actWith (image : Image) (act : Act) : related image (Image.actWith write image act).2 := by
  cases act with
  | write cell value | writeShort cell value | update cell change => exact hwrite image cell _
  | writeOctets cell octets =>
      match octets with
      | high :: low :: _ => exact hwrite image cell _
      | [] | [_] => exact hkept.refl image
  | watch cell number | unwatch cell number | count cell =>
      exact hkept.setRegister image cell _
  | drop number => exact hkept.dropObserver image number

theorem runWith (program : Program) (image : Image) :
    related image (Image.runWith write program image) := by
  induction program generalizing image with
  | done => exact hkept.refl image
  | look next ih => exact ih image.view image
  | act act next ih =>
      exact hkept.trans (hkept.actWith hwrite image act) (ih (Image.actWith write image act).1 _)

theorem tell (cell : Nat) (image : Image) (number : Nat) :
    related image (Image.tell write cell image number) := by
  unfold Image.tell
  split
  next => exact hkept.refl image
  next => exact hkept.trans (hkept.told image _) (hkept.runWith hwrite _ _)

theorem tellAll (cell : Nat) (numbers : List Nat) (image : Image) :
    related image
      (numbers.foldl (fun image number => (Image.tell write cell image number).release) image) :=
  hkept.foldl (fun image number =>
    hkept.trans (hkept.tell hwrite cell image number) (hkept.release _)) numbers image

end

theorem stored (image : Image) (cell : Nat) (value : UInt16) :
    related image ((image.store cell value).forgetGone cell) :=
  hkept.trans (hkept.setRegister image cell _) (hkept.setRegister _ cell _)

theorem writeWithin (depth : Nat) (image : Image) (cell : Nat) (value : UInt16) :
    related image (Image.writeWithin depth image cell value) := by
  induction depth generalizing image cell value with
  | zero => exact hkept.trans (hkept.stored image cell value) (hkept.overrun _ _)
  | succ depth ih =>
      exact hkept.trans (hkept.stored image cell value)
        (hkept.trans (hkept.hold _ _) (hkept.tellAll ih cell _ _))

theorem writeAll (image : Image) (cells : List Nat) (values : List UInt16) :
    related image (image.writeAll cells values) := by
  unfold Image.writeAll
  refine hkept.foldl (fun image change => ?_) _ image
  exact hkept.writeWithin image.nesting image change.1 change.2

end Image.Kept

/-- Two states of an image show the same cells, files and queues at the same places; what the
cells hold and who watches them may differ. -/
structure Image.SameLayout (image after : Image) : Prop where
  unit : after.unit = image.unit
  tables : ∀ kind, after.table kind = image.table kind
  files : after.fileCells = image.fileCells
  fifos : after.fifos = image.fifos

namespace Image

theorem SameLayout.refl (image : Image) : image.SameLayout image :=
  ⟨rfl, fun _ => rfl, rfl, rfl⟩

theorem SameLayout.trans {image between after : Image} (hfirst : image.SameLayout between)
    (hsecond : between.SameLayout after) : image.SameLayout after where
  unit := hsecond.unit.trans hfirst.unit
  tables kind := (hsecond.tables kind).trans (hfirst.tables kind)
  files := hsecond.files.trans hfirst.files
  fifos := hsecond.fifos.trans hfirst.fifos

/-- A write changes registers only, however deep the writes of observers nest. -/
theorem kept_sameLayout : Kept SameLayout where
  refl := .refl
  trans := .trans
  setRegister _ _ _ := ⟨rfl, fun kind => by cases kind <;> rfl, rfl, rfl⟩
  dropObserver _ _ := ⟨rfl, fun kind => by cases kind <;> rfl, rfl, rfl⟩
  told _ _ := ⟨rfl, fun kind => by cases kind <;> rfl, rfl, rfl⟩
  hold _ _ := ⟨rfl, fun kind => by cases kind <;> rfl, rfl, rfl⟩
  release _ := ⟨rfl, fun kind => by cases kind <;> rfl, rfl, rfl⟩
  overrun _ _ := ⟨rfl, fun kind => by cases kind <;> rfl, rfl, rfl⟩

theorem sameLayout_write (image : Image) (cell : Nat) (value : UInt16) :
    image.SameLayout (image.write cell value) :=
  kept_sameLayout.writeWithin image.nesting image cell value

theorem sameLayout_setBit (image : Image) (cell : Nat) (value : Bool) :
    image.SameLayout (image.setBit cell value) :=
  ⟨rfl, fun kind => by cases kind <;> rfl, rfl, rfl⟩

theorem sameLayout_writeAll (image : Image) (cells : List Nat) (values : List UInt16) :
    image.SameLayout (image.writeAll cells values) :=
  kept_sameLayout.writeAll image cells values

theorem sameLayout_writeRecords (image : Image) (targets : List (List Nat))
    (records : List RecordData) : image.SameLayout (image.writeRecords targets records) := by
  unfold writeRecords
  refine kept_sameLayout.foldl (fun image write => ?_) _ image
  exact sameLayout_writeAll image write.1 write.2.values

theorem sameLayout_setBits (image : Image) (cells : List Nat) (values : List Bool) :
    image.SameLayout (image.setBits cells values) := by
  unfold setBits
  refine kept_sameLayout.foldl (fun image change => ?_) _ image
  exact sameLayout_setBit image change.1 change.2

/-- A request populates nothing and removes nothing. -/
theorem sameLayout_perform {image after : Image} {request : Request} {answer : Answer}
    (hperform : image.perform request = some (answer, after)) : image.SameLayout after := by
  cases request <;>
    simp only [perform, Option.bind_eq_bind, Option.bind_eq_some_iff, Option.pure_def,
      Option.some.injEq, Prod.mk.injEq, reduceCtorEq] at hperform
  case writeSingleCoil reference value =>
    obtain ⟨cell, -, -, rfl⟩ := hperform
    exact sameLayout_setBit image cell value
  case writeSingleRegister reference value =>
    obtain ⟨cell, -, -, rfl⟩ := hperform
    exact sameLayout_write image cell value
  case writeMultipleCoils reference values =>
    obtain ⟨cells, -, -, rfl⟩ := hperform
    exact sameLayout_setBits image cells values
  case writeMultipleRegisters reference values =>
    obtain ⟨cells, -, -, rfl⟩ := hperform
    exact sameLayout_writeAll image cells values
  case writeFileRecord records =>
    obtain ⟨targets, -, -, rfl⟩ := hperform
    exact sameLayout_writeRecords image targets records
  case maskWriteRegister reference andMask orMask =>
    obtain ⟨cell, -, -, rfl⟩ := hperform
    exact sameLayout_write image cell _
  case readWriteMultipleRegisters readReference readCount writeReference values =>
    obtain ⟨targets, -, cells, -, -, rfl⟩ := hperform
    exact sameLayout_writeAll image targets values
  all_goals
    obtain ⟨-, -, -, rfl⟩ := hperform
    exact .refl image

end Image

end Modbus
