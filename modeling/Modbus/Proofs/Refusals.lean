import Mathlib.Tactic
import Modbus.Proofs.DirectAccess

/-!
# Refused requests

A request is refused because of something that it names: a cell in a gap or
past the end of its table, a record that is not there or too short, a queue that
does not exist.  Everything that a request names is looked up before the first
write, and what was found once can be written, so a refused request has changed
nothing and nobody was told of it.
-/

namespace Modbus

/-! ## What is not there -/

theorem mapM_eq_none_iff {α β : Type} (find : α → Option β) (places : List α) :
    places.mapM find = none ↔ ∃ place ∈ places, find place = none := by
  induction places with
  | nil => simp
  | cons place places ih =>
      rw [List.mapM_cons, List.exists_mem_cons_iff, ← ih]
      cases find place <;> cases places.mapM find <;> simp

namespace Table

variable {α : Type}

/-- There is no cell at an offset: it lies in a gap, or past the end. -/
def Vacant (table : Table α) (offset : Nat) : Prop :=
  table.places[offset]? = some none ∨ table.size ≤ offset

/-- Of `count` offsets from `first` on, one at least is vacant. -/
def Breaks (table : Table α) (first count : Nat) : Prop :=
  ∃ offset, first ≤ offset ∧ offset < first + count ∧ table.Vacant offset

theorem get?_eq_none_iff (table : Table α) (offset : Nat) :
    table.get? offset = none ↔ table.Vacant offset := by
  unfold get? Vacant size
  cases hplace : table.places[offset]? with
  | none =>
      have hend : table.places.size ≤ offset := Array.getElem?_eq_none_iff.mp hplace
      simp [hend]
  | some place =>
      have hinside : ¬table.places.size ≤ offset := by
        intro hend
        rw [Array.getElem?_eq_none hend] at hplace
        contradiction
      cases place <;> simp [hinside]

theorem breaks_one_iff (table : Table α) (offset : Nat) :
    table.Breaks offset 1 ↔ table.Vacant offset := by
  constructor
  · rintro ⟨other, hfirst, hlast, hvacant⟩
    obtain rfl : other = offset := by omega
    exact hvacant
  · intro hvacant
    exact ⟨offset, le_refl offset, Nat.lt_succ_self offset, hvacant⟩

end Table

namespace Image

/-- A record is not there, or it has fewer than `count` registers. -/
def LacksRecord (image : Image) (file record : UInt16) (count : Nat) : Prop :=
  image.fileCells.get? file.toNat = none ∨
    ∃ found, image.fileCells.get? file.toNat = some found ∧
      (found.records.length ≤ record.toNat ∨
        ∃ cells, found.records[record.toNat]? = some cells ∧ cells.length < count)

theorem cells?_eq_none_iff (image : Image) (kind : TableKind) (reference : UInt16) (count : Nat) :
    image.cells? kind reference count = none ↔
      (image.table kind).Breaks reference.toNat count := by
  simp only [cells?, mapM_eq_none_iff, List.mem_range'_1, Table.get?_eq_none_iff, Table.Breaks,
    and_assoc]

theorem recordCells?_eq_none_iff (image : Image) (file record : UInt16) (count : Nat) :
    image.recordCells? file record count = none ↔ image.LacksRecord file record count := by
  unfold recordCells? LacksRecord
  cases hfile : image.fileCells.get? file.toNat with
  | none => simp
  | some found =>
      cases hrecord : found.records[record.toNat]? with
      | none =>
          have hend : found.records.length ≤ record.toNat := List.getElem?_eq_none_iff.mp hrecord
          simp [hend]
      | some cells =>
          have hinside : ¬found.records.length ≤ record.toNat := by
            intro hend
            rw [List.getElem?_eq_none hend] at hrecord
            contradiction
          simp [hrecord, hinside]

end Image

/-- Something that a request names is not there. -/
def Request.Misses (image : Image) : Request → Prop
  | readCoils reference count => image.coils.Breaks reference.toNat count.toNat
  | readDiscreteInputs reference count =>
    image.discreteInputs.Breaks reference.toNat count.toNat
  | readHoldingRegisters reference count =>
    image.holdingRegisters.Breaks reference.toNat count.toNat
  | readInputRegisters reference count =>
    image.inputRegisters.Breaks reference.toNat count.toNat
  | writeSingleCoil reference _ => image.coils.Breaks reference.toNat 1
  | writeSingleRegister reference _ | maskWriteRegister reference _ _ =>
    image.holdingRegisters.Breaks reference.toNat 1
  | writeMultipleCoils reference values => image.coils.Breaks reference.toNat values.length
  | writeMultipleRegisters reference values =>
    image.holdingRegisters.Breaks reference.toNat values.length
  | readWriteMultipleRegisters readReference readCount writeReference values =>
    image.holdingRegisters.Breaks readReference.toNat readCount.toNat ∨
      image.holdingRegisters.Breaks writeReference.toNat values.length
  | readFileRecord records =>
    ∃ span ∈ records, image.LacksRecord span.file span.record span.length.toNat
  | writeFileRecord records =>
    ∃ data ∈ records, image.LacksRecord data.file data.record data.values.length
  | readFifoQueue reference => image.fifos.get? reference.toNat = none
  | unsupported .. => False

/-- One look-up after another fails if one of them does. -/
theorem bind_eq_none_iff_or {α β : Type} (find? : Option α) {next : α → Option β}
    {missing : Prop} (hnext : ∀ found, next found = none ↔ missing) :
    (find? >>= next) = none ↔ find? = none ∨ missing := by
  cases find? <;> simp [hnext]

theorem bind_pure_eq_none_iff {α β : Type} (find? : Option α) (use : α → β) :
    (find? >>= fun found => pure (use found)) = none ↔ find? = none := by
  cases find? <;> simp

/-- Direct access fails exactly where something is not there. -/
theorem Image.perform_eq_none_iff (image : Image) {request : Request}
    (hfunction : request.function?.isSome) :
    image.perform request = none ↔ request.Misses image := by
  have hcells (kind : TableKind) (reference : UInt16) (count : Nat)
      (use : List Nat → Answer × Image) :
      (image.cells? kind reference count >>= fun cells => pure (use cells)) = none ↔
        (image.table kind).Breaks reference.toNat count :=
    (bind_pure_eq_none_iff _ _).trans (image.cells?_eq_none_iff kind reference count)
  have hcell (kind : TableKind) (reference : UInt16) (use : Nat → Answer × Image) :
      ((image.table kind).get? reference.toNat >>= fun cell => pure (use cell)) = none ↔
        (image.table kind).Breaks reference.toNat 1 := by
    rw [bind_pure_eq_none_iff, Table.get?_eq_none_iff, Table.breaks_one_iff]
  cases request with
  | readCoils reference count => exact hcells .coil reference count.toNat _
  | readDiscreteInputs reference count => exact hcells .discreteInput reference count.toNat _
  | readHoldingRegisters reference count => exact hcells .holdingRegister reference count.toNat _
  | readInputRegisters reference count => exact hcells .inputRegister reference count.toNat _
  | writeSingleCoil reference value => exact hcell .coil reference _
  | writeSingleRegister reference value => exact hcell .holdingRegister reference _
  | writeMultipleCoils reference values => exact hcells .coil reference values.length _
  | writeMultipleRegisters reference values =>
      exact hcells .holdingRegister reference values.length _
  | readFileRecord records =>
      refine (bind_pure_eq_none_iff _ _).trans ?_
      simp only [mapM_eq_none_iff, span?, Option.map_eq_none_iff, recordCells?_eq_none_iff,
        Request.Misses]
  | writeFileRecord records =>
      refine (bind_pure_eq_none_iff _ _).trans ?_
      simp only [mapM_eq_none_iff, target?, recordCells?_eq_none_iff, Request.Misses]
  | maskWriteRegister reference andMask orMask => exact hcell .holdingRegister reference _
  | readWriteMultipleRegisters readReference readCount writeReference values =>
      have hwrite := image.cells?_eq_none_iff .holdingRegister writeReference values.length
      refine (bind_eq_none_iff_or _ fun targets =>
        hcells .holdingRegister readReference readCount.toNat _).trans ?_
      rw [hwrite]
      exact Or.comm
  | readFifoQueue reference => exact bind_pure_eq_none_iff _ _
  | unsupported code data => contradiction

/-! ## Refusal changes nothing -/

namespace Access

variable {α β : Type}

/-- Work is done, or it is refused because of an address and leaves the image as it was. -/
def Settles (work : Access α) (image : Image) : Prop :=
  ∃ outcome, Yields work image outcome

/-- Looking something up first does no harm. -/
theorem Settles.bind {find? : Option α} {work : Access α} {next : α → Access β} {image : Image}
    (hwork : Yields work image (find?.map fun found => (found, image)))
    (hnext : ∀ found, find? = some found → Settles (next found) image) :
    Settles (work >>= next) image := by
  cases find? with
  | none =>
      have hrefused : Yields (work >>= next) image ((none : Option α).bind fun _ => none) :=
        hwork.bind fun found hfound => by contradiction
      exact ⟨none, hrefused⟩
  | some found =>
      obtain ⟨outcome, houtcome⟩ := hnext found rfl
      have hdone : Yields (work >>= next) image ((some found).bind fun _ => outcome) :=
        hwork.bind fun other hother => by
          obtain rfl := Option.some.inj hother
          exact houtcome
      exact ⟨outcome, hdone⟩

end Access

namespace Request

/-- A request for an implemented function, valid or not, is done, or it is refused because
of an address and leaves the image as it was. -/
theorem apply_settles {request : Request} (hfunction : request.function?.isSome)
    (image : Image) : Access.Settles request.apply image := by
  have hread {α : Type} (find : Image → Except AddressFault α) (say : α → Image → Response) :
      Access.Settles (Access.resolve find >>= fun found => do pure (say found (← get))) image :=
    .bind (Access.yields_resolve find image) fun found _ => ⟨some (say found image, image), rfl⟩
  have hwrite {α : Type} (find : Image → Except AddressFault α) (change : α → Image → Image)
      (response : Response) :
      Access.Settles (Access.resolve find >>= fun found => do
        modify (change found)
        pure response) image :=
    .bind (Access.yields_resolve find image) fun found _ =>
      ⟨some (response, change found image), rfl⟩
  cases request with
  | readCoils reference count =>
      exact hread _ fun (cells : List Nat) image => .readCoils (cells.map image.bit)
  | readDiscreteInputs reference count =>
      exact hread _ fun (cells : List Nat) image => .readDiscreteInputs (cells.map image.bit)
  | readHoldingRegisters reference count =>
      exact hread _ fun (cells : List Nat) image => .readHoldingRegisters (cells.map image.value)
  | readInputRegisters reference count =>
      exact hread _ fun (cells : List Nat) image => .readInputRegisters (cells.map image.value)
  | writeSingleCoil reference value => exact hwrite _ _ _
  | writeSingleRegister reference value => exact hwrite _ _ _
  | writeMultipleCoils reference values => exact hwrite _ _ _
  | writeMultipleRegisters reference values => exact hwrite _ _ _
  | readFileRecord records =>
      exact .bind (Access.yields_mapM _ records image) fun values _ =>
        ⟨some (.readFileRecord values, image), rfl⟩
  | writeFileRecord records =>
      refine .bind (Access.yields_mapM _ records image) fun files hfiles => ?_
      -- The records that were checked have room for the values, so no write is refused.
      have hall := ((mapM_eq_some_iff _ _ _).mp hfiles).imp fun data file => toOption_eq_some_iff.mp
      exact ⟨some (.writeFileRecord records, _), stateful_bind_ok (Access.writes_eq hall)⟩
  | maskWriteRegister reference andMask orMask => exact hwrite _ _ _
  | readWriteMultipleRegisters readReference readCount writeReference values =>
      refine .bind (Access.yields_resolve _ image) fun targets _ => ?_
      refine .bind (Access.yields_resolve _ image) fun cells _ => ?_
      exact ⟨some (.readWriteMultipleRegisters (cells.map (image.writeAll targets values).value),
        image.writeAll targets values), rfl⟩
  | readFifoQueue reference => exact hread _ fun (fifo : Fifo) _ => .readFifoQueue fifo.values
  | unsupported code data => contradiction

end Request

namespace Image

/-- A request for an implemented function is refused because of an address only, and
before anything was changed. -/
theorem refused_of_apply_error {image after : Image} {request : Request} {error : Error}
    (hfunction : request.function?.isSome)
    (hrefused : image.apply request = (.error error, after)) :
    after = image ∧ ∃ fault, error = .illegalAddress fault := by
  obtain ⟨outcome, houtcome⟩ := request.apply_settles hfunction image
  cases outcome with
  | none =>
      obtain ⟨fault, hfault⟩ := houtcome
      obtain ⟨herror, hafter⟩ := Prod.mk.inj (hfault.symm.trans hrefused)
      exact ⟨hafter.symm, fault, (Except.error.inj herror).symm⟩
  | some outcome =>
      have hdone := (Prod.mk.inj (houtcome.symm.trans hrefused)).1
      contradiction

/-- Whatever is asked for, a request that is refused leaves the image as it was. -/
theorem eq_of_apply_error {image after : Image} {request : Request} {error : Error}
    (hrefused : image.apply request = (.error error, after)) : after = image := by
  cases hfunction : request.function? with
  | some function =>
      exact (refused_of_apply_error (Option.isSome_of_eq_some hfunction) hrefused).1
  | none =>
      cases request with
      | unsupported code data => exact (Prod.mk.inj hrefused).2.symm
      | _ => contradiction

/-- A valid request for an implemented function is refused if and only if something that
it names is not there. -/
theorem exists_apply_error_iff (image : Image) {request : Request} (hvalid : request.Valid)
    (hfunction : request.function?.isSome) :
    (∃ error after, image.apply request = (.error error, after)) ↔ request.Misses image := by
  rw [← image.perform_eq_none_iff hfunction]
  have hyields := request.apply_yields hvalid hfunction image
  cases hperform : image.perform request with
  | none =>
      rw [hperform] at hyields
      obtain ⟨fault, hfault⟩ := hyields
      exact ⟨fun _ => rfl, fun _ => ⟨.illegalAddress fault, image, hfault⟩⟩
  | some outcome =>
      rw [hperform] at hyields
      refine ⟨fun ⟨error, after, hrefused⟩ => ?_, fun hnone => by contradiction⟩
      have hdone := (Prod.mk.inj (hyields.symm.trans hrefused)).1
      contradiction

/-- No request that is refused changes anything: no cell, no record, no queue, and nobody
is told of a write.  A valid request for an implemented function is refused if and only
if something that it names is not there, and always for this reason. -/
theorem refused_iff_misses (image : Image) (request : Request) :
    (∀ error after, image.apply request = (.error error, after) → after = image) ∧
      (request.validate = .ok () → request.function?.isSome →
        ((∃ error after, image.apply request = (.error error, after)) ↔
            request.Misses image) ∧
          ∀ error after, image.apply request = (.error error, after) →
            ∃ fault, error = .illegalAddress fault) := by
  refine ⟨fun error after => eq_of_apply_error, fun hvalidate hfunction => ?_⟩
  have hvalid := (Request.validate_eq_ok_iff request ()).mp hvalidate
  exact ⟨image.exists_apply_error_iff hvalid hfunction,
    fun error after hrefused => (refused_of_apply_error hfunction hrefused).2⟩

/-- Of two records the second one is too short, so the first one is not written either. -/
theorem refused_iff_misses_second_record :
    let image := (empty 1).addFile (.cleared 1 2 4)
    let request := Request.writeFileRecord [⟨1, 0, [7]⟩, ⟨1, 1, [1, 2, 3, 4, 5]⟩]
    request.validate = .ok () ∧ request.function?.isSome ∧ request.Misses image ∧
      ∃ fault, image.apply request = (.error (.illegalAddress fault), image) := by
  intro image request
  have hvalidate : request.validate = .ok () := by decide
  have hmisses : request.Misses image := by
    refine ⟨⟨1, 1, [1, 2, 3, 4, 5]⟩, by decide, Or.inr ⟨⟨1, [[0, 1, 2, 3], [4, 5, 6, 7]]⟩, ?_⟩⟩
    exact ⟨by decide, Or.inr ⟨[4, 5, 6, 7], by decide, by decide⟩⟩
  obtain ⟨hunchanged, hexact⟩ := image.refused_iff_misses request
  obtain ⟨hiff, haddress⟩ := hexact hvalidate rfl
  obtain ⟨error, after, hrefused⟩ := hiff.mpr hmisses
  obtain ⟨fault, rfl⟩ := haddress error after hrefused
  obtain rfl := hunchanged _ after hrefused
  exact ⟨hvalidate, rfl, hmisses, fault, hrefused⟩

end Image

end Modbus
